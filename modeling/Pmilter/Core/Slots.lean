import Pmilter.Core.Status

/-!
# The handler slots

Every session callback fills the slot `mruby_<phase>_handler` of its phase with a new
`pmilter_mrb_code` (`pmilter_mrb_code_from_file`) before it tests whether to run the handler.
Only the handler itself (`PMILTER_DEFINE_MRUBY_HADNLER`) empties the slot again, with
`pmilter_mruby_code_free`.  The two other ways through the callback, mruby disabled and a
handler that does not compile, return with the slot still set, and the next callback of the
phase overwrites it: the code object leaks.

* `Call.run_handler` : the slots after a callback between connect and close: its own slot is
  set exactly when a path is configured (and allocated) and the handler did not run; every
  other slot is as before;
* `Call.run_keepsSlot` : so when mruby is disabled, or the handler fails to compile, the
  callback returns with its slot set;
* `mrbXxfiClose_keepsSlot` : the same for `mrb_xxfi_close` with mruby disabled, where the state
  itself is not freed either.
-/

namespace Pmilter

open Milter

section Slots

variable {cfg : PmilterConfig} {x : Ext} {c c' : Conn} {st : Int32} {a : Nat}
  {p : PmilterState}

/-- **The slots after a callback between connect and close.** -/
theorem Call.run_handler (call : Call) (ha : c.priv = .state a) (hp : c.heap a = some p)
    (h : call.run cfg x c = .ok (c', st)) :
    ∃ p', c'.heap a = some p' ∧
      (p'.handler call.phase).isSome =
        ((pmilterMrbCodeFromFile x (cfg.handlerPath call.phase)).isSome &&
          !(p.mrb.isSome && x.compile == .ok)) ∧
      ∀ q, q ≠ call.phase → p'.handler q = p.handler q := by
  obtain ⟨p₁, b, cmd, hp₁, hb, rfl, -⟩ := call.run_eq_ok ha hp h
  refine ⟨{ b.state with cmd := cmd }, by simp, ?_, ?_⟩
  · -- the block's own slot, from the one the callback filled in
    have hself := handlerBranch_handler_self hb
    rw [hp₁] at hself
    simpa using hself
  · intro q hq
    have hne := handlerBranch_handler_ne hb hq
    rw [hp₁] at hne
    simpa [enterCallback_handler_ne hq] using hne

/-- **A callback leaves its slot set** when mruby is disabled or its handler does not compile:
with a path configured, every callback between connect and close returns with its slot
`mruby_<phase>_handler` still holding the `pmilter_mrb_code` it allocated. -/
theorem Call.run_keepsSlot {cmd : CommandRec} {path : String} (call : Call)
    (hv : call.valid) (ha : c.priv = .state a) (hp : c.heap a = some p)
    (hc : p.cmd = some cmd) (hpath : cfg.handlerPath call.phase = some path)
    (hcode : x.codeAlloc = true) (hfail : p.mrb = none ∨ x.compile ≠ .ok) :
    ∃ c' st p', call.run cfg x c = .ok (c', st) ∧ c'.heap a = some p' ∧
      (p'.handler call.phase).isSome := by
  obtain ⟨c', st, h⟩ : ∃ c' st, call.run cfg x c = .ok (c', st) := call.run_isOk hv ha hp hc
  obtain ⟨p', hp', hself, -⟩ := call.run_handler ha hp h
  refine ⟨c', st, p', h, hp', ?_⟩
  rw [hself]
  rcases hfail with hm | hx
  · simp [pmilterMrbCodeFromFile, hpath, hcode, hm]
  · simp [pmilterMrbCodeFromFile, hpath, hcode, hx]

/-- With mruby disabled, a body handler configured: `mrb_xxfi_body` returns with the body slot
set. -/
theorem Call.run_keepsSlot_disabled :
    ∃ c' st p', (Call.body ['x']).run ⟨false, fun _ => some "body.rb"⟩
        ⟨true, true, true, true, fun _ => true, .ok, ⟨[], false⟩, fun _ => none, fun _ => none, 0⟩
        ⟨.state 0, fun _ => some ⟨none, some CommandRec.init, 0, "", fun _ => none⟩, 1, []⟩ =
        .ok (c', st) ∧ c'.heap 0 = some p' ∧ (p'.handler Phase.body).isSome :=
  Call.run_keepsSlot (.body ['x']) rfl rfl rfl rfl rfl rfl (.inl rfl)

/-- `mrb_xxfi_close` with mruby disabled: the state stays allocated, with the close slot set
when a path is configured, and the private data goes back to the configuration. -/
theorem mrbXxfiClose_keepsSlot {path : String} (ha : c.priv = .state a)
    (hp : c.heap a = some p) (hm : p.mrb = none) (hpath : cfg.handlerPath .close = some path) (hcode : x.codeAlloc = true) :
    ∃ p', mrbXxfiClose cfg x c = .ok (((c.store a p').setPriv .config), SMFIS_CONTINUE) ∧
      p'.handler .close = some ⟨path, false⟩ := by
  have hcur : c.current = .ok (a, p) := Conn.current_eq_ok.mpr ⟨ha, hp⟩
  -- without an interpreter the block is skipped
  have hb : handlerBranch x .close (enterCallback cfg x .close p) =
      .ok (.skipped (enterCallback cfg x .close p)) :=
    handlerBranch_skipped (.inr (by simp [hm]))
  have hfin := @closeFinish_noMrb c a (.skipped (enterCallback cfg x .close p))
    (by simp [Branch.state, hm])
  refine ⟨enterCallback cfg x .close p, ?_, ?_⟩
  · simpa [mrbXxfiClose, hcur, hb, Branch.commit, Branch.state] using hfin
  · simp [pmilterMrbCodeFromFile, hpath, hcode]

end Slots

end Pmilter
