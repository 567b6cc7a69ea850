import Pmilter.Core.Session

/-!
# The private data of a context

Every pmilter callback reads `smfi_getpriv(ctx)` as one of two unrelated types: `mrb_xxfi_negotiate`
and `mrb_xxfi_connect` as the `pmilter_config` given to `smfi_main`, every other callback as the
`pmilter_state` that `mrb_xxfi_connect` installs.  Nothing checks which one is there.

libmilter calls `xxfi_close` at the end of every session that is not ended by `SMFIC_QUIT`
(whose `st_quit` calls it), whatever state the session is in: also before any `SMFIC_CONNECT`,
and after a connect that returned without installing a state.

* `Call.run_onConfig`, `mrbXxfiClose_onConfig` : a callback between connect and close, and
  close, run on the configuration use it as a `pmilter_state`;
* `mrbXxfiConnect_onState`, `mrbXxfiNegotiate_onState` : connect and negotiate run on an
  installed state use it as the configuration;
* `engine_readError_configAsState` : a session that breaks off while the private data is the
  configuration makes `mrb_xxfi_close` use the configuration as a `pmilter_state`; the first
  read of a new session is such a point.
-/

namespace Pmilter

open Milter

/-! ### The world under a callback -/

namespace World

variable {k : Ext → Conn → Except Fault (Conn × Int32)} {w : World}

/-- After a fault the world stays as it is. -/
@[simp] theorem call_conn_error {f : Fault} (hw : w.conn = .error f) : (w.call k).1.conn = .error f := by
  simp [call, hw]

/-- A callback that faults on the connection, whatever the C library and mruby answer, leaves
the world in its fault. -/
theorem call_conn_of_error {c : Conn} {f : Fault} (hw : w.conn = .ok c)
    (hk : ∀ x, k x c = .error f) : (w.call k).1.conn = .error f := by
  simp [call, hw, hk]

end World

/-! ### Callbacks on the wrong private data -/

section WrongPriv

variable {cfg : PmilterConfig} {x : Ext} {c : Conn}

theorem Conn.current_onConfig (hpriv : c.priv = .config) : c.current = .error .configAsState := by
  simp [Conn.current, Conn.getState, hpriv]

theorem sessionCallback_onConfig {ph : Phase} {r : Option (CommandRec → Except Fault CommandRec)}
    (hpriv : c.priv = .config) : sessionCallback cfg ph r x c = .error .configAsState := by
  simp [sessionCallback, Conn.current_onConfig hpriv]

/-- A callback between connect and close, run while the private data is the configuration,
uses the configuration as a `pmilter_state`. -/
theorem Call.run_onConfig (call : Call) (hpriv : c.priv = .config) :
    call.run cfg x c = .error .configAsState := by
  cases call with
  | body bodyp => simp [Call.run, mrbXxfiBody, Conn.current_onConfig hpriv]
  | eom => simp [Call.run, mrbXxfiEom, Conn.current_onConfig hpriv]
  | helo | envfrom | envrcpt | header | eoh | abort | unknown | data =>
    exact sessionCallback_onConfig hpriv

/-- `mrb_xxfi_close`, run while the private data is the configuration, uses the configuration as
a `pmilter_state`. -/
theorem mrbXxfiClose_onConfig (hpriv : c.priv = .config) :
    mrbXxfiClose cfg x c = .error .configAsState := by
  simp [mrbXxfiClose, Conn.current_onConfig hpriv]

/-- `mrb_xxfi_connect`, run while a state is installed, uses the state as the configuration. -/
theorem mrbXxfiConnect_onState {a : Nat} {hostname : String} {hostaddr : Option SockAddr}
    (hpriv : c.priv = .state a) :
    mrbXxfiConnect cfg x c hostname hostaddr = .error .stateAsConfig := by
  simp [mrbXxfiConnect, Conn.getConfig, hpriv]

/-- `mrb_xxfi_negotiate`, run while a state is installed, uses the state as the configuration. -/
theorem mrbXxfiNegotiate_onState {a : Nat} (hpriv : c.priv = .state a) :
    mrbXxfiNegotiate c = .error .stateAsConfig := by
  simp [mrbXxfiNegotiate, Conn.getConfig, hpriv]

end WrongPriv

/-! ### A session that breaks off before a state is installed -/

/-- **`mrb_xxfi_close` runs on the configuration.**  When the MTA's connection breaks off (end
of file, a read error or a timeout) in a session whose private data is still the
configuration, as before any `SMFIC_CONNECT` or after a connect that did not install a state,
`mi_engine` calls `xxfi_abort` (inside a transaction) and `xxfi_close`, and pmilter's callback
uses the configuration as a `pmilter_state`. -/
theorem engine_readError_configAsState {sys : Sys} {cfg : PmilterConfig} {e : Engine World}
    {c : Conn} (hlive : e.live = true) (hc : e.filt.conn = .ok c) (hpriv : c.priv = .config)
    (hcur : e.cur ≠ .quit) :
    ((engine sys (smfilter cfg)).step e .readError).1.filt.conn = .error .configAsState := by
  -- the world after the optional abort: still the connection, or already the fault
  have habort : (if MI_FAILURE == MI_FAILURE && e.cur.inMail then
      callOpt .abort (smfilter cfg).abort e.filt else (e.filt, 0, [])).1.conn = .ok c ∨
      (if MI_FAILURE == MI_FAILURE && e.cur.inMail then
      callOpt .abort (smfilter cfg).abort e.filt else (e.filt, 0, [])).1.conn =
        .error .configAsState := by
    split
    · exact .inr (World.call_conn_of_error hc fun x => sessionCallback_onConfig hpriv)
    · exact .inl hc
  have hnq : (e.cur != .quit) = true := by simpa using hcur
  simp only [engine, hlive, Bool.not_true, Bool.false_eq_true, ↓reduceIte, miEngineEnd]
  rcases habort with hw | hw
  · simp only [hnq, ↓reduceIte, callOpt, smfilter]
    exact World.call_conn_of_error hw fun x => mrbXxfiClose_onConfig hpriv
  · simp only [hnq, ↓reduceIte, callOpt, smfilter]
    exact World.call_conn_error hw

/-- The first read of a new session fails: pmilter's close runs on the configuration. -/
theorem engine_readError_configAsState_fresh :
    ((engine ⟨fun _ => none⟩ (smfilter ⟨true, fun _ => none⟩)).step
        (Engine.init (smfilter ⟨true, fun _ => none⟩)
          (World.init fun _ => ⟨true, true, true, true, fun _ => true, .ok, ⟨[], false⟩,
            fun _ => none, fun _ => none, 0⟩))
        .readError).1.filt.conn = .error .configAsState :=
  engine_readError_configAsState rfl rfl rfl (by decide)

end Pmilter
