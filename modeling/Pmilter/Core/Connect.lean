import Pmilter.Core.Slots

/-!
# Connecting a client

`mrb_xxfi_connect` creates the `pmilter_state` of a connection and installs it as the private
data.  When mruby is enabled it records the client first: the daemon name, the address, a
copy of the host name, and the text of the address from `pmilter_ipaddrdup`, which knows only
`AF_INET` and `AF_INET6` and reads `hostaddr->sa_family` without checking `hostaddr`.  Without
an address text it returns `SMFIS_TEMPFAIL` before `smfi_setpriv`.

libmilter's `st_connectinfo` passes `NULL` for a client of unknown family (`SMFIA_UNKNOWN`,
as for locally submitted mail), and a `sockaddr_un` for a client on a Unix socket.

* `mrbXxfiConnect_enabled` : `mrb_xxfi_connect` with mruby enabled, once its allocations
  succeed, in terms of the answer of `pmilter_ipaddrdup`;
* `connectFinish_eq` : the end of the callback: the state is installed unless the connect
  handler fails to compile;
* `mrbXxfiConnect_family` : what the callback does for each address family, and for each
  allocation that can fail.
-/

namespace Pmilter

open Milter

/-- The record `mrb_xxfi_connect` keeps of a client when mruby is enabled. -/
def connectRecord (x : Ext) (hostname : String) (hostaddr : Option SockAddr)
    (ipaddr : Option String) : CommandRec :=
  { CommandRec.init with
    connectDaemon := x.symval "{daemon_name}", hostaddr := hostaddr,
    hostname := strdup x 0 hostname, ipaddr := ipaddr }

/-- The new state as `mrb_xxfi_connect` allocates it, with mruby enabled: a clean interpreter,
an empty record, every slot unset. -/
def connectAlloc : PmilterState :=
  ⟨some ⟨false⟩, some CommandRec.init, SMFIS_CONTINUE, "", fun _ => none⟩

/-- The new state when it reaches the connect handler block: the record `cmd`, and the connect
slot filled from the configuration. -/
def connectState (cfg : PmilterConfig) (x : Ext) (cmd : CommandRec) : PmilterState :=
  ⟨some ⟨false⟩, some cmd, SMFIS_CONTINUE, "",
    Function.update (fun _ => none) .connect (pmilterMrbCodeFromFile x (cfg.handlerPath .connect))⟩

/-- Whether a handler block ended in the failed compilation of its handler. -/
def Branch.compileFailed : Branch → Bool
  | .tempfail _ => true
  | _ => false

/-! ### The client's address -/

section Ipaddrdup

variable {x : Ext}

theorem pmilterIpaddrdup_none : pmilterIpaddrdup x none = .error .nullDeref := rfl

/-- "Unknown protocol": a Unix socket has no address text. -/
theorem pmilterIpaddrdup_unix (path : String) :
    pmilterIpaddrdup x (some (.unix path)) = .ok none := rfl

/-- The text of an IPv4 or IPv6 address, as `inet_ntop` and the second `strdup` give it. -/
theorem pmilterIpaddrdup_inet {sa : SockAddr} (hf : sa.saFamily = AF_INET ∨ sa.saFamily = AF_INET6) :
    pmilterIpaddrdup x (some sa) = .ok ((x.inetNtop sa).bind (strdup x 1)) := by
  have hfam : (sa.saFamily == AF_INET || sa.saFamily == AF_INET6) = true := by
    rcases hf with hf | hf <;> simp [hf]
  simp only [pmilterIpaddrdup, hfam, ↓reduceIte]
  cases x.inetNtop sa <;> rfl

end Ipaddrdup

/-! ### The callback -/

section Connect

variable {cfg : PmilterConfig} {x : Ext} {c : Conn} {hostname : String}
  {hostaddr : Option SockAddr}

/-- The handler block fails on compilation exactly when the handler is set, mruby is enabled
and the code does not compile. -/
theorem handlerBranch_compileFailed {ph : Phase} {p : PmilterState} {b : Branch}
    (hb : handlerBranch x ph p = .ok b) :
    b.compileFailed = ((p.handler ph).isSome && p.mrb.isSome && x.compile != .ok) := by
  rcases handlerBranch_cases hb with ⟨hs, rfl⟩ | ⟨m, hc, hm, hx, rfl⟩ | ⟨m, hc, hm, hx, rfl⟩
  · rcases hs with hs | hs <;> simp [Branch.compileFailed, hs]
  · simp [Branch.compileFailed, hc, hm, hx]
  · simp [Branch.compileFailed, hc, hm, hx]

/-- **The end of `mrb_xxfi_connect`**: after a failed compilation the state stays where it is
and the callback returns `SMFIS_TEMPFAIL`; otherwise `smfi_setpriv` installs it and the
callback returns the status of the block. -/
theorem connectFinish_eq {a : Nat} {p : PmilterState} {b : Branch}
    (hb : handlerBranch x .connect p = .ok b) :
    connectFinish x c a p =
      .ok (if b.compileFailed then (b.commit c a, SMFIS_TEMPFAIL)
           else ((b.commit c a).setPriv (.state a), b.status)) := by
  cases b <;> simp [connectFinish, hb, Branch.compileFailed]

/-- **`mrb_xxfi_connect` with mruby enabled**, once `pmilter_create_conf`, `mrb_open` and
`pmilter_command_init` succeed: the new state is allocated at the next address, and the rest
depends on the answer of `pmilter_ipaddrdup` only. -/
theorem mrbXxfiConnect_enabled (hen : cfg.enableMrubyHandler = true)
    (hpriv : c.priv = .config) (hs : x.stateAlloc = true) (hmo : x.mrbOpen = true)
    (hca : x.cmdAlloc = true) :
    mrbXxfiConnect cfg x c hostname hostaddr = (do
      let ipaddr ← pmilterIpaddrdup x hostaddr
      let p := connectState cfg x (connectRecord x hostname hostaddr ipaddr)
      if ipaddr.isNone then .ok ((c.alloc connectAlloc).store c.next p, SMFIS_TEMPFAIL)
      else connectFinish x (c.alloc connectAlloc) c.next p) := by
  simp only [mrbXxfiConnect, Conn.getConfig, hpriv, pmilterCreateConf, hs, hmo, hen,
    pmilterCommandInit, hca]
  simp
  rfl

@[simp] theorem connectState_handler_connect (cmd : CommandRec) :
    (connectState cfg x cmd).handler .connect =
      pmilterMrbCodeFromFile x (cfg.handlerPath .connect) := by
  simp [connectState]

/-- `pmilter_create_conf` fails: `pmilter->status = ...` writes through `NULL`. -/
theorem mrbXxfiConnect_createFails (hen : cfg.enableMrubyHandler = true)
    (hpriv : c.priv = .config) (hfail : x.stateAlloc = false ∨ x.mrbOpen = false) :
    mrbXxfiConnect cfg x c hostname hostaddr = .error .nullDeref := by
  rcases hfail with hs | hmo
  · simp [mrbXxfiConnect, Conn.getConfig, hpriv, pmilterCreateConf, hs]
  · simp [mrbXxfiConnect, Conn.getConfig, hpriv, pmilterCreateConf, hen, hmo]

/-- `pmilter_command_init` fails: `SMFIS_TEMPFAIL`, and the configuration stays the private
data. -/
theorem mrbXxfiConnect_cmdFails (hen : cfg.enableMrubyHandler = true)
    (hpriv : c.priv = .config) (hs : x.stateAlloc = true) (hmo : x.mrbOpen = true)
    (hca : x.cmdAlloc = false) :
    ∃ c', mrbXxfiConnect cfg x c hostname hostaddr = .ok (c', SMFIS_TEMPFAIL) ∧
      c'.priv = .config := by
  refine ⟨c.alloc ⟨some ⟨false⟩, none, SMFIS_CONTINUE, "", fun _ => none⟩, ?_, by simp [hpriv]⟩
  simp [mrbXxfiConnect, Conn.getConfig, hpriv, pmilterCreateConf, hs, hmo, hen,
    pmilterCommandInit, hca]

/-- Without an address text, `mrb_xxfi_connect` returns `SMFIS_TEMPFAIL` before installing
the state. -/
theorem mrbXxfiConnect_noText (hen : cfg.enableMrubyHandler = true)
    (hpriv : c.priv = .config) (hs : x.stateAlloc = true) (hmo : x.mrbOpen = true)
    (hca : x.cmdAlloc = true) (hdup : pmilterIpaddrdup x hostaddr = .ok none) :
    ∃ c', mrbXxfiConnect cfg x c hostname hostaddr = .ok (c', SMFIS_TEMPFAIL) ∧
      c'.priv = .config := by
  rw [mrbXxfiConnect_enabled hen hpriv hs hmo hca, hdup]
  exact ⟨_, rfl, by simp [hpriv]⟩

/-- **With an address text, the client is recorded**, and the state is installed with the
status of the connect handler block, unless the handler fails to compile. -/
theorem mrbXxfiConnect_text {text : String} (hen : cfg.enableMrubyHandler = true)
    (hpriv : c.priv = .config) (hs : x.stateAlloc = true) (hmo : x.mrbOpen = true)
    (hca : x.cmdAlloc = true) (hdup : pmilterIpaddrdup x hostaddr = .ok (some text)) :
    ∃ c' st p', mrbXxfiConnect cfg x c hostname hostaddr = .ok (c', st) ∧
      c'.heap c.next = some p' ∧ p'.cmd = some (connectRecord x hostname hostaddr (some text)) ∧
      if (pmilterMrbCodeFromFile x (cfg.handlerPath .connect)).isSome ∧ x.compile ≠ .ok then
        c'.priv = .config ∧ st = SMFIS_TEMPFAIL
      else
        c'.priv = .state c.next ∧
          st = blockStatus x (pmilterMrbCodeFromFile x (cfg.handlerPath .connect)) (some ⟨false⟩)
            SMFIS_CONTINUE := by
  let p := connectState cfg x (connectRecord x hostname hostaddr (some text))
  obtain ⟨b, hb⟩ := handlerBranch_isOk x .connect p
  have hrun : mrbXxfiConnect cfg x c hostname hostaddr =
      connectFinish x (c.alloc connectAlloc) c.next p := by
    rw [mrbXxfiConnect_enabled hen hpriv hs hmo hca, hdup]
    rfl
  have hcmd := handlerBranch_state_cmd hb
  rw [hrun, connectFinish_eq hb]
  -- the test of the callback is the test of the block
  have hiff : b.compileFailed = true ↔
      ((pmilterMrbCodeFromFile x (cfg.handlerPath .connect)).isSome ∧ x.compile ≠ .ok) := by
    simp [handlerBranch_compileFailed hb, p, connectState]
  by_cases hc : (pmilterMrbCodeFromFile x (cfg.handlerPath .connect)).isSome ∧ x.compile ≠ .ok
  · have hcf : b.compileFailed = true := hiff.mpr hc
    simp only [hcf, ↓reduceIte]
    refine ⟨_, _, b.state, rfl, by simp, hcmd, ?_⟩
    simp [hc, hpriv]
  · have hcf : b.compileFailed = false := Bool.eq_false_iff.mpr (mt hiff.mp hc)
    simp only [hcf, Bool.false_eq_true, ↓reduceIte]
    refine ⟨_, _, b.state, rfl, by simp, hcmd, ?_⟩
    rw [if_neg hc]
    refine ⟨by simp, ?_⟩
    rw [handlerBranch_status hb]
    simp [p, connectState]

/-- **What `mrb_xxfi_connect` does with each client**, with mruby enabled, on a context whose
private data is the configuration.  A failed `malloc` of the state or `mrb_open` is a `NULL`
dereference; a failed `pmilter_command_init` is `SMFIS_TEMPFAIL`.  Then: no address
(`SMFIA_UNKNOWN`) is a `NULL` dereference in `pmilter_ipaddrdup`; a Unix socket, and an IPv4 or
IPv6 address whose text `inet_ntop` or `strdup` does not give, is `SMFIS_TEMPFAIL` with the
configuration left as the private data; an IPv4 or IPv6 address with its text is recorded with
the host name and daemon name, and the state is installed with the status of the connect
handler block unless the handler fails to compile. -/
theorem mrbXxfiConnect_family (hen : cfg.enableMrubyHandler = true)
    (hpriv : c.priv = .config) :
    ((x.stateAlloc = false ∨ x.mrbOpen = false) →
      mrbXxfiConnect cfg x c hostname hostaddr = .error .nullDeref) ∧
    (x.stateAlloc = true → x.mrbOpen = true → x.cmdAlloc = false →
      ∃ c', mrbXxfiConnect cfg x c hostname hostaddr = .ok (c', SMFIS_TEMPFAIL) ∧
        c'.priv = .config) ∧
    (x.stateAlloc = true → x.mrbOpen = true → x.cmdAlloc = true →
      mrbXxfiConnect cfg x c hostname none = .error .nullDeref ∧
      (∀ path, ∃ c', mrbXxfiConnect cfg x c hostname (some (.unix path)) =
        .ok (c', SMFIS_TEMPFAIL) ∧ c'.priv = .config) ∧
      (∀ sa, (sa.saFamily = AF_INET ∨ sa.saFamily = AF_INET6) →
        (x.inetNtop sa).bind (strdup x 1) = none →
        ∃ c', mrbXxfiConnect cfg x c hostname (some sa) = .ok (c', SMFIS_TEMPFAIL) ∧
          c'.priv = .config) ∧
      (∀ sa text, (sa.saFamily = AF_INET ∨ sa.saFamily = AF_INET6) →
        (x.inetNtop sa).bind (strdup x 1) = some text →
        ∃ c' st p', mrbXxfiConnect cfg x c hostname (some sa) = .ok (c', st) ∧
          c'.heap c.next = some p' ∧
          p'.cmd = some (connectRecord x hostname (some sa) (some text)) ∧
          if (pmilterMrbCodeFromFile x (cfg.handlerPath .connect)).isSome ∧ x.compile ≠ .ok then
            c'.priv = .config ∧ st = SMFIS_TEMPFAIL
          else
            c'.priv = .state c.next ∧
              st = blockStatus x (pmilterMrbCodeFromFile x (cfg.handlerPath .connect))
                (some ⟨false⟩) SMFIS_CONTINUE)) := by
  refine ⟨mrbXxfiConnect_createFails hen hpriv, mrbXxfiConnect_cmdFails hen hpriv, ?_⟩
  intro hs hmo hca
  refine ⟨?_, ?_, ?_, ?_⟩
  · rw [mrbXxfiConnect_enabled hen hpriv hs hmo hca, pmilterIpaddrdup_none]
    rfl
  · intro path
    exact mrbXxfiConnect_noText hen hpriv hs hmo hca (pmilterIpaddrdup_unix path)
  · intro sa hf hnone
    exact mrbXxfiConnect_noText hen hpriv hs hmo hca (by rw [pmilterIpaddrdup_inet hf, hnone])
  · intro sa text hf htext
    exact mrbXxfiConnect_text hen hpriv hs hmo hca (by rw [pmilterIpaddrdup_inet hf, htext])

/-- The law at a fresh context with every allocation succeeding and no connect handler. -/
theorem mrbXxfiConnect_family_fresh :
    let cfg : PmilterConfig := ⟨true, fun _ => none⟩
    let x : Ext := ⟨true, true, true, true, fun _ => true, .ok, ⟨[], false⟩,
      fun _ => some "192.0.2.1", fun _ => none, 0⟩
    ((x.stateAlloc = false ∨ x.mrbOpen = false) →
      mrbXxfiConnect cfg x Conn.init "client" none = .error .nullDeref) ∧
    (x.stateAlloc = true → x.mrbOpen = true → x.cmdAlloc = false →
      ∃ c', mrbXxfiConnect cfg x Conn.init "client" none = .ok (c', SMFIS_TEMPFAIL) ∧
        c'.priv = .config) ∧
    (x.stateAlloc = true → x.mrbOpen = true → x.cmdAlloc = true →
      mrbXxfiConnect cfg x Conn.init "client" none = .error .nullDeref ∧
      (∀ path, ∃ c', mrbXxfiConnect cfg x Conn.init "client" (some (.unix path)) =
        .ok (c', SMFIS_TEMPFAIL) ∧ c'.priv = .config) ∧
      (∀ sa, (sa.saFamily = AF_INET ∨ sa.saFamily = AF_INET6) →
        (x.inetNtop sa).bind (strdup x 1) = none →
        ∃ c', mrbXxfiConnect cfg x Conn.init "client" (some sa) = .ok (c', SMFIS_TEMPFAIL) ∧
          c'.priv = .config) ∧
      (∀ sa text, (sa.saFamily = AF_INET ∨ sa.saFamily = AF_INET6) →
        (x.inetNtop sa).bind (strdup x 1) = some text →
        ∃ c' st p', mrbXxfiConnect cfg x Conn.init "client" (some sa) = .ok (c', st) ∧
          c'.heap Conn.init.next = some p' ∧
          p'.cmd = some (connectRecord x "client" (some sa) (some text)) ∧
          if (pmilterMrbCodeFromFile x (cfg.handlerPath .connect)).isSome ∧ x.compile ≠ .ok then
            c'.priv = .config ∧ st = SMFIS_TEMPFAIL
          else
            c'.priv = .state Conn.init.next ∧
              st = blockStatus x (pmilterMrbCodeFromFile x (cfg.handlerPath .connect))
                (some ⟨false⟩) SMFIS_CONTINUE)) :=
  mrbXxfiConnect_family rfl rfl

/-- **A connect handler's status reaches libmilter unchecked**, as for the callbacks between
connect and close (`Call.run_scriptStatus`): for a client with an address text, a connect
handler that compiles and whose script ends normally after giving `Pmilter.status=` the value
`v` last makes `mrb_xxfi_connect` install the state and return `v` narrowed to a C `int`
(`v` modulo `2 ^ 32`, as a signed value), whatever `v` is. -/
theorem mrbXxfiConnect_scriptStatus {text path : String} {v : Int64}
    (hen : cfg.enableMrubyHandler = true) (hpriv : c.priv = .config) (hs : x.stateAlloc = true)
    (hmo : x.mrbOpen = true) (hca : x.cmdAlloc = true)
    (hdup : pmilterIpaddrdup x hostaddr = .ok (some text))
    (hpath : cfg.handlerPath .connect = some path) (hcode : x.codeAlloc = true)
    (hx : x.compile = .ok) (hraise : x.run.raised = false)
    (hlast : x.run.statuses.getLast? = some v) :
    (∃ c', mrbXxfiConnect cfg x c hostname hostaddr = .ok (c', v.toInt32) ∧
      c'.priv = .state c.next) ∧ v.toInt32.toInt = v.toInt.bmod (2 ^ 32) := by
  refine ⟨?_, Int64.toInt_toInt32 v⟩
  obtain ⟨c', st, p', h, -, -, hif⟩ := mrbXxfiConnect_text hen hpriv hs hmo hca hdup
  have hcode' : pmilterMrbCodeFromFile x (cfg.handlerPath .connect) = some ⟨path, false⟩ := by
    rw [hpath, pmilterMrbCodeFromFile_of_alloc hcode]
  rw [if_neg (by simp [hcode', hx])] at hif
  obtain ⟨hpr, hst⟩ := hif
  rw [hcode', blockStatus_script hx hraise hlast] at hst
  exact ⟨c', hst ▸ h, hpr⟩

/-- A connect handler whose script ends with `Pmilter.status = 21` makes `mrb_xxfi_connect`
return `_SMFIS_ABORT` for an IPv4 client. -/
theorem mrbXxfiConnect_scriptStatus_abort :
    (∃ c', mrbXxfiConnect ⟨true, fun _ => some "connect.rb"⟩
        ⟨true, true, true, true, fun _ => true, .ok, ⟨[21], false⟩,
          fun _ => some "192.0.2.1", fun _ => none, 0⟩
        Conn.init "client" (some (.inet 3221225985 25)) = .ok (c', (21 : Int64).toInt32) ∧
      c'.priv = .state Conn.init.next) ∧
      (21 : Int64).toInt32.toInt = (21 : Int64).toInt.bmod (2 ^ 32) :=
  mrbXxfiConnect_scriptStatus rfl rfl rfl rfl rfl rfl rfl rfl rfl rfl rfl

end Connect

end Pmilter
