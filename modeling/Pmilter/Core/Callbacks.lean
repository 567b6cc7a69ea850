import Pmilter.Core.Handler

/-!
# pmilter's callbacks

The callbacks `mrb_xxfi_*` of `pmilter.c` that pmilter registers with libmilter
(`struct smfiDesc smfilter`), each a function of what the C library and mruby answer during
the call (`Ext`) and of the connection (`Conn`), ending with the connection afterwards and the
`sfsistat` it returns, or in a `Fault`.

* `sessionCallback`: the eight callbacks `mrb_xxfi_helo`, `mrb_xxfi_envfrom`,
  `mrb_xxfi_envrcpt`, `mrb_xxfi_header`, `mrb_xxfi_eoh`, `mrb_xxfi_abort`, `mrb_xxfi_unknown`
  and `mrb_xxfi_data` share one body, which differs only in the phase and in what it records in
  `pmilter->cmd`;
* `mrbXxfiBody` records the chunk inside the handler block only; `mrbXxfiEom` clears the
  per-message data after its handler ran; `mrbXxfiClose` tears the state down;
  `mrbXxfiConnect` creates and installs it; `mrbXxfiNegotiate` reads the configuration.

`smfilter` is the filter these make for the libmilter `engine`, over the `World`: the
connection, or the first fault a callback reached (the behaviour after it is undefined and is
not modelled), and the answers of the C library and mruby for each callback in turn.

The results:

* `sessionCallback_eq_ok` : what a session callback that returns has done, in one statement
  that the later modules take apart;
* `sessionCallback_isOk` : it returns whenever a `pmilter_state` with a command record is
  installed;
* `sessionCallback_priv` : it leaves the private data alone;
* `Call.run_eq_ok`, `Call.run_isOk` : the same for every callback between connect and close.
-/

namespace Pmilter

open Milter

/-! ### The steps every callback takes -/

/-- `smfi_getpriv(ctx)` as the `pmilter_state` of the connection: its address and its value. -/
def Conn.current (c : Conn) : Except Fault (Nat × PmilterState) := do
  let a ← c.getState
  let p ← c.load a
  return (a, p)

/-- `pmilter->status = SMFIS_CONTINUE` and `pmilter->mruby_<phase>_handler =
pmilter_mrb_code_from_file(pmilter->config->mruby_<phase>_handler_path)`: how every session
callback starts. -/
def enterCallback (cfg : PmilterConfig) (x : Ext) (ph : Phase) (p : PmilterState) :
    PmilterState :=
  { p with status := SMFIS_CONTINUE,
           handler := Function.update p.handler ph (pmilterMrbCodeFromFile x (cfg.handlerPath ph)) }

/-- `if (pmilter->mrb != NULL) { pmilter->cmd->... = ...; }`: record the command's data when
mruby is enabled (`none`: the callback records nothing). -/
def recordCmd (record : Option (CommandRec → Except Fault CommandRec)) (p : PmilterState) :
    Except Fault PmilterState :=
  match record, p.mrb with
  | some g, some _ => updCmd g p
  | _, _ => .ok p

/-! ### The session callbacks -/

/-- The body that `mrb_xxfi_helo`, `mrb_xxfi_envfrom`, `mrb_xxfi_envrcpt`, `mrb_xxfi_header`,
`mrb_xxfi_eoh`, `mrb_xxfi_abort`, `mrb_xxfi_unknown` and `mrb_xxfi_data` share: enter the
callback, record, run the handler block, return `pmilter->status`. -/
def sessionCallback (cfg : PmilterConfig) (ph : Phase)
    (record : Option (CommandRec → Except Fault CommandRec)) (x : Ext) (c : Conn) :
    Except Fault (Conn × Int32) := do
  let (a, p) ← c.current
  let p ← recordCmd record (enterCallback cfg x ph p)
  let b ← handlerBranch x ph p
  return (b.commit c a, b.status)

section Session

variable (cfg : PmilterConfig) (x : Ext) (c : Conn)

/-- `mrb_xxfi_helo(ctx, helohost)`. -/
def mrbXxfiHelo (helohost : String) : Except Fault (Conn × Int32) :=
  sessionCallback cfg .helo (some fun cmd => .ok { cmd with helohost := strdup x 0 helohost }) x c

/-- `mrb_xxfi_envfrom(ctx, argv)`: `strdup(argv[0])`, where an empty vector has `NULL`. -/
def mrbXxfiEnvfrom (argv : List String) : Except Fault (Conn × Int32) :=
  sessionCallback cfg .envfrom
    (some fun cmd =>
      match argv with
      | a :: _ => .ok { cmd with envelopeFrom := strdup x 0 a }
      | [] => .error .nullDeref) x c

/-- `mrb_xxfi_envrcpt(ctx, argv)`: the recipient is the macro `{rcpt_addr}`. -/
def mrbXxfiEnvrcpt (_argv : List String) : Except Fault (Conn × Int32) :=
  sessionCallback cfg .envrcpt
    (some fun cmd => .ok { cmd with envelopeTo := x.symval "{rcpt_addr}" }) x c

/-- `mrb_xxfi_header(ctx, headerf, headerv)`. -/
def mrbXxfiHeader (headerf headerv : String) : Except Fault (Conn × Int32) :=
  sessionCallback cfg .header
    (some fun cmd => .ok { cmd with headerKey := some headerf, headerValue := some headerv }) x c

/-- `mrb_xxfi_eoh(ctx)`. -/
def mrbXxfiEoh : Except Fault (Conn × Int32) := sessionCallback cfg .eoh none x c

/-- `mrb_xxfi_abort(ctx)`. -/
def mrbXxfiAbort : Except Fault (Conn × Int32) := sessionCallback cfg .abort none x c

/-- `mrb_xxfi_unknown(ctx, scmd)`. -/
def mrbXxfiUnknown (_scmd : String) : Except Fault (Conn × Int32) :=
  sessionCallback cfg .unknown none x c

/-- `mrb_xxfi_data(ctx)`. -/
def mrbXxfiData : Except Fault (Conn × Int32) := sessionCallback cfg .data none x c

/-- The record of `mrb_xxfi_body`: unlike the other callbacks it stores the chunk inside the
handler block, so only when a body handler is set and mruby is enabled. -/
def bodyRecord (bodyp : List Char) (p : PmilterState) : Except Fault PmilterState :=
  if (p.handler .body).isSome && p.mrb.isSome then
    updCmd (fun cmd => .ok { cmd with bodyChunk := some bodyp, bodyChunkLen := bodyp.length }) p
  else .ok p

/-- `mrb_xxfi_body(ctx, bodyp, bodylen)`. -/
def mrbXxfiBody (bodyp : List Char) : Except Fault (Conn × Int32) := do
  let (a, p) ← c.current
  let p ← bodyRecord bodyp (enterCallback cfg x .body p)
  let b ← handlerBranch x .body p
  return (b.commit c a, b.status)

/-- `command_rec_free_per_session(pmilter->cmd)`, which `mrb_xxfi_eom` calls only after its
handler ran. -/
def eomReset : Branch → Except Fault Branch
  | .ran p r => do return .ran (← updCmd (fun cmd => .ok (commandRecFreePerSession cmd)) p) r
  | b => .ok b

/-- `mrb_xxfi_eom(ctx)`: records `time(&accept_time)` in the `int` field `receive_time`, and
after its handler ran clears the per-message data. -/
def mrbXxfiEom : Except Fault (Conn × Int32) := do
  let (a, p) ← c.current
  let p ← recordCmd (some fun cmd => .ok { cmd with receiveTime := x.now.toInt32 })
    (enterCallback cfg x .eom p)
  let b ← handlerBranch x .eom p
  let b ← eomReset b
  return (b.commit c a, b.status)

/-- The end of `mrb_xxfi_close` after a handler block that did not fail to compile:
`pmilter_delete_conf` (only when mruby is enabled), `smfi_setpriv(ctx, config)`, and
`return pmilter->status`, which reads the state that `pmilter_delete_conf` may just have
freed. -/
def closeFinish (a : Nat) (b : Branch) : Except Fault (Conn × Int32) := do
  let c := b.commit c a
  let c ← if b.state.mrb.isSome then pmilterDeleteConf c a else pure c
  let c := c.setPriv .config
  let p ← c.load a
  return (c, p.status)

/-- `mrb_xxfi_close(ctx)`. -/
def mrbXxfiClose : Except Fault (Conn × Int32) := do
  let (a, p) ← c.current
  let b ← handlerBranch x .close (enterCallback cfg x .close p)
  match b with
  | .tempfail _ => return (b.commit c a, SMFIS_TEMPFAIL)
  | _ => closeFinish c a b

/-- The end of `mrb_xxfi_connect` once the new state at `a` holds its record: the connect
handler block, then `smfi_setpriv(ctx, pmilter)` unless the handler did not compile. -/
def connectFinish (a : Nat) (p : PmilterState) : Except Fault (Conn × Int32) := do
  let b ← handlerBranch x .connect p
  let c := b.commit c a
  match b with
  | .tempfail _ => return (c, SMFIS_TEMPFAIL)
  | _ => return (c.setPriv (.state a), b.status)

/-- `mrb_xxfi_connect(ctx, hostname, hostaddr)`: create a `pmilter_state` for the connection
(`smfi_getpriv` is the `pmilter_config`), record the client and install the state.  Its early
`SMFIS_TEMPFAIL` returns leave the new state allocated but not installed. -/
def mrbXxfiConnect (hostname : String) (hostaddr : Option SockAddr) :
    Except Fault (Conn × Int32) := do
  c.getConfig
  -- `pmilter->status = ...` on the `NULL` that `pmilter_create_conf` returns when it fails
  let some p := pmilterCreateConf cfg x | throw .nullDeref
  let a := c.next
  let p := { p with status := SMFIS_CONTINUE, cmd := pmilterCommandInit x }
  let c := c.alloc p
  let some cmd := p.cmd | return (c, SMFIS_TEMPFAIL)
  let code := pmilterMrbCodeFromFile x (cfg.handlerPath .connect)
  let p := { p with handler := Function.update p.handler .connect code }
  match p.mrb with
  | some _ =>
    let cmd := { cmd with connectDaemon := x.symval "{daemon_name}", hostaddr := hostaddr,
                          hostname := strdup x 0 hostname }
    let ipaddr ← pmilterIpaddrdup x hostaddr
    let p := { p with cmd := some { cmd with ipaddr := ipaddr } }
    if ipaddr.isNone then return (c.store a p, SMFIS_TEMPFAIL)
    connectFinish x c a p
  | none => connectFinish x c a p

/-- `mrb_xxfi_negotiate(ctx, ...)`: reads `smfi_getpriv(ctx)` as the `pmilter_config` (for its
log level) and asks for every option. -/
def mrbXxfiNegotiate : Except Fault (Conn × Int32) := do
  c.getConfig
  return (c, SMFIS_ALL_OPTS)

end Session

/-! ### The filter -/

/-- pmilter's data in a libmilter context: the connection, or the first fault a callback
reached; the answers of the C library and mruby to the `n`-th callback; the number of callbacks
so far. -/
structure World where
  conn : Except Fault Conn
  oracle : Nat → Ext
  tick : Nat

/-- A new context: the connection of `Conn.init`, before any callback. -/
def World.init (oracle : Nat → Ext) : World := ⟨.ok Conn.init, oracle, 0⟩

/-- Run a callback on the world.  After a fault the behaviour is undefined: the world keeps the
fault and the value returned is arbitrary. -/
def World.call (k : Ext → Conn → Except Fault (Conn × Int32)) (w : World) : World × Int32 :=
  match w.conn with
  | .error _ => (w, SMFIS_CONTINUE)
  | .ok c =>
    match k (w.oracle w.tick) c with
    | .ok (c', r) => ({ w with conn := .ok c', tick := w.tick + 1 }, r)
    | .error f => ({ w with conn := .error f, tick := w.tick + 1 }, SMFIS_CONTINUE)

/-- `SMFI_VERSION` of this libmilter (`mfapi.h`, without `_FFR_MDS_NEGOTIATE`). -/
def SMFI_VERSION : Nat := 0x01000001
/-- `SMFIF_ADDHDRS`. -/
def SMFIF_ADDHDRS : Nat := 0x1
/-- `SMFIF_ADDRCPT`. -/
def SMFIF_ADDRCPT : Nat := 0x4

/-- `struct smfiDesc smfilter`: pmilter's callbacks as a filter of the engine. -/
def smfilter (cfg : PmilterConfig) : SmfiDesc World where
  version := SMFI_VERSION
  flags := SMFIF_ADDHDRS ||| SMFIF_ADDRCPT
  connect := some fun w hostname hostaddr =>
    w.call fun x c => mrbXxfiConnect cfg x c hostname hostaddr
  helo := some fun w helohost => w.call fun x c => mrbXxfiHelo cfg x c helohost
  envfrom := some fun w argv => w.call fun x c => mrbXxfiEnvfrom cfg x c argv
  envrcpt := some fun w argv => w.call fun x c => mrbXxfiEnvrcpt cfg x c argv
  header := some fun w headerf headerv =>
    w.call fun x c => mrbXxfiHeader cfg x c headerf headerv
  eoh := some (World.call (mrbXxfiEoh cfg))
  body := some fun w bodyp => w.call fun x c => mrbXxfiBody cfg x c bodyp
  eom := some (World.call (mrbXxfiEom cfg))
  abort := some (World.call (mrbXxfiAbort cfg))
  close := some (World.call (mrbXxfiClose cfg))
  unknown := some fun w scmd => w.call fun x c => mrbXxfiUnknown cfg x c scmd
  data := some (World.call (mrbXxfiData cfg))
  negotiate := some fun w _ _ pf0 pf1 =>
    ((w.call fun _ c => mrbXxfiNegotiate c).1, (w.call fun _ c => mrbXxfiNegotiate c).2, pf0, pf1)

/-! ### What the steps do -/

namespace Conn

variable {c : Conn}

theorem current_eq_ok {a : Nat} {p : PmilterState} :
    c.current = .ok (a, p) ↔ c.priv = .state a ∧ c.heap a = some p := by
  simp only [current, Except.bind_eq_ok, getState_eq_ok, load_eq_ok]
  constructor
  · rintro ⟨a', ha, p', hp, he⟩
    cases he
    exact ⟨ha, hp⟩
  · rintro ⟨ha, hp⟩
    exact ⟨a, ha, p, hp, rfl⟩

/-- The installed state is unique. -/
theorem state_unique {a a' : Nat} {p p' : PmilterState} (ha : c.priv = .state a)
    (hp : c.heap a = some p) (ha' : c.priv = .state a') (hp' : c.heap a' = some p') :
    a' = a ∧ p' = p := by
  rw [ha] at ha'
  cases ha'
  rw [hp] at hp'
  cases hp'
  exact ⟨rfl, rfl⟩

end Conn

section Steps

variable {cfg : PmilterConfig} {x : Ext} {ph : Phase} {p : PmilterState}

@[simp] theorem enterCallback_status : (enterCallback cfg x ph p).status = SMFIS_CONTINUE := rfl
@[simp] theorem enterCallback_mrb : (enterCallback cfg x ph p).mrb = p.mrb := rfl
@[simp] theorem enterCallback_cmd : (enterCallback cfg x ph p).cmd = p.cmd := rfl

@[simp] theorem enterCallback_handler_self :
    (enterCallback cfg x ph p).handler ph = pmilterMrbCodeFromFile x (cfg.handlerPath ph) := by
  simp [enterCallback]

theorem enterCallback_handler_ne {q : Phase} (h : q ≠ ph) :
    (enterCallback cfg x ph p).handler q = p.handler q := by
  simp [enterCallback, h]

/-- Recording changes `pmilter->cmd` only. -/
theorem recordCmd_eq_ok {r : Option (CommandRec → Except Fault CommandRec)} {p' : PmilterState}
    (h : recordCmd r p = .ok p') : p' = { p with cmd := p'.cmd } := by
  unfold recordCmd at h
  split at h
  · exact updCmd_eq_ok h
  · cases h
    rfl

/-- Recording never faults on a state with a record, when the recorder does not; the state
keeps a record. -/
theorem recordCmd_isOk {r : Option (CommandRec → Except Fault CommandRec)} {cmd : CommandRec}
    (hc : p.cmd = some cmd) (hr : ∀ g ∈ r, ∃ cmd', g cmd = .ok cmd') :
    ∃ cmd', recordCmd r p = .ok { p with cmd := some cmd' } := by
  unfold recordCmd updCmd
  split
  · next g m _ =>
    obtain ⟨cmd', hg⟩ := hr g rfl
    exact ⟨cmd', by simp [hc, hg]⟩
  · exact ⟨cmd, by simp [← hc]⟩

@[simp] theorem Branch.commit_priv (c : Conn) (a : Nat) (b : Branch) :
    (b.commit c a).priv = c.priv := by
  cases b <;> rfl

@[simp] theorem Branch.commit_heap_self (c : Conn) (a : Nat) (b : Branch) :
    (b.commit c a).heap a = some b.state := by
  cases b <;> simp [Branch.commit, Branch.state]

/-- With mruby enabled, the end of `mrb_xxfi_close` reads the state it has freed. -/
theorem closeFinish_useAfterFree {c : Conn} {a : Nat} {b : Branch} (hm : b.state.mrb.isSome)
    (hc : b.state.cmd.isSome) : closeFinish c a b = .error .useAfterFree := by
  obtain ⟨cmd, hcmd⟩ := Option.isSome_iff_exists.mp hc
  have hdel : pmilterDeleteConf (b.commit c a) a = .ok ((b.commit c a).free a) := by
    simp [pmilterDeleteConf, Conn.load, hcmd]
  simp [closeFinish, hm, hdel, Conn.load]

/-- With mruby disabled, the end of `mrb_xxfi_close` restores the configuration and keeps the
state, which nothing frees. -/
theorem closeFinish_noMrb {c : Conn} {a : Nat} {b : Branch} (hm : b.state.mrb = none) :
    closeFinish c a b = .ok ((b.commit c a).setPriv .config, b.state.status) := by
  simp [closeFinish, hm, Conn.load]

end Steps

/-! ### The session callbacks, taken apart -/

section SessionSpec

variable {cfg : PmilterConfig} {ph : Phase} {r : Option (CommandRec → Except Fault CommandRec)}
  {x : Ext} {c c' : Conn} {st : Int32}

/-- **What a session callback that returns has done**: it read the installed state, entered
the callback, recorded, ran the handler block, stored the state the block left, and returned
the block's status. -/
theorem sessionCallback_eq_ok (h : sessionCallback cfg ph r x c = .ok (c', st)) :
    ∃ a p p₁ b, c.priv = .state a ∧ c.heap a = some p ∧
      recordCmd r (enterCallback cfg x ph p) = .ok p₁ ∧ handlerBranch x ph p₁ = .ok b ∧
      c' = b.commit c a ∧ st = b.status := by
  obtain ⟨⟨a, p⟩, hcur, h⟩ := Except.bind_eq_ok.mp h
  obtain ⟨p₁, hrec, h⟩ := Except.bind_eq_ok.mp h
  obtain ⟨b, hb, h⟩ := Except.bind_eq_ok.mp h
  obtain ⟨ha, hp⟩ := Conn.current_eq_ok.mp hcur
  cases h
  exact ⟨a, p, p₁, b, ha, hp, hrec, hb, rfl, rfl⟩

/-- **A session callback returns** on an installed state with a command record, whatever the
C library and mruby answer, when its recorder does. -/
theorem sessionCallback_isOk {a : Nat} {p : PmilterState} {cmd : CommandRec}
    (ha : c.priv = .state a) (hp : c.heap a = some p) (hc : p.cmd = some cmd)
    (hr : ∀ g ∈ r, ∃ cmd', g cmd = .ok cmd') :
    ∃ c' st, sessionCallback cfg ph r x c = .ok (c', st) := by
  have hcur : c.current = .ok (a, p) := Conn.current_eq_ok.mpr ⟨ha, hp⟩
  have hc₁ : (enterCallback cfg x ph p).cmd = some cmd := by simpa using hc
  obtain ⟨cmd₁, hrec⟩ := recordCmd_isOk hc₁ hr
  obtain ⟨b, hb⟩ := handlerBranch_isOk x ph { enterCallback cfg x ph p with cmd := some cmd₁ }
  refine ⟨b.commit c a, b.status, ?_⟩
  simp only [sessionCallback, hcur, Except.ok_bind, hrec, hb, Except.pure_eq_ok]

/-- A session callback leaves the private data as it found it. -/
theorem sessionCallback_priv (h : sessionCallback cfg ph r x c = .ok (c', st)) :
    c'.priv = c.priv := by
  obtain ⟨a, p, p₁, b, -, -, -, -, rfl, -⟩ := sessionCallback_eq_ok h
  simp

/-- **What `mrb_xxfi_body` that returns has done.** -/
theorem mrbXxfiBody_eq_ok {bodyp : List Char} (h : mrbXxfiBody cfg x c bodyp = .ok (c', st)) :
    ∃ a p p₁ b, c.priv = .state a ∧ c.heap a = some p ∧
      bodyRecord bodyp (enterCallback cfg x .body p) = .ok p₁ ∧
      handlerBranch x .body p₁ = .ok b ∧ c' = b.commit c a ∧ st = b.status := by
  obtain ⟨⟨a, p⟩, hcur, h⟩ := Except.bind_eq_ok.mp h
  obtain ⟨p₁, hrec, h⟩ := Except.bind_eq_ok.mp h
  obtain ⟨b, hb, h⟩ := Except.bind_eq_ok.mp h
  obtain ⟨ha, hp⟩ := Conn.current_eq_ok.mp hcur
  cases h
  exact ⟨a, p, p₁, b, ha, hp, hrec, hb, rfl, rfl⟩

/-- **What `mrb_xxfi_eom` that returns has done.** -/
theorem mrbXxfiEom_eq_ok (h : mrbXxfiEom cfg x c = .ok (c', st)) :
    ∃ a p p₁ b b', c.priv = .state a ∧ c.heap a = some p ∧
      recordCmd (some fun cmd => .ok { cmd with receiveTime := x.now.toInt32 })
        (enterCallback cfg x .eom p) = .ok p₁ ∧
      handlerBranch x .eom p₁ = .ok b ∧ eomReset b = .ok b' ∧ c' = b'.commit c a ∧
      st = b'.status := by
  obtain ⟨⟨a, p⟩, hcur, h⟩ := Except.bind_eq_ok.mp h
  obtain ⟨p₁, hrec, h⟩ := Except.bind_eq_ok.mp h
  obtain ⟨b, hb, h⟩ := Except.bind_eq_ok.mp h
  obtain ⟨b', hb', h⟩ := Except.bind_eq_ok.mp h
  obtain ⟨ha, hp⟩ := Conn.current_eq_ok.mp hcur
  cases h
  exact ⟨a, p, p₁, b, b', ha, hp, hrec, hb, hb', rfl, rfl⟩

/-- Recording the chunk changes `pmilter->cmd` only. -/
theorem bodyRecord_eq_ok {bodyp : List Char} {p p' : PmilterState}
    (h : bodyRecord bodyp p = .ok p') : p' = { p with cmd := p'.cmd } := by
  unfold bodyRecord at h
  split at h
  · exact updCmd_eq_ok h
  · cases h
    rfl

/-- The reset after the eom handler changes only `pmilter->cmd` of the branch's state. -/
theorem eomReset_eq_ok {b b' : Branch} (h : eomReset b = .ok b') :
    b' = b.setCmd b'.state.cmd := by
  cases b with
  | ran p r =>
    obtain ⟨p', hp', h⟩ := Except.bind_eq_ok.mp h
    cases h
    simp only [Branch.setCmd, Branch.state]
    rw [← updCmd_eq_ok hp']
  | skipped p => cases h; rfl
  | tempfail p => cases h; rfl

/-- Recording the chunk never faults on a state with a record. -/
theorem bodyRecord_isOk {bodyp : List Char} {p : PmilterState} {cmd : CommandRec}
    (hc : p.cmd = some cmd) : ∃ cmd', bodyRecord bodyp p = .ok { p with cmd := some cmd' } := by
  unfold bodyRecord
  split
  · exact ⟨_, updCmd_ok hc⟩
  · exact ⟨cmd, by simp [← hc]⟩

/-- The reset after the eom handler never faults on a state with a record. -/
theorem eomReset_isOk {b : Branch} {cmd : CommandRec} (hc : b.state.cmd = some cmd) :
    ∃ b', eomReset b = .ok b' := by
  cases b with
  | ran p r =>
    simp only [Branch.state] at hc
    refine ⟨.ran { p with cmd := some (commandRecFreePerSession cmd) } r, ?_⟩
    simp [eomReset, updCmd_ok hc]
  | skipped p => exact ⟨_, rfl⟩
  | tempfail p => exact ⟨_, rfl⟩

/-- `mrb_xxfi_body` returns on an installed state with a command record. -/
theorem mrbXxfiBody_isOk {a : Nat} {p : PmilterState} {cmd : CommandRec} {bodyp : List Char}
    (ha : c.priv = .state a) (hp : c.heap a = some p) (hc : p.cmd = some cmd) :
    ∃ c' st, mrbXxfiBody cfg x c bodyp = .ok (c', st) := by
  have hcur : c.current = .ok (a, p) := Conn.current_eq_ok.mpr ⟨ha, hp⟩
  have hc₁ : (enterCallback cfg x .body p).cmd = some cmd := by simpa using hc
  obtain ⟨cmd₁, hrec⟩ : ∃ cmd₁, bodyRecord bodyp (enterCallback cfg x .body p) =
      .ok { enterCallback cfg x .body p with cmd := some cmd₁ } := bodyRecord_isOk hc₁
  obtain ⟨b, hb⟩ := handlerBranch_isOk x .body { enterCallback cfg x .body p with cmd := some cmd₁ }
  refine ⟨b.commit c a, b.status, ?_⟩
  simp only [mrbXxfiBody, hcur, Except.ok_bind, hrec, hb, Except.pure_eq_ok]

/-- `mrb_xxfi_eom` returns on an installed state with a command record. -/
theorem mrbXxfiEom_isOk {a : Nat} {p : PmilterState} {cmd : CommandRec}
    (ha : c.priv = .state a) (hp : c.heap a = some p) (hc : p.cmd = some cmd) :
    ∃ c' st, mrbXxfiEom cfg x c = .ok (c', st) := by
  have hcur : c.current = .ok (a, p) := Conn.current_eq_ok.mpr ⟨ha, hp⟩
  have hc₁ : (enterCallback cfg x .eom p).cmd = some cmd := by simpa using hc
  obtain ⟨cmd₁, hrec⟩ : ∃ cmd₁, recordCmd (some fun cmd => .ok { cmd with receiveTime := x.now.toInt32 })
      (enterCallback cfg x .eom p) = .ok { enterCallback cfg x .eom p with cmd := some cmd₁ } :=
    recordCmd_isOk hc₁ (by simp)
  obtain ⟨b, hb⟩ := handlerBranch_isOk x .eom { enterCallback cfg x .eom p with cmd := some cmd₁ }
  -- the record survives the block, so the reset finds it
  obtain ⟨b', hb'⟩ := eomReset_isOk (handlerBranch_state_cmd hb)
  refine ⟨b'.commit c a, b'.status, ?_⟩
  simp only [mrbXxfiEom, hcur, Except.ok_bind, hrec, hb, hb', Except.pure_eq_ok]

end SessionSpec

/-! ### The callbacks between connect and close -/

/-- A call of one of the callbacks libmilter makes between `mrb_xxfi_connect` and
`mrb_xxfi_close`, with its arguments. -/
inductive Call
  | helo (helohost : String)
  | envfrom (argv : List String)
  | envrcpt (argv : List String)
  | header (headerf headerv : String)
  | eoh
  | body (bodyp : List Char)
  | eom
  | abort
  | unknown (scmd : String)
  | data

/-- The phase of a call: the handler slot it uses. -/
def Call.phase : Call → Phase
  | .helo _ => .helo
  | .envfrom _ => .envfrom
  | .envrcpt _ => .envrcpt
  | .header _ _ => .header
  | .eoh => .eoh
  | .body _ => .body
  | .eom => .eom
  | .abort => .abort
  | .unknown _ => .unknown
  | .data => .data

/-- The callback a call runs. -/
def Call.run (cfg : PmilterConfig) : Call → Ext → Conn → Except Fault (Conn × Int32)
  | .helo helohost, x, c => mrbXxfiHelo cfg x c helohost
  | .envfrom argv, x, c => mrbXxfiEnvfrom cfg x c argv
  | .envrcpt argv, x, c => mrbXxfiEnvrcpt cfg x c argv
  | .header headerf headerv, x, c => mrbXxfiHeader cfg x c headerf headerv
  | .eoh, x, c => mrbXxfiEoh cfg x c
  | .body bodyp, x, c => mrbXxfiBody cfg x c bodyp
  | .eom, x, c => mrbXxfiEom cfg x c
  | .abort, x, c => mrbXxfiAbort cfg x c
  | .unknown scmd, x, c => mrbXxfiUnknown cfg x c scmd
  | .data, x, c => mrbXxfiData cfg x c

/-- **What a callback between connect and close that returns has done**, in one statement for
all ten: it read the installed state, entered the callback, changed only the record, ran the
handler block, stored the state the block left (with the record changed again by eom's reset),
and returned the block's status. -/
theorem Call.run_eq_ok {cfg : PmilterConfig} {x : Ext} {c c' : Conn} {st : Int32} {a : Nat}
    {p : PmilterState} (call : Call) (ha : c.priv = .state a) (hp : c.heap a = some p)
    (h : call.run cfg x c = .ok (c', st)) :
    ∃ p₁ b cmd, p₁ = { enterCallback cfg x call.phase p with cmd := p₁.cmd } ∧
      handlerBranch x call.phase p₁ = .ok b ∧ c' = (b.setCmd cmd).commit c a ∧
      st = b.status := by
  cases call with
  | body bodyp =>
    obtain ⟨a', p', p₁, b, ha', hp', hrec, hb, rfl, rfl⟩ := mrbXxfiBody_eq_ok h
    obtain ⟨rfl, rfl⟩ := Conn.state_unique ha hp ha' hp'
    exact ⟨p₁, b, b.state.cmd, bodyRecord_eq_ok hrec, hb, by rw [Branch.setCmd_self], rfl⟩
  | eom =>
    obtain ⟨a', p', p₁, b, b', ha', hp', hrec, hb, hb', rfl, rfl⟩ := mrbXxfiEom_eq_ok h
    obtain ⟨rfl, rfl⟩ := Conn.state_unique ha hp ha' hp'
    have hreset := eomReset_eq_ok hb'
    refine ⟨p₁, b, b'.state.cmd, recordCmd_eq_ok hrec, hb, by rw [← hreset], ?_⟩
    rw [hreset, Branch.setCmd_status]
  | helo | envfrom | envrcpt | header | eoh | abort | unknown | data =>
    obtain ⟨a', p', p₁, b, ha', hp', hrec, hb, rfl, rfl⟩ := sessionCallback_eq_ok h
    obtain ⟨rfl, rfl⟩ := Conn.state_unique ha hp ha' hp'
    exact ⟨p₁, b, b.state.cmd, recordCmd_eq_ok hrec, hb, by rw [Branch.setCmd_self], rfl⟩

/-- The arguments libmilter can pass: `st_sender` passes a vector with at least `argv[0]`. -/
def Call.valid : Call → Bool
  | .envfrom argv => !argv.isEmpty
  | _ => true

/-- **Every callback between connect and close returns** on an installed state with a command
record, whatever the C library and mruby answer. -/
theorem Call.run_isOk {cfg : PmilterConfig} {x : Ext} {c : Conn} {a : Nat} {p : PmilterState}
    {cmd : CommandRec} (call : Call) (hv : call.valid) (ha : c.priv = .state a)
    (hp : c.heap a = some p) (hc : p.cmd = some cmd) :
    ∃ c' st, call.run cfg x c = .ok (c', st) := by
  cases call with
  | body bodyp => exact mrbXxfiBody_isOk ha hp hc
  | eom => exact mrbXxfiEom_isOk ha hp hc
  | envfrom argv =>
    obtain ⟨arg, rest, rfl⟩ := List.exists_cons_of_ne_nil (by simpa [Call.valid] using hv)
    exact sessionCallback_isOk ha hp hc (by simp)
  | helo | envrcpt | header | eoh | abort | unknown | data =>
    exact sessionCallback_isOk ha hp hc (by simp)

end Pmilter
