import Pmilter.Core.Types
import Pmilter.Lib.Except

/-!
# Handlers and the helpers of the callbacks

The functions of `pmilter.c`, `pmilter_config.c` and `pmilter_utils.c` that the session
callbacks call:

* `pmilterMrbCodeFromFile`, `pmilterStateCompileInternal`, `pmilterStateCompile`: a handler
  slot is filled from the configured path and compiled;
* `pmilterHandler`: the handlers `pmilter_<phase>_handler` that the macro
  `PMILTER_DEFINE_MRUBY_HADNLER` defines, one definition for the twelve phases; the script's
  run sets the status through `pmilterMrbSetStatus` (`Pmilter.status=`);
* `pmilterCommandInit`, `pmilterCreateConf`, `pmilterDeleteConf`, `pmilterIpaddrdup`,
  `commandRecFreePerSession`;
* `handlerBranch`: the block `if (handler != NULL && mrb != NULL) { compile; run }` that every
  callback has, with its three outcomes.

The main results:

* `pmilterHandler_eq` : a handler returns `handlerStatus`: `SMFIS_TEMPFAIL` if its script
  raised (or an exception was pending), else the last `Pmilter.status=` narrowed to `int`, else
  `SMFIS_CONTINUE`; it empties its own slot, cleans the exception and changes nothing else;
* `handlerBranch_skipped`, `handlerBranch_tempfail`, `handlerBranch_ran` : the three ways the
  handler block of a callback ends, and the state each leaves (the block never faults).
-/

namespace Pmilter

open Milter

/-- `PMILTER_OK`. -/
def PMILTER_OK : Int32 := 0
/-- `PMILTER_ERROR`. -/
def PMILTER_ERROR : Int32 := -1

/-- `strdup(s)`, the `n`-th of the callback: a copy, or `NULL` when the allocation fails. -/
def strdup (x : Ext) (n : Nat) (s : String) : Option String :=
  if x.dupOk n then some s else none

/-- `pmilter_mrb_code_from_file(file_path)`: a new `pmilter_mrb_code` for a configured path,
`NULL` for no path or a failed `malloc`. -/
def pmilterMrbCodeFromFile (x : Ext) : Option String → Option MrbCode
  | none => none
  | some file => if x.codeAlloc then some ⟨file, false⟩ else none

theorem pmilterMrbCodeFromFile_of_alloc {x : Ext} {file : String} (hcode : x.codeAlloc = true) :
    pmilterMrbCodeFromFile x (some file) = some ⟨file, false⟩ := by
  simp [pmilterMrbCodeFromFile, hcode]

/-- `pmilter_state_compile_internal(mrb, config, code)`: open, parse and generate code; the
`mrbc_context` is attached once the file is open.  A parser or code generator that raises
leaves its exception in `mrb->exc`: the `PMILTER_ERROR` return does not reach
`pmilter_mrb_state_clean`.  (Callers never pass `NULL`.) -/
def pmilterStateCompileInternal (x : Ext) (m : Mrb) (code : MrbCode) : Mrb × MrbCode × Int32 :=
  match x.compile with
  | .openFailed => (m, code, PMILTER_ERROR)
  | .failed => (m, { code with ctx := true }, PMILTER_ERROR)
  | .raised => (⟨true⟩, { code with ctx := true }, PMILTER_ERROR)
  | .ok => (m, { code with ctx := true }, PMILTER_OK)

/-- `pmilter_state_compile(pmilter, code)` on the slot of a phase, with `pmilter->mrb`; the
callers have checked that the slot is set and that `pmilter->mrb` is not `NULL`. -/
def pmilterStateCompile (x : Ext) (ph : Phase) (p : PmilterState) : PmilterState × Int32 :=
  match p.handler ph, p.mrb with
  | some code, some m =>
    let r := pmilterStateCompileInternal x m code
    ({ p with mrb := some r.1, handler := Function.update p.handler ph (some r.2.1) }, r.2.2)
  | _, _ => (p, PMILTER_ERROR)

/-- `pmilter_mrb_set_status`, the method `Pmilter.status=`: the `mrb_int` argument is stored in
the C `int` field `status`. -/
def pmilterMrbSetStatus (p : PmilterState) (status : Int64) : PmilterState :=
  { p with status := status.toInt32 }

/-- `mrb_run` of a handler script: its calls of `Pmilter.status=`, in order, and a pending
exception if it raised one (one already pending stays pending). -/
def mrbRun (run : ScriptRun) (m : Mrb) (p : PmilterState) : PmilterState :=
  { run.statuses.foldl pmilterMrbSetStatus p with mrb := some ⟨m.exc || run.raised⟩ }

/-- `pmilter_<phase>_handler`, defined by `PMILTER_DEFINE_MRUBY_HADNLER(hook_phase)`: run the
compiled script with a fresh status; an exception turns the status into `SMFIS_TEMPFAIL`; the
`mrbc_context` and the code are freed (`pmilter_mruby_code_free` empties the slot) and the
exception is cleaned (`pmilter_mrb_state_clean`). -/
def pmilterHandler (ph : Phase) (run : ScriptRun) (p : PmilterState) : Except Fault PmilterState :=
  match p.mrb with
  | none => .error .nullDeref
  | some m =>
    let p := mrbRun run m { p with status := SMFIS_CONTINUE, phase := ph.handlerName }
    let p := if m.exc || run.raised then { p with status := SMFIS_TEMPFAIL } else p
    .ok { p with handler := Function.update p.handler ph none, mrb := some ⟨false⟩ }

/-- `pmilter_command_init()`: a record with every field unset, `NULL` when an allocation
fails. -/
def pmilterCommandInit (x : Ext) : Option CommandRec :=
  if x.cmdAlloc then some CommandRec.init else none

/-- `pmilter_create_conf(config)`: a new `pmilter_state` with every slot unset and, when mruby
handlers are enabled, a new `mrb_state`; `NULL` when an allocation fails.  `cmd`, `status` and
`phase` are left for the caller. -/
def pmilterCreateConf (cfg : PmilterConfig) (x : Ext) : Option PmilterState :=
  if !x.stateAlloc then none
  else if cfg.enableMrubyHandler then
    if x.mrbOpen then some ⟨some ⟨false⟩, none, 0, "", fun _ => none⟩ else none
  else some ⟨none, none, 0, "", fun _ => none⟩

/-- `pmilter_delete_conf(pmilter)` on the state at `a`: `pmilter_command_rec_free` reads
`pmilter->cmd`, then the slots, the `mrb_state` and the state itself are freed. -/
def pmilterDeleteConf (c : Conn) (a : Nat) : Except Fault Conn := do
  let p ← c.load a
  match p.cmd with
  | some _ => return c.free a
  | none => throw .nullDeref

/-- `pmilter_ipaddrdup(pmilter, hostname, hostaddr)`: the text of an IPv4 or IPv6 client
address, `NULL` for another family or when `inet_ntop` or `strdup` fails.  It reads
`hostaddr->sa_family` without checking `hostaddr`; its `strdup` is the second of
`mrb_xxfi_connect`. -/
def pmilterIpaddrdup (x : Ext) : Option SockAddr → Except Fault (Option String)
  | none => .error .nullDeref
  | some sa =>
    if sa.saFamily == AF_INET || sa.saFamily == AF_INET6 then
      match x.inetNtop sa with
      | some text => .ok (strdup x 1 text)
      | none => .ok none
    -- "Unknown protocol"
    else .ok none

/-- `command_rec_free_per_session(cmd)`: clear the data of one message (`body_chunk` is not
cleared). -/
def commandRecFreePerSession (cmd : CommandRec) : CommandRec :=
  { cmd with envelopeFrom := none, envelopeTo := none, receiveTime := 0, headerKey := none,
             headerValue := none }

/-- Update `pmilter->cmd`, which must not be `NULL`. -/
def updCmd (g : CommandRec → Except Fault CommandRec) (p : PmilterState) :
    Except Fault PmilterState :=
  match p.cmd with
  | some cmd => do return { p with cmd := some (← g cmd) }
  | none => .error .nullDeref

/-- Updating the record changes `pmilter->cmd` only. -/
theorem updCmd_eq_ok {g : CommandRec → Except Fault CommandRec} {p p' : PmilterState}
    (h : updCmd g p = .ok p') : p' = { p with cmd := p'.cmd } := by
  unfold updCmd at h
  split at h
  · obtain ⟨cmd', -, hp⟩ := Except.bind_eq_ok.mp h
    cases hp
    rfl
  · cases h

/-- Updating a record with a total update succeeds. -/
theorem updCmd_ok {g : CommandRec → CommandRec} {p : PmilterState} {cmd : CommandRec}
    (hc : p.cmd = some cmd) : updCmd (fun c => .ok (g c)) p = .ok { p with cmd := some (g cmd) } := by
  simp [updCmd, hc]

/-! ### The status a handler returns -/

/-- The status of a handler whose script runs as `run` on an interpreter with pending
exception `m.exc`: `SMFIS_TEMPFAIL` after an exception, else the last `Pmilter.status=`
narrowed to `int`, else `SMFIS_CONTINUE`. -/
def handlerStatus (m : Mrb) (run : ScriptRun) : Int32 :=
  if m.exc || run.raised then SMFIS_TEMPFAIL
  else (run.statuses.getLast?.map Int64.toInt32).getD SMFIS_CONTINUE

/-- The calls of `Pmilter.status=` leave the last value, narrowed, and nothing else. -/
theorem foldl_pmilterMrbSetStatus (l : List Int64) (p : PmilterState) :
    l.foldl pmilterMrbSetStatus p =
      { p with status := (l.getLast?.map Int64.toInt32).getD p.status } := by
  induction l generalizing p with
  | nil => rfl
  | cons v l ih =>
    rw [List.foldl_cons, ih]
    cases l with
    | nil => rfl
    | cons w l =>
      have hz : (w :: l).getLast? = some ((w :: l).getLast (List.cons_ne_nil w l)) :=
        List.getLast?_eq_some_getLast _
      simp [pmilterMrbSetStatus, List.getLast?_cons_cons, hz]

/-- **The handler, in closed form.**  With an interpreter, `pmilter_<phase>_handler` leaves
`handlerStatus` as the status and its phase name, empties its own slot, cleans the exception,
and changes nothing else. -/
theorem pmilterHandler_eq {ph : Phase} {run : ScriptRun} {p : PmilterState} {m : Mrb}
    (hm : p.mrb = some m) :
    pmilterHandler ph run p =
      .ok { p with status := handlerStatus m run, phase := ph.handlerName,
                   handler := Function.update p.handler ph none, mrb := some ⟨false⟩ } := by
  simp only [pmilterHandler, hm, mrbRun, foldl_pmilterMrbSetStatus, handlerStatus]
  -- the two cases of `if (mrb->exc)`
  by_cases hx : (m.exc || run.raised) = true
  · simp [hx]
  · simp [hx]

/-! ### Compilation -/

section Compile

variable (x : Ext) (ph : Phase) (p : PmilterState)

/-- Compilation keeps the interpreter, and its pending exception unless the parser raises. -/
theorem pmilterStateCompile_mrb {code : MrbCode} {m : Mrb} (hc : p.handler ph = some code)
    (hm : p.mrb = some m) :
    (pmilterStateCompile x ph p).1.mrb = some (if x.compile = .raised then ⟨true⟩ else m) := by
  simp only [pmilterStateCompile, hc, hm, pmilterStateCompileInternal]
  cases x.compile <;> rfl

@[simp] theorem pmilterStateCompile_mrb_isSome :
    (pmilterStateCompile x ph p).1.mrb.isSome = p.mrb.isSome := by
  unfold pmilterStateCompile; split <;> simp_all

@[simp] theorem pmilterStateCompile_cmd : (pmilterStateCompile x ph p).1.cmd = p.cmd := by
  unfold pmilterStateCompile; split <;> rfl

@[simp] theorem pmilterStateCompile_status :
    (pmilterStateCompile x ph p).1.status = p.status := by
  unfold pmilterStateCompile; split <;> rfl

/-- Compilation changes the slot it compiles only, and keeps it set. -/
theorem pmilterStateCompile_handler (q : Phase) :
    ((pmilterStateCompile x ph p).1.handler q).isSome = (p.handler q).isSome ∧
      (q ≠ ph → (pmilterStateCompile x ph p).1.handler q = p.handler q) := by
  unfold pmilterStateCompile
  split
  · next code m hc hm =>
    by_cases hq : q = ph
    · subst hq; simp [hc]
    · simp [hq]
  · simp

/-- The result of compiling a set slot: `PMILTER_OK` exactly when the code compiles. -/
theorem pmilterStateCompile_snd {code : MrbCode} {m : Mrb} (hc : p.handler ph = some code)
    (hm : p.mrb = some m) :
    (pmilterStateCompile x ph p).2 = if x.compile = .ok then PMILTER_OK else PMILTER_ERROR := by
  simp only [pmilterStateCompile, hc, hm, pmilterStateCompileInternal]
  cases x.compile <;> rfl

end Compile

/-! ### The handler branch of a callback -/

/-- How the block `if (pmilter->mruby_<phase>_handler != NULL && pmilter->mrb != NULL)` of a
callback ends. -/
inductive Branch
  /-- The block is skipped: no handler, or mruby disabled. -/
  | skipped (p : PmilterState)
  /-- Compilation failed: the callback returns `SMFIS_TEMPFAIL` at once. -/
  | tempfail (p : PmilterState)
  /-- The handler ran (`r` records the run); the callback's status is `p.status`. -/
  | ran (p : PmilterState) (r : HandlerRun)

/-- The handler block of the callback of phase `ph`. -/
def handlerBranch (x : Ext) (ph : Phase) (p : PmilterState) : Except Fault Branch :=
  if (p.handler ph).isSome && p.mrb.isSome then
    let (p, ret) := pmilterStateCompile x ph p
    if ret == PMILTER_ERROR then .ok (.tempfail p)
    else do
      let p' ← pmilterHandler ph x.run p
      return .ran p' ⟨ph, p.cmd⟩
  else .ok (.skipped p)

/-- The state a branch leaves. -/
def Branch.state : Branch → PmilterState
  | .skipped p | .tempfail p | .ran p _ => p

/-- The status the callback returns after the branch. -/
def Branch.status : Branch → Int32
  | .skipped p | .ran p _ => p.status
  | .tempfail _ => SMFIS_TEMPFAIL

/-- Store the state a branch leaves at `a`, recording the handler's run. -/
def Branch.commit (c : Conn) (a : Nat) : Branch → Conn
  | .skipped p | .tempfail p => c.store a p
  | .ran p r => (c.store a p).logRun r

/-- The branch with `pmilter->cmd` of its state replaced. -/
def Branch.setCmd (cmd : Option CommandRec) : Branch → Branch
  | .skipped p => .skipped { p with cmd := cmd }
  | .tempfail p => .tempfail { p with cmd := cmd }
  | .ran p r => .ran { p with cmd := cmd } r

@[simp] theorem Branch.setCmd_status (b : Branch) (cmd : Option CommandRec) :
    (b.setCmd cmd).status = b.status := by
  cases b <;> rfl

@[simp] theorem Branch.setCmd_state (b : Branch) (cmd : Option CommandRec) :
    (b.setCmd cmd).state = { b.state with cmd := cmd } := by
  cases b <;> rfl

@[simp] theorem Branch.setCmd_self (b : Branch) : b.setCmd b.state.cmd = b := by
  cases b <;> rfl

section Branches

variable {x : Ext} {ph : Phase} {p : PmilterState}

/-- No handler for the phase, or no interpreter: the block is skipped. -/
theorem handlerBranch_skipped (h : p.handler ph = none ∨ p.mrb = none) :
    handlerBranch x ph p = .ok (.skipped p) := by
  unfold handlerBranch
  rcases h with h | h <;> simp [h]

/-- A handler that does not compile: `SMFIS_TEMPFAIL`, with the slot still set. -/
theorem handlerBranch_tempfail {code : MrbCode} {m : Mrb} (hc : p.handler ph = some code)
    (hm : p.mrb = some m) (hx : x.compile ≠ .ok) :
    handlerBranch x ph p = .ok (.tempfail (pmilterStateCompile x ph p).1) := by
  have hret : (pmilterStateCompile x ph p).2 = PMILTER_ERROR := by
    rw [pmilterStateCompile_snd x ph p hc hm, if_neg hx]
  simp [handlerBranch, hc, hm, hret]

/-- The state a handler that ran leaves: `pmilterHandler_eq` on the compiled state. -/
def ranState (x : Ext) (ph : Phase) (p : PmilterState) (m : Mrb) : PmilterState :=
  { p with status := handlerStatus m x.run, phase := ph.handlerName,
           handler := Function.update p.handler ph none, mrb := some ⟨false⟩ }

/-- A handler that compiles runs: the state is the handler's, whose slot is empty again. -/
theorem handlerBranch_ran {code : MrbCode} {m : Mrb} (hc : p.handler ph = some code)
    (hm : p.mrb = some m) (hx : x.compile = .ok) :
    handlerBranch x ph p = .ok (.ran (ranState x ph p m) ⟨ph, p.cmd⟩) := by
  have hret : (pmilterStateCompile x ph p).2 = PMILTER_OK := by
    rw [pmilterStateCompile_snd x ph p hc hm, if_pos hx]
  have hrun := @pmilterHandler_eq ph x.run (pmilterStateCompile x ph p).1 m
    (by simp [pmilterStateCompile_mrb x ph p hc hm, hx])
  simp only [handlerBranch, hc, hm, Option.isSome_some, Bool.and_self, ↓reduceIte, hret,
    PMILTER_OK, PMILTER_ERROR, hrun, pmilterStateCompile_cmd]
  -- the compiled code in the slot is gone again
  simp [pmilterStateCompile, hc, hm, ranState]

/-- The block never faults. -/
theorem handlerBranch_isOk (x : Ext) (ph : Phase) (p : PmilterState) :
    ∃ b, handlerBranch x ph p = .ok b := by
  cases hc : p.handler ph with
  | none => exact ⟨_, handlerBranch_skipped (.inl hc)⟩
  | some code =>
    cases hm : p.mrb with
    | none => exact ⟨_, handlerBranch_skipped (.inr hm)⟩
    | some m =>
      by_cases hx : x.compile = .ok
      · exact ⟨_, handlerBranch_ran hc hm hx⟩
      · exact ⟨_, handlerBranch_tempfail hc hm hx⟩

/-- **What the handler block can do**, in one statement: it is skipped, or its handler does
not compile, or its handler runs. -/
theorem handlerBranch_cases {b : Branch} (hb : handlerBranch x ph p = .ok b) :
    ((p.handler ph = none ∨ p.mrb = none) ∧ b = .skipped p) ∨
    (∃ m, (p.handler ph).isSome ∧ p.mrb = some m ∧ x.compile ≠ .ok ∧
      b = .tempfail (pmilterStateCompile x ph p).1) ∨
    (∃ m, (p.handler ph).isSome ∧ p.mrb = some m ∧ x.compile = .ok ∧
      b = .ran (ranState x ph p m) ⟨ph, p.cmd⟩) := by
  cases hc : p.handler ph with
  | none =>
    rw [handlerBranch_skipped (.inl hc)] at hb
    exact .inl ⟨.inl rfl, (Except.ok.inj hb).symm⟩
  | some code =>
    cases hm : p.mrb with
    | none =>
      rw [handlerBranch_skipped (.inr hm)] at hb
      exact .inl ⟨.inr rfl, (Except.ok.inj hb).symm⟩
    | some m =>
      by_cases hx : x.compile = .ok
      · rw [handlerBranch_ran hc hm hx] at hb
        exact .inr (.inr ⟨m, rfl, rfl, hx, (Except.ok.inj hb).symm⟩)
      · rw [handlerBranch_tempfail hc hm hx] at hb
        exact .inr (.inl ⟨m, rfl, rfl, hx, (Except.ok.inj hb).symm⟩)

/-- The handler block keeps `pmilter->cmd`. -/
theorem handlerBranch_state_cmd {b : Branch} (hb : handlerBranch x ph p = .ok b) :
    b.state.cmd = p.cmd := by
  rcases handlerBranch_cases hb with ⟨-, rfl⟩ | ⟨m, -, -, -, rfl⟩ | ⟨m, -, -, -, rfl⟩
  · rfl
  · simp [Branch.state]
  · rfl

/-- The handler block changes no other slot. -/
theorem handlerBranch_handler_ne {b : Branch} (hb : handlerBranch x ph p = .ok b) {q : Phase}
    (hq : q ≠ ph) : b.state.handler q = p.handler q := by
  rcases handlerBranch_cases hb with ⟨-, rfl⟩ | ⟨m, -, -, -, rfl⟩ | ⟨m, -, -, -, rfl⟩
  · rfl
  · exact (pmilterStateCompile_handler x ph p q).2 hq
  · simp [Branch.state, ranState, hq]

/-- **The handler block empties its own slot exactly when the handler runs**: a set slot stays
set when mruby is disabled or the code does not compile. -/
theorem handlerBranch_handler_self {b : Branch} (hb : handlerBranch x ph p = .ok b) :
    (b.state.handler ph).isSome =
      ((p.handler ph).isSome && !(p.mrb.isSome && x.compile == .ok)) := by
  rcases handlerBranch_cases hb with ⟨hs, rfl⟩ | ⟨m, hc, hm, hx, rfl⟩ | ⟨m, hc, hm, hx, rfl⟩
  · rcases hs with hs | hs <;> simp [Branch.state, hs]
  · simp [Branch.state, (pmilterStateCompile_handler x ph p ph).1, hc, hm, hx]
  · simp [Branch.state, ranState, hc, hm, hx]

/-- The status the handler block of a callback leaves for the callback to return: the handler's
when the slot is set and mruby is enabled and the code compiles, `SMFIS_TEMPFAIL` when it does
not compile, the status before the block (`otherwise`) when the block is skipped. -/
def blockStatus (x : Ext) (code : Option MrbCode) (mrb : Option Mrb) (otherwise : Int32) :
    Int32 :=
  match code, mrb with
  | some _, some m => if x.compile = .ok then handlerStatus m x.run else SMFIS_TEMPFAIL
  | _, _ => otherwise

/-- **The status of the handler block.** -/
theorem handlerBranch_status {b : Branch} (hb : handlerBranch x ph p = .ok b) :
    b.status = blockStatus x (p.handler ph) p.mrb p.status := by
  rcases handlerBranch_cases hb with ⟨hs, rfl⟩ | ⟨m, hc, hm, hx, rfl⟩ | ⟨m, hc, hm, hx, rfl⟩
  · rcases hs with hs | hs <;> simp [Branch.status, blockStatus, hs]
  · obtain ⟨code, hcode⟩ := Option.isSome_iff_exists.mp hc
    simp [Branch.status, blockStatus, hcode, hm, hx]
  · obtain ⟨code, hcode⟩ := Option.isSome_iff_exists.mp hc
    simp [Branch.status, blockStatus, hcode, hm, hx, ranState]

/-- An exception left pending in the interpreter makes the handler block fail, whatever the
code and the script. -/
theorem blockStatus_pending (code : MrbCode) (otherwise : Int32) :
    blockStatus x (some code) (some ⟨true⟩) otherwise = SMFIS_TEMPFAIL := by
  simp [blockStatus, handlerStatus]

end Branches

end Pmilter
