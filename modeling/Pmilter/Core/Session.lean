import Pmilter.Core.Slots

/-!
# The per-message data across a connection

`Pmilter::Session` hands a handler script the fields of `pmilter->cmd`.  The per-message ones
(`envelope_from`, `envelope_to`, the current header, `body_chunk`, `receive_time`) are meant to
belong to the message in progress, but only `command_rec_free_per_session` clears them, only
`mrb_xxfi_eom` calls it, after its own handler ran, and it does not clear `body_chunk` at all.

A connection between connect and close is a run of callbacks (`Call.runAll`), each with what
the C library and mruby answer during it; `Core.Delivery` shows that the callbacks a run of the
engine delivers are such a run.

* `Call.run_chunk` : what one callback does to the body chunk of the record, and what the
  handler it runs sees;
* `Call.runAll_chunkSticky` : once the record holds a body chunk, every handler that runs for
  the rest of the connection sees one;
* `Call.runAll_chunkAfterBody`, `Call.runAll_bodyChunk` : so after a body handler has run,
  every handler that runs later on the connection sees a body chunk, the `MAIL` handler of every
  later message included.
-/

namespace Pmilter

open Milter

/-- The body chunk `Pmilter::Session#body_chunk` reads from a record (`nil` without one). -/
def chunkOf (cmd : Option CommandRec) : Option (List Char) := cmd.bind CommandRec.bodyChunk

/-- A run of callbacks between connect and close, each with what the C library and mruby
answer during it. -/
def Call.runAll (cfg : PmilterConfig) : List (Call × Ext) → Conn → Except Fault Conn
  | [], c => .ok c
  | (call, x) :: rest, c => do
    let (c', _) ← call.run cfg x c
    Call.runAll cfg rest c'

/-- The handler run a branch records. -/
def Branch.logged : Branch → Option HandlerRun
  | .ran _ r => some r
  | _ => none

/-- An update of the record that leaves its body chunk alone. -/
def KeepsChunk (g : CommandRec → Except Fault CommandRec) : Prop :=
  ∀ cmd cmd', g cmd = .ok cmd' → cmd'.bodyChunk = cmd.bodyChunk

/-! ### What each step does to the body chunk -/

section Steps

variable {cfg : PmilterConfig} {x : Ext} {c c' : Conn} {st : Int32} {a : Nat}
  {p : PmilterState}

@[simp] theorem Branch.commit_runs (c : Conn) (a : Nat) (b : Branch) :
    (b.commit c a).runs = c.runs ++ b.logged.toList := by
  cases b <;> simp [Branch.commit, Branch.logged]

@[simp] theorem Branch.setCmd_logged (b : Branch) (cmd : Option CommandRec) :
    (b.setCmd cmd).logged = b.logged := by
  cases b <;> rfl

/-- The run a handler block records: its phase, the record the handler saw, and a set slot and
an interpreter. -/
theorem handlerBranch_logged {ph : Phase} {b : Branch} (hb : handlerBranch x ph p = .ok b)
    {r : HandlerRun} (hr : b.logged = some r) :
    r = ⟨ph, p.cmd⟩ ∧ (p.handler ph).isSome ∧ p.mrb.isSome := by
  rcases handlerBranch_cases hb with ⟨-, rfl⟩ | ⟨m, -, -, -, rfl⟩ | ⟨m, hc, hm, -, rfl⟩
  · cases hr
  · cases hr
  · cases hr
    exact ⟨rfl, hc, by simp [hm]⟩

theorem updCmd_chunk {g : CommandRec → Except Fault CommandRec} {p₁ : PmilterState}
    (hg : KeepsChunk g) (h : updCmd g p = .ok p₁) : chunkOf p₁.cmd = chunkOf p.cmd := by
  unfold updCmd at h
  split at h
  · next cmd hc =>
    obtain ⟨cmd', hcmd', h⟩ := Except.bind_eq_ok.mp h
    cases h
    simp [chunkOf, hc, hg cmd cmd' hcmd']
  · cases h

theorem recordCmd_chunk {r : Option (CommandRec → Except Fault CommandRec)} {p₁ : PmilterState}
    (hr : ∀ g ∈ r, KeepsChunk g) (h : recordCmd r p = .ok p₁) : chunkOf p₁.cmd = chunkOf p.cmd := by
  unfold recordCmd at h
  split at h
  · next g m _ => exact updCmd_chunk (hr g rfl) h
  · cases h
    rfl

/-- `mrb_xxfi_body` records the chunk exactly when its block would run the handler. -/
theorem bodyRecord_chunk {bodyp : List Char} {p₁ : PmilterState}
    (h : bodyRecord bodyp p = .ok p₁) :
    chunkOf p₁.cmd = if (p.handler .body).isSome && p.mrb.isSome then some bodyp
      else chunkOf p.cmd := by
  unfold bodyRecord at h
  split at h
  · next hcond =>
    rw [if_pos hcond]
    unfold updCmd at h
    split at h
    · cases h
      rfl
    · cases h
  · next hcond =>
    rw [if_neg hcond]
    cases h
    rfl

/-- The reset after the eom handler keeps the body chunk and the run. -/
theorem eomReset_chunk {b b' : Branch} (h : eomReset b = .ok b') :
    chunkOf b'.state.cmd = chunkOf b.state.cmd ∧ b'.logged = b.logged := by
  have hb' := eomReset_eq_ok h
  refine ⟨?_, by rw [hb', Branch.setCmd_logged]⟩
  cases b with
  | ran q r =>
    obtain ⟨q', hq', h⟩ := Except.bind_eq_ok.mp h
    cases h
    exact updCmd_chunk (fun cmd cmd' hg => by cases hg; rfl) hq'
  | skipped q => cases h; rfl
  | tempfail q => cases h; rfl

/-- A session callback whose record leaves the body chunk alone: the chunk stays, and the
handler it runs sees it. -/
theorem sessionCallback_chunk {ph : Phase} {r : Option (CommandRec → Except Fault CommandRec)}
    (hr : ∀ g ∈ r, KeepsChunk g) (ha : c.priv = .state a) (hp : c.heap a = some p)
    (h : sessionCallback cfg ph r x c = .ok (c', st)) :
    ∃ p', c'.priv = c.priv ∧ c'.heap a = some p' ∧ chunkOf p'.cmd = chunkOf p.cmd ∧
      ∃ logged : Option HandlerRun, c'.runs = c.runs ++ logged.toList ∧
        ∀ run ∈ logged, run.phase = ph ∧ chunkOf run.cmd = chunkOf p.cmd := by
  obtain ⟨a', p', p₁, b, ha', hp', hrec, hb, rfl, -⟩ := sessionCallback_eq_ok h
  obtain ⟨rfl, rfl⟩ := Conn.state_unique ha' hp' ha hp
  have hchunk : chunkOf p₁.cmd = chunkOf p.cmd := by
    rw [recordCmd_chunk hr hrec, enterCallback_cmd]
  refine ⟨b.state, by simp, by simp, by rw [handlerBranch_state_cmd hb, hchunk], b.logged,
    by simp, fun run hrun => ?_⟩
  obtain ⟨rfl, -, -⟩ := handlerBranch_logged hb hrun
  exact ⟨rfl, hchunk⟩

/-- **What a callback between connect and close does to the body chunk**: it stays on the
installed state, keeps a chunk it had (a body callback may put a new one), and records at most
one handler run, which sees the chunk the callback leaves; a body handler that runs sees a
chunk. -/
theorem Call.run_chunk (call : Call) (ha : c.priv = .state a) (hp : c.heap a = some p)
    (h : call.run cfg x c = .ok (c', st)) :
    ∃ p', c'.priv = c.priv ∧ c'.heap a = some p' ∧
      ((chunkOf p.cmd).isSome → (chunkOf p'.cmd).isSome) ∧
      ∃ logged : Option HandlerRun, c'.runs = c.runs ++ logged.toList ∧
        ∀ run ∈ logged, run.phase = call.phase ∧ chunkOf run.cmd = chunkOf p'.cmd ∧
          (call.phase = .body → (chunkOf run.cmd).isSome) := by
  cases call with
  | body bodyp =>
    obtain ⟨a', p', p₁, b, ha', hp', hrec, hb, rfl, -⟩ := mrbXxfiBody_eq_ok h
    obtain ⟨rfl, rfl⟩ := Conn.state_unique ha' hp' ha hp
    have hchunk := bodyRecord_chunk hrec
    have hcmd := handlerBranch_state_cmd hb
    refine ⟨b.state, by simp, by simp, fun hs => ?_, b.logged, by simp, fun run hrun => ?_⟩
    · -- the chunk is the new one, or the old one
      rw [hcmd, hchunk]
      split
      · rfl
      · rwa [enterCallback_cmd]
    · obtain ⟨rfl, hset, hm⟩ := handlerBranch_logged hb hrun
      -- the handler ran, so the block's condition held when the chunk was recorded
      have hp₁ := bodyRecord_eq_ok hrec
      have hslot : p₁.handler = (enterCallback cfg x .body p).handler := by rw [hp₁]
      have hmrb : p₁.mrb = (enterCallback cfg x .body p).mrb := by rw [hp₁]
      have hcond : (((enterCallback cfg x .body p).handler .body).isSome &&
          (enterCallback cfg x .body p).mrb.isSome) = true := by
        rw [← hslot, ← hmrb, hset, hm]
        rfl
      refine ⟨rfl, by rw [hcmd], fun _ => ?_⟩
      show (chunkOf p₁.cmd).isSome
      rw [hchunk, if_pos hcond]
      rfl
  | eom =>
    obtain ⟨a', p', p₁, b, b', ha', hp', hrec, hb, hb', rfl, -⟩ := mrbXxfiEom_eq_ok h
    obtain ⟨rfl, rfl⟩ := Conn.state_unique ha' hp' ha hp
    have hchunk : chunkOf p₁.cmd = chunkOf p.cmd := by
      rw [recordCmd_chunk (fun g hg cmd cmd' h => by cases hg; cases h; rfl) hrec,
        enterCallback_cmd]
    obtain ⟨hreset, hlog⟩ := eomReset_chunk hb'
    have hstate : chunkOf b'.state.cmd = chunkOf p₁.cmd := by
      rw [hreset, handlerBranch_state_cmd hb]
    refine ⟨b'.state, by simp, by simp, fun hs => by rwa [hstate, hchunk], b'.logged, by simp,
      fun run hrun => ?_⟩
    rw [hlog] at hrun
    obtain ⟨rfl, -, -⟩ := handlerBranch_logged hb hrun
    exact ⟨rfl, hstate.symm, fun h => by cases h⟩
  | helo | envfrom | envrcpt | header | eoh | abort | unknown | data =>
    -- each of these records leaves the chunk alone
    have key := fun hr => sessionCallback_chunk hr ha hp h
    obtain ⟨p', hpriv, hp', hchunk, logged, hruns, hlog⟩ := key fun g hg cmd cmd' hgc => by
      cases hg <;> first
        | (cases hgc; rfl)
        | (split at hgc <;> cases hgc; rfl)
    refine ⟨p', hpriv, hp', by rw [hchunk]; exact id, logged, hruns, fun run hrun => ?_⟩
    obtain ⟨hph, hrc⟩ := hlog run hrun
    exact ⟨hph, by rw [hrc, hchunk], fun h => by cases h⟩

end Steps

/-! ### Whole runs -/

section Runs

variable {cfg : PmilterConfig}

/-- **Once the record holds a body chunk, every later handler sees one**: the chunk is never
cleared, whatever the callbacks and whatever the C library and mruby answer. -/
theorem Call.runAll_chunkSticky {calls : List (Call × Ext)} {c c' : Conn} {a : Nat}
    {p : PmilterState} (h : Call.runAll cfg calls c = .ok c') (ha : c.priv = .state a)
    (hp : c.heap a = some p) (hseen : (chunkOf p.cmd).isSome) :
    ∃ rs, c'.runs = c.runs ++ rs ∧ ∀ run ∈ rs, (chunkOf run.cmd).isSome := by
  induction calls generalizing c p with
  | nil =>
    cases h
    exact ⟨[], by simp, by simp⟩
  | cons cx rest ih =>
    obtain ⟨call, x⟩ := cx
    obtain ⟨⟨c₁, st⟩, h₁, h⟩ := Except.bind_eq_ok.mp h
    obtain ⟨p₁, hpriv, hp₁, hkeep, logged, hruns, hlog⟩ := call.run_chunk ha hp h₁
    have hseen₁ := hkeep hseen
    obtain ⟨rs, hrs, hall⟩ := ih h (hpriv.trans ha) hp₁ hseen₁
    refine ⟨logged.toList ++ rs, by rw [hrs, hruns, List.append_assoc], fun run hrun => ?_⟩
    rcases List.mem_append.mp hrun with hrun | hrun
    · rw [(hlog run (Option.mem_toList.mp hrun)).2.1]
      exact hseen₁
    · exact hall run hrun

/-- After the first run of a body handler in `rs`, every run of `rs` sees a body chunk. -/
def ChunkAfterBody (rs : List HandlerRun) : Prop :=
  ∀ i j : Nat, i ≤ j → (rs[i]?).map HandlerRun.phase = some .body →
    ∀ run : HandlerRun, rs[j]? = some run → (chunkOf run.cmd).isSome

/-- The handlers that run after a body handler see a body chunk, along every run of callbacks
from an installed state. -/
theorem Call.runAll_chunkAfterBody {calls : List (Call × Ext)} {c c' : Conn} {a : Nat}
    {p : PmilterState} (h : Call.runAll cfg calls c = .ok c') (ha : c.priv = .state a)
    (hp : c.heap a = some p) : ∃ rs, c'.runs = c.runs ++ rs ∧ ChunkAfterBody rs := by
  induction calls generalizing c p with
  | nil =>
    cases h
    exact ⟨[], by simp, by simp [ChunkAfterBody]⟩
  | cons cx rest ih =>
    obtain ⟨call, x⟩ := cx
    obtain ⟨⟨c₁, st⟩, h₁, h⟩ := Except.bind_eq_ok.mp h
    obtain ⟨p₁, hpriv, hp₁, -, logged, hruns, hlog⟩ := call.run_chunk ha hp h₁
    obtain ⟨rs, hrs, hbody⟩ := ih h (hpriv.trans ha) hp₁
    refine ⟨logged.toList ++ rs, by rw [hrs, hruns, List.append_assoc], ?_⟩
    cases logged with
    | none => simpa using hbody
    | some r =>
      obtain ⟨hph, hrc, hsee⟩ := hlog r rfl
      intro i j hij hi run hj
      cases i with
      | zero =>
        -- the run of this callback is a body handler's, so the state keeps a chunk from here on
        have hrb : call.phase = .body := by simpa [hph] using hi
        have hseen₁ : (chunkOf p₁.cmd).isSome := by rw [← hrc]; exact hsee hrb
        obtain ⟨rs', hrs', hall⟩ := Call.runAll_chunkSticky h (hpriv.trans ha) hp₁ hseen₁
        have hrs_eq : rs' = rs := List.append_cancel_left (hrs'.symm.trans hrs)
        cases j with
        | zero =>
          simp only [Option.toList_some, List.cons_append, List.nil_append,
            List.getElem?_cons_zero, Option.some.injEq] at hj
          rw [← hj]
          exact hsee hrb
        | succ j =>
          simp only [Option.toList_some, List.cons_append, List.nil_append,
            List.getElem?_cons_succ] at hj
          exact hall run (hrs_eq ▸ List.mem_of_getElem? hj)
      | succ i =>
        obtain ⟨j, rfl⟩ : ∃ j', j = j' + 1 := ⟨j - 1, by omega⟩
        simp only [Option.toList_some, List.cons_append, List.nil_append,
          List.getElem?_cons_succ] at hi hj
        exact hbody i j (by omega) hi run hj

/-- A handler for every phase, with mruby enabled. -/
def everyHandler : PmilterConfig := ⟨true, fun _ => some "handler.rb"⟩

/-- Every allocation succeeds, every handler compiles, no script sets a status. -/
def allSucceed : Ext :=
  ⟨true, true, true, true, fun _ => true, .ok, ⟨[], false⟩, fun _ => none, fun _ => none, 0⟩

/-- A connection with a state just installed by `mrb_xxfi_connect`. -/
def freshConn : Conn :=
  ⟨.state 0, fun _ => some ⟨some ⟨false⟩, some CommandRec.init, 0, "", fun _ => none⟩, 1, []⟩

/-- A first message with the body chunk `x`, its eom, and the `MAIL` of a second message. -/
def twoMessages : List (Call × Ext) :=
  [(.body ['x'], allSucceed), (.eom, allSucceed), (.envfrom ["<b@example.org>"], allSucceed)]

end Runs

end Pmilter
