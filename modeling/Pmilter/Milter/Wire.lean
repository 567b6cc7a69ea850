import Pmilter.Milter.Comm
import Pmilter.Milter.Lifecycle

/-!
# The session on its socket

`mi_engine` reads each command of a session with `mi_rd_cmd` and serves it.  `wire` is the
session at this level: its state is the session of `engine` and the socket, and its inputs
are the wake-ups the worker pool gives it.  What `mi_rd_cmd` returns becomes an input of
`engine` as `mi_engine` reads it (`rdInput`): a `NULL` buffer with a character below
`SMFIC_VALIDCMD` is a failure to read, anything else a command.

* `wire_run` : the two levels agree.  A session whose socket carries the frames of a list of
  commands and then the end of the connection produces, over any benign schedule with reads
  enough and for every sequence of wake-ups, exactly the events of `engine` fed the commands.
  What is proved of `engine` is thus proved of the session on its socket.
-/

namespace Pmilter

namespace Milter

/-- `cmd < SMFIC_VALIDCMD` in `mi_engine`: a comparison of `char`s, which are signed in this
build, so that the bytes from `0x80` up count as negative. -/
def belowValidCmd (c : Char) : Bool :=
  decide (c.toUInt8.toInt8 < SMFIC_VALIDCMD.toUInt8.toInt8)

/-- What `mi_engine` makes of a result of `mi_rd_cmd`: `NULL` with a character below
`SMFIC_VALIDCMD` is a failure to read, anything else a command, without data when the buffer
is `NULL`. -/
def rdInput (buf : Option (List Char)) (cmd : Char) : Input :=
  if buf.isNone && belowValidCmd cmd then .readError else .packet cmd (buf.getD [])

/-- What the worker pool finds when it lets a session's `mi_engine` run: nothing to read on
the socket (`mi_rd_socket_ready` is false), something to read (data or the end of the
connection), or a session waiting for longer than its timeout. -/
inductive Wake
  | notReady
  | ready
  | idleTimeout
  deriving DecidableEq, Repr

variable {σ : Type} {sys : Sys} {f : SmfiDesc σ}

/-- **The session on its socket**: `mi_engine` reads each command with `mi_rd_cmd` and
serves it as `engine` does.  A closed session reads nothing more. -/
def wire (sys : Sys) (f : SmfiDesc σ) : Mealy (Engine σ × Sock) Wake Event where
  step p w :=
    match w with
    | .ready =>
      if p.1.live then
        let (buf, cmd, s) := miRdCmd p.2
        let (e, ev) := (engine sys f).step p.1 (rdInput buf cmd)
        ((e, s), ev)
      else (p, [])
    | .notReady =>
      let (e, ev) := (engine sys f).step p.1 .notReady
      ((e, p.2), ev)
    | .idleTimeout =>
      let (e, ev) := (engine sys f).step p.1 .idleTimeout
      ((e, p.2), ev)

/-- The inputs of `engine` that the wake-ups of a session mean when its socket carries the
frames of the commands `cs` and then the end of the connection: each `ready` reads the next
frame, or the end. -/
def wakeInputs : List Wake → List (Char × List Char) → List Input
  | [], _ => []
  | .notReady :: ws, cs => .notReady :: wakeInputs ws cs
  | .idleTimeout :: ws, cs => .idleTimeout :: wakeInputs ws cs
  | .ready :: ws, [] => .readError :: wakeInputs ws []
  | .ready :: ws, (c, data) :: cs => .packet c data :: wakeInputs ws cs

/-- The bytes of the frames of a list of commands. -/
def frames (cs : List (Char × List Char)) : List Char :=
  (cs.map fun p => frame p.1 p.2).flatten

theorem Cmd.code_not_below (cmd : Cmd) : belowValidCmd cmd.code = false := by
  cases cmd <;> decide

/-- The command characters of libmilter all lie above the error codes. -/
theorem lookupCmd_below {c : Char} (h : belowValidCmd c = true) : lookupCmd c = none := by
  rcases hc : lookupCmd c with _ | cf
  · rfl
  · have := List.find?_some hc
    simp only [beq_iff_eq] at this
    rw [← this, Cmd.code_not_below] at h
    exact absurd h (by decide)

theorem engine_run_closed {e : Engine σ} (h : e.live = false) (is : List Input) :
    (engine sys f).run e is = (e, []) := by
  induction is with
  | nil => rfl
  | cons i is ih => rw [Mealy.run_cons, engine_step_closed h, ih]; rfl

theorem wire_run_closed {e : Engine σ} {s : Sock} (h : e.live = false) (ws : List Wake) :
    (wire sys f).run (e, s) ws = ((e, s), []) := by
  induction ws with
  | nil => rfl
  | cons w ws ih =>
    rw [Mealy.run_cons]
    have hstep : (wire sys f).step (e, s) w = ((e, s), []) := by
      cases w <;> simp [wire, h, engine_step_closed h]
    rw [hstep, ih]; rfl

/-- A command read from its frame is served as the command itself: the same events, and the
same session afterwards, or two closed ones.  They differ only for a frame without data whose
command character lies below `SMFIC_VALIDCMD`: `mi_engine` takes it for a failure to read,
where the packet is an unknown command, and both end the session alike. -/
theorem engine_step_rdInput (e : Engine σ) (c : Char) (data : List Char) :
    ((engine sys f).step e (rdInput (if data = [] then none else some data) c)).2 =
      ((engine sys f).step e (.packet c data)).2 ∧
    (((engine sys f).step e (rdInput (if data = [] then none else some data) c)).1 =
        ((engine sys f).step e (.packet c data)).1 ∨
      (((engine sys f).step e (rdInput (if data = [] then none else some data) c)).1.live = false ∧
        ((engine sys f).step e (.packet c data)).1.live = false)) := by
  by_cases hbelow : data = [] ∧ belowValidCmd c = true
  · obtain ⟨rfl, hc⟩ := hbelow
    have hin : rdInput (if ([] : List Char) = [] then none else some []) c = .readError := by
      simp [rdInput, hc]
    rw [hin]
    by_cases hl : e.live
    · -- an unknown command and a failed read both leave the loop with `MI_FAILURE`
      simp only [engine, hl, Bool.not_true, Bool.false_eq_true, if_false, miEngineCmd,
        lookupCmd_below hc]
      exact ⟨rfl, .inr ⟨miEngineEnd_live .., miEngineEnd_live ..⟩⟩
    · simp [engine_step_closed (Bool.eq_false_iff.mpr hl)]
  · have hin : rdInput (if data = [] then none else some data) c = .packet c data := by
      by_cases h₀ : data = []
      · subst h₀; simp_all [rdInput]
      · simp [rdInput, h₀]
    rw [hin]
    exact ⟨rfl, .inl rfl⟩

@[simp] theorem frames_nil : frames [] = [] := rfl

theorem frames_cons (c : Char) (data : List Char) (cs : List (Char × List Char)) :
    frames ((c, data) :: cs) = frame c data ++ frames cs := rfl

theorem length_frames_cons (c : Char) (data : List Char) (cs : List (Char × List Char)) :
    (frames ((c, data) :: cs)).length = (frame c data).length + (frames cs).length := by
  simp [frames_cons]

/-- A `ready` on a socket with nothing left: `mi_engine` sees a failure to read. -/
theorem wire_step_end {e : Engine σ} (hl : e.live = true) (evs : List SockEv) :
    ∃ s, (wire sys f).step (e, ⟨evs, []⟩) .ready =
      ((((engine sys f).step e .readError).1, s), ((engine sys f).step e .readError).2) := by
  obtain ⟨c, s, hs⟩ := rdLoop_nil (MILTER_LEN_BYTES + 1) [] evs
  have hbelow : belowValidCmd c = true := by
    rcases rdLoop_error hs with rfl | rfl | rfl | rfl <;> decide
  refine ⟨s, ?_⟩
  simp [wire, hl, miRdCmd, hs, rdInput, hbelow]

/-- **The packet-level session is what the socket delivers.**  A session whose socket carries
the frames of a list of commands and then the end of the connection, read over any benign
schedule with reads enough, produces the events of `engine` fed the commands, for every
sequence of wake-ups of the pool, whatever the chunks the reads return. -/
theorem wire_run (e : Engine σ) (ws : List Wake) (cs : List (Char × List Char))
    (evs : List SockEv) (hb : ∀ ev ∈ evs, ev.benign) (hd : ∀ p ∈ cs, p.2.length ≤ Maxdatasize)
    (hr : (frames cs).length ≤ evs.countP SockEv.isRead) :
    ((wire sys f).run (e, ⟨evs, frames cs⟩) ws).2 = ((engine sys f).run e (wakeInputs ws cs)).2 := by
  induction ws generalizing e cs evs with
  | nil => rfl
  | cons w ws ih =>
    by_cases hl : e.live = false
    · rw [wire_run_closed hl, engine_run_closed hl]
    rw [Bool.not_eq_false] at hl
    cases w with
    | notReady =>
      simp only [Mealy.run_cons, wakeInputs]
      exact congrArg _ (ih _ cs evs hb hd hr)
    | idleTimeout =>
      simp only [Mealy.run_cons, wakeInputs]
      exact congrArg _ (ih _ cs evs hb hd hr)
    | ready =>
      cases cs with
      | nil =>
        -- the end of the connection: the session closes
        obtain ⟨s, hs⟩ := @wire_step_end σ sys f e hl evs
        have hdead : ((engine sys f).step e .readError).1.live = false := by
          simp [engine, hl, miEngineEnd_live]
        simp only [Mealy.run_cons, wakeInputs, frames_nil, hs]
        rw [wire_run_closed hdead, engine_run_closed hdead]
      | cons p cs =>
        obtain ⟨c, data⟩ := p
        have hd₀ : data.length ≤ Maxdatasize := hd _ List.mem_cons_self
        have hd' : ∀ p ∈ cs, p.2.length ≤ Maxdatasize :=
          fun p h => hd p (List.mem_cons_of_mem _ h)
        rw [length_frames_cons] at hr
        -- `mi_rd_cmd` reads the first frame back
        obtain ⟨evs', hrd, hs', hc'⟩ := miRdCmd_frame c data (frames cs) hb hd₀
          (by omega)
        obtain ⟨hout, hst⟩ := @engine_step_rdInput σ sys f e c data
        set i := rdInput (if data = [] then none else some data) c
        have hstep : (wire sys f).step (e, ⟨evs, frames ((c, data) :: cs)⟩) .ready =
            ((((engine sys f).step e i).1, ⟨evs', frames cs⟩), ((engine sys f).step e i).2) := by
          simp [wire, hl, frames_cons, hrd, i]
        simp only [Mealy.run_cons, wakeInputs, hstep, hout]
        rcases hst with heq | ⟨hd₁, hd₂⟩
        · rw [heq]
          exact congrArg _ (ih _ cs evs' (fun ev h => hb ev (hs'.subset h)) hd' (by omega))
        · rw [wire_run_closed hd₁, engine_run_closed hd₂]

/-- Option negotiation and a connection, read in chunks of four bytes, with the pool waking
the session once with nothing to read, then the end of the connection. -/
theorem wire_run_connect :
    ((wire ⟨fun _ => none⟩ countingFilter).run
        (Engine.init countingFilter 0, ⟨List.replicate 25 (.read 4), frames
          [('O', ['\x00', '\x00', '\x00', '\x06', '\x00', '\x00', '\x00', '\x00', '\x00',
            '\x00', '\x00', '\x00']), ('C', ['h', '\x00', 'U'])]⟩)
        [.ready, .notReady, .ready, .ready]).2 =
      ((engine ⟨fun _ => none⟩ countingFilter).run (Engine.init countingFilter 0)
        (wakeInputs [.ready, .notReady, .ready, .ready]
          [('O', ['\x00', '\x00', '\x00', '\x06', '\x00', '\x00', '\x00', '\x00', '\x00',
            '\x00', '\x00', '\x00']), ('C', ['h', '\x00', 'U'])])).2 :=
  wire_run _ _ _ _ (by decide) (by decide) (by decide)

end Milter

end Pmilter
