import Pmilter.Milter.Lifecycle

/-!
# The pool of workers

With `_FFR_WORKERS_POOL` (`worker.c`) libmilter serves its sessions with a pool of threads.
The listener hands each new connection to `mi_start_session`; a worker thread (`mi_worker`)
runs `mi_engine` on a session until the socket has no more data (`MI_CONTINUE`), then gives
the session back to the pool controller (`mi_pool_controller`), which polls the sockets of the
waiting sessions, hands a session with data to an idle worker or to a new one, and closes a
session that waits too long.  Every thread changes the list of sessions and the counters under
one mutex; `mi_engine` runs outside it, on the session the worker holds.

`pool` is the whole system as a machine whose inputs are the scheduler's choices (`Act`): which
thread takes its next step, and what the environment does (a new connection, data on a socket,
a timeout, a failed `pthread_detach`).  Each step is one critical section, or one step of a
thread outside the mutex.  The sessions carry their `engine`; a worker serves one input of
`mi_engine` per step.  The pool keeps one ghost record, not in the source: the inputs each
session was served.

* `Pool.Inv` : the invariant of every reachable state: the ids of the sessions, the one owner
  of each running session, the counters `tm_nb_idle` and `tm_nb_workers`, and the state of the
  engine of each session;
* `pool_exclusive` : no two workers ever hold the same session, and a session a worker holds is
  in the list and `WKST_RUNNING` (no `mi_engine` runs twice on a session at once, nor on a freed
  one);
* `pool_events` : the events the pool emits for one session are those of `engine` run on the
  inputs that session was served: the pool, seen from one session, is the session machine;
* `pool_closed_close` : every session the pool started and no longer lists, closed by its
  worker or by the controller's timeout, had `xxfi_close` as the last of its events.

Not modelled: `mi_stop()` and the end of the controller, the poll set and the pipe that wakes
the controller (an event names the waiting session it concerns, and the controller may time out
any waiting session), and `max_worker`, which the source never reads.
-/

namespace Pmilter

namespace Milter

/-- `ctx_wstate`: where a session is in the pool.  `WKST_INIT` is overwritten in the critical
section that adds the session, and `WKST_CLOSING` in the one that removes it. -/
inductive WState
  /-- `WKST_READY_TO_RUN`: waiting for a worker. -/
  | readyToRun
  /-- `WKST_RUNNING`: held by a worker. -/
  | running
  /-- `WKST_READY_TO_WAIT`: given back by its worker, not yet polled. -/
  | readyToWait
  /-- `WKST_WAITING`: polled by the controller for the next command. -/
  | waiting
  deriving DecidableEq, Repr

/-- A session in the list of the pool (`WRK_CTX_HEAD`). -/
structure Sess (σ : Type) where
  /-- `ctx_sid`. -/
  sid : Nat
  /-- `ctx_wstate`. -/
  wstate : WState
  /-- The session as `mi_engine` serves it. -/
  eng : Engine σ

/-- Where a worker thread is in `mi_worker`. -/
inductive Pc
  /-- Created, by `LAUNCH_WORKER(ctx)` or by `mi_pool_controller_init` without a session. -/
  | start (ctx : Option Nat)
  /-- In `mi_engine` on the session it holds. -/
  | run (sid : Nat)
  /-- `mi_engine` returned on the session it holds, with `MI_CONTINUE` or not. -/
  | ran (sid : Nat) (cont : Bool)
  /-- Holding no session, about to look for one (`GET_TASK_READY_TO_RUN`). -/
  | look
  /-- In `TASKMGR_COND_WAIT`, counted in `tm_nb_idle`. -/
  | idle
  /-- Returned. -/
  | exit
  deriving DecidableEq, Repr

/-- The session a worker holds (its `ctx`). -/
def Pc.task : Pc → Option Nat
  | .start ctx => ctx
  | .run sid => some sid
  | .ran sid _ => some sid
  | _ => none

/-- A worker counted in `tm_nb_workers`: past `tm_nb_workers++` and not yet gone. -/
def Pc.counted : Pc → Bool
  | .start _ => false
  | .exit => false
  | _ => true

/-- Where a worker is after `mi_engine` served the input `i` and left the session as `e`:
`mi_engine` returns `MI_CONTINUE` when there is no data yet, goes on while the session is open,
and returns anything else once it has ended. -/
def Pc.afterInput {σ : Type} (sid : Nat) (i : Input) (e : Engine σ) : Pc :=
  match i with
  | .notReady => .ran sid true
  | _ => if e.live then .run sid else .ran sid false

/-- The pool (`Tskmgr`) with its sessions and its workers. -/
structure Pool (σ : Type) where
  /-- `WRK_CTX_HEAD`, in list order. -/
  sessions : List (Sess σ)
  /-- The worker threads, in the order they were created. -/
  workers : List Pc
  /-- `tm_nb_workers`. -/
  nbWorkers : Nat
  /-- `tm_nb_idle`. -/
  nbIdle : Nat
  /-- The next `ctx_sid` (`id` of `mi_start_session`). -/
  nextSid : Nat
  /-- Ghost: the inputs each session was served, oldest first. -/
  served : Nat → List Input

/-- What the scheduler lets happen next. -/
inductive Act
  /-- The listener starts a session on a new connection (`mi_start_session`). -/
  | connect
  /-- The controller closes a waiting session that timed out. -/
  | expire (sid : Nat)
  /-- The controller adds a session given back by its worker to the poll set. -/
  | watch (sid : Nat)
  /-- The controller's `poll` reports data on the socket of a waiting session. -/
  | event (sid : Nat)
  /-- Worker `w` starts; `pthread_detach` succeeds or not. -/
  | detach (w : Nat) (ok : Bool)
  /-- The `mi_engine` of worker `w` serves one input. -/
  | feed (w : Nat) (i : Input)
  /-- Worker `w` takes the mutex after `mi_engine` returned. -/
  | finish (w : Nat)
  /-- Worker `w` looks for a session ready to run. -/
  | look (w : Nat)
  /-- Worker `w` wakes from its wait, signalled or timed out. -/
  | wake (w : Nat)

/-- `MIN_WORKERS`. -/
def MIN_WORKERS : Nat := 2
/-- `MIN_IDLE`. -/
def MIN_IDLE : Nat := 1

/-- `min_worker` as `mi_pool_controller_init` settles it. -/
def minWorkers (min : Nat) : Nat := if min = 0 then MIN_WORKERS else min

namespace Pool

variable {σ : Type}

/-- The first session with id `sid`. -/
def find? (p : Pool σ) (sid : Nat) : Option (Sess σ) :=
  p.sessions.find? (·.sid == sid)

/-- Change the session `sid`. -/
@[simps]
def updSess (p : Pool σ) (sid : Nat) (g : Sess σ → Sess σ) : Pool σ :=
  { p with sessions := p.sessions.map fun s => if s.sid = sid then g s else s }

/-- `ctx->ctx_wstate = ws` for the session `sid`. -/
def setWState (p : Pool σ) (sid : Nat) (ws : WState) : Pool σ :=
  p.updSess sid fun s => { s with wstate := ws }

/-- `mi_engine` served the session `sid` the input `i` and left it as `e`. -/
@[simps]
def serve (p : Pool σ) (sid : Nat) (e : Engine σ) (i : Input) : Pool σ :=
  { p.updSess sid fun s => { s with eng := e } with
    served := fun n => if n = sid then p.served sid ++ [i] else p.served n }

/-- Worker `w` moves to `pc`. -/
@[simps]
def setPc (p : Pool σ) (w : Nat) (pc : Pc) : Pool σ :=
  { p with workers := p.workers.set w pc }

/-- `mi_close_session`: the session `sid` leaves the list (`mi_list_del_ctx`) and is freed. -/
@[simps]
def closeSession (p : Pool σ) (sid : Nat) : Pool σ :=
  { p with sessions := p.sessions.filter (·.sid != sid) }

/-- `mi_list_add_ctx` of a new session with the next id. -/
@[simps]
def add (p : Pool σ) (s : Sess σ) : Pool σ :=
  { p with sessions := p.sessions ++ [s], nextSid := p.nextSid + 1 }

/-- `GET_TASK_READY_TO_RUN`: the first session ready to run, now running. -/
def getTask (p : Pool σ) : Option Nat :=
  (p.sessions.find? (·.wstate == .readyToRun)).map (·.sid)

/-- A session to run: to an idle worker if there is one (`TASKMGR_COND_SIGNAL`), else to a new
worker (`LAUNCH_WORKER(ctx)`); as `mi_start_session` and the controller do. -/
def dispatch (p : Pool σ) (sid : Nat) : Pool σ :=
  if 0 < p.nbIdle then p.setWState sid .readyToRun
  else { p.setWState sid .running with workers := p.workers ++ [.start (some sid)] }

/-- A worker in hand of no session takes the first session ready to run, if any. -/
def take (p : Pool σ) (w : Nat) (otherwise : Pool σ) : Pool σ :=
  match p.getTask with
  | some sid => (p.setWState sid .running).setPc w (.run sid)
  | none => otherwise

end Pool

variable {σ : Type}

/-- One step of the pool.  A step whose thread is not where the step needs it does nothing. -/
def poolStep (sys : Sys) (f : SmfiDesc σ) (w₀ : σ) (minWorker : Nat) (p : Pool σ) :
    Act → Pool σ × List (Nat × Event)
  | .connect =>
    -- `mi_list_add_ctx`, then the session runs
    ((p.add ⟨p.nextSid, .readyToRun, Engine.init f w₀⟩).dispatch p.nextSid, [])
  | .expire sid =>
    match p.find? sid with
    | some s =>
      if s.wstate = .waiting then
        -- `xxfi_close`, then `mi_close_session`
        let r := (engine sys f).step s.eng .idleTimeout
        ((p.serve sid r.1 .idleTimeout).closeSession sid, r.2.map (sid, ·))
      else (p, [])
    | none => (p, [])
  | .watch sid =>
    match p.find? sid with
    | some s => if s.wstate = .readyToWait then (p.setWState sid .waiting, []) else (p, [])
    | none => (p, [])
  | .event sid =>
    match p.find? sid with
    | some s => if s.wstate = .waiting then (p.dispatch sid, []) else (p, [])
    | none => (p, [])
  | .detach w ok =>
    match p.workers[w]? with
    | some (.start ctx) =>
      if ok then
        -- `ctx->ctx_wstate = WKST_RUNNING`, then `tm_nb_workers++`
        let p := match ctx with
          | some sid => p.setWState sid .running
          | none => p
        let pc := match ctx with
          | some sid => .run sid
          | none => .look
        ({ p with nbWorkers := p.nbWorkers + 1 }.setPc w pc, [])
      else
        -- `pthread_detach` failed: the session is left ready to run, outside the mutex
        let p := match ctx with
          | some sid => p.setWState sid .readyToRun
          | none => p
        (p.setPc w .exit, [])
    | _ => (p, [])
  | .feed w i =>
    match p.workers[w]?, i with
    -- `mi_engine` reads commands; the controller's timeout is not one
    | _, .idleTimeout => (p, [])
    | some (.run sid), i =>
      match p.find? sid with
      | some s =>
        let r := (engine sys f).step s.eng i
        ((p.serve sid r.1 i).setPc w (Pc.afterInput sid i r.1), r.2.map (sid, ·))
      | none => (p, [])
    | _, _ => (p, [])
  | .finish w =>
    match p.workers[w]? with
    | some (.ran sid cont) =>
      match p.find? sid with
      | some _ =>
        if cont then ((p.setWState sid .readyToWait).setPc w .look, [])
        -- `WKST_CLOSING`, then `mi_close_session`
        else ((p.closeSession sid).setPc w .look, [])
      | none => (p, [])
    | _ => (p, [])
  | .look w =>
    match p.workers[w]? with
    | some .look =>
      (p.take w (if minWorkers minWorker < p.nbWorkers ∧ MIN_IDLE < p.nbIdle
        then { p with nbWorkers := p.nbWorkers - 1 }.setPc w .exit
        else { p with nbIdle := p.nbIdle + 1 }.setPc w .idle), [])
    | _ => (p, [])
  | .wake w =>
    match p.workers[w]? with
    | some .idle =>
      let p := { p with nbIdle := p.nbIdle - 1 }
      (p.take w (p.setPc w .look), [])
    | _ => (p, [])

/-- **The pool of workers** as a machine over the scheduler's choices, for a filter `f` whose
sessions start with the data `w₀`, and the `min_worker` of `smfi_setworker`. -/
def pool (sys : Sys) (f : SmfiDesc σ) (w₀ : σ) (minWorker : Nat) :
    Mealy (Pool σ) Act (Nat × Event) where
  step := poolStep sys f w₀ minWorker

/-- The pool as `mi_pool_controller_init` leaves it: no session, and `min_worker` workers
created. -/
def Pool.init (minWorker : Nat) : Pool σ :=
  ⟨[], List.replicate (minWorkers minWorker) (.start none), 0, 0, 0, fun _ => []⟩

/-- The events the pool emitted for the session `sid`, in order. -/
def events (out : List (Nat × Event)) (sid : Nat) : List Event :=
  (out.filter (·.1 == sid)).map (·.2)

end Milter

end Pmilter

namespace Pmilter

namespace Milter

variable {σ : Type}

/-! ### The invariant -/

/-- What the place of a worker says of the engine of the session it holds: `mi_engine` is
given only a live session, and returns `MI_CONTINUE` on a live one that waits for data, and
anything else on one that has ended. -/
def Pc.EngOk (pc : Pc) (e : Engine σ) : Prop :=
  match pc with
  | .start _ | .run _ => e.live = true
  | .ran _ cont => e.live = cont ∧ (cont = true → e.waiting = true)
  | _ => True

/-- What the place of a session in the pool says of its engine when no worker holds it: it is
live, and once its worker has given it back, it waits for data. -/
def WState.EngOk (ws : WState) (e : Engine σ) : Prop :=
  ws = .running ∨ (e.live = true ∧ (ws = .readyToWait ∨ ws = .waiting → e.waiting = true))

namespace Pool

/-- The session `sid` is in the list and held by a worker. -/
def running (p : Pool σ) (sid : Nat) : Bool :=
  p.sessions.any fun s => s.sid == sid && s.wstate == .running

/-- How many workers hold the session `sid`. -/
def owners (p : Pool σ) (sid : Nat) : Nat :=
  p.workers.countP fun pc => pc.task == some sid

/-- Every worker that holds a session is where the engine of that session says. -/
def Held (ws : List Pc) (ss : List (Sess σ)) : Prop :=
  ∀ pc ∈ ws, ∀ s ∈ ss, pc.task = some s.sid → pc.EngOk s.eng

/-- What holds of the list of sessions and of the ghost record: the ids are distinct and below
`nextSid`, nothing was served to an id not yet given, the engine of each session is the run of
`engine` over the inputs it was served, in the state its place in the pool says, and every
session started and no longer in the list has ended. -/
structure SessOk (sys : Sys) (f : SmfiDesc σ) (w₀ : σ) (ss : List (Sess σ)) (next : Nat)
    (served : Nat → List Input) : Prop where
  nodup : (ss.map (·.sid)).Nodup
  fresh : ∀ s ∈ ss, s.sid < next
  unserved : ∀ sid, next ≤ sid → served sid = []
  ghost : ∀ s ∈ ss, s.eng = ((engine sys f).run (Engine.init f w₀) (served s.sid)).1
  sess : ∀ s ∈ ss, s.wstate.EngOk s.eng
  closed : ∀ sid < next, sid ∉ ss.map (·.sid) →
    ((engine sys f).run (Engine.init f w₀) (served sid)).1.live = false

/-- **The invariant of the pool.**  Besides `SessOk`: each session held by a worker is
`WKST_RUNNING` and held by exactly one, and no other session is held; `tm_nb_idle` and
`tm_nb_workers` count the workers waiting and the workers at work; and each worker holding a
session is where that session's engine says. -/
structure Inv (sys : Sys) (f : SmfiDesc σ) (w₀ : σ) (p : Pool σ) : Prop where
  sessOk : SessOk sys f w₀ p.sessions p.nextSid p.served
  owners : ∀ sid, p.owners sid = if p.running sid then 1 else 0
  idle : p.nbIdle = p.workers.countP (· == .idle)
  counted : p.nbWorkers = p.workers.countP Pc.counted
  held : Held p.workers p.sessions

/-! ### What the operations change -/

@[simp] theorem setWState_workers (p : Pool σ) (sid : Nat) (ws : WState) :
    (p.setWState sid ws).workers = p.workers := rfl

@[simp] theorem setWState_nbWorkers (p : Pool σ) (sid : Nat) (ws : WState) :
    (p.setWState sid ws).nbWorkers = p.nbWorkers := rfl

@[simp] theorem setWState_nbIdle (p : Pool σ) (sid : Nat) (ws : WState) :
    (p.setWState sid ws).nbIdle = p.nbIdle := rfl

@[simp] theorem setWState_nextSid (p : Pool σ) (sid : Nat) (ws : WState) :
    (p.setWState sid ws).nextSid = p.nextSid := rfl

@[simp] theorem setWState_served (p : Pool σ) (sid : Nat) (ws : WState) :
    (p.setWState sid ws).served = p.served := rfl

theorem mem_updSess {p : Pool σ} {sid : Nat} {g : Sess σ → Sess σ} {s' : Sess σ}
    (h : s' ∈ (p.updSess sid g).sessions) :
    (∃ s ∈ p.sessions, s.sid = sid ∧ s' = g s) ∨ (s' ∈ p.sessions ∧ s'.sid ≠ sid) := by
  simp only [updSess_sessions, List.mem_map] at h
  obtain ⟨s, hs, rfl⟩ := h
  by_cases hsid : s.sid = sid
  · exact .inl ⟨s, hs, hsid, by simp [hsid]⟩
  · exact .inr ⟨by simpa [hsid] using hs, by simp [hsid]⟩

/-- The frame rule of `updSess`: a property of the changed sessions and of the others holds
of every session afterwards. -/
theorem forall_mem_updSess {p : Pool σ} {sid : Nat} {g : Sess σ → Sess σ} {P : Sess σ → Prop}
    (h₁ : ∀ s ∈ p.sessions, s.sid = sid → P (g s)) (h₂ : ∀ s ∈ p.sessions, s.sid ≠ sid → P s) :
    ∀ s ∈ (p.updSess sid g).sessions, P s := by
  intro s' hs'
  rcases mem_updSess hs' with ⟨s, hs, hsid, rfl⟩ | ⟨hs, hne⟩
  · exact h₁ s hs hsid
  · exact h₂ s' hs hne

theorem sids_updSess {p : Pool σ} {sid : Nat} {g : Sess σ → Sess σ}
    (hg : ∀ s, (g s).sid = s.sid) :
    (p.updSess sid g).sessions.map (·.sid) = p.sessions.map (·.sid) := by
  simp only [updSess_sessions, List.map_map]
  apply List.map_congr_left
  intro s _
  by_cases h : s.sid = sid <;> simp [h, hg]

/-- Each session after `setWState` has the id and the engine of one before. -/
theorem exists_of_mem_setWState {p : Pool σ} {sid : Nat} {ws : WState} {s' : Sess σ}
    (h : s' ∈ (p.setWState sid ws).sessions) :
    ∃ s ∈ p.sessions, s.sid = s'.sid ∧ s.eng = s'.eng := by
  rcases mem_updSess h with ⟨s, hs, -, rfl⟩ | ⟨hs, -⟩
  · exact ⟨s, hs, rfl, rfl⟩
  · exact ⟨s', hs, rfl, rfl⟩

/-- The one session with the id of a session in a list with distinct ids. -/
theorem eq_of_sid_eq {ss : List (Sess σ)} (hnd : (ss.map (·.sid)).Nodup) {s s' : Sess σ}
    (hs : s ∈ ss) (hs' : s' ∈ ss) (h : s'.sid = s.sid) : s' = s :=
  List.inj_on_of_nodup_map hnd hs' hs h

theorem running_of_mem {p : Pool σ} (hnd : (p.sessions.map (·.sid)).Nodup) {s : Sess σ}
    (hs : s ∈ p.sessions) : p.running s.sid = (s.wstate == .running) := by
  cases hw : s.wstate == .running
  · simp only [running, List.any_eq_false, Bool.and_eq_true, beq_iff_eq, not_and]
    intro s' hs' hsid
    rw [eq_of_sid_eq hnd hs hs' hsid]
    simpa using hw
  · exact List.any_eq_true.mpr ⟨s, hs, by simp [hw]⟩

theorem running_updSess {p : Pool σ} {sid sid' : Nat} {g : Sess σ → Sess σ}
    (hg : ∀ s, (g s).sid = s.sid) (hw : ∀ s, (g s).wstate = s.wstate) :
    (p.updSess sid g).running sid' = p.running sid' := by
  simp only [running, updSess_sessions, List.any_map]
  refine List.any_congr rfl fun s => ?_
  by_cases h : s.sid = sid <;> simp [h, hg, hw]

theorem running_setWState_ne {p : Pool σ} {sid sid' : Nat} {ws : WState} (h : sid' ≠ sid) :
    (p.setWState sid ws).running sid' = p.running sid' := by
  simp only [running, setWState, updSess_sessions, List.any_map]
  have h' : (sid == sid') = false := by simpa using Ne.symm h
  refine List.any_congr rfl fun s => ?_
  by_cases hs : s.sid = sid
  · simp [hs, h']
  · simp [hs]

theorem running_setWState_self {p : Pool σ} {sid : Nat} {ws : WState}
    (hmem : ∃ s ∈ p.sessions, s.sid = sid) :
    (p.setWState sid ws).running sid = (ws == .running) := by
  obtain ⟨s₀, hs₀, rfl⟩ := hmem
  simp only [running, setWState, updSess_sessions, List.any_map]
  cases hws : ws == .running
  · simp only [List.any_eq_false, Function.comp_apply]
    intro s _
    by_cases hs : s.sid = s₀.sid <;> simp_all
  · exact List.any_eq_true.mpr ⟨s₀, hs₀, by simp_all⟩

theorem running_closeSession {p : Pool σ} {sid n : Nat} :
    (p.closeSession sid).running n = (n != sid && p.running n) := by
  simp only [running, closeSession_sessions, List.any_filter]
  by_cases h : n = sid
  · subst h
    simp only [bne_self_eq_false, Bool.false_and, List.any_eq_false]
    intro s _
    by_cases hs : s.sid = n <;> simp [hs]
  · have hne : (n != sid) = true := by simpa using h
    rw [hne, Bool.true_and]
    refine List.any_congr rfl fun s => ?_
    by_cases hs : s.sid = n
    · simp [hs, h]
    · simp [hs]

theorem count_setPc {l : List Pc} {w : Nat} {old pc : Pc} (hw : l[w]? = some old)
    (q : Pc → Bool) :
    (l.set w pc).countP q = l.countP q - (if q old then 1 else 0) + (if q pc then 1 else 0) := by
  obtain ⟨hlt, hold⟩ := List.getElem?_eq_some_iff.mp hw
  simp only [List.countP_set hlt, hold]

/-- The worker at `w` is counted by every count it satisfies. -/
theorem count_le {l : List Pc} {w : Nat} {old : Pc} (hw : l[w]? = some old) (q : Pc → Bool) :
    (if q old then 1 else 0) ≤ l.countP q := by
  split
  · exact List.countP_pos_iff.mpr ⟨old, List.mem_of_getElem? hw, ‹_›⟩
  · exact Nat.zero_le _

theorem owners_setPc {p : Pool σ} {w : Nat} {old pc : Pc} (hw : p.workers[w]? = some old)
    (sid : Nat) :
    (p.setPc w pc).owners sid = p.owners sid - (if old.task = some sid then 1 else 0) +
      (if pc.task = some sid then 1 else 0) := by
  simp only [owners, setPc_workers, count_setPc hw, beq_iff_eq]

theorem mem_set_of_mem {l : List Pc} {w : Nat} {pc pc' : Pc} (h : pc' ∈ l.set w pc) :
    pc' = pc ∨ pc' ∈ l :=
  List.mem_or_eq_of_mem_set h |>.symm

theorem find?_some {p : Pool σ} {sid : Nat} {s : Sess σ} (h : p.find? sid = some s) :
    s ∈ p.sessions ∧ s.sid = sid :=
  ⟨List.mem_of_find?_eq_some h, by simpa using List.find?_some h⟩

theorem getTask_some {p : Pool σ} {sid : Nat} (h : p.getTask = some sid) :
    ∃ s ∈ p.sessions, s.sid = sid ∧ s.wstate = .readyToRun := by
  simp only [getTask, Option.map_eq_some_iff] at h
  obtain ⟨s, hs, rfl⟩ := h
  exact ⟨s, List.mem_of_find?_eq_some hs, rfl, by simpa using List.find?_some hs⟩

/-- Closing a session just served is closing it. -/
theorem closeSession_serve (p : Pool σ) (sid : Nat) (e : Engine σ) (i : Input) :
    (p.serve sid e i).closeSession sid =
      { p.closeSession sid with served := (p.serve sid e i).served } := by
  simp only [closeSession, serve, updSess, List.filter_map, Pool.mk.injEq, and_true]
  have hp : ((fun x : Sess σ => x.sid != sid) ∘
      fun s => if s.sid = sid then { s with eng := e } else s) = fun x => x.sid != sid := by
    funext s
    by_cases h : s.sid = sid <;> simp [h]
  rw [hp]
  conv_rhs => rw [← List.map_id (List.filter _ p.sessions)]
  apply List.map_congr_left
  intro s hs
  have : s.sid ≠ sid := by simpa using (List.mem_filter.mp hs).2
  simp [this]

/-! ### Who holds a session -/

theorem Held.of_sub {ws : List Pc} {ss ss' : List (Sess σ)} (h : Held ws ss)
    (hss : ∀ s' ∈ ss', ∃ s ∈ ss, s.sid = s'.sid ∧ s.eng = s'.eng) : Held ws ss' := by
  intro pc hpc s' hs' ht
  obtain ⟨s, hs, hsid, heng⟩ := hss s' hs'
  rw [← heng]
  exact h pc hpc s hs (hsid ▸ ht)

theorem Held.set {ws : List Pc} {ss : List (Sess σ)} (h : Held ws ss) (w : Nat) {pc : Pc}
    (hpc : ∀ s ∈ ss, pc.task = some s.sid → pc.EngOk s.eng) : Held (ws.set w pc) ss := by
  intro pc' hpc' s hs ht
  rcases mem_set_of_mem hpc' with rfl | hpc'
  · exact hpc s hs ht
  · exact h pc' hpc' s hs ht

theorem Held.append {ws : List Pc} {ss : List (Sess σ)} (h : Held ws ss) {pc : Pc}
    (hpc : ∀ s ∈ ss, pc.task = some s.sid → pc.EngOk s.eng) : Held (ws ++ [pc]) ss := by
  intro pc' hpc' s hs ht
  rcases List.mem_append.mp hpc' with hpc' | hpc'
  · exact h pc' hpc' s hs ht
  · rw [List.mem_singleton.mp hpc']
    exact hpc s hs (List.mem_singleton.mp hpc' ▸ ht)

/-! ### The list of sessions -/

section SessOk

variable {sys : Sys} {f : SmfiDesc σ} {w₀ : σ}

/-- `mi_list_add_ctx` of a new session with the next id. -/
theorem SessOk.add {ss : List (Sess σ)} {next : Nat} {served : Nat → List Input}
    (h : SessOk sys f w₀ ss next served) :
    SessOk sys f w₀ (ss ++ [⟨next, .readyToRun, Engine.init f w₀⟩]) (next + 1) served := by
  have hnew : next ∉ ss.map (·.sid) := fun hm => by
    obtain ⟨s, hs, hsid⟩ := List.mem_map.mp hm
    exact absurd (h.fresh s hs) (by omega)
  refine ⟨?_, ?_, fun sid hsid => h.unserved sid (by omega), ?_, ?_, ?_⟩
  · rw [List.map_append]
    exact h.nodup.append (List.nodup_singleton _) (List.disjoint_singleton.mpr hnew)
  · intro s hs
    rcases List.mem_append.mp hs with hs | hs
    · exact Nat.lt_succ_of_lt (h.fresh s hs)
    · rw [List.mem_singleton.mp hs]
      exact Nat.lt_succ_self _
  · intro s hs
    rcases List.mem_append.mp hs with hs | hs
    · exact h.ghost s hs
    · -- nothing was served to the new id
      rw [List.mem_singleton.mp hs]
      show Engine.init f w₀ = ((engine sys f).run (Engine.init f w₀) (served next)).1
      rw [h.unserved next le_rfl]
      rfl
  · intro s hs
    rcases List.mem_append.mp hs with hs | hs
    · exact h.sess s hs
    · rw [List.mem_singleton.mp hs]
      exact .inr ⟨rfl, by simp⟩
  · intro sid hlt hm
    have hne : sid ≠ next := fun he => hm (by simp [he])
    exact h.closed sid (by omega) fun hm' => hm (by simp [hm'])

theorem SessOk.setWState {p : Pool σ} (h : SessOk sys f w₀ p.sessions p.nextSid p.served)
    {sid : Nat} {ws : WState} (hws : ∀ s ∈ p.sessions, s.sid = sid → ws.EngOk s.eng) :
    SessOk sys f w₀ (p.setWState sid ws).sessions p.nextSid p.served := by
  unfold Pool.setWState
  have hsids : (p.updSess sid fun s => { s with wstate := ws }).sessions.map (·.sid) =
      p.sessions.map (·.sid) := sids_updSess fun _ => rfl
  refine ⟨hsids ▸ h.nodup, forall_mem_updSess (fun s hs _ => h.fresh s hs)
    (fun s hs _ => h.fresh s hs), h.unserved, forall_mem_updSess (fun s hs _ => h.ghost s hs)
    (fun s hs _ => h.ghost s hs), forall_mem_updSess hws (fun s hs _ => h.sess s hs), ?_⟩
  intro n hn hm
  exact h.closed n hn (hsids ▸ hm)

/-- `mi_engine` serves a running session one input. -/
theorem SessOk.serve {p : Pool σ} (h : SessOk sys f w₀ p.sessions p.nextSid p.served)
    {s : Sess σ} (hs : s ∈ p.sessions) (hr : s.wstate = .running) (i : Input) :
    SessOk sys f w₀ (p.serve s.sid ((engine sys f).step s.eng i).1 i).sessions p.nextSid
      (p.serve s.sid ((engine sys f).step s.eng i).1 i).served := by
  have hsids : (p.updSess s.sid fun s' => { s' with eng := ((engine sys f).step s.eng i).1 }
      ).sessions.map (·.sid) = p.sessions.map (·.sid) := sids_updSess fun _ => rfl
  have hlt := h.fresh s hs
  have hmem : s.sid ∈ p.sessions.map (·.sid) := List.mem_map_of_mem hs
  simp only [serve_sessions]
  refine ⟨hsids ▸ h.nodup, forall_mem_updSess (fun s hs _ => h.fresh s hs)
    (fun s hs _ => h.fresh s hs), ?_, ?_, ?_, ?_⟩
  · intro n hn
    have hne : n ≠ s.sid := by omega
    simp [hne, h.unserved n hn]
  · refine forall_mem_updSess (fun s' hs' hsid => ?_) (fun s' hs' hne => ?_)
    · -- the session served: one more step of `engine`
      rw [eq_of_sid_eq h.nodup hs hs' hsid]
      simp [Mealy.run_append, ← h.ghost s hs]
    · simp [hne, h.ghost s' hs']
  · refine forall_mem_updSess (fun s' hs' hsid => ?_) (fun s' hs' _ => h.sess s' hs')
    rw [eq_of_sid_eq h.nodup hs hs' hsid]
    exact .inl hr
  · intro n hn hm
    have hne : n ≠ s.sid := by
      rintro rfl
      exact hm (by rw [hsids]; exact hmem)
    simpa [hne] using h.closed n hn (hsids ▸ hm)

/-- `mi_close_session` of a session whose engine, over the inputs served, has ended. -/
theorem SessOk.close {p : Pool σ} (h : SessOk sys f w₀ p.sessions p.nextSid p.served)
    {sid : Nat} {served : Nat → List Input} (hlt : sid < p.nextSid)
    (hv : ∀ n, n ≠ sid → served n = p.served n)
    (hl : ((engine sys f).run (Engine.init f w₀) (served sid)).1.live = false) :
    SessOk sys f w₀ (p.closeSession sid).sessions p.nextSid served := by
  have hsub : ((p.closeSession sid).sessions.map (·.sid)).Sublist (p.sessions.map (·.sid)) :=
    List.filter_sublist.map _
  have hmem : ∀ s ∈ (p.closeSession sid).sessions, s ∈ p.sessions ∧ s.sid ≠ sid := by
    intro s hs
    simpa using hs
  refine ⟨hsub.nodup h.nodup, fun s hs => h.fresh s (hmem s hs).1, ?_, ?_,
    fun s hs => h.sess s (hmem s hs).1, ?_⟩
  · intro n hn
    rw [hv n (by omega)]
    exact h.unserved n hn
  · intro s hs
    rw [hv s.sid (hmem s hs).2]
    exact h.ghost s (hmem s hs).1
  · intro n hn hm
    by_cases he : n = sid
    · subst he
      exact hl
    · rw [hv n he]
      refine h.closed n hn fun hm' => hm ?_
      obtain ⟨s, hs, rfl⟩ := List.mem_map.mp hm'
      exact List.mem_map_of_mem (List.mem_filter.mpr ⟨hs, by simpa using he⟩)

end SessOk

/-! ### The engine under the pool -/

section Engine

variable {sys : Sys} {f : SmfiDesc σ}

/-- With no data on the socket, `mi_engine` leaves the session open, waiting. -/
theorem engine_step_notReady {e : Engine σ} (h : e.live = true) :
    ((engine sys f).step e .notReady).1.live = true ∧
      ((engine sys f).step e .notReady).1.waiting = true := by
  simp [engine, h]

/-- The controller's timeout ends a session that waits. -/
theorem engine_step_idleTimeout {e : Engine σ} (hl : e.live = true) (hw : e.waiting = true) :
    ((engine sys f).step e .idleTimeout).1.live = false := by
  simp [engine, hl, hw]

@[simp] theorem Pc.task_afterInput (sid : Nat) (i : Input) (e : Engine σ) :
    (Pc.afterInput sid i e).task = some sid := by
  unfold Pc.afterInput
  split
  · rfl
  · split <;> rfl

@[simp] theorem Pc.counted_afterInput (sid : Nat) (i : Input) (e : Engine σ) :
    (Pc.afterInput sid i e).counted = true := by
  unfold Pc.afterInput
  split
  · rfl
  · split <;> rfl

@[simp] theorem Pc.afterInput_ne_idle (sid : Nat) (i : Input) (e : Engine σ) :
    (Pc.afterInput sid i e == .idle) = false := by
  unfold Pc.afterInput
  split
  · rfl
  · split <;> rfl

/-- The worker is where the engine it served says. -/
theorem Pc.engOk_afterInput {e : Engine σ} (hl : e.live = true) (sid : Nat) (i : Input) :
    (Pc.afterInput sid i ((engine sys f).step e i).1).EngOk ((engine sys f).step e i).1 := by
  unfold Pc.afterInput
  split
  · exact ⟨(engine_step_notReady hl).1, fun _ => (engine_step_notReady hl).2⟩
  · split
    · assumption
    · rename_i hlive
      exact ⟨by simpa using hlive, nofun⟩

end Engine

/-! ### The invariant under each operation -/

section Inv

variable {sys : Sys} {f : SmfiDesc σ} {w₀ : σ} {p : Pool σ}

theorem inv_init (sys : Sys) (f : SmfiDesc σ) (w₀ : σ) (minWorker : Nat) :
    (Pool.init minWorker : Pool σ).Inv sys f w₀ := by
  refine ⟨⟨by simp [Pool.init], by simp [Pool.init], by simp [Pool.init], by simp [Pool.init],
    by simp [Pool.init], fun _ h => absurd h (Nat.not_lt_zero _)⟩, fun sid => ?_, ?_, ?_, ?_⟩
  · simp [owners, running, Pool.init, List.countP_replicate, Pc.task]
  · simp [Pool.init, List.countP_replicate]
  · simp [Pool.init, List.countP_replicate, Pc.counted]
  · simp [Held, Pool.init]

/-- A worker holds only a session that is running. -/
theorem Inv.running_of_task (h : p.Inv sys f w₀) {pc : Pc} (hpc : pc ∈ p.workers) {sid : Nat}
    (ht : pc.task = some sid) : p.running sid = true := by
  have hpos : 0 < p.owners sid := List.countP_pos_iff.mpr ⟨pc, hpc, by simpa using ht⟩
  rw [h.owners sid] at hpos
  by_contra hr
  simp [hr] at hpos

/-- The session a worker holds is in the list, running. -/
theorem Inv.sess_of_task (h : p.Inv sys f w₀) {pc : Pc} (hpc : pc ∈ p.workers) {sid : Nat}
    (ht : pc.task = some sid) : ∃ s ∈ p.sessions, s.sid = sid ∧ s.wstate = .running := by
  have hr := h.running_of_task hpc ht
  simpa [running] using hr

/-- The session a worker holds, found in the list, is running, and its engine is where the
worker says. -/
theorem Inv.found (h : p.Inv sys f w₀) {pc : Pc} (hpc : pc ∈ p.workers) {sid : Nat}
    (ht : pc.task = some sid) {s : Sess σ} (hs : s ∈ p.sessions) (hsid : s.sid = sid) :
    s.wstate = .running ∧ pc.EngOk s.eng := by
  obtain ⟨s', hs', hsid', hr⟩ := h.sess_of_task hpc ht
  have heq : s' = s := eq_of_sid_eq h.sessOk.nodup hs hs' (hsid'.trans hsid.symm)
  exact ⟨heq ▸ hr, h.held pc hpc s hs (hsid ▸ ht)⟩

theorem Inv.owners_le (h : p.Inv sys f w₀) (sid : Nat) : p.owners sid ≤ 1 := by
  rw [h.owners sid]
  split <;> omega

/-- Two workers holding the same session are one, when at most one may. -/
theorem owner_eq {sid : Nat} (hle : p.owners sid ≤ 1) {a b : Pc} (ha : a ∈ p.workers)
    (hb : b ∈ p.workers) (hta : a.task = some sid) (htb : b.task = some sid) : a = b := by
  by_contra hab
  have h₁ : a ∈ p.workers.erase b := List.mem_erase_of_ne hab |>.mpr ha
  have h₂ : 0 < (p.workers.erase b).countP fun pc => pc.task == some sid :=
    List.countP_pos_iff.mpr ⟨a, h₁, by simpa using hta⟩
  have h₃ := List.countP_erase (p := fun pc : Pc => pc.task == some sid) (l := p.workers) (a := b)
  simp [hb, htb] at h₃
  unfold owners at hle
  omega

/-- A worker that keeps the session it holds keeps every count of owners. -/
theorem owners_setPc_task {w : Nat} {old pc : Pc} (hw : p.workers[w]? = some old)
    (ht : pc.task = old.task) (sid : Nat) : (p.setPc w pc).owners sid = p.owners sid := by
  rw [owners_setPc hw, ht]
  by_cases ho : old.task = some sid
  · have hpos : 0 < p.owners sid :=
      List.countP_pos_iff.mpr ⟨old, List.mem_of_getElem? hw, by simpa using ho⟩
    simp only [ho, if_true]
    omega
  · simp [ho]

/-- A worker takes or gives back the session `s`, which moves to `ws`, and the counters move
with the worker: `take`, the end of a run of `mi_engine`, and `pthread_detach`. -/
theorem Inv.hand (h : p.Inv sys f w₀) {w : Nat} {old : Pc} (hw : p.workers[w]? = some old)
    {s : Sess σ} (hs : s ∈ p.sessions) (ws : WState) (pc : Pc) (ni nw : Nat)
    (hold : ∀ n, old.task = some n → n = s.sid) (hnew : ∀ n, pc.task = some n → n = s.sid)
    (hown : old.task = some s.sid ↔ s.wstate = .running)
    (hown' : pc.task = some s.sid ↔ ws = .running)
    (hws : ws.EngOk s.eng) (hpc : pc.task = some s.sid → pc.EngOk s.eng)
    (hi : ni + (if old == .idle then 1 else 0) = p.nbIdle + (if pc == .idle then 1 else 0))
    (hc : nw + (if old.counted then 1 else 0) = p.nbWorkers + (if pc.counted then 1 else 0)) :
    ({ (p.setWState s.sid ws).setPc w pc with nbIdle := ni, nbWorkers := nw } : Pool σ).Inv
      sys f w₀ := by
  have hnd := h.sessOk.nodup
  refine ⟨h.sessOk.setWState fun s' hs' hsid => eq_of_sid_eq hnd hs hs' hsid ▸ hws,
    fun n => ?_, ?_, ?_, ?_⟩
  · show ((p.setWState s.sid ws).setPc w pc).owners n =
      if (p.setWState s.sid ws).running n then 1 else 0
    rw [owners_setPc (p := p.setWState s.sid ws) hw]
    show p.owners n - _ + _ = _
    by_cases hn : n = s.sid
    · -- the session that changes hands
      subst hn
      rw [running_setWState_self ⟨s, hs, rfl⟩, h.owners, running_of_mem hnd hs]
      simp only [hown, hown']
      by_cases h₁ : s.wstate = .running <;> by_cases h₂ : ws = .running <;> simp [h₁, h₂]
    · have ho : old.task ≠ some n := fun ho => hn (hold n ho)
      have hp : pc.task ≠ some n := fun hp => hn (hnew n hp)
      rw [running_setWState_ne hn, h.owners n]
      simp [ho, hp]
  · show ni = (p.workers.set w pc).countP _
    have := count_le hw (· == .idle)
    have := h.idle
    rw [count_setPc hw]
    omega
  · show nw = (p.workers.set w pc).countP _
    have := count_le hw Pc.counted
    have := h.counted
    rw [count_setPc hw]
    omega
  · refine (h.held.of_sub fun _ => exists_of_mem_setWState).set w fun s' hs' ht => ?_
    obtain ⟨s₁, hs₁, hsid, heng⟩ := exists_of_mem_setWState hs'
    have heq : s₁ = s := eq_of_sid_eq hnd hs hs₁ (hsid.trans (hnew _ ht))
    subst heq
    rw [← heng]
    exact hpc (hsid ▸ ht)

/-- A worker holding no session moves to another place holding none. -/
theorem Inv.move (h : p.Inv sys f w₀) {w : Nat} {old : Pc} (hw : p.workers[w]? = some old)
    (pc : Pc) (ni nw : Nat) (hold : old.task = none) (hpc : pc.task = none)
    (hi : ni + (if old == .idle then 1 else 0) = p.nbIdle + (if pc == .idle then 1 else 0))
    (hc : nw + (if old.counted then 1 else 0) = p.nbWorkers + (if pc.counted then 1 else 0)) :
    ({ p.setPc w pc with nbIdle := ni, nbWorkers := nw } : Pool σ).Inv sys f w₀ := by
  refine ⟨h.sessOk, fun n => ?_, ?_, ?_, h.held.set w fun _ _ ht => by simp [hpc] at ht⟩
  · show (p.setPc w pc).owners n = if p.running n then 1 else 0
    rw [owners_setPc hw, hold, hpc]
    simpa using h.owners n
  · show ni = (p.workers.set w pc).countP _
    have := count_le hw (· == .idle)
    have := h.idle
    rw [count_setPc hw]
    omega
  · show nw = (p.workers.set w pc).countP _
    have := count_le hw Pc.counted
    have := h.counted
    rw [count_setPc hw]
    omega

/-- A session no worker holds moves to another place where no worker holds it. -/
theorem Inv.setWState (h : p.Inv sys f w₀) {s : Sess σ} (hs : s ∈ p.sessions) {ws : WState}
    (hr : s.wstate ≠ .running) (hr' : ws ≠ .running) (hws : ws.EngOk s.eng) :
    (p.setWState s.sid ws).Inv sys f w₀ := by
  have hnd := h.sessOk.nodup
  refine ⟨h.sessOk.setWState fun s' hs' hsid => eq_of_sid_eq hnd hs hs' hsid ▸ hws,
    fun n => ?_, h.idle, h.counted, h.held.of_sub fun _ => exists_of_mem_setWState⟩
  show p.owners n = _
  by_cases hn : n = s.sid
  · subst hn
    rw [running_setWState_self ⟨s, hs, rfl⟩, h.owners, running_of_mem hnd hs]
    simp [hr, hr']
  · rw [running_setWState_ne hn, h.owners]

/-- `mi_list_add_ctx`: a new session, not yet held. -/
theorem Inv.add (h : p.Inv sys f w₀) :
    (p.add ⟨p.nextSid, .readyToRun, Engine.init f w₀⟩).Inv sys f w₀ := by
  refine ⟨h.sessOk.add, fun sid => ?_, h.idle, h.counted, ?_⟩
  · show p.owners sid = if (p.sessions ++ _).any _ then 1 else 0
    simp only [List.any_append, List.any_cons, List.any_nil, Bool.or_false]
    simpa [running] using h.owners sid
  · intro pc hpc s' hs' ht
    rcases List.mem_append.mp hs' with hs' | hs'
    · exact h.held pc hpc s' hs' ht
    · -- no worker holds the new id
      rw [List.mem_singleton.mp hs'] at ht
      obtain ⟨s, hs, hsid, -⟩ := h.sess_of_task hpc ht
      exact absurd hsid (Nat.ne_of_lt (h.sessOk.fresh s hs))

/-- A session no worker holds is given to an idle worker or to a new one. -/
theorem Inv.dispatch (h : p.Inv sys f w₀) {s : Sess σ} (hs : s ∈ p.sessions)
    (hr : s.wstate ≠ .running) (hl : s.eng.live = true) : (p.dispatch s.sid).Inv sys f w₀ := by
  unfold Pool.dispatch
  split
  · exact h.setWState hs hr (by decide) (.inr ⟨hl, by simp⟩)
  · -- `LAUNCH_WORKER(ctx)`: a new worker, not yet counted, holds the session
    have hnd := h.sessOk.nodup
    refine ⟨h.sessOk.setWState fun _ _ _ => .inl rfl, fun n => ?_, ?_, ?_, ?_⟩
    · show (p.workers ++ [Pc.start (some s.sid)]).countP _ =
        if (p.setWState s.sid .running).running n then 1 else 0
      rw [List.countP_append]
      show p.owners n + _ = _
      by_cases hn : n = s.sid
      · subst hn
        have ho := h.owners s.sid
        rw [running_of_mem hnd hs] at ho
        rw [running_setWState_self ⟨s, hs, rfl⟩, ho]
        simp [Pc.task, hr]
      · rw [running_setWState_ne hn, ← h.owners n]
        simp [Pc.task, Ne.symm hn]
    · simp [h.idle]
    · simp [h.counted, Pc.counted]
    · refine (h.held.of_sub fun _ => exists_of_mem_setWState).append fun s' hs' ht => ?_
      obtain ⟨s₁, hs₁, hsid, heng⟩ := exists_of_mem_setWState hs'
      have heq : s₁ = s := eq_of_sid_eq hnd hs hs₁ (hsid.trans (by simpa [Pc.task] using ht.symm))
      subst heq
      show s'.eng.live = true
      rw [← heng]
      exact hl

/-- The controller closes a waiting session that timed out: `xxfi_close`, then
`mi_close_session`. -/
theorem Inv.expire (h : p.Inv sys f w₀) {s : Sess σ} (hs : s ∈ p.sessions)
    (hw : s.wstate = .waiting) :
    ((p.serve s.sid ((engine sys f).step s.eng .idleTimeout).1 .idleTimeout).closeSession
      s.sid).Inv sys f w₀ := by
  rw [closeSession_serve]
  have hnd := h.sessOk.nodup
  obtain ⟨hl, hwait⟩ : s.eng.live = true ∧ s.eng.waiting = true := by
    rcases h.sessOk.sess s hs with hr | ⟨hl, hwt⟩
    · simp [hw] at hr
    · exact ⟨hl, hwt (.inr hw)⟩
  refine ⟨h.sessOk.close (h.sessOk.fresh s hs) (fun n hn => by simp [hn]) ?_, fun n => ?_,
    h.idle, h.counted, h.held.of_sub fun s' hs' => ⟨s', (List.mem_filter.mp hs').1, rfl, rfl⟩⟩
  · -- over the inputs served, the timeout last, the session has ended
    simp only [serve_served, if_true, Mealy.run_append, Mealy.run_cons, Mealy.run_nil,
      ← h.sessOk.ghost s hs]
    exact engine_step_idleTimeout hl hwait
  · show p.owners n = if (p.closeSession s.sid).running n then 1 else 0
    rw [running_closeSession, h.owners n]
    by_cases hn : n = s.sid
    · subst hn
      simp [running_of_mem hnd hs, hw]
    · simp [hn]

/-- A worker whose `mi_engine` ended the session closes it and looks for another. -/
theorem Inv.finishClose (h : p.Inv sys f w₀) {w sid : Nat}
    (hw : p.workers[w]? = some (.ran sid false)) :
    ((p.closeSession sid).setPc w .look).Inv sys f w₀ := by
  have hmem := List.mem_of_getElem? hw
  obtain ⟨s, hs, rfl, hr⟩ := h.sess_of_task hmem rfl
  have hl : s.eng.live = false := (h.held _ hmem s hs rfl).1
  refine ⟨h.sessOk.close (h.sessOk.fresh s hs) (fun _ _ => rfl) ?_, fun n => ?_, ?_, ?_, ?_⟩
  · show ((engine sys f).run (Engine.init f w₀) (p.served s.sid)).1.live = false
    rw [← h.sessOk.ghost s hs]
    exact hl
  · show ((p.closeSession s.sid).setPc w .look).owners n =
      if (p.closeSession s.sid).running n then 1 else 0
    rw [owners_setPc (p := p.closeSession s.sid) hw, running_closeSession]
    show p.owners n - _ + _ = _
    rw [h.owners n]
    by_cases hn : n = s.sid
    · subst hn
      simp [running_of_mem h.sessOk.nodup hs, hr, Pc.task]
    · simp [hn, Pc.task, Ne.symm hn]
  · show p.nbIdle = (p.workers.set w .look).countP _
    rw [count_setPc hw, h.idle]
    rfl
  · show p.nbWorkers = (p.workers.set w .look).countP _
    have hpos : 0 < p.workers.countP Pc.counted := List.countP_pos_iff.mpr ⟨_, hmem, rfl⟩
    rw [count_setPc hw, h.counted]
    simp only [Pc.counted, if_true]
    omega
  · exact (h.held.of_sub fun s' hs' => ⟨s', (List.mem_filter.mp hs').1, rfl, rfl⟩).set w
      fun _ _ ht => by simp [Pc.task] at ht

/-- `mi_engine` serves one input to the session its worker holds. -/
theorem Inv.feed (h : p.Inv sys f w₀) {w sid : Nat} (hw : p.workers[w]? = some (.run sid))
    {s : Sess σ} (hs : s ∈ p.sessions) (hsid : s.sid = sid) (i : Input) :
    ((p.serve sid ((engine sys f).step s.eng i).1 i).setPc w
      (Pc.afterInput sid i ((engine sys f).step s.eng i).1)).Inv sys f w₀ := by
  subst hsid
  have hmem := List.mem_of_getElem? hw
  obtain ⟨hr, hl⟩ := h.found hmem rfl hs rfl
  have hnd := h.sessOk.nodup
  set e := ((engine sys f).step s.eng i).1 with he
  set q := (p.serve s.sid e i).setPc w (Pc.afterInput s.sid i e) with hq
  -- the worker keeps the session: no count of owners changes
  have hown : ∀ n, q.owners n = p.owners n :=
    owners_setPc_task (p := p.serve s.sid e i) hw (by rw [Pc.task_afterInput]; rfl)
  have hrun : ∀ n, q.running n = p.running n := fun n =>
    running_updSess (fun _ => rfl) (fun _ => rfl)
  refine ⟨h.sessOk.serve hs hr i, fun n => by rw [hown, hrun, h.owners], ?_, ?_, ?_⟩
  · show p.nbIdle = (p.workers.set w _).countP _
    rw [count_setPc hw, h.idle]
    simp
  · show p.nbWorkers = (p.workers.set w _).countP _
    have hpos : 0 < p.workers.countP Pc.counted := List.countP_pos_iff.mpr ⟨_, hmem, rfl⟩
    rw [count_setPc hw, h.counted, Pc.counted_afterInput]
    simp only [Pc.counted, if_true]
    omega
  · intro pc hpc s' hs' ht
    rcases mem_updSess hs' with ⟨s₁, -, hsid₁, rfl⟩ | ⟨hs', hne⟩
    · -- the session served: its one holder is worker `w`, where the engine says
      have hle : q.owners s.sid ≤ 1 := (hown s.sid).symm ▸ h.owners_le s.sid
      have ht' : pc.task = some s.sid := hsid₁ ▸ ht
      have hpc' : pc = Pc.afterInput s.sid i e :=
        owner_eq hle hpc (List.mem_set (List.getElem?_eq_some_iff.mp hw).1 _) ht' (by simp)
      subst hpc'
      exact Pc.engOk_afterInput hl s.sid i
    · rcases mem_set_of_mem hpc with rfl | hpc
      · simp at ht
        exact absurd ht.symm hne
      · exact h.held pc hpc s' hs' ht

/-- A worker holding no session takes the first session ready to run, or does what it does
when there is none. -/
theorem Inv.take (h : p.Inv sys f w₀) {w : Nat} {old : Pc} (hw : p.workers[w]? = some old)
    (ni : Nat) (hold : old.task = none) (hc : old.counted = true)
    (hi : ni + (if old == .idle then 1 else 0) = p.nbIdle) {q : Pool σ}
    (hq : q.Inv sys f w₀) : ({ p with nbIdle := ni }.take w q).Inv sys f w₀ := by
  unfold Pool.take
  split
  · rename_i sid ht
    -- `GET_TASK_READY_TO_RUN`: the session was ready to run, so no worker held it
    obtain ⟨s, hs, rfl, hr⟩ := getTask_some ht
    have hl : s.eng.live = true := by
      rcases h.sessOk.sess s hs with hr' | ⟨hl, -⟩
      · simp [hr] at hr'
      · exact hl
    exact h.hand hw hs .running (.run s.sid) ni p.nbWorkers (by simp [hold])
      (fun n hn => (Option.some.inj hn).symm) (by simp [hold, hr]) (by simp [Pc.task]) (.inl rfl)
      (fun _ => hl) (by simpa using hi) (by rw [hc]; rfl)
  · exact hq

/-- The number of workers is positive while one of them is counted. -/
theorem Inv.count_pos (h : p.Inv sys f w₀) {w : Nat} {pc : Pc} (hw : p.workers[w]? = some pc)
    : (pc.counted = true → 0 < p.nbWorkers) ∧ (pc = .idle → 0 < p.nbIdle) := by
  refine ⟨fun hc => ?_, fun hi => ?_⟩
  · rw [h.counted]
    exact List.countP_pos_iff.mpr ⟨pc, List.mem_of_getElem? hw, hc⟩
  · rw [h.idle]
    exact List.countP_pos_iff.mpr ⟨pc, List.mem_of_getElem? hw, by simp [hi]⟩

end Inv

/-! ### Every step keeps the invariant -/

section Step

variable {sys : Sys} {f : SmfiDesc σ} {w₀ : σ} {m : Nat} {p : Pool σ}

-- The lemmas below open `poolStep` with `delta`, not with its equation lemmas: they are
-- elaborated in parallel, and each would otherwise wait for those lemmas to be generated.

theorem Inv.step_connect (h : p.Inv sys f w₀) :
    (poolStep sys f w₀ m p .connect).1.Inv sys f w₀ :=
  h.add.dispatch (List.mem_append_right _ (List.mem_singleton_self _)) nofun rfl

theorem Inv.step_expire (h : p.Inv sys f w₀) (sid : Nat) :
    (poolStep sys f w₀ m p (.expire sid)).1.Inv sys f w₀ := by
  delta poolStep
  dsimp only
  split
  · rename_i s hf
    obtain ⟨hs, rfl⟩ := find?_some hf
    split
    · exact h.expire hs ‹_›
    · exact h
  · exact h

theorem Inv.step_watch (h : p.Inv sys f w₀) (sid : Nat) :
    (poolStep sys f w₀ m p (.watch sid)).1.Inv sys f w₀ := by
  delta poolStep
  dsimp only
  split
  · rename_i s hf
    obtain ⟨hs, rfl⟩ := find?_some hf
    split
    · rename_i hw
      -- given back by its worker, the session waits for data
      rcases h.sessOk.sess s hs with hr | ⟨hl, hwt⟩
      · simp [hw] at hr
      · exact h.setWState hs (by simp [hw]) (by decide) (.inr ⟨hl, fun _ => hwt (.inl hw)⟩)
    · exact h
  · exact h

theorem Inv.step_event (h : p.Inv sys f w₀) (sid : Nat) :
    (poolStep sys f w₀ m p (.event sid)).1.Inv sys f w₀ := by
  delta poolStep
  dsimp only
  split
  · rename_i s hf
    obtain ⟨hs, rfl⟩ := find?_some hf
    split
    · rename_i hw
      rcases h.sessOk.sess s hs with hr | ⟨hl, -⟩
      · simp [hw] at hr
      · exact h.dispatch hs (by simp [hw]) hl
    · exact h
  · exact h

theorem Inv.step_detach (h : p.Inv sys f w₀) (w : Nat) (ok : Bool) :
    (poolStep sys f w₀ m p (.detach w ok)).1.Inv sys f w₀ := by
  delta poolStep
  dsimp only
  split
  · rename_i ctx hw
    have hmem := List.mem_of_getElem? hw
    split
    · -- `pthread_detach` succeeded: the worker is counted
      cases ctx with
      | none => exact h.move hw .look p.nbIdle (p.nbWorkers + 1) rfl rfl (by simp) rfl
      | some sid =>
        obtain ⟨s, hs, rfl, hr⟩ := h.sess_of_task hmem rfl
        exact h.hand hw hs .running (.run s.sid) p.nbIdle (p.nbWorkers + 1)
          (fun n hn => (Option.some.inj hn).symm) (fun n hn => (Option.some.inj hn).symm)
          ⟨fun _ => hr, fun _ => rfl⟩ ⟨fun _ => rfl, fun _ => rfl⟩ (.inl rfl)
          (fun _ => h.held _ hmem s hs rfl) (by simp) rfl
    · -- the worker returns at once, leaving its session ready to run
      cases ctx with
      | none => exact h.move hw .exit p.nbIdle p.nbWorkers rfl rfl (by simp) rfl
      | some sid =>
        obtain ⟨s, hs, rfl, hr⟩ := h.sess_of_task hmem rfl
        exact h.hand hw hs .readyToRun .exit p.nbIdle p.nbWorkers
          (fun n hn => (Option.some.inj hn).symm) nofun ⟨fun _ => hr, fun _ => rfl⟩
          ⟨nofun, nofun⟩ (.inr ⟨h.held _ hmem s hs rfl, by simp⟩) nofun (by simp) rfl
  · exact h

theorem Inv.step_feed (h : p.Inv sys f w₀) (w : Nat) (i : Input) :
    (poolStep sys f w₀ m p (.feed w i)).1.Inv sys f w₀ := by
  delta poolStep
  dsimp only
  split
  · exact h
  · rename_i sid _ hw _
    split
    · rename_i s hf
      obtain ⟨hs, hsid⟩ := find?_some hf
      exact h.feed hw hs hsid _
    · exact h
  · exact h

theorem Inv.step_finish (h : p.Inv sys f w₀) (w : Nat) :
    (poolStep sys f w₀ m p (.finish w)).1.Inv sys f w₀ := by
  delta poolStep
  dsimp only
  split
  · rename_i sid cont hw
    have hmem := List.mem_of_getElem? hw
    split
    · rename_i s hf
      obtain ⟨hs, rfl⟩ := find?_some hf
      split
      · -- `MI_CONTINUE`: the session goes back to the controller
        rename_i hc
        subst hc
        obtain ⟨hr, hl, hwt⟩ := h.found hmem rfl hs rfl
        exact h.hand hw hs .readyToWait .look p.nbIdle p.nbWorkers
          (fun n hn => (Option.some.inj hn).symm) nofun ⟨fun _ => hr, fun _ => rfl⟩
          ⟨nofun, nofun⟩ (.inr ⟨hl, fun _ => hwt rfl⟩) nofun (by simp) rfl
      · rename_i hc
        simp only [Bool.not_eq_true] at hc
        subst hc
        exact h.finishClose hw
    · exact h
  · exact h

theorem Inv.step_look (h : p.Inv sys f w₀) (w : Nat) :
    (poolStep sys f w₀ m p (.look w)).1.Inv sys f w₀ := by
  delta poolStep
  dsimp only
  split
  · rename_i hw
    refine h.take hw p.nbIdle rfl rfl (by simp) ?_
    split
    · -- enough workers are idle: this one quits
      have hpos := (h.count_pos hw).1 rfl
      exact h.move hw .exit p.nbIdle (p.nbWorkers - 1) rfl rfl (by simp)
        (by simp [Pc.counted]; omega)
    · exact h.move hw .idle (p.nbIdle + 1) p.nbWorkers rfl rfl (by simp) rfl
  · exact h

theorem Inv.step_wake (h : p.Inv sys f w₀) (w : Nat) :
    (poolStep sys f w₀ m p (.wake w)).1.Inv sys f w₀ := by
  delta poolStep
  dsimp only
  split
  · rename_i hw
    have hpos := (h.count_pos hw).2 rfl
    refine h.take hw (p.nbIdle - 1) rfl rfl (by simp; omega) ?_
    exact h.move hw .look (p.nbIdle - 1) p.nbWorkers rfl rfl (by simp; omega) rfl
  · exact h

/-- **Every step keeps the invariant.** -/
theorem Inv.step (h : p.Inv sys f w₀) (a : Act) : (poolStep sys f w₀ m p a).1.Inv sys f w₀ := by
  cases a with
  | connect => exact h.step_connect
  | expire sid => exact h.step_expire sid
  | watch sid => exact h.step_watch sid
  | event sid => exact h.step_event sid
  | detach w ok => exact h.step_detach w ok
  | feed w i => exact h.step_feed w i
  | finish w => exact h.step_finish w
  | look w => exact h.step_look w
  | wake w => exact h.step_wake w

end Step

/-! ### What each session sees -/

section Trace

variable {sys : Sys} {f : SmfiDesc σ} {w₀ : σ} {m : Nat} {p : Pool σ}

/-- The events emitted so far for each session are those of `engine` on the inputs it was
served. -/
def Traced (sys : Sys) (f : SmfiDesc σ) (w₀ : σ) (p : Pool σ) (out : List (Nat × Event)) :
    Prop :=
  ∀ sid, events out sid = ((engine sys f).run (Engine.init f w₀) (p.served sid)).2

theorem events_append (out out' : List (Nat × Event)) (sid : Nat) :
    events (out ++ out') sid = events out sid ++ events out' sid := by
  simp [events, List.filter_append]

theorem events_map (ev : List Event) (sid n : Nat) :
    events (ev.map (sid, ·)) n = if sid = n then ev else [] := by
  by_cases h : sid = n
  · subst h
    simp [events, List.filter_map, Function.comp_def]
  · simp [events, List.filter_map, Function.comp_def, h]

theorem dispatch_served (p : Pool σ) (sid : Nat) : (p.dispatch sid).served = p.served := by
  unfold Pool.dispatch
  split <;> rfl

/-- What one step serves: nothing, or one input to one session of the list, whose events it
emits under the session's id. -/
theorem poolStep_served (p : Pool σ) (a : Act) :
    ((poolStep sys f w₀ m p a).1.served = p.served ∧ (poolStep sys f w₀ m p a).2 = []) ∨
      ∃ s ∈ p.sessions, ∃ i, (poolStep sys f w₀ m p a).1.served =
        (p.serve s.sid ((engine sys f).step s.eng i).1 i).served ∧
        (poolStep sys f w₀ m p a).2 = ((engine sys f).step s.eng i).2.map (s.sid, ·) := by
  cases a with
  | connect => exact .inl ⟨dispatch_served _ _, rfl⟩
  | expire sid =>
    simp only [poolStep]
    split
    · rename_i s hf
      obtain ⟨hs, rfl⟩ := find?_some hf
      split
      · exact .inr ⟨s, hs, .idleTimeout, rfl, rfl⟩
      · exact .inl ⟨rfl, rfl⟩
    · exact .inl ⟨rfl, rfl⟩
  | watch sid =>
    simp only [poolStep]
    split
    · split <;> exact .inl ⟨rfl, rfl⟩
    · exact .inl ⟨rfl, rfl⟩
  | event sid =>
    simp only [poolStep]
    split
    · split
      · exact .inl ⟨dispatch_served _ _, rfl⟩
      · exact .inl ⟨rfl, rfl⟩
    · exact .inl ⟨rfl, rfl⟩
  | detach w ok =>
    simp only [poolStep]
    split
    · rename_i ctx _
      split <;> cases ctx <;> exact .inl ⟨rfl, rfl⟩
    · exact .inl ⟨rfl, rfl⟩
  | feed w i =>
    simp only [poolStep]
    split
    · exact .inl ⟨rfl, rfl⟩
    · split
      · rename_i s hf
        obtain ⟨hs, rfl⟩ := find?_some hf
        exact .inr ⟨s, hs, _, rfl, rfl⟩
      · exact .inl ⟨rfl, rfl⟩
    · exact .inl ⟨rfl, rfl⟩
  | finish w =>
    simp only [poolStep]
    split
    · split
      · split <;> exact .inl ⟨rfl, rfl⟩
      · exact .inl ⟨rfl, rfl⟩
    · exact .inl ⟨rfl, rfl⟩
  | look w =>
    simp only [poolStep]
    split
    · refine .inl ⟨?_, rfl⟩
      unfold Pool.take
      split
      · rfl
      · split <;> rfl
    · exact .inl ⟨rfl, rfl⟩
  | wake w =>
    simp only [poolStep]
    split
    · refine .inl ⟨?_, rfl⟩
      unfold Pool.take
      split <;> rfl
    · exact .inl ⟨rfl, rfl⟩

/-- Each step emits for a session what `engine` emits on the input it serves it. -/
theorem traced_step (h : p.Inv sys f w₀) {out : List (Nat × Event)}
    (ht : Traced sys f w₀ p out) (a : Act) :
    Traced sys f w₀ (poolStep sys f w₀ m p a).1 (out ++ (poolStep sys f w₀ m p a).2) := by
  intro n
  rw [events_append, ht n]
  rcases poolStep_served p a with ⟨hv, ho⟩ | ⟨s, hs, i, hv, ho⟩
  · rw [hv, ho]
    simp [events]
  · rw [hv, ho, events_map]
    by_cases hn : s.sid = n
    · -- the session served: one more step of `engine`, from the engine the session holds
      subst hn
      simp [Mealy.run_append, ← h.sessOk.ghost s hs]
    · simp [hn, Ne.symm hn]

/-- Every run of the pool keeps the invariant. -/
theorem inv_run (sys : Sys) (f : SmfiDesc σ) (w₀ : σ) (m : Nat) (acts : List Act) :
    ((pool sys f w₀ m).run (Pool.init m) acts).1.Inv sys f w₀ :=
  Mealy.run_invariant (fun _ a hp => hp.step a) (inv_init sys f w₀ m) acts

/-- Every run of the pool emits for each session what `engine` emits on its inputs. -/
theorem traced_run (sys : Sys) (f : SmfiDesc σ) (w₀ : σ) (m : Nat) (acts : List Act) :
    Traced sys f w₀ ((pool sys f w₀ m).run (Pool.init m) acts).1
      ((pool sys f w₀ m).run (Pool.init m) acts).2 := by
  have h := Mealy.run_history (M := pool sys f w₀ m) (R := Traced sys f w₀)
    (fun _ a hp => hp.step a) (fun _ _ a hp ht => traced_step hp ht a) (inv_init sys f w₀ m)
    (fun _ => rfl : Traced sys f w₀ (Pool.init m) []) acts
  simpa using h

/-- Two workers holding the same session are one worker. -/
theorem Inv.index_eq (h : p.Inv sys f w₀) {w₁ w₂ : Nat} {pc₁ pc₂ : Pc} {sid : Nat}
    (h₁ : p.workers[w₁]? = some pc₁) (h₂ : p.workers[w₂]? = some pc₂)
    (ht₁ : pc₁.task = some sid) (ht₂ : pc₂.task = some sid) : w₁ = w₂ := by
  by_contra hne
  -- with the first worker gone, the second one still holds the session
  have hpos : 0 < (p.setPc w₁ .exit).owners sid := by
    refine List.countP_pos_iff.mpr ⟨pc₂, ?_, by simpa using ht₂⟩
    rw [setPc_workers]
    exact List.mem_of_getElem? ((List.getElem?_set_ne hne).trans h₂)
  rw [owners_setPc h₁, ht₁] at hpos
  have := h.owners_le sid
  simp [Pc.task] at hpos
  omega

end Trace

end Pool

/-! ### The pool as a whole -/

section Whole

variable (sys : Sys) (f : SmfiDesc σ) (w₀ : σ) (m : Nat)

/-- **No session is held by two workers.**  Whatever the scheduler does, two workers holding
the same session are the same thread, and the session a worker holds is in the list, in
`WKST_RUNNING`: `mi_engine` never runs on a session twice at once, nor on one freed. -/
theorem pool_exclusive (acts : List Act) {w₁ w₂ : Nat} {pc₁ pc₂ : Pc} {sid : Nat}
    (h₁ : ((pool sys f w₀ m).run (Pool.init m) acts).1.workers[w₁]? = some pc₁)
    (h₂ : ((pool sys f w₀ m).run (Pool.init m) acts).1.workers[w₂]? = some pc₂)
    (ht₁ : pc₁.task = some sid) (ht₂ : pc₂.task = some sid) :
    w₁ = w₂ ∧ ∃ s ∈ ((pool sys f w₀ m).run (Pool.init m) acts).1.sessions,
      s.sid = sid ∧ s.wstate = .running := by
  have h := Pool.inv_run sys f w₀ m acts
  exact ⟨h.index_eq h₁ h₂ ht₁ ht₂, h.sess_of_task (List.mem_of_getElem? h₁) ht₁⟩

/-- The first connection to a pool with no idle worker goes to a new worker. -/
theorem pool_exclusive_launch :
    ((pool ⟨fun _ => none⟩ countingFilter 0 0).run (Pool.init 0) [.connect]).1.workers[2]? =
        some (.start (some 0)) ∧
      2 = 2 ∧ ∃ s ∈ ((pool ⟨fun _ => none⟩ countingFilter 0 0).run (Pool.init 0)
        [.connect]).1.sessions, s.sid = 0 ∧ s.wstate = .running :=
  have h : ((pool ⟨fun _ => none⟩ countingFilter 0 0).run (Pool.init 0)
      [.connect]).1.workers[2]? = some (.start (some 0)) := by decide
  ⟨h, pool_exclusive _ _ _ _ _ h h rfl rfl⟩

/-- **The pool, seen from one session, is the session machine.**  Whatever the scheduler
does, however the sessions' inputs interleave and whichever workers serve them, the events the
pool emits for a session are those of `engine` run on the inputs that session was served, and
the engine the session holds is the state that run ends in: no event is lost, repeated, or
taken from another session. -/
theorem pool_events (acts : List Act) (sid : Nat) :
    events ((pool sys f w₀ m).run (Pool.init m) acts).2 sid =
        ((engine sys f).run (Engine.init f w₀)
          (((pool sys f w₀ m).run (Pool.init m) acts).1.served sid)).2 ∧
      ∀ s ∈ ((pool sys f w₀ m).run (Pool.init m) acts).1.sessions, s.sid = sid →
        s.eng = ((engine sys f).run (Engine.init f w₀)
          (((pool sys f w₀ m).run (Pool.init m) acts).1.served sid)).1 := by
  refine ⟨Pool.traced_run sys f w₀ m acts sid, fun s hs hsid => ?_⟩
  rw [← hsid]
  exact (Pool.inv_run sys f w₀ m acts).sessOk.ghost s hs

/-- **Every session the pool has closed ended with `xxfi_close`.**  A session the pool started
(its id is below the next one) and no longer lists, closed by its worker when `mi_engine`
ended it or by the controller when it waited too long, had `xxfi_close` as the last event the
pool emitted for it. -/
theorem pool_closed_close (hf : f.close.isSome) (acts : List Act) {sid : Nat}
    (hlt : sid < ((pool sys f w₀ m).run (Pool.init m) acts).1.nextSid)
    (hgone : sid ∉ ((pool sys f w₀ m).run (Pool.init m) acts).1.sessions.map (·.sid)) :
    (events ((pool sys f w₀ m).run (Pool.init m) acts).2 sid).getLast? =
      some (.call .close) := by
  rw [Pool.traced_run sys f w₀ m acts sid]
  exact engine_run_close hf w₀ _ ((Pool.inv_run sys f w₀ m acts).sessOk.closed sid hlt hgone)

/-- A session whose socket fails is closed by its worker, with `xxfi_close` last. -/
theorem pool_closed_close_readError :
    0 < ((pool ⟨fun _ => none⟩ countingFilter 0 0).run (Pool.init 0)
        [.connect, .detach 2 true, .feed 2 .readError, .finish 2]).1.nextSid ∧
      0 ∉ ((pool ⟨fun _ => none⟩ countingFilter 0 0).run (Pool.init 0)
        [.connect, .detach 2 true, .feed 2 .readError, .finish 2]).1.sessions.map (·.sid) ∧
      (events ((pool ⟨fun _ => none⟩ countingFilter 0 0).run (Pool.init 0)
        [.connect, .detach 2 true, .feed 2 .readError, .finish 2]).2 0).getLast? =
        some (.call .close) :=
  have hlt : 0 < ((pool ⟨fun _ => none⟩ countingFilter 0 0).run (Pool.init 0)
      [.connect, .detach 2 true, .feed 2 .readError, .finish 2]).1.nextSid := by decide
  have hgone : 0 ∉ ((pool ⟨fun _ => none⟩ countingFilter 0 0).run (Pool.init 0)
      [.connect, .detach 2 true, .feed 2 .readError, .finish 2]).1.sessions.map (·.sid) := by
    decide
  ⟨hlt, hgone, pool_closed_close _ _ _ _ rfl _ hlt hgone⟩

/-- **The counters are exact.**  Whatever the scheduler does, `tm_nb_idle` is the number of
workers in `TASKMGR_COND_WAIT`, and `tm_nb_workers` the number of workers past
`tm_nb_workers++` and not yet gone. -/
theorem pool_counters (acts : List Act) :
    ((pool sys f w₀ m).run (Pool.init m) acts).1.nbIdle =
        ((pool sys f w₀ m).run (Pool.init m) acts).1.workers.countP (· == .idle) ∧
      ((pool sys f w₀ m).run (Pool.init m) acts).1.nbWorkers =
        ((pool sys f w₀ m).run (Pool.init m) acts).1.workers.countP Pc.counted :=
  ⟨(Pool.inv_run sys f w₀ m acts).idle, (Pool.inv_run sys f w₀ m acts).counted⟩

end Whole

end Milter

end Pmilter
