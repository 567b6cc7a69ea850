import Mathlib.Logic.Relation
import Mathlib.Data.List.Induction
import Mathlib.Computability.DFA

/-!
# Deterministic machines with outputs

A `Mealy` machine reads one input at a time; each step moves to a new state and emits a list
of outputs.  Event loops (a protocol engine reading commands from a socket, a controller
reacting to events) are given their semantics as such machines: the inputs are what the
outside world delivers, the outputs are what the loop does that an observer can see.

## Main definitions

* `Mealy S I O` : a step function `S → I → S × List O`.
* `Mealy.run` : the state and the outputs after a list of inputs.
* `Mealy.Reach s₀ s` : `s` is reached from `s₀` by some list of inputs.

## Main results

* `Mealy.run_append` : a run of `is ++ js` is a run of `is` followed by a run of `js`.
* `Mealy.run_invariant` : a property kept by every step holds after every run;
  `Mealy.run_invariant_of` when the inputs are restricted.
* `Mealy.run_map` : a map of states that commutes with the steps commutes with the runs.
* `Mealy.run_outputs` : if every step from an invariant state emits only outputs satisfying
  `Q`, every run from such a state does.
* `Mealy.run_history` : a relation between the state and the outputs so far, kept by each
  step, holds after every run.
* `Mealy.reach_iff` : the reachable states are exactly the states after some run.
* `Mealy.run_evalFrom` : the monitor rule: a safety property of the outputs, given as a `DFA`
  reading them, holds of every run once each step keeps the machine's state and the
  automaton's state related.
-/

/-- A deterministic machine with states `S`, inputs `I` and outputs `O`. -/
structure Mealy (S : Type*) (I : Type*) (O : Type*) where
  /-- `step s i = (s', os)` : in state `s`, input `i` leads to `s'` and emits `os`. -/
  step : S → I → S × List O

namespace Mealy

variable {S I O : Type*} (M : Mealy S I O)

/-- The final state and all outputs, in order, of the run on a list of inputs. -/
def run : S → List I → S × List O
  | s, [] => (s, [])
  | s, i :: is => ((run (M.step s i).1 is).1, (M.step s i).2 ++ (run (M.step s i).1 is).2)

/-- `s` is reached from `s₀` in zero or more steps. -/
inductive Reach (s₀ : S) : S → Prop
  | refl : Reach s₀ s₀
  | tail {s : S} (i : I) : Reach s₀ s → Reach s₀ (M.step s i).1

variable {M}

@[simp] theorem run_nil (s : S) : M.run s [] = (s, []) := rfl

@[simp] theorem run_cons (s : S) (i : I) (is : List I) :
    M.run s (i :: is) =
      ((M.run (M.step s i).1 is).1, (M.step s i).2 ++ (M.run (M.step s i).1 is).2) := rfl

theorem run_append (s : S) (is js : List I) :
    M.run s (is ++ js) =
      ((M.run (M.run s is).1 js).1, (M.run s is).2 ++ (M.run (M.run s is).1 js).2) := by
  induction is generalizing s with
  | nil => simp
  | cons i is ih => simp [ih]

theorem run_fst_append (s : S) (is js : List I) :
    (M.run s (is ++ js)).1 = (M.run (M.run s is).1 js).1 := by
  rw [run_append]

theorem run_singleton (s : S) (i : I) : M.run s [i] = M.step s i := by
  simp

/-- Every run from a state satisfying an invariant kept by each step ends in such a state. -/
theorem run_invariant {P : S → Prop} (hstep : ∀ s i, P s → P (M.step s i).1) {s : S}
    (hs : P s) (is : List I) : P (M.run s is).1 := by
  induction is generalizing s with
  | nil => exact hs
  | cons i is ih => exact ih (hstep s i hs)

/-- Every run on inputs satisfying `A` from a state satisfying an invariant ends in such a state,
if each step on such an input keeps it. -/
theorem run_invariant_of {P : S → Prop} {A : I → Prop}
    (hstep : ∀ s i, A i → P s → P (M.step s i).1) {s : S} (hs : P s) {is : List I}
    (his : ∀ i ∈ is, A i) : P (M.run s is).1 := by
  induction is generalizing s with
  | nil => exact hs
  | cons i is ih =>
    exact ih (hstep s i (his i List.mem_cons_self) hs) fun j hj => his j (List.mem_cons_of_mem i hj)

/-- **Projection rule.**  If `π` maps each step of `M` to the step of `N` from the image state,
with the same outputs, it maps every run of `M` to a run of `N`: `N` is `M` with part of its
state forgotten. -/
theorem run_map {T : Type*} {N : Mealy T I O} (π : S → T)
    (h : ∀ s i, N.step (π s) i = (π (M.step s i).1, (M.step s i).2)) (s : S) (is : List I) :
    N.run (π s) is = (π (M.run s is).1, (M.run s is).2) := by
  induction is generalizing s with
  | nil => rfl
  | cons i is ih => simp only [run_cons, h, ih]

/-- **Output rule.**  If each step from a state satisfying the invariant `P` emits only outputs
satisfying `Q`, so does every run from such a state. -/
theorem run_outputs {P : S → Prop} {Q : O → Prop} (hstep : ∀ s i, P s → P (M.step s i).1)
    (hout : ∀ s i, P s → ∀ o ∈ (M.step s i).2, Q o) {s : S} (hs : P s) (is : List I) :
    ∀ o ∈ (M.run s is).2, Q o := by
  induction is generalizing s with
  | nil => simp
  | cons i is ih =>
    intro o ho
    rw [run_cons, List.mem_append] at ho
    rcases ho with ho | ho
    · exact hout s i hs o ho
    · exact ih (hstep s i hs) o ho

/-- **History rule.**  A relation between the state and the outputs so far that holds at the
start and that each step from a state satisfying the invariant `P` keeps holds after every run:
the rule for a property of the whole history, such as what the outputs tagged with one name
are. -/
theorem run_history {P : S → Prop} {R : S → List O → Prop} (hP : ∀ s i, P s → P (M.step s i).1)
    (hR : ∀ s out i, P s → R s out → R (M.step s i).1 (out ++ (M.step s i).2)) {s : S}
    (hs : P s) {out : List O} (h : R s out) (is : List I) :
    R (M.run s is).1 (out ++ (M.run s is).2) := by
  induction is generalizing s out with
  | nil => simpa using h
  | cons i is ih =>
    rw [run_cons, ← List.append_assoc]
    exact ih (hP s i hs) (hR s out i hs h)

namespace Reach

theorem trans {s₀ s s' : S} (h : M.Reach s₀ s) (h' : M.Reach s s') : M.Reach s₀ s' := by
  induction h' with
  | refl => exact h
  | tail i _ ih => exact ih.tail i

/-- Reachable states satisfy every invariant that holds initially and is kept by each step. -/
theorem invariant {P : S → Prop} {s₀ s : S} (h : M.Reach s₀ s) (h₀ : P s₀)
    (hstep : ∀ s i, P s → P (M.step s i).1) : P s := by
  induction h with
  | refl => exact h₀
  | tail i _ ih => exact hstep _ i ih

end Reach

theorem reach_run (s₀ : S) (is : List I) : M.Reach s₀ (M.run s₀ is).1 := by
  induction is using List.reverseRecOn with
  | nil => exact .refl
  | append_singleton is i ih =>
    rw [run_fst_append, run_singleton]
    exact ih.tail i

theorem Reach.exists_run {s₀ s : S} (h : M.Reach s₀ s) : ∃ is, (M.run s₀ is).1 = s := by
  induction h with
  | refl => exact ⟨[], rfl⟩
  | tail i _ ih =>
    obtain ⟨is, rfl⟩ := ih
    exact ⟨is ++ [i], by rw [run_fst_append, run_singleton]⟩

/-- The reachable states are exactly the states at the end of some run. -/
theorem reach_iff {s₀ s : S} : M.Reach s₀ s ↔ ∃ is, (M.run s₀ is).1 = s :=
  ⟨Reach.exists_run, fun ⟨is, h⟩ => h ▸ reach_run s₀ is⟩

/-! ### Monitors -/

/-- **Monitor rule.**  Let `R` relate the machine's states to the states of an automaton `D`
that reads the machine's outputs.  If from related states every step's outputs drive `D` to a
state related to the step's new state, then the outputs of every run do. -/
theorem run_evalFrom {σ : Type*} {D : DFA O σ} {R : S → σ → Prop}
    (hstep : ∀ s d i, R s d → R (M.step s i).1 (D.evalFrom d (M.step s i).2)) {s : S} {d : σ}
    (h : R s d) (is : List I) : R (M.run s is).1 (D.evalFrom d (M.run s is).2) := by
  induction is generalizing s d with
  | nil => exact h
  | cons i is ih =>
    rw [run_cons, DFA.evalFrom_of_append]
    exact ih (hstep s d i h)

end Mealy
