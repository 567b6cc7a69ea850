import Mathlib.Init

/-!
# Computations that can fail

A step of a program that can reach an error state is a function into `Except ε α`, written with
`do`.  Proofs about such a step never unfold `bind`: they peel it apart with the inversion
rules here.

* `Except.bind_eq_ok` : a composite computation succeeds exactly when its first part succeeds
  and the rest succeeds on that result;
* `Except.bind_eq_error` : it fails exactly when the first part fails, or the first part
  succeeds and the rest fails;
* `Except.Avoids` : a computation never fails with an error of some kind, with the rules
  `Avoids.bind` and `Avoids.map` that carry it through a `do` block.
-/

universe u v

namespace Except

variable {ε : Type u} {α β : Type v}

@[simp] theorem pure_eq_ok (a : α) : (pure a : Except ε α) = .ok a := rfl

@[simp] theorem throw_eq_error (e : ε) : (throw e : Except ε α) = .error e := rfl

@[simp] theorem ok_bind (a : α) (f : α → Except ε β) : (Except.ok a >>= f) = f a := rfl

@[simp] theorem error_bind (e : ε) (f : α → Except ε β) :
    (Except.error e >>= f : Except ε β) = .error e := rfl

/-- **Inversion of a successful bind.** -/
theorem bind_eq_ok {x : Except ε α} {f : α → Except ε β} {b : β} :
    x >>= f = .ok b ↔ ∃ a, x = .ok a ∧ f a = .ok b := by
  cases x with
  | error e => simp
  | ok a => simp

/-- **Inversion of a failed bind.** -/
theorem bind_eq_error {x : Except ε α} {f : α → Except ε β} {e : ε} :
    x >>= f = .error e ↔ x = .error e ∨ ∃ a, x = .ok a ∧ f a = .error e := by
  cases x with
  | error e' => simp
  | ok a => simp

/-! ### Errors a computation never raises -/

/-- `x` never fails with an error of which `p` holds. -/
def Avoids (p : ε → Prop) (x : Except ε α) : Prop := ∀ e, x = .error e → ¬ p e

theorem Avoids.ok (p : ε → Prop) (a : α) : (Except.ok a : Except ε α).Avoids p := by
  intro e h
  cases h

theorem Avoids.error {p : ε → Prop} {e : ε} (h : ¬ p e) : (Except.error e : Except ε α).Avoids p := by
  rintro e' ⟨⟩
  exact h

/-- **A bind avoids an error** when its first part does and the rest does on every result. -/
theorem Avoids.bind {p : ε → Prop} {x : Except ε α} {f : α → Except ε β} (hx : x.Avoids p)
    (hf : ∀ a, (f a).Avoids p) : (x >>= f).Avoids p := by
  intro e he
  rcases bind_eq_error.mp he with h | ⟨a, -, hfa⟩
  · exact hx e h
  · exact hf a e hfa

theorem Avoids.map {p : ε → Prop} {x : Except ε α} (f : α → β) (hx : x.Avoids p) :
    (f <$> x).Avoids p := by
  intro e he
  cases x with
  | error e' =>
    cases he
    exact hx e rfl
  | ok a => cases he

end Except
