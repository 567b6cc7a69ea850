import Mathlib.Data.List.Basic
import Mathlib.Algebra.Group.Nat.Defs

/-!
# Text laid out in memory

A C routine that formats text into a buffer is a sequence of byte writes.  This library
describes such writes by their log and the memory image they leave, and fixed-width text
formats by their fields:

* `image w` : what memory holds after the log of writes `w` (the last write to an address
  wins); `layout p s` : the string `s` laid out from address `p`; `Lays p s w` : the writes `w`
  lay out `s` from `p` and write nowhere else, with `Lays.append` to chain consecutive pieces;
* `padDigits w n`, `readDigits` : the `w`-digit zero-padded decimal field of `n` and its
  reading, with `readDigits_padDigits`;
* `Field`, `render`, `parse` : a fixed-width format of literals, decimal numbers and names from
  a table, with `parse_render`: a text rendered from values that fit their fields parses back to
  those values.
-/

namespace Layout

/-! ### Writes and the image they leave -/

section Image

variable {α : Type*}

/-- What memory holds at `a` after a log of writes, given in order: the value of the last
write to `a`, or `none`. -/
def image (w : List (Int × α)) (a : Int) : Option α :=
  (w.reverse.find? (·.1 == a)).map Prod.snd

/-- The string `s` laid out from address `p`. -/
def layout (p : Int) (s : List α) (a : Int) : Option α :=
  if p ≤ a then s[(a - p).toNat]? else none

/-- A later write wins. -/
theorem image_append (w₁ w₂ : List (Int × α)) (a : Int) :
    image (w₁ ++ w₂) a = (image w₂ a).or (image w₁ a) := by
  simp only [image, List.reverse_append, List.find?_append]
  cases w₂.reverse.find? (·.1 == a) <;> rfl

/-- One write. -/
theorem image_singleton (p : Int) (x : α) : image [(p, x)] = layout p [x] := by
  funext a
  by_cases h : p = a
  · subst h
    simp [image, layout]
  · have h' : ¬ a = p := Ne.symm h
    simp only [image, layout, List.reverse_singleton, List.find?_singleton, beq_iff_eq, h,
      ↓reduceIte, Option.map_none]
    split
    · have : (a - p).toNat ≠ 0 := by omega
      simp [this]
    · rfl

/-- A layout is defined exactly on its addresses. -/
theorem layout_isSome (p : Int) (s : List α) (a : Int) :
    (layout p s a).isSome ↔ p ≤ a ∧ a < p + s.length := by
  unfold layout
  split
  · rw [isSome_getElem?]
    omega
  · simp only [Option.isSome_none, Bool.false_eq_true, false_iff]
    omega

/-- A layout of two strings: the second from where the first ends. -/
theorem layout_append (p : Int) (s t : List α) (a : Int) :
    layout p (s ++ t) a = (layout (p + s.length) t a).or (layout p s a) := by
  unfold layout
  by_cases hp : p ≤ a
  · by_cases hs : a < p + s.length
    · have hnot : ¬ p + s.length ≤ a := by omega
      simp only [hp, hnot, ↓reduceIte, Option.none_or]
      rw [List.getElem?_append_left (by omega)]
    · have hq : p + s.length ≤ a := by omega
      simp only [hp, hq, ↓reduceIte]
      rw [List.getElem?_append_right (by omega),
        List.getElem?_eq_none (show s.length ≤ (a - p).toNat by omega)]
      have hidx : (a - p).toNat - s.length = (a - (p + s.length)).toNat := by omega
      rw [hidx, Option.or_none]
  · have hq : ¬ p + s.length ≤ a := by omega
    simp [hp, hq]

/-- The writes `w` lay out `s` from `p`, and write nothing else. -/
def Lays (p : Int) (s : List α) (w : List (Int × α)) : Prop :=
  image w = layout p s

/-- **Consecutive pieces**: writes that lay out `s` from `p`, followed by writes that lay out
`t` where `s` ends, lay out `s ++ t`. -/
theorem Lays.append {p q : Int} {s t : List α} {w₁ w₂ : List (Int × α)} (h₁ : Lays p s w₁)
    (h₂ : Lays q t w₂) (hq : q = p + s.length) : Lays p (s ++ t) (w₁ ++ w₂) := by
  funext a
  rw [image_append, layout_append, ← hq]
  rw [h₁, h₂]

/-- **Consecutive pieces, the later one written first**: the pieces do not overlap, so the
order of their writes does not matter. -/
theorem Lays.append_rev {p q : Int} {s t : List α} {w₁ w₂ : List (Int × α)} (h₁ : Lays p s w₁)
    (h₂ : Lays q t w₂) (hq : q = p + s.length) : Lays p (s ++ t) (w₂ ++ w₁) := by
  funext a
  rw [image_append, layout_append, ← hq, h₁, h₂]
  -- an address below `q` is outside `t`, one from `q` on is outside `s`
  rcases Int.lt_or_le a q with ha | ha
  · have hn : layout q t a = none := by
      rw [← Option.not_isSome_iff_eq_none, layout_isSome]
      omega
    rw [hn, Option.none_or, Option.or_none]
  · have hn : layout p s a = none := by
      rw [← Option.not_isSome_iff_eq_none, layout_isSome]
      omega
    rw [hn, Option.none_or, Option.or_none]

theorem Lays.nil (p : Int) : Lays p ([] : List α) [] := by
  funext a
  simp [image, layout]

theorem Lays.singleton (p : Int) (x : α) : Lays p [x] [(p, x)] := image_singleton p x

/-- **Consecutive writes** of `f 0, f 1, ...` from `p` on, as `memcpy` makes them. -/
theorem Lays.range (p : Int) (f : Nat → α) (n : Nat) :
    Lays p ((List.range n).map f) ((List.range n).map fun i => (p + (i : Nat), f i)) := by
  induction n with
  | zero => exact Lays.nil p
  | succ n ih =>
    rw [List.range_succ, List.map_append, List.map_append]
    exact Lays.append ih (Lays.singleton _ _) (by simp)

/-- What a layout writes, in terms of addresses. -/
theorem Lays.image_isSome {p : Int} {s : List α} {w : List (Int × α)} (h : Lays p s w)
    (a : Int) : (image w a).isSome ↔ p ≤ a ∧ a < p + s.length := by
  rw [h]
  exact layout_isSome p s a

end Image

/-! ### Decimal fields -/

/-- The character of the decimal digit `d`. -/
def digitChar (d : Nat) : Char := Char.ofNat (48 + d)

/-- The `w` lowest decimal digits of `n`, most significant first, zero padded. -/
def padDigits : Nat → Nat → List Char
  | 0, _ => []
  | w + 1, n => padDigits w (n / 10) ++ [digitChar (n % 10)]

/-- The value of a string of decimal digits, or `none` if a character is not a digit. -/
def readDigits (cs : List Char) : Option Nat :=
  cs.foldl (fun acc c => acc.bind fun v => if c.isDigit then some (v * 10 + (c.toNat - 48))
    else none) (some 0)

@[simp] theorem padDigits_length (w n : Nat) : (padDigits w n).length = w := by
  induction w generalizing n with
  | zero => rfl
  | succ w ih => simp [padDigits, ih]

theorem digitChar_isDigit {d : Nat} (hd : d < 10) : (digitChar d).isDigit = true := by
  have : ∀ d, d < 10 → (digitChar d).isDigit = true := by decide
  exact this d hd

theorem digitChar_toNat {d : Nat} (hd : d < 10) : (digitChar d).toNat = 48 + d := by
  have : ∀ d, d < 10 → (digitChar d).toNat = 48 + d := by decide
  exact this d hd

/-- A decimal field is made of digits. -/
theorem isDigit_of_mem_padDigits {w n : Nat} {c : Char} (hc : c ∈ padDigits w n) :
    c.isDigit = true := by
  induction w generalizing n with
  | zero => simp [padDigits] at hc
  | succ w ih =>
    rcases List.mem_append.mp hc with h | h
    · exact ih h
    · rw [List.mem_singleton.mp h]
      exact digitChar_isDigit (Nat.mod_lt n (by decide))

theorem readDigits_append_digit (cs : List Char) {d : Nat} (hd : d < 10) :
    readDigits (cs ++ [digitChar d]) = (readDigits cs).map (· * 10 + d) := by
  simp only [readDigits, List.foldl_append, List.foldl_cons, List.foldl_nil,
    digitChar_isDigit hd, ↓reduceIte, digitChar_toNat hd]
  cases List.foldl _ (some 0) cs <;> simp

/-- **A decimal field reads back** as the value it was made of, modulo its width. -/
theorem readDigits_padDigits (w n : Nat) : readDigits (padDigits w n) = some (n % 10 ^ w) := by
  induction w generalizing n with
  | zero => simp [padDigits, readDigits, Nat.mod_one]
  | succ w ih =>
    rw [padDigits, readDigits_append_digit _ (Nat.mod_lt n (by decide)), ih]
    -- the low digit below the digits of `n / 10`
    have h : n % 10 ^ (w + 1) = n / 10 % 10 ^ w * 10 + n % 10 := by
      rw [Nat.pow_succ, Nat.mul_comm, Nat.mod_mul]
      omega
    simp [h]

/-! ### Fixed-width formats -/

/-- A field of a fixed-width text format. -/
inductive Field
  /-- A literal text. -/
  | lit (s : List Char)
  /-- A `w`-digit zero-padded decimal number. -/
  | num (w : Nat)
  /-- One of the names of a table, each `w` characters long, standing for its index. -/
  | name (w : Nat) (tbl : List (List Char))

/-- The text of a format with the values of its number and name fields, in order. -/
def render : List Field → List Nat → List Char
  | [], _ => []
  | .lit s :: fs, vs => s ++ render fs vs
  | .num w :: fs, v :: vs => padDigits w v ++ render fs vs
  | .name _ tbl :: fs, v :: vs => tbl.getD v [] ++ render fs vs
  | _ :: _, [] => []

/-- Read a text against a format: the values of its number and name fields, or `none` if the
text does not have the format. -/
def parse : List Field → List Char → Option (List Nat)
  | [], s => if s = [] then some [] else none
  | .lit l :: fs, s => if s.take l.length = l then parse fs (s.drop l.length) else none
  | .num w :: fs, s =>
    if (s.take w).length = w then
      (readDigits (s.take w)).bind fun v => (parse fs (s.drop w)).map (v :: ·)
    else none
  | .name w tbl :: fs, s =>
    if tbl.idxOf (s.take w) < tbl.length then
      (parse fs (s.drop w)).map (tbl.idxOf (s.take w) :: ·)
    else none

/-- The values fit a format: one per number or name field, a number below `10 ^ w` for a
`w`-digit field, an index of a table of distinct names of the field's width. -/
def Fits : List Field → List Nat → Prop
  | [], vs => vs = []
  | .lit _ :: fs, vs => Fits fs vs
  | .num w :: fs, v :: vs => v < 10 ^ w ∧ Fits fs vs
  | .name w tbl :: fs, v :: vs => v < tbl.length ∧ (∀ n ∈ tbl, n.length = w) ∧ tbl.Nodup ∧ Fits fs vs
  | _ :: _, [] => False

/-- **A rendered text parses back** to the values it was rendered from. -/
theorem parse_render : ∀ (fs : List Field) (vs : List Nat), Fits fs vs →
    parse fs (render fs vs) = some vs
  | [], vs, h => by
    simp only [Fits] at h
    simp [h, render, parse]
  | .lit l :: fs, vs, h => by
    simp only [Fits] at h
    simp [render, parse, parse_render fs vs h]
  | .num w :: fs, v :: vs, h => by
    obtain ⟨hv, hfs⟩ := h
    have hlen : (padDigits w v).length = w := padDigits_length w v
    simp only [render, parse, List.take_left' hlen, List.drop_left' hlen, hlen, ↓reduceIte,
      readDigits_padDigits, Nat.mod_eq_of_lt hv, parse_render fs vs hfs, Option.bind_some,
      Option.map_some]
  | .name w tbl :: fs, v :: vs, h => by
    obtain ⟨hv, hw, hnd, hfs⟩ := h
    have hget : tbl.getD v [] = tbl[v] := by simp [List.getD_eq_getElem?_getD, hv]
    have hlen : (tbl.getD v []).length = w := by
      rw [hget]
      exact hw _ (List.getElem_mem hv)
    have hidx : tbl.idxOf (tbl.getD v []) = v := by
      rw [hget]
      exact hnd.idxOf_getElem v hv
    simp only [render, parse, List.take_left' hlen, List.drop_left' hlen, hidx, hv, ↓reduceIte,
      parse_render fs vs hfs, Option.map_some]
  | .num _ :: _, [], h => by simp [Fits] at h
  | .name _ _ :: _, [], h => by simp [Fits] at h

end Layout
