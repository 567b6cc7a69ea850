import Pmilter.Lib.Layout

/-!
# The date of a log line

`pmilter_log_core_error` (`pmilter_log.c`) prints every log line after the date that
`pmilter_http_date_str` (`pmilter_utils.c`) writes into its buffer `char date[64]`, in the
form `Sat, 27 Dec 2014 08:30:29 GMT`.  The numbers are written by `dig_memcpy`, which fills a
field of `len` characters from its last character down to its first with the decimal digits of
`n`, least significant first.

The writes into the buffer are a log (`Layout.image`), and the date they should leave is the
fixed-width format `httpDateFormat` rendered from the fields of the broken-down time.  The
C library's `gmtime_r` is a parameter; its documented field ranges are the hypothesis
`Tm.InRange`.

* `digMemcpyLoop_lays` : the loop of `dig_memcpy` lays out the `len` low decimal digits of a
  nonnegative `n`, zero padded, and writes nothing else;
* `pmilterHttpDateStr_lays` : `pmilter_http_date_str` writes exactly the rendered date and its
  terminating `'\x00'`;
* `pmilterHttpDateStr_spec` : so it writes 30 bytes, from `date` on, inside the 64 of the
  buffer, and the 29 characters read back as the fields of the time.
-/

namespace Pmilter

open Layout

/-- `MONTH`. -/
def MONTH : List (List Char) :=
  [['J', 'a', 'n'], ['F', 'e', 'b'], ['M', 'a', 'r'], ['A', 'p', 'r'], ['M', 'a', 'y'],
    ['J', 'u', 'n'], ['J', 'u', 'l'], ['A', 'u', 'g'], ['S', 'e', 'p'], ['O', 'c', 't'],
    ['N', 'o', 'v'], ['D', 'e', 'c']]

/-- `DAY_OF_WEEK`. -/
def DAY_OF_WEEK : List (List Char) :=
  [['S', 'u', 'n'], ['M', 'o', 'n'], ['T', 'u', 'e'], ['W', 'e', 'd'], ['T', 'h', 'u'],
    ['F', 'r', 'i'], ['S', 'a', 't']]

/-- `struct tm`, the fields `pmilter_http_date_str` reads (each a C `int`). -/
structure Tm where
  tmSec : Int32
  tmMin : Int32
  tmHour : Int32
  tmMday : Int32
  tmMon : Int32
  tmYear : Int32
  tmWday : Int32
  deriving DecidableEq, Repr

/-- `tbl[i]` for a table of strings: undefined (`none`) outside its bounds. -/
def tableAt (tbl : List (List Char)) (i : Int32) : Option (List Char) :=
  if 0 ≤ i.toInt then tbl[i.toInt.toNat]? else none

/-- `memcpy(p, s, n)` from the C string `s`: its `n` first characters, `'\x00'` after its
end. -/
def memcpy (p : Int) (s : List Char) (n : Nat) : List (Int × Char) :=
  (List.range n).map fun i => (p + (i : Nat), s.getD i '\x00')

/-- The loop of `dig_memcpy`, `do { *p-- = (n % 10) + '0'; n /= 10; } while (p >= buf)`, as
the writes it makes (C's `%` and `/` truncate toward zero). -/
def digMemcpyLoop (buf p n : Int) : List (Int × Char) :=
  (p, Char.ofNat (n.tmod 10 + 48).toNat) ::
    if buf ≤ p - 1 then digMemcpyLoop buf (p - 1) (n.tdiv 10) else []
termination_by (p - buf).toNat
decreasing_by omega

/-- `dig_memcpy(buf, n, len)`: its writes, from `p = buf + len - 1` down, and the pointer
`buf + len` it returns. -/
def digMemcpy (buf n : Int) (len : Nat) : List (Int × Char) × Int :=
  (digMemcpyLoop buf (buf + len - 1) n, buf + len)

/-- `pmilter_http_date_str(time, date)`: the writes into `date`, or `none` where a table is
read out of its bounds.  Nothing is written when `gmtime_r` fails. -/
def pmilterHttpDateStr (gmtimeR : Int64 → Option Tm) (time : Int64) (date : Int) :
    Option (List (Int × Char)) :=
  match gmtimeR time with
  | none => some []
  | some t => do
    let p := date
    let wday ← tableAt DAY_OF_WEEK t.tmWday
    let w := memcpy p wday 3
    let p := p + 3
    let w := w ++ [(p, ',')]
    let p := p + 1
    let w := w ++ [(p, ' ')]
    let p := p + 1
    let (d, p) := digMemcpy p t.tmMday.toInt 2
    let w := w ++ d
    let w := w ++ [(p, ' ')]
    let p := p + 1
    let mon ← tableAt MONTH t.tmMon
    let w := w ++ memcpy p mon 3
    let p := p + 3
    let w := w ++ [(p, ' ')]
    let p := p + 1
    let (d, p) := digMemcpy p (t.tmYear + 1900).toInt 4
    let w := w ++ d
    let w := w ++ [(p, ' ')]
    let p := p + 1
    let (d, p) := digMemcpy p t.tmHour.toInt 2
    let w := w ++ d
    let w := w ++ [(p, ':')]
    let p := p + 1
    let (d, p) := digMemcpy p t.tmMin.toInt 2
    let w := w ++ d
    let w := w ++ [(p, ':')]
    let p := p + 1
    let (d, p) := digMemcpy p t.tmSec.toInt 2
    let w := w ++ d
    let w := w ++ memcpy p [' ', 'G', 'M', 'T'] 4
    let p := p + 4
    return w ++ [(p, '\x00')]

/-! ### What the date should be -/

/-- The format `Www, DD Mon YYYY HH:MM:SS GMT`. -/
def httpDateFormat : List Field :=
  [.name 3 DAY_OF_WEEK, .lit [',', ' '], .num 2, .lit [' '], .name 3 MONTH, .lit [' '], .num 4,
    .lit [' '], .num 2, .lit [':'], .num 2, .lit [':'], .num 2, .lit [' ', 'G', 'M', 'T']]

example : render httpDateFormat [6, 27, 11, 2014, 8, 30, 29] =
    ['S', 'a', 't', ',', ' ', '2', '7', ' ', 'D', 'e', 'c', ' ', '2', '0', '1', '4', ' ', '0',
      '8', ':', '3', '0', ':', '2', '9', ' ', 'G', 'M', 'T'] := by
  decide

/-- The fields of a broken-down time in the order of the format: weekday, day of the month,
month, year (`tm_year + 1900`), hour, minute, second. -/
def Tm.fields (t : Tm) : List Nat :=
  [t.tmWday.toInt.toNat, t.tmMday.toInt.toNat, t.tmMon.toInt.toNat, (t.tmYear.toInt + 1900).toNat,
    t.tmHour.toInt.toNat, t.tmMin.toInt.toNat, t.tmSec.toInt.toNat]

/-- The ranges `gmtime_r` documents for the fields it fills (a leap second is `tm_sec = 60`),
with a year in `[0, 9999]`. -/
structure Tm.InRange (t : Tm) : Prop where
  sec : 0 ≤ t.tmSec.toInt ∧ t.tmSec.toInt ≤ 60
  min : 0 ≤ t.tmMin.toInt ∧ t.tmMin.toInt ≤ 59
  hour : 0 ≤ t.tmHour.toInt ∧ t.tmHour.toInt ≤ 23
  mday : 1 ≤ t.tmMday.toInt ∧ t.tmMday.toInt ≤ 31
  mon : 0 ≤ t.tmMon.toInt ∧ t.tmMon.toInt ≤ 11
  year : 0 ≤ t.tmYear.toInt + 1900 ∧ t.tmYear.toInt + 1900 ≤ 9999
  wday : 0 ≤ t.tmWday.toInt ∧ t.tmWday.toInt ≤ 6

/-! ### `dig_memcpy` -/

/-- One turn of the loop, on a nonnegative number: the lowest digit at `p`, then the rest of
the number from `p - 1` while `p - 1` is still in the field. -/
theorem digMemcpyLoop_eq (buf p : Int) (n : Nat) :
    digMemcpyLoop buf p n =
      (p, digitChar (n % 10)) :: if buf ≤ p - 1 then digMemcpyLoop buf (p - 1) (n / 10 : Nat)
        else [] := by
  rw [digMemcpyLoop]
  have hmod : ((n : Int).tmod 10 + 48).toNat = 48 + n % 10 := by
    rw [Int.tmod_eq_emod_of_nonneg (by omega)]
    omega
  have hdiv : (n : Int).tdiv 10 = ((n / 10 : Nat) : Int) := by
    rw [Int.tdiv_eq_ediv_of_nonneg (by omega)]
    omega
  rw [hmod, hdiv]
  rfl

/-- **The loop of `dig_memcpy`** from `buf + k` down to `buf` lays out the `k + 1` low decimal
digits of `n`, zero padded, and writes nothing else. -/
theorem digMemcpyLoop_lays (buf : Int) (k n : Nat) :
    Lays buf (padDigits (k + 1) n) (digMemcpyLoop buf (buf + k) n) := by
  induction k generalizing n with
  | zero =>
    rw [digMemcpyLoop_eq, if_neg (by omega)]
    simpa [padDigits] using Lays.singleton buf (digitChar (n % 10))
  | succ k ih =>
    rw [digMemcpyLoop_eq, if_pos (by omega)]
    have hrest : buf + ↑(k + 1) - 1 = buf + k := by omega
    rw [hrest]
    -- the lowest digit is written first, at the end of the field
    have hlast := Lays.singleton (buf + ↑(k + 1)) (digitChar (n % 10))
    exact Lays.append_rev (ih (n / 10)) hlast (by simp)

/-- **`dig_memcpy`** on a field of `len ≥ 1` characters lays out the `len` low decimal digits
of a nonnegative `n` and returns the end of the field. -/
theorem digMemcpy_lays (buf : Int) (n : Nat) {len : Nat} (hlen : 0 < len) :
    Lays buf (padDigits len n) (digMemcpy buf n len).1 ∧ (digMemcpy buf n len).2 = buf + len := by
  obtain ⟨k, rfl⟩ : ∃ k, len = k + 1 := ⟨len - 1, by omega⟩
  have hp : buf + ↑(k + 1) - 1 = buf + k := by omega
  refine ⟨?_, rfl⟩
  simp only [digMemcpy, hp]
  exact digMemcpyLoop_lays buf k n

/-! ### The other pieces -/

/-- `memcpy` of a whole string. -/
theorem memcpy_lays (p : Int) {s : List Char} {n : Nat} (hs : s.length = n) :
    Lays p s (memcpy p s n) := by
  have hmap : (List.range n).map (fun i => s.getD i '\x00') = s := by
    subst hs
    apply List.ext_getElem (by simp)
    intro i _ hi
    simp [List.getElem?_eq_getElem hi]
  have h := Lays.range p (fun i => s.getD i '\x00') n
  rwa [hmap] at h

/-- A name of the table at an index within its bounds. -/
theorem tableAt_of_lt (tbl : List (List Char)) {i : Int32} {n : Nat} (hi : i.toInt = n)
    (hn : n < tbl.length) : tableAt tbl i = some (tbl.getD n []) := by
  unfold tableAt
  rw [if_pos (by omega), hi, Int.toNat_natCast, List.getD_eq_getElem?_getD,
    List.getElem?_eq_getElem hn]
  rfl

@[simp] theorem MONTH_length : MONTH.length = 12 := rfl

@[simp] theorem DAY_OF_WEEK_length : DAY_OF_WEEK.length = 7 := rfl

theorem MONTH_getD_length {i : Nat} (hi : i < 12) : (MONTH.getD i []).length = 3 := by
  have h : ∀ i < 12, (MONTH.getD i []).length = 3 := by decide
  exact h i hi

theorem DAY_OF_WEEK_getD_length {i : Nat} (hi : i < 7) : (DAY_OF_WEEK.getD i []).length = 3 := by
  have h : ∀ i < 7, (DAY_OF_WEEK.getD i []).length = 3 := by decide
  exact h i hi

/-- `tm_year + 1900` does not overflow for a year in range. -/
theorem Tm.InRange.year_toInt {t : Tm} (hr : t.InRange) :
    (t.tmYear + 1900).toInt = t.tmYear.toInt + 1900 := by
  have h1900 : (1900 : Int32).toInt = 1900 := by decide
  rw [Int32.toInt_add, h1900]
  have := hr.year
  exact Int.bmod_eq_of_le (by omega) (by omega)

/-- The fields of a time in range fit the format. -/
theorem Tm.InRange.fits {t : Tm} (hr : t.InRange) : Fits httpDateFormat t.fields := by
  have hnames : (∀ n ∈ DAY_OF_WEEK, n.length = 3) ∧ DAY_OF_WEEK.Nodup ∧
      (∀ n ∈ MONTH, n.length = 3) ∧ MONTH.Nodup := by decide
  obtain ⟨hw, hwn, hm, hmn⟩ := hnames
  have := hr.sec; have := hr.min; have := hr.hour; have := hr.mday; have := hr.mon
  have := hr.year; have := hr.wday
  simp only [httpDateFormat, Tm.fields, Fits, DAY_OF_WEEK_length, MONTH_length, Nat.reducePow]
  refine ⟨?_, hw, hwn, ?_, ?_, hm, hmn, ?_, ?_, ?_, ?_, trivial⟩ <;> omega

/-- The rendered date is 29 characters long. -/
theorem Tm.InRange.render_length {t : Tm} (hr : t.InRange) :
    (render httpDateFormat t.fields).length = 29 := by
  have hw := DAY_OF_WEEK_getD_length (show t.tmWday.toInt.toNat < 7 by have := hr.wday; omega)
  have hm := MONTH_getD_length (show t.tmMon.toInt.toNat < 12 by have := hr.mon; omega)
  simp only [render, httpDateFormat, Tm.fields, List.length_append, List.length_cons,
    List.length_nil, padDigits_length, hw, hm]

/-- No name of a table holds a `'\x00'`. -/
theorem nul_not_mem_getD {tbl : List (List Char)} (htbl : ∀ s ∈ tbl, '\x00' ∉ s) (i : Nat) :
    '\x00' ∉ tbl.getD i [] := by
  rw [List.getD_eq_getElem?_getD]
  cases h : tbl[i]? with
  | none => simp
  | some s => exact htbl s (List.mem_of_getElem? h)

/-- The rendered date holds no `'\x00'`, so it is a C string of its 29 characters. -/
theorem nul_not_mem_render (t : Tm) : '\x00' ∉ render httpDateFormat t.fields := by
  have hnul : ('\x00').isDigit = false := by decide
  have hdig : ∀ {w n}, '\x00' ∉ padDigits w n := fun h => by
    rw [isDigit_of_mem_padDigits h] at hnul
    contradiction
  have hwday := @nul_not_mem_getD DAY_OF_WEEK (by decide) t.tmWday.toInt.toNat
  have hmon := @nul_not_mem_getD MONTH (by decide) t.tmMon.toInt.toNat
  simp only [render, httpDateFormat, Tm.fields, List.mem_append, hdig, hwday, hmon, false_or]
  decide

/-! ### `pmilter_http_date_str` -/

/-- **`pmilter_http_date_str` writes the date**: for a time that `gmtime_r` breaks down into
fields in range, the writes lay out the rendered date and its terminating `'\x00'` from `date`
on, and nothing else.  Each step is one statement of the C routine, writing its piece where
the pointer `p` has got to. -/
theorem pmilterHttpDateStr_lays {gmtimeR : Int64 → Option Tm} {time : Int64} {t : Tm}
    (date : Int) (ht : gmtimeR time = some t) (hr : t.InRange) :
    ∃ w, pmilterHttpDateStr gmtimeR time date = some w ∧
      Lays date (render httpDateFormat t.fields ++ ['\x00']) w := by
  -- the fields as the natural numbers the format reads
  obtain ⟨wd, hwd⟩ : ∃ n : Nat, t.tmWday.toInt = n := ⟨_, (Int.toNat_of_nonneg hr.wday.1).symm⟩
  obtain ⟨md, hmd⟩ : ∃ n : Nat, t.tmMday.toInt = n := ⟨_, (Int.toNat_of_nonneg (by have := hr.mday; omega)).symm⟩
  obtain ⟨mo, hmo⟩ : ∃ n : Nat, t.tmMon.toInt = n := ⟨_, (Int.toNat_of_nonneg hr.mon.1).symm⟩
  obtain ⟨yr, hyr⟩ : ∃ n : Nat, (t.tmYear + 1900).toInt = n :=
    ⟨_, (Int.toNat_of_nonneg (by rw [hr.year_toInt]; exact hr.year.1)).symm⟩
  obtain ⟨hh, hhh⟩ : ∃ n : Nat, t.tmHour.toInt = n := ⟨_, (Int.toNat_of_nonneg hr.hour.1).symm⟩
  obtain ⟨mi, hmi⟩ : ∃ n : Nat, t.tmMin.toInt = n := ⟨_, (Int.toNat_of_nonneg hr.min.1).symm⟩
  obtain ⟨se, hse⟩ : ∃ n : Nat, t.tmSec.toInt = n := ⟨_, (Int.toNat_of_nonneg hr.sec.1).symm⟩
  have hwday := tableAt_of_lt DAY_OF_WEEK hwd (by have := hr.wday; simp; omega)
  have hmon := tableAt_of_lt MONTH hmo (by have := hr.mon; simp; omega)
  have hwlen := DAY_OF_WEEK_getD_length (show wd < 7 by have := hr.wday; omega)
  have hmlen := MONTH_getD_length (show mo < 12 by have := hr.mon; omega)
  simp only [pmilterHttpDateStr, ht, hwday, hmon, digMemcpy, Option.bind_eq_bind, Option.bind_some,
    hmd, hyr, hhh, hmi, hse]
  refine ⟨_, rfl, ?_⟩
  have hrender : render httpDateFormat t.fields ++ ['\x00'] =
      DAY_OF_WEEK.getD wd [] ++ [','] ++ [' '] ++ padDigits 2 md ++ [' '] ++ MONTH.getD mo [] ++
        [' '] ++ padDigits 4 yr ++ [' '] ++ padDigits 2 hh ++ [':'] ++ padDigits 2 mi ++ [':'] ++
        padDigits 2 se ++ [' ', 'G', 'M', 'T'] ++ ['\x00'] := by
    rw [hr.year_toInt] at hyr
    simp [render, httpDateFormat, Tm.fields, hwd, hmd, hmo, hyr, hhh, hmi, hse]
  rw [hrender]
  -- from the last write back to the first: `*p = '\0'`, then `memcpy(p, " GMT", 4)`, ...
  refine Lays.append ?_ (Lays.singleton _ _) ?_
  refine Lays.append ?_ (memcpy_lays _ rfl) ?_
  refine Lays.append ?_ (digMemcpy_lays _ _ (by decide)).1 ?_
  refine Lays.append ?_ (Lays.singleton _ _) ?_
  refine Lays.append ?_ (digMemcpy_lays _ _ (by decide)).1 ?_
  refine Lays.append ?_ (Lays.singleton _ _) ?_
  refine Lays.append ?_ (digMemcpy_lays _ _ (by decide)).1 ?_
  refine Lays.append ?_ (Lays.singleton _ _) ?_
  refine Lays.append ?_ (digMemcpy_lays _ _ (by decide)).1 ?_
  refine Lays.append ?_ (Lays.singleton _ _) ?_
  refine Lays.append ?_ (memcpy_lays _ hmlen) ?_
  refine Lays.append ?_ (Lays.singleton _ _) ?_
  refine Lays.append ?_ (digMemcpy_lays _ _ (by decide)).1 ?_
  refine Lays.append ?_ (Lays.singleton _ _) ?_
  refine Lays.append ?_ (Lays.singleton _ _) ?_
  exact memcpy_lays _ hwlen
  -- where each piece starts: `date` and the lengths of the pieces before it
  all_goals simp only [List.length_append, List.length_cons, List.length_nil, padDigits_length,
    hwlen, hmlen]
  all_goals omega

/-- **`pmilter_http_date_str` is correct and stays in its buffer.**  For a time that `gmtime_r`
breaks down into fields in range (the year in `[0, 9999]`), the routine writes exactly the 30
bytes from `date` on (inside the 64 of `pmilter_log_core_error`'s buffer): the 29 characters of
the date, none of them `'\x00'`, and the terminating `'\x00'`; read back against the format,
the date gives the weekday, day, month, year, hour, minute and second of the time. -/
theorem pmilterHttpDateStr_spec {gmtimeR : Int64 → Option Tm} {time : Int64} {t : Tm}
    (date : Int) (ht : gmtimeR time = some t) (hr : t.InRange) :
    ∃ w, pmilterHttpDateStr gmtimeR time date = some w ∧
      Lays date (render httpDateFormat t.fields ++ ['\x00']) w ∧
      (render httpDateFormat t.fields).length = 29 ∧ '\x00' ∉ render httpDateFormat t.fields ∧
      parse httpDateFormat (render httpDateFormat t.fields) = some t.fields ∧
      ∀ a, (image w a).isSome ↔ date ≤ a ∧ a < date + 30 := by
  obtain ⟨w, hw, hlays⟩ := pmilterHttpDateStr_lays date ht hr
  have hlen := hr.render_length
  refine ⟨w, hw, hlays, hlen, nul_not_mem_render t, parse_render _ _ hr.fits, fun a => ?_⟩
  rw [hlays.image_isSome, List.length_append, hlen]
  simp

/-- `Sat, 27 Dec 2014 08:30:29 GMT`, written from address 0. -/
theorem pmilterHttpDateStr_spec_sample :
    ∃ w, pmilterHttpDateStr (fun _ => some ⟨29, 30, 8, 27, 11, 114, 6⟩) 1419669029 0 = some w ∧
      Lays 0 (render httpDateFormat (Tm.fields ⟨29, 30, 8, 27, 11, 114, 6⟩) ++ ['\x00']) w ∧
      (render httpDateFormat (Tm.fields ⟨29, 30, 8, 27, 11, 114, 6⟩)).length = 29 ∧
      '\x00' ∉ render httpDateFormat (Tm.fields ⟨29, 30, 8, 27, 11, 114, 6⟩) ∧
      parse httpDateFormat (render httpDateFormat (Tm.fields ⟨29, 30, 8, 27, 11, 114, 6⟩)) =
        some (Tm.fields ⟨29, 30, 8, 27, 11, 114, 6⟩) ∧
      ∀ a, (image w a).isSome ↔ 0 ≤ a ∧ a < 0 + 30 :=
  pmilterHttpDateStr_spec 0 rfl
    ⟨by decide, by decide, by decide, by decide, by decide, by decide, by decide⟩

end Pmilter
