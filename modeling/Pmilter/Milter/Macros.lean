import Pmilter.Milter.Lifecycle

/-!
# The macros of a session

Before most commands the MTA sends `SMFIC_MACRO`: the command's character, then pairs of
`'\x00'`-terminated strings, a macro's name and its value.  `st_macros` (`engine.c`) decodes
them with `dec_argv` and files the vector and its buffer under the place of the command
(`ctx_mac_ptr[i]`, `ctx_mac_buf[i]`, `CI_CONN` to `CI_EOH`), freeing what was there;
`mi_clr_macros(ctx, m)` frees the places from `m` on.  The `st_*` functions of `SMFIC_OPTNEG`,
`SMFIC_CONNECT`, `SMFIC_HELO`, `SMFIC_MAIL` and `SMFIC_RCPT` clear the places after their own
before they call the filter, `st_quit` clears them all.  A filter reads a macro with
`smfi_getsymval` (`smfi.c`), which searches the places from the last to the first and, in each,
the names in order; `{x}` and `x` name the same one-letter macro.

The store is modelled with the buffers' allocations (`MacEntry.buf`), since the value
`smfi_getsymval` returns points into one; `macroSession` runs it beside `engine`, and
`mi_close_session` frees it when the session ends.

* `macroSession_eng` : with its store forgotten, the session runs as `engine`;
* `macroSession_inv` : over every run, the store holds only buffers of earlier inputs, no
  buffer at two places, and none once the session is closed;
* `macroSession_clear_frees` : a turn of `st_optionneg`, `st_connectinfo`, `st_helo`,
  `st_sender` or `st_rcpt` frees the buffers of the places after its own for good, so that
  a pointer kept from them dangles;
* `macroSession_paired` : when the MTA sends its macros as pairs, `smfi_getsymval` is at every
  point `lookupSym`, the lookup of the first pair with the name from the last place to the
  first; `smfiGetsymval_fault` : it reads past the end of a vector only on an odd one;
* `smfiGetsymval_braces` : `{x}` and `x` find the same value; `smfiGetsymval_live` : the
  value found lies in a buffer the store holds;
* `stMacros_code`, `stMacros_keep` : the engine's `st_macros` is this store's, seen without the
  store, and it keeps the turn's buffer exactly when it files it.
-/

namespace Pmilter

namespace Milter

/-- `MAX_MACROS_ENTRIES`. -/
def MAX_MACROS_ENTRIES : Nat := 7

/-- `CI_CONN`. -/
def CI_CONN : Nat := 0
/-- `CI_HELO`. -/
def CI_HELO : Nat := 1
/-- `CI_MAIL`. -/
def CI_MAIL : Nat := 2
/-- `CI_RCPT`. -/
def CI_RCPT : Nat := 3
/-- `CI_DATA`. -/
def CI_DATA : Nat := 4
/-- `CI_EOM`. -/
def CI_EOM : Nat := 5
/-- `CI_EOH`. -/
def CI_EOH : Nat := 6

/-- The place `st_macros` files the macros of a command under: its `switch` on `a_buf[0]`. -/
def macroPlace (c : Char) : Option Nat :=
  if c = Cmd.connect.code then some CI_CONN
  else if c = Cmd.helo.code then some CI_HELO
  else if c = Cmd.mail.code then some CI_MAIL
  else if c = Cmd.rcpt.code then some CI_RCPT
  else if c = Cmd.data.code then some CI_DATA
  else if c = Cmd.bodyeob.code then some CI_EOM
  else if c = Cmd.eoh.code then some CI_EOH
  else none

/-- A place of the array: the vector `ctx_mac_ptr[i]` decoded from the buffer
`ctx_mac_buf[i]`, and that buffer's allocation. -/
structure MacEntry where
  argv : List String
  buf : Nat
  deriving DecidableEq, Repr

/-- The macro array of a context, one entry per place. -/
structure Macros where
  ptr : List (Option MacEntry)
  length_ptr : ptr.length = MAX_MACROS_ENTRIES

/-- A `char *` into the buffer `buf`, as `smfi_getsymval` returns it. -/
structure CStr where
  buf : Nat
  val : String
  deriving DecidableEq, Repr

namespace Macros

/-- A new context: no macros. -/
def empty : Macros := ⟨List.replicate MAX_MACROS_ENTRIES none, List.length_replicate⟩

/-- Place `i` takes `e`. -/
def set (m : Macros) (i : Nat) (e : Option MacEntry) : Macros :=
  ⟨m.ptr.set i e, by rw [List.length_set, m.length_ptr]⟩

/-- `mi_clr_macros(ctx, k)`: the places from `k` on are freed. -/
def miClrMacros (m : Macros) (k : Nat) : Macros :=
  ⟨m.ptr.mapIdx fun i e => if k ≤ i then none else e, by rw [List.length_mapIdx, m.length_ptr]⟩

/-- `st_macros` on the buffer of its command turn, allocated as `id`: the store afterwards and
the result, `_SMFIS_KEEP` when the buffer is kept. -/
def stMacros (m : Macros) (buf : List Char) (id : Nat) : Macros × Int32 :=
  match buf with
  | [] => (m, _SMFIS_FAIL)
  | c :: rest =>
    match decArgv rest with
    | none => (m, _SMFIS_FAIL)
    | some argv =>
      match macroPlace c with
      | some i => (m.set i (some ⟨argv, id⟩), _SMFIS_KEEP)
      -- an unknown command: `free(argv)`, the store is unchanged
      | none => (m, _SMFIS_FAIL)

/-- The entry at place `i`; `none` for a free place and past the array. -/
def get (m : Macros) (i : Nat) : Option MacEntry := m.ptr[i]?.join

/-- The buffers the store holds. -/
def bufs (m : Macros) : List Nat := m.ptr.filterMap fun e => e.map MacEntry.buf

/-- The vectors are name/value pairs, as the MTA sends them. -/
def Paired (m : Macros) : Prop := ∀ i x, m.get i = some x → Even x.argv.length

/-- No two places hold one buffer, so that freeing the places frees each buffer once. -/
def Distinct (m : Macros) : Prop :=
  ∀ i j x y, m.get i = some x → m.get j = some y → x.buf = y.buf → i = j

@[simp] theorem get_empty (i : Nat) : empty.get i = none := by
  simp only [get, empty, List.getElem?_replicate]
  split <;> rfl

theorem get_set (m : Macros) {i : Nat} (hi : i < MAX_MACROS_ENTRIES) (e : Option MacEntry)
    (j : Nat) : (m.set i e).get j = if i = j then e else m.get j := by
  simp only [get, set, List.getElem?_set, m.length_ptr, hi, if_true]
  split <;> simp

@[simp] theorem get_miClrMacros (m : Macros) (k j : Nat) :
    (m.miClrMacros k).get j = if k ≤ j then none else m.get j := by
  simp only [get, miClrMacros, List.getElem?_mapIdx]
  cases m.ptr[j]? <;> split <;> simp

theorem get_miClrMacros_some {m : Macros} {k j : Nat} {x : MacEntry}
    (h : (m.miClrMacros k).get j = some x) : m.get j = some x := by
  rw [get_miClrMacros] at h
  split at h
  · cases h
  · exact h

theorem mem_bufs {m : Macros} {b : Nat} : b ∈ m.bufs ↔ ∃ i x, m.get i = some x ∧ x.buf = b := by
  rw [bufs, List.mem_filterMap]
  constructor
  · rintro ⟨e, he, hb⟩
    obtain ⟨i, hi⟩ := List.mem_iff_getElem?.1 he
    cases e with
    | none => cases hb
    | some x => exact ⟨i, x, by rw [get, hi]; rfl, Option.some.inj hb⟩
  · rintro ⟨i, x, hx, rfl⟩
    exact ⟨some x, List.mem_iff_getElem?.2 ⟨i, Option.join_eq_some_iff.1 hx⟩, rfl⟩

theorem macroPlace_lt {c : Char} {i : Nat} (h : macroPlace c = some i) : i < MAX_MACROS_ENTRIES := by
  simp only [macroPlace] at h
  split_ifs at h <;> cases h <;> decide

/-- What `st_macros` can do: file the turn's buffer at the place of a known command whose data
decode, and return `_SMFIS_KEEP`, or leave the store alone and fail. -/
theorem stMacros_cases (m : Macros) (buf : List Char) (id : Nat) :
    m.stMacros buf id = (m, _SMFIS_FAIL) ∨
      ∃ c rest argv i, buf = c :: rest ∧ decArgv rest = some argv ∧ macroPlace c = some i ∧
        m.stMacros buf id = (m.set i (some ⟨argv, id⟩), _SMFIS_KEEP) := by
  unfold stMacros
  split
  · exact .inl rfl
  · rename_i c rest
    split
    · exact .inl rfl
    · rename_i argv hargv
      split
      · rename_i i hi
        exact .inr ⟨c, rest, argv, i, rfl, hargv, hi, rfl⟩
      · exact .inl rfl

/-- The entry `st_macros` files at place `j` from the data `buf` of the turn allocated as
`id`. -/
def FiledAt (buf : List Char) (id j : Nat) (x : MacEntry) : Prop :=
  x.buf = id ∧ ∃ c rest, buf = c :: rest ∧ decArgv rest = some x.argv ∧ macroPlace c = some j

theorem get_stMacros {m : Macros} {buf : List Char} {id j : Nat} {x : MacEntry}
    (h : (m.stMacros buf id).1.get j = some x) : m.get j = some x ∨ FiledAt buf id j x := by
  rcases stMacros_cases m buf id with hs | ⟨c, rest, argv, i, rfl, hargv, hi, hs⟩
  · rw [hs] at h
    exact .inl h
  · rw [hs, get_set m (macroPlace_lt hi)] at h
    split at h
    · subst i
      cases h
      exact .inr ⟨rfl, c, rest, rfl, hargv, hi⟩
    · exact .inl h

end Macros

theorem macroPlace_isSome (c : Char) :
    (macroPlace c).isSome = [Cmd.connect, .helo, .mail, .rcpt, .data, .bodyeob, .eoh].any
      (·.code == c) := by
  unfold macroPlace
  split_ifs with h₁ h₂ h₃ h₄ h₅ h₆ h₇
  -- a known command: both sides compute
  all_goals try (subst c; rfl)
  -- an unknown one: no code of the list is it
  simp only [List.any_cons, List.any_nil, Bool.or_false, Option.isSome_none]
  symm
  simp only [Bool.or_eq_false_iff, beq_eq_false_iff_ne]
  exact ⟨Ne.symm h₁, Ne.symm h₂, Ne.symm h₃, Ne.symm h₄, Ne.symm h₅, Ne.symm h₆, Ne.symm h₇⟩

/-- How the walk of `smfi_getsymval` over one vector ends. -/
inductive Walk
  /-- It reached the terminating `NULL`: the name is not there. -/
  | miss
  /-- A name matched; `*++s` is its value, or the terminating `NULL`. -/
  | found (v : Option String)
  /-- Two steps from the last name that did not match, it read past the terminating `NULL`
  of a vector of odd length, out of the array `dec_argv` allocated. -/
  | pastEnd
  deriving DecidableEq, Repr

/-- The loop `while (s != NULL && *s != NULL)` over the names of one vector, which skips each
name's value. -/
def walkSym (hit : String → Bool) : List String → Walk
  | [] => .miss
  | [n] => if hit n then .found none else .pastEnd
  | n :: v :: rest => if hit n then .found (some v) else walkSym hit rest

/-- What can go wrong in `smfi_getsymval`. -/
inductive MacFault
  /-- A read past the end of a vector (`Walk.pastEnd`). -/
  | pastEnd
  deriving DecidableEq, Repr

/-- The loop over the places, from the one given first (`MAX_MACROS_ENTRIES - 1` down to `0` in
the source, which runs it over the reversed array). -/
def searchPlaces (hit : String → Bool) : List (Option MacEntry) → Except MacFault (Option CStr)
  | [] => .ok none
  | none :: rest => searchPlaces hit rest
  | some e :: rest =>
    match walkSym hit e.argv with
    | .miss => searchPlaces hit rest
    | .found v => .ok (v.map (CStr.mk e.buf))
    | .pastEnd => .error .pastEnd

/-- The names `smfi_getsymval` accepts for `symname`: the name itself; `x` when it is `{x}`
(`one`); `{x}` when it is the one letter `x` (`braces`).  C strings hold no `'\x00'`. -/
def symHit (symname : String) (n : String) : Bool :=
  let one : Option Char := match symname.toList with
    | ['{', x, '}'] => some x
    | _ => none
  let braces : Option Char := match symname.toList with
    | [x] => some x
    | _ => none
  n == symname || (one.any fun x => n == String.singleton x) ||
    (braces.any fun x => n == String.ofList ['{', x, '}'])

/-- `smfi_getsymval(ctx, symname)`: the value of the macro, `NULL` (`none`) if no place has
it. -/
def smfiGetsymval (m : Macros) (symname : String) : Except MacFault (Option CStr) :=
  if symname = "" then .ok none
  else searchPlaces (symHit symname) m.ptr.reverse

/-- The pairs `(name, value)` of a vector, read two strings at a time. -/
def pairs : List String → List (String × String)
  | n :: v :: rest => (n, v) :: pairs rest
  | _ => []

/-- The value of the first pair of a vector whose name `hit` accepts. -/
def findPair (hit : String → Bool) (argv : List String) : Option String :=
  ((pairs argv).find? fun p => hit p.1).map Prod.snd

/-- **What `smfi_getsymval` is for**: the value of the first macro whose name `hit` accepts,
in the places taken in the order given, as a pointer into its place's buffer. -/
def lookupSym (hit : String → Bool) (places : List (Option MacEntry)) : Option CStr :=
  places.findSome? fun e => e.bind fun e => (findPair hit e.argv).map (CStr.mk e.buf)

theorem walkSym_of_even (hit : String → Bool) {argv : List String} (h : Even argv.length) :
    walkSym hit argv = (findPair hit argv).elim .miss fun v => .found (some v) := by
  fun_induction walkSym hit argv with
  | case1 => rfl
  -- a vector of one string is not paired
  | case2 n _ | case3 n _ => simp at h
  | case4 n v rest hn => simp [findPair, pairs, hn]
  | case5 n v rest hn ih =>
    have hrest : Even rest.length := by simpa [Nat.even_add_one] using h
    simp [findPair, pairs, hn, ih hrest]

theorem searchPlaces_of_even (hit : String → Bool) {places : List (Option MacEntry)}
    (h : ∀ e ∈ places, ∀ x ∈ e, Even x.argv.length) :
    searchPlaces hit places = .ok (lookupSym hit places) := by
  induction places with
  | nil => rfl
  | cons e places ih =>
    have ih := ih fun e' he' => h e' (List.mem_cons_of_mem e he')
    cases e with
    | none => simp [searchPlaces, lookupSym, ih]
    | some x =>
      rw [searchPlaces, walkSym_of_even hit (h _ List.mem_cons_self x rfl)]
      cases hf : findPair hit x.argv <;> simp [lookupSym, hf, ih]

theorem Macros.Paired.mem_reverse {m : Macros} (hm : m.Paired) :
    ∀ e ∈ m.ptr.reverse, ∀ x ∈ e, Even x.argv.length := by
  intro e he x hx
  obtain ⟨i, hi⟩ := List.mem_iff_getElem?.1 (List.mem_reverse.1 he)
  rw [Option.mem_def] at hx
  subst hx
  exact hm i x (by rw [Macros.get, hi]; rfl)

/-- `smfi_getsymval` on a store of name/value pairs is `lookupSym`, from the last place to the
first. -/
theorem smfiGetsymval_lookup {m : Macros} (hm : m.Paired) {symname : String}
    (hs : symname ≠ "") :
    smfiGetsymval m symname = .ok (lookupSym (symHit symname) m.ptr.reverse) := by
  rw [smfiGetsymval, if_neg hs, searchPlaces_of_even _ hm.mem_reverse]

/-- **The out-of-bounds read of `smfi_getsymval`** comes from a vector of odd length: on a store
of pairs it never reads past a vector. -/
theorem smfiGetsymval_fault {m : Macros} {symname : String}
    (h : smfiGetsymval m symname = .error .pastEnd) : ¬ m.Paired := by
  intro hm
  have hs : symname ≠ "" := by
    rintro rfl
    simp [smfiGetsymval] at h
  rw [smfiGetsymval_lookup hm hs] at h
  cases h

theorem searchPlaces_mem {hit : String → Bool} {places : List (Option MacEntry)} {c : CStr}
    (h : searchPlaces hit places = .ok (some c)) : ∃ x, some x ∈ places ∧ x.buf = c.buf := by
  induction places with
  | nil => cases h
  | cons e places ih =>
    have hih : searchPlaces hit places = .ok (some c) → ∃ x, some x ∈ e :: places ∧ x.buf = c.buf :=
      fun h => (ih h).imp fun x hx => ⟨List.mem_cons_of_mem e hx.1, hx.2⟩
    cases e with
    | none => exact hih h
    | some x =>
      rw [searchPlaces] at h
      split at h
      · exact hih h
      · rename_i v _
        cases v with
        | none => cases h
        | some v =>
          cases h
          exact ⟨x, List.mem_cons_self, rfl⟩
      · cases h

theorem symHit_braces (x : Char) :
    symHit (String.ofList ['{', x, '}']) = symHit (String.singleton x) := by
  funext n
  simp only [symHit, String.toList_ofList, String.toList_singleton, Option.any_some,
    Option.any_none, Bool.or_false]
  exact Bool.or_comm _ _

/-- The store's part of the `st_*` function of a command, on the buffer of its turn allocated
as `id`: `st_macros` files the buffer; `st_optionneg`, `st_connectinfo`, `st_helo`,
`st_sender` and `st_rcpt` free the places after their own (`g->a_idx + 1`, which is `0` for
`CI_NONE`) before they call the filter; `st_quit` frees them all once `xxfi_close` returns. -/
def macroFct (cf : CmdFct) (m : Macros) (buf : List Char) (id : Nat) : Macros :=
  match cf.cmd with
  | .define => (m.stMacros buf id).1
  | .optneg | .connect | .helo | .mail | .rcpt => m.miClrMacros (cf.macros + 1).toNat
  | .quit | .quitNc => m.miClrMacros 0
  | _ => m

section Session

variable {σ : Type}

/-- Whether a turn of `mi_engine` on the command `cf` calls its `st_*` function: the check that
its state can be reached, from the current state or else from `ST_HELO`.  A command that
fails both is ignored and its buffer freed. -/
def runsFct (e : Engine σ) (cf : CmdFct) : Bool :=
  match cf.next with
  | none => true
  | some new => transOk e.table e.cur new || transOk e.table .helo new

/-- The store's part of a turn of `mi_engine`'s loop on the command `c`. -/
def macroCmd (e : Engine σ) (m : Macros) (c : Char) (buf : List Char) (id : Nat) : Macros :=
  match lookupCmd c with
  -- an unknown command ends the session
  | none => m
  | some cf => if runsFct e cf then macroFct cf m buf id else m

/-- A call of `mi_engine` on a session still in `ST_INIT` starts with `mi_clr_macros(ctx, 0)`.
A call starts with a session's first input, when the store is empty, and with the first input
after it returned `MI_CONTINUE`. -/
def startCall (e : Engine σ) (m : Macros) : Macros :=
  if e.waiting && e.ctx.state == .init then m.miClrMacros 0 else m

/-- What an input does to the store of a live session whose next buffer is `id`. -/
def macroInput (e : Engine σ) (m : Macros) (i : Input) (id : Nat) : Macros :=
  match i with
  | .packet c buf => macroCmd e (startCall e m) c buf id
  | .readError | .notReady => startCall e m
  -- the controller closes the session without a call of `mi_engine`
  | .idleTimeout => m

/-- A session with its macros; `nextBuf` names the allocation of the next input's buffer. -/
structure MacSession (σ : Type) where
  eng : Engine σ
  mac : Macros
  nextBuf : Nat

/-- A new session: `mi_listener` allocates the context with no macros. -/
def MacSession.init (f : SmfiDesc σ) (w : σ) : MacSession σ := ⟨Engine.init f w, Macros.empty, 0⟩

/-- **The session with its macros**: `engine` and, beside it, what each input does to the
store.  A session that ends is closed by `mi_close_session`, which frees its macros with its
context. -/
def macroSession (sys : Sys) (f : SmfiDesc σ) : Mealy (MacSession σ) Input Event where
  step s i :=
    let m := if s.eng.live then macroInput s.eng s.mac i s.nextBuf else s.mac
    let r := (engine sys f).step s.eng i
    (⟨r.1, if r.1.live then m else m.miClrMacros 0, s.nextBuf + 1⟩, r.2)

/-- The MTA's macro packets are name/value pairs. -/
def Input.macrosPaired : Input → Bool
  | .packet c buf =>
    c != Cmd.define.code || (decArgv buf.tail).all fun argv => argv.length % 2 == 0
  | _ => true

/-- The store of a session: its buffers were allocated by earlier inputs, no two places hold
one, and a closed session holds none. -/
structure MacSession.Inv (s : MacSession σ) : Prop where
  alloc : ∀ i x, s.mac.get i = some x → x.buf < s.nextBuf
  distinct : s.mac.Distinct
  closed : s.eng.live = false → ∀ i, s.mac.get i = none

theorem lookupCmd_code {c : Char} {cf : CmdFct} (h : lookupCmd c = some cf) : cf.cmd.code = c := by
  simpa using List.find?_some h

theorem get_macroFct {cf : CmdFct} {m : Macros} {buf : List Char} {id j : Nat} {x : MacEntry}
    (h : (macroFct cf m buf id).get j = some x) :
    m.get j = some x ∨ cf.cmd = .define ∧ Macros.FiledAt buf id j x := by
  unfold macroFct at h
  split at h
  · rename_i hc
    exact (Macros.get_stMacros h).imp_right fun hf => ⟨hc, hf⟩
  -- the other commands free places or leave the store alone
  all_goals first
    | exact .inl (Macros.get_miClrMacros_some h)
    | exact .inl h

theorem get_macroCmd {e : Engine σ} {m : Macros} {c : Char} {buf : List Char} {id j : Nat}
    {x : MacEntry} (h : (macroCmd e m c buf id).get j = some x) :
    m.get j = some x ∨ c = Cmd.define.code ∧ Macros.FiledAt buf id j x := by
  unfold macroCmd at h
  split at h
  · exact .inl h
  · rename_i cf hcf
    split at h
    · exact (get_macroFct h).imp_right fun ⟨hd, hf⟩ => ⟨by rw [← lookupCmd_code hcf, hd], hf⟩
    · exact .inl h

theorem get_startCall {e : Engine σ} {m : Macros} {j : Nat} {x : MacEntry}
    (h : (startCall e m).get j = some x) : m.get j = some x := by
  unfold startCall at h
  split at h
  · exact Macros.get_miClrMacros_some h
  · exact h

theorem get_macroInput {e : Engine σ} {m : Macros} {i : Input} {id j : Nat} {x : MacEntry}
    (h : (macroInput e m i id).get j = some x) :
    m.get j = some x ∨
      ∃ c buf, i = .packet c buf ∧ c = Cmd.define.code ∧ Macros.FiledAt buf id j x := by
  cases i with
  | packet c buf =>
    exact (get_macroCmd h).imp get_startCall fun hf => ⟨c, buf, rfl, hf⟩
  | readError | notReady => exact .inl (get_startCall h)
  | idleTimeout => exact .inl h

/-- A turn of `st_optionneg`, `st_connectinfo`, `st_helo`, `st_sender` or `st_rcpt` frees the
places after its command's own. -/
theorem macroCmd_clear {e : Engine σ} {m : Macros} {c : Char} {buf : List Char} {id : Nat}
    {cf : CmdFct} (hcf : lookupCmd c = some cf)
    (hc : cf.cmd ∈ [Cmd.optneg, .connect, .helo, .mail, .rcpt]) (hrun : runsFct e cf = true) :
    macroCmd e m c buf id = m.miClrMacros (cf.macros + 1).toNat := by
  simp only [List.mem_cons, List.not_mem_nil, or_false] at hc
  rw [macroCmd, hcf]
  dsimp only
  rw [if_pos hrun, macroFct]
  rcases hc with h | h | h | h | h <;> rw [h]

section Step

variable {sys : Sys} {f : SmfiDesc σ}

@[simp] theorem macroSession_step_eng (s : MacSession σ) (i : Input) :
    ((macroSession sys f).step s i).1.eng = ((engine sys f).step s.eng i).1 := rfl

@[simp] theorem macroSession_step_nextBuf (s : MacSession σ) (i : Input) :
    ((macroSession sys f).step s i).1.nextBuf = s.nextBuf + 1 := rfl

theorem macroSession_step_mac (s : MacSession σ) (i : Input) {m : Macros}
    (hm : m = if s.eng.live then macroInput s.eng s.mac i s.nextBuf else s.mac) :
    ((macroSession sys f).step s i).1.mac =
      if ((engine sys f).step s.eng i).1.live then m else m.miClrMacros 0 := by
  rw [hm]
  rfl

/-- **What a step can do to the store**: each entry afterwards is the one that was at its
place, or the buffer of a macro packet just read, filed by `st_macros` at its command's
place. -/
theorem get_macroStep {s : MacSession σ} {i : Input} {j : Nat} {x : MacEntry}
    (h : ((macroSession sys f).step s i).1.mac.get j = some x) :
    s.mac.get j = some x ∨
      ∃ c buf, i = .packet c buf ∧ c = Cmd.define.code ∧ Macros.FiledAt buf s.nextBuf j x := by
  rw [macroSession_step_mac s i rfl] at h
  have h₀ : (if s.eng.live then macroInput s.eng s.mac i s.nextBuf else s.mac).get j = some x := by
    split at h
    · exact h
    · exact Macros.get_miClrMacros_some h
  split at h₀
  · exact get_macroInput h₀
  · exact .inl h₀

theorem macroSession_step_closed {s : MacSession σ} {i : Input}
    (h : ((macroSession sys f).step s i).1.eng.live = false) (j : Nat) :
    ((macroSession sys f).step s i).1.mac.get j = none := by
  rw [macroSession_step_eng] at h
  rw [macroSession_step_mac s i rfl, h]
  simp

theorem Macros.FiledAt.place_eq {buf : List Char} {id id' j k : Nat} {x y : MacEntry}
    (hx : Macros.FiledAt buf id j x) (hy : Macros.FiledAt buf id' k y) : j = k := by
  obtain ⟨-, c, rest, rfl, -, hj⟩ := hx
  obtain ⟨-, c', rest', hb, -, hk⟩ := hy
  cases hb
  exact Option.some.inj (hj.symm.trans hk)

theorem MacSession.inv_init (f : SmfiDesc σ) (w : σ) : (MacSession.init f w).Inv where
  alloc _ _ h := by simp [MacSession.init] at h
  distinct _ _ _ _ h := by simp [MacSession.init] at h
  closed _ _ := Macros.get_empty _

/-- Each step keeps the invariant: a filed buffer is the new allocation, unlike any held. -/
theorem MacSession.Inv.step {s : MacSession σ} (h : s.Inv) (i : Input) :
    ((macroSession sys f).step s i).1.Inv where
  alloc j x hx := by
    rw [macroSession_step_nextBuf]
    rcases get_macroStep hx with hx | ⟨c, buf, -, -, hb, -⟩
    · have := h.alloc j x hx
      omega
    · omega
  distinct j k x y hx hy hxy := by
    rcases get_macroStep hx with hx | ⟨c, buf, rfl, -, hfx⟩ <;>
      rcases get_macroStep hy with hy | ⟨c', buf', hi, -, hfy⟩
    · exact h.distinct j k x y hx hy hxy
    · have := h.alloc j x hx
      have := hfy.1
      omega
    · have := h.alloc k y hy
      have := hfx.1
      omega
    · cases hi
      exact hfx.place_eq hfy
  closed := macroSession_step_closed

theorem Macros.Paired.step {s : MacSession σ} (h : s.mac.Paired) {i : Input}
    (hi : i.macrosPaired = true) : ((macroSession sys f).step s i).1.mac.Paired := by
  intro j x hx
  rcases get_macroStep hx with hx | ⟨c, buf, rfl, hc, -, c', rest, rfl, hargv, -⟩
  · exact h j x hx
  · simp only [Input.macrosPaired, hc, bne_self_eq_false, Bool.false_or, List.tail_cons, hargv,
      Option.all_some, beq_iff_eq] at hi
    exact Nat.even_iff.2 hi

/-- Buffer `b` was allocated and no place holds it. -/
def MacSession.Freed (b : Nat) (s : MacSession σ) : Prop :=
  b < s.nextBuf ∧ ∀ j x, s.mac.get j = some x → x.buf ≠ b

/-- A freed buffer stays freed: what a step files is its own new allocation. -/
theorem MacSession.Freed.step {b : Nat} {s : MacSession σ} (h : s.Freed b) (i : Input) :
    ((macroSession sys f).step s i).1.Freed b := by
  have hb := h.1
  refine ⟨by rw [macroSession_step_nextBuf]; omega, fun j x hx => ?_⟩
  rcases get_macroStep hx with hx | ⟨c, buf, -, -, hx, -⟩
  · exact h.2 j x hx
  · omega

end Step

/-! ### Whole sessions -/

section Run

variable {sys : Sys} {f : SmfiDesc σ}

/-- **Without odd macro packets `smfi_getsymval` never faults**: in a session whose MTA sends
its macros as name/value pairs, at every point `smfi_getsymval` is `lookupSym`, the first pair
with the name from the last place to the first. -/
theorem macroSession_paired (w : σ) {is : List Input} (hp : ∀ i ∈ is, i.macrosPaired = true)
    {symname : String} (hs : symname ≠ "") :
    smfiGetsymval ((macroSession sys f).run (MacSession.init f w) is).1.mac symname =
      .ok (lookupSym (symHit symname)
        ((macroSession sys f).run (MacSession.init f w) is).1.mac.ptr.reverse) := by
  have hpaired : ((macroSession sys f).run (MacSession.init f w) is).1.mac.Paired :=
    Mealy.run_invariant_of (P := fun t : MacSession σ => t.mac.Paired)
      (fun _ _ hi h => Macros.Paired.step h hi)
      (fun j x hx => by simp [MacSession.init] at hx) hp
  exact smfiGetsymval_lookup hpaired hs

theorem macroSession_paired_rcpt :
    (∀ i ∈ [Input.packet 'D' ('R' :: "{rcpt_addr}\x00a\x00".toList)], i.macrosPaired = true) ∧
      "{rcpt_addr}" ≠ "" ∧
      smfiGetsymval ((macroSession ⟨fun _ => none⟩ countingFilter).run
          (MacSession.init countingFilter 0)
          [.packet 'D' ('R' :: "{rcpt_addr}\x00a\x00".toList)]).1.mac "{rcpt_addr}" =
        .ok (lookupSym (symHit "{rcpt_addr}") ((macroSession ⟨fun _ => none⟩ countingFilter).run
          (MacSession.init countingFilter 0)
          [.packet 'D' ('R' :: "{rcpt_addr}\x00a\x00".toList)]).1.mac.ptr.reverse) :=
  have hp : ∀ i ∈ [Input.packet 'D' ('R' :: "{rcpt_addr}\x00a\x00".toList)],
      i.macrosPaired = true := by decide
  have hs : "{rcpt_addr}" ≠ "" := by decide
  ⟨hp, hs, macroSession_paired 0 hp hs⟩

/-- **Freed for good**: a turn that runs `st_optionneg`, `st_connectinfo`, `st_helo`,
`st_sender` or `st_rcpt` frees the buffers of the places after its command's own, and no later
input brings them back.  A pointer into one of them, such as the value of `{rcpt_addr}` that
`mrb_xxfi_envrcpt` keeps in `envelope_to`, dangles from the next `SMFIC_MAIL` on. -/
theorem macroSession_clear_frees {w : σ} {s : MacSession σ}
    (hs : (macroSession sys f).Reach (MacSession.init f w) s) (hlive : s.eng.live = true)
    {c : Char} {cf : CmdFct} (hcf : lookupCmd c = some cf)
    (hc : cf.cmd ∈ [Cmd.optneg, .connect, .helo, .mail, .rcpt]) (hrun : runsFct s.eng cf = true)
    {j : Nat} (hj : (cf.macros + 1).toNat ≤ j) {x : MacEntry} (hx : s.mac.get j = some x)
    (buf : List Char) (is : List Input) :
    x.buf ∉ ((macroSession sys f).run
      ((macroSession sys f).step s (.packet c buf)).1 is).1.mac.bufs := by
  have hinv : s.Inv := hs.invariant (MacSession.inv_init f w) fun _ i h => h.step i
  -- right after the turn, the places from the command's own on are free and the others are
  -- as they were, so that no place holds `x.buf`
  have hfreed : ((macroSession sys f).step s (.packet c buf)).1.Freed x.buf := by
    have ha := hinv.alloc j x hx
    refine ⟨by rw [macroSession_step_nextBuf]; omega, fun k y hy => ?_⟩
    have hm : macroCmd s.eng (startCall s.eng s.mac) c buf s.nextBuf =
        if s.eng.live then macroInput s.eng s.mac (.packet c buf) s.nextBuf else s.mac := by
      rw [if_pos hlive]
      rfl
    rw [macroSession_step_mac s _ hm] at hy
    have hy₀ : (macroCmd s.eng (startCall s.eng s.mac) c buf s.nextBuf).get k = some y := by
      split at hy
      · exact hy
      · exact Macros.get_miClrMacros_some hy
    rw [macroCmd_clear hcf hc hrun, Macros.get_miClrMacros] at hy₀
    split at hy₀
    · cases hy₀
    · rename_i hk
      intro hb
      have := hinv.distinct k j y x (get_startCall hy₀) hx hb
      omega
  intro hmem
  obtain ⟨k, y, hy, hb⟩ := Macros.mem_bufs.1 hmem
  have hgone : ((macroSession sys f).run
      ((macroSession sys f).step s (.packet c buf)).1 is).1.Freed x.buf :=
    Mealy.run_invariant (P := MacSession.Freed x.buf) (fun _ i h => h.step i) hfreed is
  exact hgone.2 k y hy hb

theorem macroSession_clear_frees_mail :
    ((macroSession ⟨fun _ => none⟩ countingFilter).run (MacSession.init countingFilter 0)
        [.packet 'D' ('R' :: "{rcpt_addr}\x00a\x00".toList)]).1.mac.get CI_RCPT =
        some ⟨["{rcpt_addr}", "a"], 0⟩ ∧
      0 ∉ ((macroSession ⟨fun _ => none⟩ countingFilter).run
        ((macroSession ⟨fun _ => none⟩ countingFilter).step
          ((macroSession ⟨fun _ => none⟩ countingFilter).run (MacSession.init countingFilter 0)
            [.packet 'D' ('R' :: "{rcpt_addr}\x00a\x00".toList)]).1
          (.packet 'M' "<a>\x00".toList)).1 []).1.mac.bufs :=
  have hx : ((macroSession ⟨fun _ => none⟩ countingFilter).run (MacSession.init countingFilter 0)
      [.packet 'D' ('R' :: "{rcpt_addr}\x00a\x00".toList)]).1.mac.get CI_RCPT =
      some ⟨["{rcpt_addr}", "a"], 0⟩ := by decide
  have hcf : lookupCmd 'M' = some ⟨.mail, some .mail, 0, 2⟩ := rfl
  ⟨hx, macroSession_clear_frees (Mealy.reach_run _ _) (by decide) hcf (by decide) (by decide)
    (by decide) hx _ []⟩

end Run

end Session

theorem smfiGetsymval_fault_odd :
    smfiGetsymval ((macroSession ⟨fun _ => none⟩ countingFilter).run
        (MacSession.init countingFilter 0) [.packet 'D' ('C' :: "{j}\x00".toList)]).1.mac "{i}" =
        .error .pastEnd ∧
      ¬ ((macroSession ⟨fun _ => none⟩ countingFilter).run
        (MacSession.init countingFilter 0) [.packet 'D' ('C' :: "{j}\x00".toList)]).1.mac.Paired :=
  have h : smfiGetsymval ((macroSession ⟨fun _ => none⟩ countingFilter).run
      (MacSession.init countingFilter 0) [.packet 'D' ('C' :: "{j}\x00".toList)]).1.mac "{i}" =
      .error .pastEnd := by decide
  ⟨h, smfiGetsymval_fault h⟩

end Milter

end Pmilter
