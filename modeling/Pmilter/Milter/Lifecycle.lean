import Pmilter.Milter.Engine

/-!
# The life of a session

What `mi_engine` guarantees a filter about the order of its callbacks, whatever the MTA sends:
any commands with any data, in any order, and any read errors, waits and idle timeouts.

* `transOk_sound` : `trans_ok` accepts a state only if it is listed in the row of the current
  state or of a later row that `fix_stm` marked as skippable; hence `SMFIC_CONNECT` is accepted
  only in `ST_OPTS` and `ST_Q_NC` (`transOk_conn`), `SMFIC_OPTNEG` only in `ST_INIT`;
* `stFct_calls` : the `st_*` function of a command calls only that command's callbacks;
* `engine_step_ok` : every step keeps the table in the shape `fix_stm` gives it and an open
  session out of `ST_QUIT`;
* `engine_run_close` : every session that ends has `xxfi_close` as its last callback;
* `engine_run_connect` : between two calls of `xxfi_connect` there is a call of `xxfi_close`,
  which the monitor `connectWatch` checks along every run.

This is what pmilter's `mrb_xxfi_connect` and `mrb_xxfi_close` rely on ("was not called on same
connection").  It does not say that `xxfi_close` follows an `xxfi_connect`: a session that
breaks off before `SMFIC_CONNECT` also ends with `xxfi_close` (`Core.Context`).
-/

namespace Pmilter

namespace Milter

/-! ### `trans_ok` -/

theorem MiState.toNat_lt (s : MiState) : s.toNat < SIZE_NEXT_STATES := by
  cases s <;> decide

theorem MiState.toNat_ofNat? {k : Nat} {s : MiState} (h : MiState.ofNat? k = some s) :
    s.toNat = k := by
  unfold MiState.ofNat? at h
  split at h <;> cases h <;> rfl

/-- A table as `mi_engine` keeps it: the rows of `next_states[]`, with the skip bit `NX_SKIP`
only on rows of states that have a "no" flag (`fix_stm`). -/
structure TableOk (tbl : MiState → Nat) : Prop where
  row : ∀ s new : MiState, (tbl s).testBit new.toNat = decide (new ∈ nxList s)
  skip : ∀ s, (tbl s).testBit ST_SKIP = true → (skipFlag s).isSome

theorem TableOk.nextStates : TableOk nextStates :=
  ⟨nextStates_testBit, fun s h => by simp [nextStates_testBit_skip] at h⟩

theorem fixStm_cases (p : Nat) (tbl : MiState → Nat) (s : MiState) :
    fixStm p tbl s = tbl s ∨ ((skipFlag s).isSome ∧ fixStm p tbl s = tbl s ||| MI_MASK ST_SKIP) := by
  unfold fixStm
  split
  · split
    · exact .inr ⟨by simp_all, rfl⟩
    · exact .inl rfl
  · exact .inl rfl

theorem testBit_or_skip (x : Nat) (s : MiState) :
    (x ||| MI_MASK ST_SKIP).testBit s.toNat = x.testBit s.toNat := by
  have hne : ST_SKIP ≠ s.toNat := by
    have := s.toNat_lt
    simp only [ST_SKIP, SIZE_NEXT_STATES] at *
    omega
  rw [Nat.testBit_or, MI_MASK, Nat.one_shiftLeft, Nat.testBit_two_pow]
  simp [hne]

theorem TableOk.fixStm {tbl : MiState → Nat} (h : TableOk tbl) (p : Nat) :
    TableOk (fixStm p tbl) where
  row s new := by
    rcases fixStm_cases p tbl s with he | ⟨-, he⟩
    · rw [he, h.row]
    · rw [he, testBit_or_skip, h.row]
  skip s hs := by
    rcases fixStm_cases p tbl s with he | ⟨hf, -⟩
    · rw [he] at hs
      exact h.skip s hs
    · exact hf

/-- The loop of `trans_ok` accepts `new` only from a row that lists it, reached from the current
row by skipping rows that may be skipped.  By induction on the fuel, one row per turn. -/
theorem transOkLoop_sound {tbl : MiState → Nat} (h : TableOk tbl) {new : MiState} :
    ∀ (fuel : Nat) (s : MiState), transOkLoop tbl new fuel s = true →
      ∃ t, s.toNat ≤ t.toNat ∧ new ∈ nxList t ∧
        ∀ u : MiState, s.toNat < u.toNat → u.toNat ≤ t.toNat → (skipFlag u).isSome
  | 0, s, hl => by simp [transOkLoop] at hl
  | fuel + 1, s, hl => by
    rw [transOkLoop, mask_and_ne_zero, h.row] at hl
    by_cases hs : new ∈ nxList s
    · exact ⟨s, le_refl _, hs, fun u hu hu' => absurd (lt_of_lt_of_le hu hu') (lt_irrefl _)⟩
    · simp only [hs, decide_false, Bool.false_eq_true, ↓reduceIte] at hl
      split at hl
      · cases hl
      · rename_i n hn
        rw [bitset_mask] at hl
        split at hl
        · rename_i hskip
          have hn' := MiState.toNat_ofNat? hn
          obtain ⟨t, hnt, hmem, hu⟩ := transOkLoop_sound h fuel n hl
          refine ⟨t, by omega, hmem, fun u hsu hut => ?_⟩
          by_cases hun : u.toNat = n.toNat
          · rw [MiState.toNat_injective hun]
            exact h.skip n hskip
          · exact hu u (by omega) hut
        · cases hl

theorem transOk_sound {tbl : MiState → Nat} (h : TableOk tbl) {old new : MiState}
    (ht : transOk tbl old new = true) :
    ∃ t, old.toNat ≤ t.toNat ∧ new ∈ nxList t ∧
      ∀ u : MiState, old.toNat < u.toNat → u.toNat ≤ t.toNat → (skipFlag u).isSome :=
  transOkLoop_sound h _ old ht

/-- A state listed only in rows that can never be skipped is accepted only from those rows. -/
theorem transOk_noSkip {tbl : MiState → Nat} (h : TableOk tbl) {old new : MiState}
    (ht : transOk tbl old new = true) (hrows : ∀ t, new ∈ nxList t → skipFlag t = none) :
    new ∈ nxList old := by
  obtain ⟨t, hle, hmem, hu⟩ := transOk_sound h ht
  rcases Nat.lt_or_ge old.toNat t.toNat with hlt | hge
  · have := hu t hlt (le_refl _)
    simp [hrows t hmem] at this
  · rwa [MiState.toNat_injective (le_antisymm hle hge)]

/-- **`SMFIC_CONNECT` is accepted only in `ST_OPTS` or `ST_Q_NC`**, whatever the filter
asked to skip. -/
theorem transOk_conn {tbl : MiState → Nat} (h : TableOk tbl) {old : MiState}
    (ht : transOk tbl old .conn = true) : old = .opts ∨ old = .qnc := by
  have := transOk_noSkip h ht (fun t ht => by cases t <;> simp_all [nxList, skipFlag])
  cases old <;> simp_all [nxList]

/-- `SMFIC_OPTNEG` is accepted only in `ST_INIT`. -/
theorem transOk_opts {tbl : MiState → Nat} (h : TableOk tbl) {old : MiState}
    (ht : transOk tbl old .opts = true) : old = .init := by
  have := transOk_noSkip h ht (fun t ht => by cases t <;> simp_all [nxList, skipFlag])
  cases old <;> simp_all [nxList]

/-! ### The command table -/

theorem lookupCmd_mem {c : Char} {cf : CmdFct} (h : lookupCmd c = some cf) : cf ∈ cmds :=
  List.mem_of_find?_eq_some h

/-- `SMFIC_QUIT` is the only command that enters `ST_QUIT` and the only one that ends the
session (`CT_END`). -/
theorem cmds_quit {cf : CmdFct} (hcf : cf ∈ cmds)
    (h : cf.cmd = .quit ∨ cf.next = some .quit ∨ bitset CT_END cf.todo = true) :
    cf = ⟨.quit, some .quit, CT_END, -1⟩ := by
  simp only [cmds, List.mem_cons, List.not_mem_nil, or_false] at hcf
  rcases hcf with rfl | rfl | rfl | rfl | rfl | rfl | rfl | rfl | rfl | rfl | rfl | rfl | rfl |
    rfl | rfl <;> simp_all [bitset, CT_END, CT_KEEP, CT_IGNO]

/-- The commands that enter the states before a connection: only `SMFIC_QUIT_NC` enters
`ST_Q_NC`, only `SMFIC_OPTNEG` enters `ST_OPTS`, no command enters `ST_INIT`, and
`SMFIC_CONNECT` enters `ST_CONN`. -/
theorem cmds_next {cf : CmdFct} (hcf : cf ∈ cmds) :
    (cf.next = some .qnc → cf.cmd = .quitNc) ∧ (cf.next = some .opts → cf.cmd = .optneg) ∧
      (cf.cmd = .connect → cf.next = some .conn) ∧ cf.next ≠ some .init := by
  simp only [cmds, List.mem_cons, List.not_mem_nil, or_false] at hcf
  rcases hcf with rfl | rfl | rfl | rfl | rfl | rfl | rfl | rfl | rfl | rfl | rfl | rfl | rfl |
    rfl | rfl <;> simp

/-! ### What the `st_*` functions do -/

section Engine

variable {σ : Type} {sys : Sys} {f : SmfiDesc σ}

/-- The part of a session the `st_*` functions leave alone: the protocol state, whether the
session is open and waiting, and the shape of its table. -/
structure Keeps (e e' : Engine σ) : Prop where
  cur : e'.cur = e.cur
  live : e'.live = e.live
  waiting : e'.waiting = e.waiting
  table : TableOk e.table → TableOk e'.table

theorem Keeps.refl (e : Engine σ) : Keeps e e := ⟨rfl, rfl, rfl, id⟩

theorem Keeps.trans {e₁ e₂ e₃ : Engine σ} (h₁ : Keeps e₁ e₂) (h₂ : Keeps e₂ e₃) : Keeps e₁ e₃ :=
  ⟨h₂.cur.trans h₁.cur, h₂.live.trans h₁.live, h₂.waiting.trans h₁.waiting,
    fun h => h₂.table (h₁.table h)⟩

theorem optionnegFinish_keeps {e e' : Engine σ} (h : Keeps e e') (ev : List Event) :
    Keeps e (optionnegFinish e' ev).1 ∧ (optionnegFinish e' ev).2.2 = ev := by
  unfold optionnegFinish
  dsimp only
  -- the result is `e'` with another context, and, when the options are accepted, the table of
  -- `fix_stm`
  split_ifs <;>
    first
    | exact ⟨h.trans ⟨rfl, rfl, rfl, id⟩, rfl⟩
    | exact ⟨h.trans ⟨rfl, rfl, rfl, fun ht => ht.fixStm _⟩, rfl⟩

theorem optionnegFinish_negotiate {e e' : Engine σ} (h : Keeps e e') {ev : List Event}
    (hev : ∀ cb, .call cb ∈ ev → cb = .negotiate) :
    Keeps e (optionnegFinish e' ev).1 ∧
      ∀ cb, .call cb ∈ (optionnegFinish e' ev).2.2 → cb = .negotiate := by
  obtain ⟨hk, hev'⟩ := optionnegFinish_keeps h ev
  rw [hev']
  exact ⟨hk, hev⟩

theorem stOptionneg_keeps (e : Engine σ) (buf : List Char) :
    Keeps e (stOptionneg f e buf).1 ∧
      ∀ cb, .call cb ∈ (stOptionneg f e buf).2.2 → cb = .negotiate := by
  unfold stOptionneg
  split
  · exact ⟨Keeps.refl e, by simp⟩
  split
  · exact ⟨Keeps.refl e, by simp⟩
  extract_lets
  split
  · split
    · split
      extract_lets
      split
      · refine optionnegFinish_negotiate ?_ ?_
        · exact ⟨rfl, rfl, rfl, id⟩
        · simp
      split
      · exact ⟨⟨rfl, rfl, rfl, id⟩, by simp⟩
      · refine optionnegFinish_negotiate ?_ ?_
        · exact ⟨rfl, rfl, rfl, id⟩
        · simp
    · refine optionnegFinish_negotiate ?_ ?_
      · exact ⟨rfl, rfl, rfl, id⟩
      · simp
  · refine optionnegFinish_negotiate ?_ ?_
    · exact ⟨rfl, rfl, rfl, id⟩
    · simp

/-- The `st_*` functions change only the context and the filter's data, and the table through
`fix_stm`. -/
theorem stFct_keeps (c : Cmd) (e : Engine σ) (buf : List Char) :
    Keeps e (stFct sys f c e buf).1 := by
  cases c
  case optneg => exact (stOptionneg_keeps e buf).1
  all_goals
    simp only [stFct, stAbortfct, stMacros, stBodychunk, stConnectinfo, stBodyend, stHelo,
      stHeader, stSender, stRcpt, argvFct, stUnknown, stData, stEoh, stQuit, callOpt]
    repeat' split
    all_goals exact ⟨rfl, rfl, rfl, id⟩

/-- The callbacks that the `st_*` function of each command may call. -/
def Cmd.callbacks : Cmd → List Cb
  | .abort => [.abort]
  | .define => []
  | .body => [.body]
  | .connect => [.connect]
  | .bodyeob => [.body, .eom]
  | .helo => [.helo]
  | .header => [.header]
  | .mail => [.envfrom]
  | .optneg => [.negotiate]
  | .eoh => [.eoh]
  | .quit => [.close]
  | .data => [.data]
  | .rcpt => [.envrcpt]
  | .unknown => [.unknown]
  | .quitNc => [.close]

/-- **The `st_*` function of a command calls only the command's callbacks.** -/
theorem stFct_calls (c : Cmd) (e : Engine σ) (buf : List Char) {cb : Cb}
    (h : .call cb ∈ (stFct sys f c e buf).2.2) : cb ∈ c.callbacks := by
  cases c
  case optneg => simpa [Cmd.callbacks] using (stOptionneg_keeps e buf).2 cb h
  all_goals
    simp only [stFct, stAbortfct, stMacros, stBodychunk, stConnectinfo, stBodyend, stHelo,
      stHeader, stSender, stRcpt, argvFct, stUnknown, stData, stEoh, stQuit, callOpt] at h
    repeat' split at h
    all_goals simp_all [Cmd.callbacks]

theorem Cmd.connect_mem_callbacks {c : Cmd} : Cb.connect ∈ c.callbacks ↔ c = .connect := by
  cases c <;> simp [Cmd.callbacks]

/-- `st_connectinfo` calls `xxfi_connect` at most once. -/
theorem stFct_connect_events (e : Engine σ) (buf : List Char) :
    (stFct sys f .connect e buf).2.2 = [] ∨ (stFct sys f .connect e buf).2.2 = [.call .connect] := by
  simp only [stFct, stConnectinfo]
  repeat' split
  all_goals simp

/-- `SMFIC_QUIT` and `SMFIC_QUIT_NC` call `xxfi_close` and answer nothing. -/
theorem stFct_quit {g : σ → σ × Int32} (hg : f.close = some g) {c : Cmd}
    (hc : c = .quit ∨ c = .quitNc) (e : Engine σ) (buf : List Char) :
    stFct sys f c e buf = ({ e with filt := (g e.filt).1 }, _SMFIS_NOREPLY, [.call .close]) := by
  rcases hc with rfl | rfl <;> simp [stFct, stQuit, callOpt, hg]

theorem callOpt_calls {cb cb' : Cb} {fn : Option (σ → σ × Int32)} {w : σ}
    (h : .call cb' ∈ (callOpt cb fn w).2.2) : cb' = cb := by
  unfold callOpt at h
  split at h <;> simp_all

theorem abortIf_calls {b : Bool} {fn : Option (σ → σ × Int32)} {w : σ} {cb : Cb}
    (h : .call cb ∈ (if b = true then callOpt .abort fn w else (w, 0, [])).2.2) : cb = .abort := by
  split at h
  · exact callOpt_calls h
  · simp at h

theorem sendreply_noreply_quit {ctx : MiCtx} (h : ctx.state = .quit) :
    (sendreply _SMFIS_NOREPLY ctx).2 = none := by
  simp [sendreply, getNrBit, h, _SMFIS_NOREPLY, SMFIS_NOREPLY, SMFIS_CONTINUE, SMFIS_TEMPFAIL,
    SMFIS_REJECT, SMFIS_DISCARD, SMFIS_ACCEPT, SMFIS_SKIP, _SMFIS_OPTIONS]

/-! ### A turn of the loop -/

theorem miEngineEnd_live (e : Engine σ) (ret : Int32) (ca : Bool) :
    (miEngineEnd f e ret ca).1.live = false := rfl

theorem miEngineEnd_table (e : Engine σ) (ret : Int32) (ca : Bool) :
    (miEngineEnd f e ret ca).1.table = e.table := rfl

theorem miEngineEnd_calls (e : Engine σ) (ret : Int32) (ca : Bool) {cb : Cb}
    (h : .call cb ∈ (miEngineEnd f e ret ca).2) : cb = .abort ∨ cb = .close := by
  unfold miEngineEnd at h
  dsimp only at h
  rw [List.mem_append] at h
  rcases h with h | h
  · split_ifs at h
    · exact .inl (callOpt_calls h)
    · simp at h
  · -- the close is called on the data the abort left, so both conditions are split here
    split_ifs at h <;> first | exact .inr (callOpt_calls h) | simp at h

theorem miEngineEnd_last (hf : f.close.isSome) {e : Engine σ} (hq : e.cur ≠ .quit) (ret : Int32)
    (ca : Bool) : (miEngineEnd f e ret ca).2.getLast? = some (.call .close) := by
  obtain ⟨g, hg⟩ := Option.isSome_iff_exists.mp hf
  unfold miEngineEnd
  simp [hq, callOpt, hg]

theorem getLast?_append_miEngineEnd (hf : f.close.isSome) {e : Engine σ} (hq : e.cur ≠ .quit)
    (l : List Event) (ret : Int32) (ca : Bool) :
    (l ++ (miEngineEnd f e ret ca).2).getLast? = some (.call .close) := by
  have hl := miEngineEnd_last hf hq ret ca
  rw [List.getLast?_append_of_ne_nil _ (fun hnil => by simp [hnil] at hl), hl]

theorem miEngineEnd_quit {e : Engine σ} (hq : e.cur = .quit) {ret : Int32}
    (hret : ret ≠ MI_FAILURE) (ca : Bool) : (miEngineEnd f e ret ca).2 = [] := by
  unfold miEngineEnd
  simp [hq, hret]

/-- A turn that leaves the session open was not the last command (`CT_END`), and leaves the
session in the command's state or in `ST_HELO`. -/
theorem miEngineRun_live (e : Engine σ) (cf : CmdFct) (buf : List Char)
    (h : (miEngineRun sys f e cf buf).1.live = true) :
    e.live = true ∧ bitset CT_END cf.todo = false ∧
      ((miEngineRun sys f e cf buf).1.cur = .helo ∨
        (miEngineRun sys f e cf buf).1.cur = cf.next.getD e.cur) := by
  revert h
  unfold miEngineRun
  extract_lets ctx₀ e₁ callAbort
  have he₁ : e₁.cur = cf.next.getD e.cur ∧ e₁.live = e.live := by
    simp only [e₁]
    split <;> simp_all
  rcases hst : stFct sys f cf.cmd e₁ buf with ⟨e₂, r, ev⟩
  have hk : Keeps e₁ e₂ := by simpa [hst] using @stFct_keeps σ sys f cf.cmd e₁ buf
  dsimp only
  split_ifs <;> simp_all [miEngineEnd_live, hk.cur, hk.live]

theorem miEngineRun_table (e : Engine σ) (cf : CmdFct) (buf : List Char)
    (h : TableOk e.table) : TableOk (miEngineRun sys f e cf buf).1.table := by
  unfold miEngineRun
  extract_lets ctx₀ e₁ callAbort
  have he₁ : e₁.table = e.table := by
    simp only [e₁]
    split <;> rfl
  rcases hst : stFct sys f cf.cmd e₁ buf with ⟨e₂, r, ev⟩
  have hk : Keeps e₁ e₂ := by simpa [hst] using @stFct_keeps σ sys f cf.cmd e₁ buf
  have h₂ : TableOk e₂.table := hk.table (he₁ ▸ h)
  dsimp only
  split_ifs <;> simpa [miEngineEnd_table] using h₂

/-- What a turn calls: the command's `st_*` function, then at most `xxfi_abort` and
`xxfi_close` when the session ends. -/
theorem miEngineRun_events (e : Engine σ) (cf : CmdFct) (buf : List Char) :
    ∃ e₁ rest, e₁.cur = cf.next.getD e.cur ∧ e₁.table = e.table ∧
      (miEngineRun sys f e cf buf).2 = (stFct sys f cf.cmd e₁ buf).2.2 ++ rest ∧
      ∀ cb, .call cb ∈ rest → cb = .abort ∨ cb = .close := by
  unfold miEngineRun
  extract_lets ctx₀ e₁ callAbort
  have he₁ : e₁.cur = cf.next.getD e.cur ∧ e₁.table = e.table := by
    simp only [e₁]
    split <;> simp_all
  refine ⟨e₁, ?_⟩
  rcases hst : stFct sys f cf.cmd e₁ buf with ⟨e₂, r, ev⟩
  dsimp only
  -- after the callback come the reply, and at the end of the session `xxfi_abort`, `xxfi_close`
  have hend : ∀ (x : Engine σ) (ret : Int32), ∀ cb,
      .call cb ∈ (Option.map Event.reply (sendreply r e₂.ctx).2).toList ++
        (miEngineEnd f x ret callAbort).2 → cb = .abort ∨ cb = .close := by
    intro x ret cb hcb
    simp only [List.mem_append] at hcb
    rcases hcb with hcb | hcb
    · simp at hcb
    · exact miEngineEnd_calls _ _ _ hcb
  split
  · exact ⟨_, he₁.1, he₁.2, List.append_assoc _ _ _, hend _ _⟩
  split
  · exact ⟨_, he₁.1, he₁.2, List.append_assoc _ _ _, hend _ _⟩
  · exact ⟨_, he₁.1, he₁.2, rfl, fun cb hcb => by simp at hcb⟩

/-- A turn that ends the session calls `xxfi_close` last: `st_quit` does for `SMFIC_QUIT`,
and `mi_engine` does after any other command. -/
theorem miEngineRun_close (hf : f.close.isSome) {e : Engine σ} {cf : CmdFct} (hcf : cf ∈ cmds)
    (hq : cf.next = none → e.cur ≠ .quit) (hlive : e.live = true) (buf : List Char)
    (h : (miEngineRun sys f e cf buf).1.live = false) :
    (miEngineRun sys f e cf buf).2.getLast? = some (.call .close) := by
  obtain ⟨g, hg⟩ := Option.isSome_iff_exists.mp hf
  revert h
  unfold miEngineRun
  extract_lets ctx₀ e₁ callAbort
  have he₁ : e₁.cur = cf.next.getD e.cur ∧ e₁.live = e.live ∧
      e₁.ctx.state = cf.next.getD e.ctx.state := by
    simp only [e₁]
    split <;> simp_all
  by_cases hquit : cf.cmd = .quit
  · obtain rfl := cmds_quit hcf (.inl hquit)
    -- `st_quit` called `xxfi_close`; the session ends in `ST_QUIT`, where `mi_engine` calls nothing
    have hs : e₁.ctx.state = .quit := he₁.2.2
    have hc : e₁.cur = .quit := he₁.1
    dsimp only
    rw [stFct_quit hg (.inl rfl)]
    dsimp only
    have h₁ : (_SMFIS_NOREPLY == _SMFIS_ABORT) = false := by decide
    have h₂ : (_SMFIS_NOREPLY == SMFIS_ACCEPT) = false := by decide
    have h₃ : (_SMFIS_NOREPLY == SMFIS_REJECT || _SMFIS_NOREPLY == SMFIS_DISCARD ||
        _SMFIS_NOREPLY == SMFIS_TEMPFAIL) = false := by decide
    have h₄ : bitset CT_END CT_END = true := by decide
    simp only [h₁, h₂, h₃, h₄, Bool.false_and, Bool.false_eq_true, ↓reduceIte]
    have h₅ : MI_SUCCESS ≠ MI_FAILURE := by decide
    simp [sendreply_noreply_quit hs, miEngineEnd_quit, hc, h₅]
  · rcases hst : stFct sys f cf.cmd e₁ buf with ⟨e₂, r, ev⟩
    have hk : Keeps e₁ e₂ := by simpa [hst] using @stFct_keeps σ sys f cf.cmd e₁ buf
    -- only `SMFIC_QUIT` enters `ST_QUIT`
    have hq₂ : e₂.cur ≠ .quit := by
      rw [hk.cur, he₁.1]
      cases hn : cf.next with
      | none => exact hq hn
      | some new =>
        rintro rfl
        exact hquit (by rw [cmds_quit hcf (.inr (.inl hn))])
    dsimp only
    split
    · intro _
      exact getLast?_append_miEngineEnd hf (by split_ifs <;> simp [hq₂]) _ _ _
    split
    · exact absurd (by rw [cmds_quit hcf (.inr (.inr ‹_›))]) hquit
    · -- the session goes on
      split_ifs <;> simp [hk.live, he₁.2.1, hlive]

/-! ### The invariant of a session -/

/-- The invariant of a session: its table is `next_states[]` with skip bits, and an open
session is not in `ST_QUIT`, which `SMFIC_QUIT` enters only to end the session. -/
structure Engine.Ok (e : Engine σ) : Prop where
  table : TableOk e.table
  notQuit : e.live = true → e.cur ≠ .quit

/-- A new session satisfies the invariant: `fix_stm` on `next_states[]`, in `ST_INIT`. -/
theorem Engine.ok_init (f : SmfiDesc σ) (w : σ) : (Engine.init f w).Ok :=
  ⟨TableOk.nextStates.fixStm _, fun _ => by simp [Engine.init]⟩

theorem miEngineRun_ok {e : Engine σ} {cf : CmdFct} (hcf : cf ∈ cmds) (hok : e.Ok)
    (buf : List Char) : (miEngineRun sys f e cf buf).1.Ok := by
  refine ⟨miEngineRun_table e cf buf hok.table, fun hlive => ?_⟩
  obtain ⟨he, hend, hcur⟩ := miEngineRun_live e cf buf hlive
  rcases hcur with hcur | hcur
  · simp [hcur]
  · rw [hcur]
    cases hn : cf.next with
    | none => exact hok.notQuit he
    | some new =>
      rintro rfl
      rw [cmds_quit hcf (.inr (.inl hn))] at hend
      exact absurd hend (by decide)

theorem miEngineCmd_ok {e : Engine σ} (hok : e.Ok) (c : Char) (buf : List Char) :
    (miEngineCmd sys f e c buf).1.Ok := by
  unfold miEngineCmd
  split
  · exact ⟨hok.table, fun h => by simp [miEngineEnd_live] at h⟩
  · rename_i cf hcf
    have hmem := lookupCmd_mem hcf
    split
    · exact miEngineRun_ok hmem hok buf
    · split
      · exact miEngineRun_ok hmem hok buf
      · -- the transaction is aborted and the command tried again from `ST_HELO`
        dsimp only
        split
        · refine miEngineRun_ok hmem ?_ buf
          exact ⟨hok.table, fun _ => by simp⟩
        split
        · exact ⟨hok.table, fun h => by simp [miEngineEnd_live] at h⟩
        · exact ⟨hok.table, fun _ => by simp⟩

/-- Every step keeps the invariant. -/
theorem engine_step_ok {e : Engine σ} (hok : e.Ok) (i : Input) :
    ((engine sys f).step e i).1.Ok := by
  simp only [engine]
  split
  · exact hok
  cases i with
  | packet c buf =>
    refine miEngineCmd_ok ?_ c buf
    exact ⟨hok.table, hok.notQuit⟩
  | readError => exact ⟨hok.table, fun h => by simp [miEngineEnd_live] at h⟩
  | notReady => exact ⟨hok.table, hok.notQuit⟩
  | idleTimeout =>
    dsimp only
    split
    · exact ⟨hok.table, fun h => by simp at h⟩
    · exact hok

/-- A closed session ignores its input. -/
theorem engine_step_closed {e : Engine σ} (h : e.live = false) (i : Input) :
    (engine sys f).step e i = (e, []) := by
  simp [engine, h]

/-! ### Every session ends with `xxfi_close` -/

/-- A filter that counts its callbacks and lets everything through. -/
def countingFilter : SmfiDesc Nat where
  version := SMFI_PROT_VERSION
  flags := 0
  connect := some fun n _ _ => (n + 1, SMFIS_CONTINUE)
  helo := some fun n _ => (n + 1, SMFIS_CONTINUE)
  envfrom := some fun n _ => (n + 1, SMFIS_CONTINUE)
  envrcpt := some fun n _ => (n + 1, SMFIS_CONTINUE)
  header := some fun n _ _ => (n + 1, SMFIS_CONTINUE)
  eoh := some fun n => (n + 1, SMFIS_CONTINUE)
  body := some fun n _ => (n + 1, SMFIS_CONTINUE)
  eom := some fun n => (n + 1, SMFIS_CONTINUE)
  abort := some fun n => (n + 1, SMFIS_CONTINUE)
  close := some fun n => (n + 1, SMFIS_CONTINUE)
  unknown := some fun n _ => (n + 1, SMFIS_CONTINUE)
  data := some fun n => (n + 1, SMFIS_CONTINUE)
  negotiate := none

/-- An MTA that negotiates protocol version 6, connects an unknown client, sends an unknown
command, `SMFIC_QUIT_NC`, and connects again. -/
def reconnectInputs : List Input :=
  [.packet 'O' ['\x00', '\x00', '\x00', '\x06', '\x00', '\x00', '\x00', '\x00', '\x00', '\x00',
      '\x00', '\x00'],
    .packet 'C' ['h', '\x00', 'U'], .packet 'U' ['X', '\x00'], .packet 'K' [],
    .packet 'C' ['h', '\x00', 'U']]

theorem miEngineCmd_close (hf : f.close.isSome) {e : Engine σ} (hok : e.Ok) (hlive : e.live = true)
    (c : Char) (buf : List Char) (h : (miEngineCmd sys f e c buf).1.live = false) :
    (miEngineCmd sys f e c buf).2.getLast? = some (.call .close) := by
  revert h
  unfold miEngineCmd
  split
  · intro _
    exact miEngineEnd_last hf (hok.notQuit hlive) _ _
  · rename_i cf hcf
    have hmem := lookupCmd_mem hcf
    split
    · exact miEngineRun_close hf hmem (fun _ => hok.notQuit hlive) hlive buf
    · rename_i new hn
      split
      · exact miEngineRun_close hf hmem (fun h => by simp [hn] at h) hlive buf
      · dsimp only
        split
        · intro h
          have hl := miEngineRun_close (e := { e with cur := .helo, filt := _ }) hf hmem
            (fun h => by simp [hn] at h) hlive buf h
          rw [List.getLast?_append_of_ne_nil _ (fun hnil => by simp [hnil] at hl), hl]
        split
        · intro _
          exact getLast?_append_miEngineEnd hf (by simp) _ _ _
        · intro h
          simp [hlive] at h

/-- A step that ends a session calls `xxfi_close` last. -/
theorem engine_step_close (hf : f.close.isSome) {e : Engine σ} (hok : e.Ok)
    (hlive : e.live = true) (i : Input) (h : ((engine sys f).step e i).1.live = false) :
    ((engine sys f).step e i).2.getLast? = some (.call .close) := by
  revert h
  simp only [engine, hlive, Bool.not_true, Bool.false_eq_true, ↓reduceIte]
  cases i with
  | packet c buf =>
    refine miEngineCmd_close (e := { e with live := true, waiting := false }) hf ?_ rfl c buf
    exact ⟨hok.table, fun _ => hok.notQuit hlive⟩
  | readError =>
    intro _
    exact miEngineEnd_last hf (hok.notQuit hlive) _ _
  | notReady =>
    intro h
    simp at h
  | idleTimeout =>
    dsimp only
    split
    · intro _
      obtain ⟨g, hg⟩ := Option.isSome_iff_exists.mp hf
      simp [callOpt, hg]
    · intro h
      simp [hlive] at h

/-- **Every session that ends calls `xxfi_close` last.**  Whatever the MTA sends, a session
that `mi_engine` or the worker pool has closed has `xxfi_close` as the last of its callbacks,
and after it neither calls a callback nor answers the MTA. -/
theorem engine_run_close (hf : f.close.isSome) (w : σ) (is : List Input)
    (hend : ((engine sys f).run (Engine.init f w) is).1.live = false) :
    ((engine sys f).run (Engine.init f w) is).2.getLast? = some (.call .close) := by
  induction is using List.reverseRecOn with
  | nil => simp [Engine.init] at hend
  | append_singleton is i ih =>
    rw [Mealy.run_append, Mealy.run_singleton] at hend ⊢
    have hok : ((engine sys f).run (Engine.init f w) is).1.Ok :=
      Mealy.run_invariant (M := engine sys f) (P := Engine.Ok) (fun e i he => engine_step_ok he i)
        (Engine.ok_init f w) is
    by_cases hl : ((engine sys f).run (Engine.init f w) is).1.live = true
    · -- the session ends at this input
      have hc := engine_step_close hf hok hl i hend
      rw [List.getLast?_append_of_ne_nil _ (fun hnil => by simp [hnil] at hc), hc]
    · -- it had ended before
      have hl' : ((engine sys f).run (Engine.init f w) is).1.live = false := by simpa using hl
      rw [engine_step_closed hl'] at hend ⊢
      simpa using ih hend

/-- The connection of `reconnectInputs` breaks off: the session ends with `xxfi_close`. -/
theorem engine_run_close_readError :
    ((engine ⟨fun _ => none⟩ countingFilter).run (Engine.init countingFilter 0)
        (reconnectInputs ++ [.readError])).1.live = false ∧
      ((engine ⟨fun _ => none⟩ countingFilter).run (Engine.init countingFilter 0)
        (reconnectInputs ++ [.readError])).2.getLast? = some (.call .close) :=
  have hend : ((engine ⟨fun _ => none⟩ countingFilter).run (Engine.init countingFilter 0)
      (reconnectInputs ++ [.readError])).1.live = false := by decide
  ⟨hend, @engine_run_close Nat ⟨fun _ => none⟩ countingFilter rfl 0 _ hend⟩

/-! ### `xxfi_connect` and `xxfi_close` alternate -/

/-- One step of the monitor of `xxfi_connect` and `xxfi_close`: whether a connection is open
(`xxfi_connect` was called and `xxfi_close` not since), and `none` once `xxfi_connect` is called
on an open connection. -/
def connectStep : Option Bool → Event → Option Bool
  | some false, .call .connect => some true
  | some true, .call .connect => none
  | some _, .call .close => some false
  | d, _ => d

/-- The monitor as an automaton over the events of a session. -/
def connectWatch : DFA Event (Option Bool) := ⟨connectStep, some false, {d | d.isSome}⟩

@[simp] theorem connectWatch_step : connectWatch.step = connectStep := rfl

theorem connectWatch_evalFrom_none (xs : List Event) : connectWatch.evalFrom none xs = none := by
  induction xs with
  | nil => rfl
  | cons x xs ih =>
    rw [DFA.evalFrom_cons]
    cases x <;> exact ih

/-- Without `xxfi_connect` the monitor only closes the connection. -/
theorem connectWatch_evalFrom_noConnect {xs : List Event} (h : .call .connect ∉ xs) (m : Bool) :
    connectWatch.evalFrom (some m) xs = some (if .call .close ∈ xs then false else m) := by
  induction xs generalizing m with
  | nil => rfl
  | cons x xs ih =>
    rw [List.mem_cons, not_or] at h
    rw [DFA.evalFrom_cons, connectWatch_step]
    rcases x with cb | r
    · by_cases hc : cb = .close
      · subst hc
        rw [show connectStep (some m) (.call .close) = some false by cases m <;> rfl, ih h.2]
        simp
      · have hcb : cb ≠ .connect := fun hcb => h.1 (by rw [hcb])
        rw [show connectStep (some m) (.call cb) = some m by cases m <;> cases cb <;> simp_all [connectStep],
          ih h.2]
        simp [Ne.symm hc]
    · rw [show connectStep (some m) (.reply r) = some m by cases m <;> rfl, ih h.2]
      simp

/-- Events that call only `xxfi_abort` leave the monitor as it is. -/
theorem connectWatch_evalFrom_aborts {xs : List Event} (h : ∀ cb, .call cb ∈ xs → cb = .abort)
    (m : Bool) : connectWatch.evalFrom (some m) xs = some m := by
  have hc : .call .connect ∉ xs := fun hx => by simpa using h _ hx
  have hl : .call .close ∉ xs := fun hx => by simpa using h _ hx
  rw [connectWatch_evalFrom_noConnect hc, if_neg hl]

/-- Events that call only `xxfi_abort` and `xxfi_close` never make the monitor reject. -/
theorem connectWatch_evalFrom_ends {xs : List Event}
    (h : ∀ cb, .call cb ∈ xs → cb = .abort ∨ cb = .close) (m : Bool) :
    ∃ m', connectWatch.evalFrom (some m) xs = some m' := by
  have hc : .call .connect ∉ xs := fun hx => by simpa using h _ hx
  exact ⟨_, connectWatch_evalFrom_noConnect hc m⟩

theorem connectStep_connect {d : Option Bool} (h : d ≠ some false) :
    connectStep d (.call .connect) = none := by
  rcases d with _ | _ | _
  · rfl
  · exact absurd rfl h
  · rfl

/-- Without `xxfi_close` an open connection stays open, or the monitor rejects. -/
theorem connectWatch_evalFrom_open {xs : List Event} (h : .call .close ∉ xs) :
    connectWatch.evalFrom (some true) xs ≠ some false := by
  induction xs with
  | nil => simp
  | cons x xs ih =>
    rw [List.mem_cons, not_or] at h
    rw [DFA.evalFrom_cons, connectWatch_step]
    rcases x with cb | r
    · by_cases hcb : cb = .connect
      · subst hcb
        rw [connectStep_connect (by simp), connectWatch_evalFrom_none]
        simp
      · have hcl : cb ≠ .close := fun hcl => h.1 (by rw [hcl])
        rw [show connectStep (some true) (.call cb) = some true by cases cb <;> simp_all [connectStep]]
        exact ih h.2
    · exact ih h.2

/-- A second `xxfi_connect` with no `xxfi_close` since the first one is rejected. -/
theorem connectWatch_twice {b : List Event} (hb : .call .close ∉ b) (d : Option Bool)
    (a c : List Event) :
    connectWatch.evalFrom d (a ++ .call .connect :: b ++ .call .connect :: c) = none := by
  rw [DFA.evalFrom_of_append, DFA.evalFrom_of_append, DFA.evalFrom_cons, DFA.evalFrom_cons,
    connectWatch_step]
  -- after the first `xxfi_connect` the connection is open, or the monitor has already rejected
  have hopen : connectWatch.evalFrom (connectStep (connectWatch.evalFrom d a) (.call .connect)) b ≠
      some false := by
    rcases connectWatch.evalFrom d a with _ | _ | _
    · simp [connectStep, connectWatch_evalFrom_none]
    · exact connectWatch_evalFrom_open hb
    · simp [connectStep, connectWatch_evalFrom_none]
  rw [connectStep_connect hopen, connectWatch_evalFrom_none]

/-- The monitor agrees with the session: it has seen no second `xxfi_connect`, and no
connection is open while the session is open in a state before `SMFIC_CONNECT` (`ST_INIT`,
`ST_OPTS`, or `ST_Q_NC` after a `SMFIC_QUIT_NC`). -/
def Watched (e : Engine σ) : Option Bool → Prop
  | none => False
  | some m => e.Ok ∧ (e.live = true → e.cur ∈ [MiState.init, .opts, .qnc] → m = false)

/-- One turn keeps the monitor in agreement with the session when no connection is open if the
command is `SMFIC_CONNECT` or enters `ST_OPTS`. -/
theorem miEngineRun_watched (hf : f.close.isSome) {e : Engine σ} {cf : CmdFct} (hcf : cf ∈ cmds)
    (hok : e.Ok) {m : Bool} (hm : e.cur ∈ [MiState.init, .opts, .qnc] → m = false)
    (hconn : cf.cmd = .connect → m = false) (hopts : cf.next = some .opts → m = false)
    (buf : List Char) :
    Watched (miEngineRun sys f e cf buf).1
      (connectWatch.evalFrom (some m) (miEngineRun sys f e cf buf).2) := by
  obtain ⟨e₁, rest, -, -, hev, hrest⟩ := @miEngineRun_events σ sys f e cf buf
  have hrest' : .call .connect ∉ rest := fun h => by simpa using hrest _ h
  have hok' := @miEngineRun_ok σ sys f e cf hcf hok buf
  rw [hev]
  by_cases hc : cf.cmd = .connect
  · -- the command's own `xxfi_connect`, at most one, on a closed connection
    obtain ⟨b, hb⟩ : ∃ b, connectWatch.evalFrom (some m) (stFct sys f cf.cmd e₁ buf).2.2 = some b := by
      rw [hc]
      rcases stFct_connect_events e₁ buf with h | h <;> rw [h]
      · exact ⟨m, rfl⟩
      · exact ⟨true, by simp [hconn hc, connectStep]⟩
    rw [DFA.evalFrom_of_append, hb, connectWatch_evalFrom_noConnect hrest']
    refine ⟨hok', fun hlive hS => ?_⟩
    -- the session is in `ST_CONN`, or back in `ST_HELO`
    obtain ⟨-, -, hcur⟩ := miEngineRun_live e cf buf hlive
    rcases hcur with hcur | hcur <;> rw [hcur] at hS
    · simp at hS
    · rw [(cmds_next hcf).2.2.1 hc] at hS
      simp at hS
  · have hnot : .call .connect ∉ (stFct sys f cf.cmd e₁ buf).2.2 ++ rest := by
      rw [List.mem_append, not_or]
      exact ⟨fun h => hc (Cmd.connect_mem_callbacks.mp (stFct_calls _ _ _ h)), hrest'⟩
    rw [connectWatch_evalFrom_noConnect hnot]
    refine ⟨hok', fun hlive hS => ?_⟩
    obtain ⟨-, -, hcur⟩ := miEngineRun_live e cf buf hlive
    rcases hcur with hcur | hcur
    · rw [hcur] at hS
      simp at hS
    · rw [hcur] at hS
      cases hn : cf.next with
      | none => simp [hm (by simpa [hn] using hS)]
      | some new =>
        simp only [hn, Option.getD_some, List.mem_cons, List.not_mem_nil, or_false] at hS
        rcases hS with rfl | rfl | rfl
        · exact absurd hn (cmds_next hcf).2.2.2
        · simp [hopts hn]
        · -- `SMFIC_QUIT_NC` calls `xxfi_close`
          obtain ⟨g, hg⟩ := Option.isSome_iff_exists.mp hf
          rw [(cmds_next hcf).1 hn, stFct_quit hg (.inr rfl)]
          simp

theorem miEngineCmd_watched (hf : f.close.isSome) {e : Engine σ} {m : Bool}
    (hw : Watched e (some m)) (hlive : e.live = true) (c : Char) (buf : List Char) :
    Watched (miEngineCmd sys f e c buf).1
      (connectWatch.evalFrom (some m) (miEngineCmd sys f e c buf).2) := by
  obtain ⟨hok, hm⟩ := hw
  unfold miEngineCmd
  split
  · -- an unknown command ends the session
    obtain ⟨m', hm'⟩ := connectWatch_evalFrom_ends (fun cb h => miEngineEnd_calls _ _ _ h) m
    rw [hm']
    exact ⟨⟨hok.table, fun h => by simp [miEngineEnd_live] at h⟩, fun h => by
      simp [miEngineEnd_live] at h⟩
  · rename_i cf hcf
    have hmem := lookupCmd_mem hcf
    split
    · rename_i hn
      refine miEngineRun_watched hf hmem hok (hm hlive) (fun hc => ?_) (fun h => by simp [hn] at h)
        buf
      have := (cmds_next hmem).2.2.1 hc
      simp [hn] at this
    · rename_i new hn
      split
      · -- `SMFIC_CONNECT` is accepted only before a connection (`trans_ok`)
        rename_i ht
        refine miEngineRun_watched hf hmem hok (hm hlive) (fun hc => ?_) (fun ho => ?_) buf
        · have hnew : new = .conn := by simpa [hn] using (cmds_next hmem).2.2.1 hc
          subst hnew
          exact hm hlive (by rcases transOk_conn hok.table ht with h | h <;> simp [h])
        · have hnew : new = .opts := by simpa [hn] using ho
          subst hnew
          exact hm hlive (by simp [transOk_opts hok.table ht])
      · -- the retry from `ST_HELO`, after at most an `xxfi_abort`
        dsimp only
        have hab := connectWatch_evalFrom_aborts
          (fun cb h => @abortIf_calls σ e.cur.inMail f.abort e.filt cb h) m
        split
        · rename_i ht
          rw [DFA.evalFrom_of_append, hab]
          refine miEngineRun_watched (e := { e with cur := .helo, filt := _ }) hf hmem
            ⟨hok.table, fun _ => by simp⟩ (by simp)
            (fun hc => ?_) (fun ho => ?_) buf
          · have hnew : new = .conn := by simpa [hn] using (cmds_next hmem).2.2.1 hc
            subst hnew
            rcases transOk_conn hok.table ht with h | h <;> cases h
          · have hnew : new = .opts := by simpa [hn] using ho
            subst hnew
            cases transOk_opts hok.table ht
        split
        · obtain ⟨m', hm'⟩ := connectWatch_evalFrom_ends (fun cb h => miEngineEnd_calls _ _ _ h) m
          rw [DFA.evalFrom_of_append, hab, hm']
          exact ⟨⟨hok.table, fun h => by simp [miEngineEnd_live] at h⟩, fun h => by
            simp [miEngineEnd_live] at h⟩
        · rw [hab]
          exact ⟨⟨hok.table, fun _ => by simp⟩, fun _ h => by simp at h⟩

/-- Every step keeps the monitor in agreement with the session. -/
theorem engine_step_watched (hf : f.close.isSome) {e : Engine σ} {d : Option Bool}
    (hw : Watched e d) (i : Input) :
    Watched ((engine sys f).step e i).1 (connectWatch.evalFrom d ((engine sys f).step e i).2) := by
  obtain _ | m := d
  · exact hw.elim
  obtain ⟨hok, hm⟩ := hw
  by_cases hlive : e.live = true
  · simp only [engine, hlive, Bool.not_true, Bool.false_eq_true, ↓reduceIte]
    cases i with
    | packet c buf =>
      refine miEngineCmd_watched (e := { e with live := true, waiting := false }) hf ?_ rfl c buf
      exact ⟨⟨hok.table, fun _ => hok.notQuit hlive⟩, fun _ => hm hlive⟩
    | readError =>
      obtain ⟨m', hm'⟩ := connectWatch_evalFrom_ends (fun cb h => miEngineEnd_calls _ _ _ h) m
      rw [hm']
      exact ⟨⟨hok.table, fun h => by simp [miEngineEnd_live] at h⟩, fun h => by
        simp [miEngineEnd_live] at h⟩
    | notReady => exact ⟨⟨hok.table, fun _ => hok.notQuit hlive⟩, fun _ => hm hlive⟩
    | idleTimeout =>
      dsimp only
      split
      · obtain ⟨m', hm'⟩ := connectWatch_evalFrom_ends (fun cb h => .inr (callOpt_calls h)) m
        rw [hm']
        exact ⟨⟨hok.table, fun h => by simp at h⟩, fun h => by simp at h⟩
      · exact ⟨⟨hok.table, fun _ => hok.notQuit hlive⟩, fun _ => hm hlive⟩
  · rw [engine_step_closed (by simpa using hlive)]
    exact ⟨hok, hm⟩

/-- **`xxfi_connect` and `xxfi_close` alternate.**  Whatever the MTA sends, between two calls
of `xxfi_connect` in a session there is a call of `xxfi_close`: a filter is never asked to
open a connection on a context whose last connection it has not closed. -/
theorem engine_run_connect (hf : f.close.isSome) (w : σ) (is : List Input) {a b c : List Event}
    (h : ((engine sys f).run (Engine.init f w) is).2 =
      a ++ .call .connect :: b ++ .call .connect :: c) : .call .close ∈ b := by
  have hw := Mealy.run_evalFrom (M := engine sys f) (D := connectWatch) (R := Watched)
    (fun e d i hw => engine_step_watched hf hw i)
    (show Watched (Engine.init f w) (some false) from ⟨Engine.ok_init f w, fun _ _ => rfl⟩) is
  by_contra hb
  rw [h, connectWatch_twice hb] at hw
  exact hw


set_option maxRecDepth 4096 in
/-- In the run of `reconnectInputs`, the second `xxfi_connect` comes after the `xxfi_close` of
`SMFIC_QUIT_NC`. -/
theorem engine_run_connect_quitNc :
    ((engine ⟨fun _ => none⟩ countingFilter).run (Engine.init countingFilter 0)
        reconnectInputs).2 =
      [.reply (.options 6 0 0)] ++ .call .connect ::
        [.reply (.code 'c'), .call .unknown, .reply (.code 'c'), .call .close] ++
        .call .connect :: [.reply (.code 'c')] ∧
      Event.call .close ∈
        ([.reply (.code 'c'), .call .unknown, .reply (.code 'c'), .call .close] : List Event) :=
  have h : ((engine ⟨fun _ => none⟩ countingFilter).run (Engine.init countingFilter 0)
      reconnectInputs).2 =
      [.reply (.options 6 0 0)] ++ .call .connect ::
        [.reply (.code 'c'), .call .unknown, .reply (.code 'c'), .call .close] ++
        .call .connect :: [.reply (.code 'c')] := by decide
  ⟨h, @engine_run_connect Nat ⟨fun _ => none⟩ countingFilter rfl 0 _ _ _ _ h⟩

end Engine

end Milter

end Pmilter
