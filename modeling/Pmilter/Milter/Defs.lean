import Mathlib.Data.Nat.Bitwise

/-!
# The milter protocol: codes, states and the transition table

libmilter (`src/libmilter`) talks to the MTA over a socket: the MTA sends *commands*
(`SMFIC_*`, one character each), the library calls the filter's callbacks, and each callback
answers with an `sfsistat` (`SMFIS_*`).  `mi_engine` keeps the *protocol state* of the
connection (`ST_*`) and accepts a command only if its target state is reachable from the
current one in the table `next_states`, possibly skipping states the filter asked not to see
(`trans_ok`, `fix_stm`).

This file holds that data as the source has it (`engine.c`, `mfapi.h`, `mfdef.h`):

* the reply codes `SMFIS_*` and libmilter's internal codes `_SMFIS_*`, as C `int`s;
* `MiState`, the states `ST_*`, with their numbers and bit masks `MI_MASK`;
* `nextStates`, the table `next_states[]`, and `transOk`, the function `trans_ok`;
* `cmds`, the command table `cmds[]` with each command's target state and flags.
-/

namespace Pmilter

namespace Milter

/-! ### Reply codes -/

/-- `SMFIS_CONTINUE`: continue processing the message or connection. -/
def SMFIS_CONTINUE : Int32 := 0
/-- `SMFIS_REJECT`: reject the message or connection. -/
def SMFIS_REJECT : Int32 := 1
/-- `SMFIS_DISCARD`: accept the message but silently discard it. -/
def SMFIS_DISCARD : Int32 := 2
/-- `SMFIS_ACCEPT`: accept the message or connection. -/
def SMFIS_ACCEPT : Int32 := 3
/-- `SMFIS_TEMPFAIL`: answer with a temporary failure (a 4xx reply). -/
def SMFIS_TEMPFAIL : Int32 := 4
/-- `SMFIS_NOREPLY`: do not send a reply to the MTA. -/
def SMFIS_NOREPLY : Int32 := 7
/-- `SMFIS_SKIP`: skip over the rest of the same callbacks (the body). -/
def SMFIS_SKIP : Int32 := 8
/-- `SMFIS_ALL_OPTS`: from `xxfi_negotiate`, use all protocol options. -/
def SMFIS_ALL_OPTS : Int32 := 10

/-- `_SMFIS_KEEP`: the command buffer holds macros and must not be freed. -/
def _SMFIS_KEEP : Int32 := 20
/-- `_SMFIS_ABORT`: a protocol error; `mi_engine` ends the session. -/
def _SMFIS_ABORT : Int32 := 21
/-- `_SMFIS_OPTIONS`: send the negotiated options. -/
def _SMFIS_OPTIONS : Int32 := 22
/-- `_SMFIS_NOREPLY`, the same value as `SMFIS_NOREPLY`. -/
def _SMFIS_NOREPLY : Int32 := SMFIS_NOREPLY
/-- `_SMFIS_FAIL`. -/
def _SMFIS_FAIL : Int32 := -1
/-- `_SMFIS_NONE`: no reply code yet. -/
def _SMFIS_NONE : Int32 := -2

/-- `MI_SUCCESS`. -/
def MI_SUCCESS : Int32 := 0
/-- `MI_FAILURE`. -/
def MI_FAILURE : Int32 := -1
/-- `MI_CONTINUE`: with the worker pool, the socket has no data yet; the session waits. -/
def MI_CONTINUE : Int32 := 1

/-! ### Commands -/

/-- The commands of the MTA that libmilter knows (`SMFIC_*`), in the order of `cmds[]`. -/
inductive Cmd
  | abort | define | body | connect | bodyeob | helo | header | mail | optneg | eoh | quit
  | data | rcpt | unknown | quitNc
  deriving DecidableEq, Repr

/-- The character that encodes a command on the wire. -/
def Cmd.code : Cmd → Char
  | .abort => 'A'
  | .define => 'D'
  | .body => 'B'
  | .connect => 'C'
  | .bodyeob => 'E'
  | .helo => 'H'
  | .header => 'L'
  | .mail => 'M'
  | .optneg => 'O'
  | .eoh => 'N'
  | .quit => 'Q'
  | .data => 'T'
  | .rcpt => 'R'
  | .unknown => 'U'
  | .quitNc => 'K'

/-! ### Protocol states -/

/-- The protocol states `ST_*` of `mi_engine`. -/
inductive MiState
  | init | opts | conn | helo | mail | rcpt | data | hdrs | eohs | body | endm | quit | abrt
  | unkn | qnc
  deriving DecidableEq, Repr

/-- The number of a state: `ST_INIT = 0`, …, `ST_Q_NC = 14`. -/
def MiState.toNat : MiState → Nat
  | .init => 0
  | .opts => 1
  | .conn => 2
  | .helo => 3
  | .mail => 4
  | .rcpt => 5
  | .data => 6
  | .hdrs => 7
  | .eohs => 8
  | .body => 9
  | .endm => 10
  | .quit => 11
  | .abrt => 12
  | .unkn => 13
  | .qnc => 14

/-- The state with a given number, if any (the inverse of `MiState.toNat`). -/
def MiState.ofNat? : Nat → Option MiState
  | 0 => some .init
  | 1 => some .opts
  | 2 => some .conn
  | 3 => some .helo
  | 4 => some .mail
  | 5 => some .rcpt
  | 6 => some .data
  | 7 => some .hdrs
  | 8 => some .eohs
  | 9 => some .body
  | 10 => some .endm
  | 11 => some .quit
  | 12 => some .abrt
  | 13 => some .unkn
  | 14 => some .qnc
  | _ => none

/-- `SIZE_NEXT_STATES`: the number of rows of `next_states[]`. -/
def SIZE_NEXT_STATES : Nat := 15

/-- `ST_SKIP`: the bit that marks a row of `next_states[]` as skippable. -/
def ST_SKIP : Nat := 16

/-- `MI_MASK(x)`: the bit of state number `x`. -/
def MI_MASK (x : Nat) : Nat := 1 <<< x

/-- `ST_IN_MAIL(st)`: the state lies inside a mail transaction (`ST_MAIL ≤ st < ST_ENDM`). -/
def MiState.inMail (st : MiState) : Bool :=
  decide (MiState.mail.toNat ≤ st.toNat ∧ st.toNat < MiState.endm.toNat)

/-- The mask of a set of states. -/
def maskOf (ss : List MiState) : Nat :=
  ss.foldr (fun s acc => MI_MASK s.toNat ||| acc) 0

/-- The states each row of `next_states[]` allows (`NX_*` in `engine.c`). -/
def nxList : MiState → List MiState
  | .init => [.opts]
  | .opts => [.conn, .unkn]
  | .conn => [.helo, .mail, .unkn]
  | .helo => [.helo, .mail, .unkn]
  | .mail => [.rcpt, .abrt, .unkn]
  | .rcpt => [.hdrs, .eohs, .data, .body, .endm, .rcpt, .abrt, .unkn]
  | .data => [.eohs, .hdrs, .abrt]
  | .hdrs => [.eohs, .hdrs, .abrt]
  | .eohs => [.body, .endm, .abrt]
  | .body => [.endm, .body, .abrt]
  | .endm => [.quit, .mail, .unkn, .qnc]
  | .quit => []
  | .abrt => []
  | .unkn => [.helo, .mail, .rcpt, .abrt, .data, .body, .unkn, .abrt, .quit, .qnc]
  | .qnc => [.conn, .unkn]

/-- `next_states[]` as initialised in `engine.c`, before `fix_stm` adds skip bits. -/
def nextStates (s : MiState) : Nat := maskOf (nxList s)

/-! ### Protocol flags and `fix_stm` -/

/-- `bitset(bit, word)`. -/
def bitset (bit word : Nat) : Bool := word &&& bit != 0

/-- `SMFIP_NOCONNECT`. -/
def SMFIP_NOCONNECT : Nat := 0x1
/-- `SMFIP_NOHELO`. -/
def SMFIP_NOHELO : Nat := 0x2
/-- `SMFIP_NOMAIL`. -/
def SMFIP_NOMAIL : Nat := 0x4
/-- `SMFIP_NORCPT`. -/
def SMFIP_NORCPT : Nat := 0x8
/-- `SMFIP_NOBODY`. -/
def SMFIP_NOBODY : Nat := 0x10
/-- `SMFIP_NOHDRS`. -/
def SMFIP_NOHDRS : Nat := 0x20
/-- `SMFIP_NOEOH`. -/
def SMFIP_NOEOH : Nat := 0x40
/-- `SMFIP_NOUNKNOWN`. -/
def SMFIP_NOUNKNOWN : Nat := 0x100
/-- `SMFIP_NODATA`. -/
def SMFIP_NODATA : Nat := 0x200

/-- The flag of `ctx_pflags` that makes `fix_stm` mark a row as skippable. -/
def skipFlag : MiState → Option Nat
  | .conn => some SMFIP_NOCONNECT
  | .helo => some SMFIP_NOHELO
  | .mail => some SMFIP_NOMAIL
  | .rcpt => some SMFIP_NORCPT
  | .hdrs => some SMFIP_NOHDRS
  | .eohs => some SMFIP_NOEOH
  | .body => some SMFIP_NOBODY
  | .data => some SMFIP_NODATA
  | .unkn => some SMFIP_NOUNKNOWN
  | _ => none

/-- `fix_stm`: add the skip bit `NX_SKIP` to the rows of the states the filter does not want
to see (its `ctx_pflags`). -/
def fixStm (pflags : Nat) (tbl : MiState → Nat) (s : MiState) : Nat :=
  match skipFlag s with
  | some fl => if bitset fl pflags then tbl s ||| MI_MASK ST_SKIP else tbl s
  | none => tbl s

/-! ### `trans_ok` -/

/-- The loop of `trans_ok` at row `s`: is `new` allowed from `s`, or from the next row when that
row may be skipped?  The row number grows at each turn, so `SIZE_NEXT_STATES` turns are
enough (`fuel`); the C guard `s >= SIZE_NEXT_STATES` cannot fail for a `MiState`. -/
def transOkLoop (tbl : MiState → Nat) (new : MiState) : Nat → MiState → Bool
  | 0, _ => false
  | fuel + 1, s =>
    if MI_MASK new.toNat &&& tbl s != 0 then true
    else
      match MiState.ofNat? (s.toNat + 1) with
      | none => false
      | some n => if bitset (MI_MASK ST_SKIP) (tbl n) then transOkLoop tbl new fuel n else false

/-- `trans_ok(old, new)` for the table `tbl`. -/
def transOk (tbl : MiState → Nat) (old new : MiState) : Bool :=
  transOkLoop tbl new SIZE_NEXT_STATES old

/-! ### The command table -/

/-- `CT_IGNO`: stay in the current state when the callback refuses. -/
def CT_IGNO : Nat := 0x1
/-- `CT_KEEP`. -/
def CT_KEEP : Nat := 0x4
/-- `CT_END`: the last command of a session. -/
def CT_END : Nat := 0x8

/-- A row of `cmds[]`: the command, its target state (`none` for `ST_NONE`), its `cm_todo`
flags and its macro index `cm_macros` (`CI_*`, `-1` for `CI_NONE`).  The function `cm_fct`
is determined by the command (`Engine.stFct`). -/
structure CmdFct where
  cmd : Cmd
  next : Option MiState
  todo : Nat
  macros : Int

/-- `cmds[]`, in the order of `engine.c`. -/
def cmds : List CmdFct :=
  [ ⟨.abort, some .abrt, 0, -1⟩
  , ⟨.define, none, CT_KEEP, -1⟩
  , ⟨.body, some .body, 0, -1⟩
  , ⟨.connect, some .conn, 0, 0⟩
  , ⟨.bodyeob, some .endm, 0, 5⟩
  , ⟨.helo, some .helo, 0, 1⟩
  , ⟨.header, some .hdrs, 0, -1⟩
  , ⟨.mail, some .mail, 0, 2⟩
  , ⟨.optneg, some .opts, 0, -1⟩
  , ⟨.eoh, some .eohs, 0, 6⟩
  , ⟨.quit, some .quit, CT_END, -1⟩
  , ⟨.data, some .data, 0, 4⟩
  , ⟨.rcpt, some .rcpt, CT_IGNO, 3⟩
  , ⟨.unknown, some .unkn, CT_IGNO, -1⟩
  , ⟨.quitNc, some .qnc, 0, -1⟩ ]

/-- The search `for (i = 0; i < ncmds; i++) if (cmd == cmds[i].cm_cmd) break;`. -/
def lookupCmd (c : Char) : Option CmdFct :=
  cmds.find? fun e => e.cmd.code == c


/-! ### Spec lemmas -/

theorem MiState.toNat_injective : Function.Injective MiState.toNat := by
  intro a b h
  cases a <;> cases b <;> simp_all [MiState.toNat]

theorem MiState.ofNat?_toNat (s : MiState) : MiState.ofNat? s.toNat = some s := by
  cases s <;> rfl

theorem MiState.inMail_iff (s : MiState) :
    s.inMail = true ↔ s ∈ [.mail, .rcpt, .data, .hdrs, .eohs, .body] := by
  cases s <;> decide

theorem testBit_maskOf (ss : List MiState) (k : Nat) :
    (maskOf ss).testBit k = decide (∃ s ∈ ss, s.toNat = k) := by
  induction ss with
  | nil => simp [maskOf]
  | cons s ss ih =>
    simp only [maskOf, List.foldr_cons] at ih ⊢
    rw [Nat.testBit_or, ih, MI_MASK, Nat.one_shiftLeft, Nat.testBit_two_pow]
    by_cases h : s.toNat = k <;> simp [h]

/-- The mask test of `trans_ok` reads one bit of the row. -/
theorem mask_and_ne_zero (x m : Nat) : (MI_MASK x &&& m != 0) = m.testBit x := by
  rw [MI_MASK, Nat.one_shiftLeft, Nat.two_pow_and]
  cases m.testBit x <;> simp

theorem nextStates_testBit (s new : MiState) :
    (nextStates s).testBit new.toNat = decide (new ∈ nxList s) := by
  rw [nextStates, testBit_maskOf]
  simp only [decide_eq_decide]
  exact ⟨fun ⟨t, ht, he⟩ => MiState.toNat_injective he ▸ ht, fun h => ⟨new, h, rfl⟩⟩

theorem bitset_mask (x w : Nat) : bitset (MI_MASK x) w = w.testBit x := by
  rw [bitset, Nat.land_comm, mask_and_ne_zero]

theorem nextStates_testBit_skip (s : MiState) : (nextStates s).testBit ST_SKIP = false := by
  rw [nextStates, testBit_maskOf, decide_eq_false_iff_not]
  rintro ⟨t, -, ht⟩
  cases t <;> simp [MiState.toNat, ST_SKIP] at ht

/-- A filter whose `ctx_pflags` asks to skip no state leaves `next_states[]` unchanged. -/
theorem fixStm_zero (tbl : MiState → Nat) : fixStm 0 tbl = tbl := by
  funext s
  unfold fixStm
  split <;> simp [bitset]

/-- Without skippable rows, `trans_ok` is the test of one bit of the current row. -/
theorem transOk_of_noSkip {tbl : MiState → Nat} (h : ∀ s, (tbl s).testBit ST_SKIP = false)
    (old new : MiState) : transOk tbl old new = (tbl old).testBit new.toNat := by
  rw [transOk, SIZE_NEXT_STATES, transOkLoop]
  simp only [mask_and_ne_zero, bitset_mask, h]
  split
  · simp_all
  · -- the next row is never skippable, so the loop stops after one turn
    split <;> simp_all

/-- `trans_ok` on the table of `engine.c`: a command is accepted exactly when its state is
listed in the row of the current state. -/
theorem transOk_nextStates (old new : MiState) :
    transOk nextStates old new = decide (new ∈ nxList old) := by
  rw [transOk_of_noSkip nextStates_testBit_skip, nextStates_testBit]

end Milter

end Pmilter
