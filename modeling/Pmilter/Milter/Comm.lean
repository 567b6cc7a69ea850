import Pmilter.Milter.Engine

/-!
# The wire: commands as frames of bytes

Every command of the MTA reaches `mi_engine` through `mi_rd_cmd` (`comm.c`), and every answer
leaves through `mi_wr_cmd`.  On the wire a command is a *frame*: its length in four bytes in
network order (`htonl`), counting the command character and the data, then the command
character, then the data, at most `Maxdatasize` bytes of them.

`mi_rd_cmd` reads a frame in two loops, one for the length field and the command character,
one for the data; each round waits for the socket and reads what is there, which may be any
part of what the MTA sent.  The socket is modelled by what these rounds meet (`SockEv`:
timeouts, interrupted or failing waits, failing reads, and reads of at most `n` bytes) and by
the bytes the MTA sent; `mi_wr_cmd` writes with `retry_writev`, whose rounds may write any part
of what is left (`WrEv`).  A schedule is *benign* when it has no failure and every read or
write moves at least one byte.

* `miRdCmd_frame` : over any benign schedule with reads enough, `mi_rd_cmd` reads a frame back,
  whatever the chunks, and leaves the rest of the stream;
* `miRdCmd_miWrCmd` : the bytes `mi_wr_cmd` writes, over any schedule on which it succeeds, are
  read back as the command and its data;
* `retryWritev_prefix` : `retry_writev` never loses, doubles or reorders a byte;
* `miRdCmd_some`, `miRdCmd_none` : over every schedule, `mi_rd_cmd` hands over the data of one
  whole frame within the limit, an error code, or a frame without data;
* `miRdCmd_cut`, `miRdCmd_tooBig`, `miRdCmd_noData` : the end of the connection within a
  frame, a frame over the limit, and a length field whose signed `expl` is not positive, which
  leaves the announced data on the socket to be read as the next frames.
-/

namespace Pmilter

namespace Milter

/-! ### Frames and the codes of `mi_rd_cmd` -/

/-- `MILTER_LEN_BYTES`: the length field of a frame. -/
def MILTER_LEN_BYTES : Nat := 4

/-- `MILTER_MAX_DATA_SIZE`: the default limit on the data of a frame. -/
def MILTER_MAX_DATA_SIZE : Nat := 65535

/-- `Maxdatasize` (`comm.c`): the limit on the data of a frame, read and written.  Only
`smfi_setmaxdatasize` changes it, and this build calls it nowhere (`_FFR_MDS_NEGOTIATE` is
off). -/
def Maxdatasize : Nat := MILTER_MAX_DATA_SIZE

/-- `SMFIC_TIMEOUT`: `mi_rd_cmd` waited in vain. -/
def SMFIC_TIMEOUT : Char := '\x01'
/-- `SMFIC_SELECT`: the wait reported an exceptional condition. -/
def SMFIC_SELECT : Char := '\x02'
/-- `SMFIC_RECVERR`: a wait or a read failed. -/
def SMFIC_RECVERR : Char := '\x04'
/-- `SMFIC_EOF`: the MTA closed the connection. -/
def SMFIC_EOF : Char := '\x05'
/-- `SMFIC_TOOBIG`: the data of the frame exceed `Maxdatasize`. -/
def SMFIC_TOOBIG : Char := '\x07'
/-- `SMFIC_VALIDCMD`: the least command character; the error codes lie below it. -/
def SMFIC_VALIDCMD : Char := ' '

/-- `htonl`: a 32-bit word as four bytes, the most significant first. -/
def htonl (n : Nat) : List Char :=
  [n / 2 ^ 24 % 256, n / 2 ^ 16 % 256, n / 2 ^ 8 % 256, n % 256].map Char.ofNat

/-- The frame of a command on the wire: the length of the command character and the data,
in network order, then the command character, then the data. -/
def frame (cmd : Char) (data : List Char) : List Char :=
  htonl (data.length + 1) ++ cmd :: data

/-! ### Reading: `mi_rd_cmd` -/

/-- What one round of a read loop of `mi_rd_cmd` meets on the socket: the result of the wait
`FD_RD_READY` (a `poll`), and when the socket is readable, of the `read` after it. -/
inductive SockEv
  /-- The wait times out. -/
  | timeout
  /-- The wait is interrupted (`EINTR`); the loop waits again. -/
  | intr
  /-- The wait fails otherwise. -/
  | waitError
  /-- The wait reports an exceptional condition on the socket (`FD_IS_RD_EXC`). -/
  | exc
  /-- The `read` fails. -/
  | readFail
  /-- The `read` returns at most `n` bytes of those the MTA sent. -/
  | read (n : Nat)
  deriving DecidableEq, Repr

/-- The socket of a session as the reads see it: what the rounds of the read loops meet, and
the bytes the MTA sent that are not read yet.  After these bytes the MTA has closed the
connection, so a `read` returns 0; when the rounds run out, the waits time out. -/
structure Sock where
  evs : List SockEv
  bytes : List Char
  deriving DecidableEq, Repr

/-- A read loop of `mi_rd_cmd`: wait and read until the buffer `got` holds `want` bytes.  The
result is the buffer, or the error code the loop leaves in `*cmd`, with the socket afterwards.
The two loops of the source (length and command, then data) differ only in how a failed `read`
leaves the loop, with the same code; the data loop's test `len > expl - i` never holds, since a
`read` returns at most what it is asked for. -/
def rdLoop (want : Nat) (got : List Char) : List SockEv → List Char → Except Char (List Char) × Sock
  | [], bytes => (.error SMFIC_TIMEOUT, ⟨[], bytes⟩)
  | .timeout :: evs, bytes => (.error SMFIC_TIMEOUT, ⟨evs, bytes⟩)
  | .intr :: evs, bytes => rdLoop want got evs bytes
  | .waitError :: evs, bytes => (.error SMFIC_RECVERR, ⟨evs, bytes⟩)
  | .exc :: evs, bytes => (.error SMFIC_SELECT, ⟨evs, bytes⟩)
  | .readFail :: evs, bytes => (.error SMFIC_RECVERR, ⟨evs, bytes⟩)
  | .read n :: evs, bytes =>
    -- `len = read(sd, got + i, want - i)`
    let len := min n (min (want - got.length) bytes.length)
    if len = 0 then (.error SMFIC_EOF, ⟨evs, bytes⟩)
    else if want - got.length ≤ len then (.ok (got ++ bytes.take len), ⟨evs, bytes.drop len⟩)
    else rdLoop want (got ++ bytes.take len) evs (bytes.drop len)

/-- `mi_rd_cmd`: read one frame.  The result is the data (`NULL` is `none`), the command
character `*cmd` and the socket afterwards.  A failure returns `NULL` with an error code in
`*cmd` ("hack: encode error in cmd").  The length less one for the command character is the
signed 32-bit `expl`; when it is not positive the frame has no data and `mi_rd_cmd` returns
`NULL` with the command character.  `malloc` does not fail, so `SMFIC_MALLOC` does not
arise, and neither does `SMFIC_UNKNERR`: the data loop leaves only on a timeout or an error. -/
def miRdCmd (s : Sock) : Option (List Char) × Char × Sock :=
  match rdLoop (MILTER_LEN_BYTES + 1) [] s.evs s.bytes with
  | (.error c, s) => (none, c, s)
  | (.ok data, s) =>
    let cmd := data.getD MILTER_LEN_BYTES '\x00'
    -- `expl = ntohl(expl) - 1` in `mi_int32`
    let expl : Int32 := Int32.ofNat (word32 data 0) - 1
    if expl ≤ 0 then (none, cmd, s)
    else if (Maxdatasize : Int) < expl.toInt then (none, SMFIC_TOOBIG, s)
    else
      match rdLoop expl.toInt.toNat [] s.evs s.bytes with
      | (.error c, s) => (none, c, s)
      | (.ok buf, s) => (some buf, cmd, s)

/-! ### Writing: `mi_wr_cmd` -/

/-- What one round of `retry_writev` meets: the wait `FD_WR_READY` and the `writev` after it. -/
inductive WrEv
  /-- The wait or the `writev` fails with `EINTR` or `EAGAIN`; the loop tries again. -/
  | intr
  /-- The wait times out or fails, or the `writev` fails: `MI_FAILURE`. -/
  | fail
  /-- The `writev` writes at most `n` bytes. -/
  | wrote (n : Nat)
  deriving DecidableEq, Repr

/-- The `for` loop of `retry_writev` after a `writev` of `n` bytes: the vector with the written
bytes taken off its entries, and whether every entry is used up (`i == iovcnt`). -/
def advance : Nat → List (List Char) → List (List Char) × Bool
  | _, [] => ([], true)
  | n, v :: vs =>
    if n < v.length then (v.drop n :: vs, false)
    else
      let (vs, all) := advance (n - v.length) vs
      ([] :: vs, all)

/-- `retry_writev`: write the entries of the vector `iov` in order, adding to `written`.  The
result is `written` or `MI_FAILURE` (`none`), with the bytes that reach the MTA; when the rounds
run out, the wait times out. -/
def retryWritev (written : Nat) (iov : List (List Char)) (evs : List WrEv) :
    Option Nat × List Char :=
  -- the loop first skips the entries that are used up
  let iov := iov.dropWhile List.isEmpty
  if iov = [] then (some written, [])
  else
    match evs with
    | [] => (none, [])
    | .fail :: _ => (none, [])
    | .intr :: evs => retryWritev written iov evs
    | .wrote n :: evs =>
      let out := iov.flatten.take n
      let (iov', all) := advance out.length iov
      if all then (some (written + out.length), out)
      else
        let (r, rest) := retryWritev (written + out.length) iov' evs
        (r, out ++ rest)

/-- The vector `mi_wr_cmd` hands to `retry_writev`: the length field `htonl(len + 1)` and the
command character, then the `len` bytes of the buffer if there is one. -/
def wrIov (cmd : Char) (buf : Option (List Char)) (len : Nat) : List (List Char) :=
  match buf with
  | some b => [htonl (len + 1) ++ [cmd], b.take len]
  | none => [htonl (len + 1) ++ [cmd]]

/-- `mi_wr_cmd`: write the frame of command `cmd` with the `len` bytes at `buf` (`NULL` is
`none`).  The result is `MI_SUCCESS` or `MI_FAILURE`, with the bytes that reach the MTA. -/
def miWrCmd (cmd : Char) (buf : Option (List Char)) (len : Nat) (evs : List WrEv) :
    Int32 × List Char :=
  if len > Maxdatasize || (len > 0 && buf.isNone) then (MI_FAILURE, [])
  else
    match retryWritev 0 (wrIov cmd buf len) evs with
    | (none, out) => (MI_FAILURE, out)
    | (some _, out) => (MI_SUCCESS, out)

/-! ### Bytes and lengths -/

theorem charOfNat_toNat {k : Nat} (h : k < 256) : (Char.ofNat k).toNat = k := by
  have hv : k.isValidChar := by unfold Nat.isValidChar; omega
  rw [Char.ofNat, dif_pos hv]
  rfl

@[simp] theorem htonl_length (n : Nat) : (htonl n).length = 4 := rfl

/-- `ntohl` undoes `htonl`. -/
theorem word32_htonl (n : Nat) (rest : List Char) : word32 (htonl n ++ rest) 0 = n % 2 ^ 32 := by
  simp only [word32, htonl, List.map_cons, List.map_nil, List.cons_append, List.nil_append,
    List.drop_zero, List.take_succ_cons, List.take_zero, List.foldl_cons, List.foldl_nil]
  rw [charOfNat_toNat (by omega), charOfNat_toNat (by omega), charOfNat_toNat (by omega),
    charOfNat_toNat (by omega)]
  omega

/-- The frame's `expl`, the length of its data, is not positive only for empty data. -/
theorem expl_toInt {len : Nat} (h : len < 2 ^ 31) :
    (Int32.ofNat (len + 1) - 1).toInt = len := by
  rw [Int32.toInt_sub, Int32.toInt_ofNat]
  simp [Int.bmod]
  omega

/-- `expl` is not positive exactly for a length field of 0 or 1, or above `2^31`. -/
theorem expl_le_zero_iff {w : Nat} (hw : w < 2 ^ 32) :
    Int32.ofNat w - 1 ≤ 0 ↔ w ≤ 1 ∨ 2 ^ 31 < w := by
  rw [Int32.le_iff_toInt_le, Int32.toInt_sub, Int32.toInt_ofNat]
  simp [Int.bmod]
  omega

theorem foldl_word_lt (l : List Char) (a : Nat) :
    l.foldl (fun acc c => acc * 256 + c.toNat % 256) a < (a + 1) * 256 ^ l.length := by
  induction l generalizing a with
  | nil => simp
  | cons c l ih =>
    have hc : c.toNat % 256 < 256 := Nat.mod_lt _ (by omega)
    calc _ < (a * 256 + c.toNat % 256 + 1) * 256 ^ l.length := ih _
      _ ≤ (a + 1) * 256 * 256 ^ l.length := Nat.mul_le_mul_right _ (by omega)
      _ = (a + 1) * 256 ^ (c :: l).length := by rw [List.length_cons, pow_succ', Nat.mul_assoc]

/-- `ntohl` of four bytes is a 32-bit word. -/
theorem word32_lt (buf : List Char) (off : Nat) : word32 buf off < 2 ^ 32 := by
  have h := foldl_word_lt ((buf.drop off).take 4) 0
  have hl : ((buf.drop off).take 4).length ≤ 4 := by simp
  calc word32 buf off < 1 * 256 ^ ((buf.drop off).take 4).length := by simpa [word32] using h
    _ ≤ 1 * 256 ^ 4 := Nat.mul_le_mul_left _ (Nat.pow_le_pow_right (by omega) hl)
    _ = 2 ^ 32 := by norm_num

/-- A length field whose `expl` passes both tests of `mi_rd_cmd` is the length of the data
plus one. -/
theorem expl_accepted {w : Nat} (hw : w < 2 ^ 32) (h₀ : ¬(Int32.ofNat w - 1 ≤ 0))
    (h₁ : ¬(Maxdatasize : Int) < (Int32.ofNat w - 1).toInt) :
    (Int32.ofNat w - 1).toInt.toNat + 1 = w ∧ 0 < (Int32.ofNat w - 1).toInt.toNat ∧
      (Int32.ofNat w - 1).toInt.toNat ≤ Maxdatasize := by
  rw [Int32.le_iff_toInt_le] at h₀
  rw [Int32.toInt_sub, Int32.toInt_ofNat] at h₀ h₁ ⊢
  simp [Int.bmod, Maxdatasize, MILTER_MAX_DATA_SIZE] at h₀ h₁ ⊢
  omega

@[simp] theorem frame_length (c : Char) (data : List Char) :
    (frame c data).length = data.length + 5 := by
  simp [frame]; omega

/-! ### The read loops -/

/-- A round that makes progress or is tried again: an interrupted wait, or a read that returns
at least one byte. -/
def SockEv.benign : SockEv → Bool
  | .intr => true
  | .read n => 0 < n
  | _ => false

/-- A round that reads. -/
def SockEv.isRead : SockEv → Bool
  | .read _ => true
  | _ => false

/-- What a read loop returns on any schedule: the buffer it was given and as many bytes as
it wanted, taken from the front of the socket. -/
theorem rdLoop_ok {want : Nat} {got : List Char} {evs : List SockEv} {bytes r : List Char}
    {s : Sock} (h : rdLoop want got evs bytes = (.ok r, s)) :
    ∃ pre, r = got ++ pre ∧ bytes = pre ++ s.bytes ∧ r.length = want ∧ s.evs <:+ evs := by
  induction evs generalizing got bytes with
  | nil => simp [rdLoop] at h
  | cons ev evs ih =>
    cases ev with
    | intr =>
      obtain ⟨pre, h₁, h₂, h₃, h₄⟩ := ih h
      exact ⟨pre, h₁, h₂, h₃, h₄.trans (List.suffix_cons _ _)⟩
    | read n =>
      simp only [rdLoop] at h
      split_ifs at h with h₀ hdone
      · simp at h
      · -- the read completes the buffer
        simp only [Prod.mk.injEq, Except.ok.injEq] at h
        obtain ⟨rfl, rfl⟩ := h
        refine ⟨bytes.take (min n (min (want - got.length) bytes.length)), rfl, ?_, ?_,
          List.suffix_cons _ _⟩
        · simp
        · simp; omega
      · obtain ⟨pre, h₁, h₂, h₃, h₄⟩ := ih h
        refine ⟨bytes.take (min n (min (want - got.length) bytes.length)) ++ pre, by simp [h₁],
          ?_, h₃, h₄.trans (List.suffix_cons _ _)⟩
        rw [List.append_assoc, ← h₂, List.take_append_drop]
    | _ => simp [rdLoop] at h

/-- The codes a read loop fails with. -/
theorem rdLoop_error {want : Nat} {got : List Char} {evs : List SockEv} {bytes : List Char}
    {c : Char} {s : Sock} (h : rdLoop want got evs bytes = (.error c, s)) :
    c = SMFIC_TIMEOUT ∨ c = SMFIC_SELECT ∨ c = SMFIC_RECVERR ∨ c = SMFIC_EOF := by
  induction evs generalizing got bytes with
  | nil => simp [rdLoop] at h; simp [h]
  | cons ev evs ih =>
    cases ev with
    | intr => exact ih h
    | read n =>
      simp only [rdLoop] at h
      split_ifs at h
      · simp at h; simp [h]
      · simp at h
      · exact ih h
    | _ => simp [rdLoop] at h; simp [h]

/-- A read loop on a socket with nothing left to read fails. -/
theorem rdLoop_nil (want : Nat) (got : List Char) (evs : List SockEv) :
    ∃ c s, rdLoop want got evs [] = (.error c, s) := by
  induction evs with
  | nil => exact ⟨_, _, rfl⟩
  | cons ev evs ih =>
    cases ev with
    | intr => exact ih
    | read n => exact ⟨SMFIC_EOF, ⟨evs, []⟩, by simp [rdLoop]⟩
    | _ => exact ⟨_, _, rfl⟩

/-- **A read loop over any benign schedule.**  With bytes enough on the socket and reads
enough in the schedule, the loop returns the bytes it wants and leaves the rest, however the
reads split them and however often the waits are interrupted.  Each read takes at least one
byte, so the loop uses at most as many reads as it takes bytes. -/
theorem rdLoop_benign (want : Nat) (got pre rest : List Char) {evs : List SockEv}
    (hb : ∀ ev ∈ evs, ev.benign) (hw : got.length + pre.length = want) (hpre : pre ≠ [])
    (hr : pre.length ≤ evs.countP SockEv.isRead) :
    ∃ evs', rdLoop want got evs (pre ++ rest) = (.ok (got ++ pre), ⟨evs', rest⟩) ∧
      evs' <:+ evs ∧ evs.countP SockEv.isRead ≤ evs'.countP SockEv.isRead + pre.length := by
  induction evs generalizing got pre with
  | nil =>
    rw [List.countP_nil, Nat.le_zero, List.length_eq_zero_iff] at hr
    exact absurd hr hpre
  | cons ev evs ih =>
    have hb' : ∀ ev ∈ evs, ev.benign := fun ev h => hb ev (List.mem_cons_of_mem _ h)
    cases ev with
    | intr =>
      obtain ⟨evs', h₁, h₂, h₃⟩ := ih got pre hb' hw hpre (by simpa [SockEv.isRead] using hr)
      exact ⟨evs', h₁, h₂.trans (List.suffix_cons _ _), by simpa [SockEv.isRead] using h₃⟩
    | read n =>
      have hn : 0 < n := by simpa [SockEv.benign] using hb _ List.mem_cons_self
      have hlen : 0 < pre.length := List.length_pos_iff.mpr hpre
      simp only [List.countP_cons, SockEv.isRead, if_true] at hr ⊢
      simp only [rdLoop, List.length_append]
      have hmin : min n (min (want - got.length) (pre.length + rest.length)) =
          min n pre.length := by omega
      rw [hmin]
      split_ifs with h₀ hdone
      · omega
      · -- this read takes the rest of the buffer
        have hk : min n pre.length = pre.length := by omega
        rw [hk, List.take_left, List.drop_left]
        exact ⟨evs, rfl, List.suffix_cons _ _, by omega⟩
      · -- a partial read: the loop goes on with the rest of the buffer
        set k := min n pre.length with hk
        have htake : (pre ++ rest).take k = pre.take k := List.take_append_of_le_length (by omega)
        have hdrop : (pre ++ rest).drop k = pre.drop k ++ rest :=
          List.drop_append_of_le_length (by omega)
        obtain ⟨evs', h₁, h₂, h₃⟩ := ih (got ++ pre.take k) (pre.drop k) hb'
          (by simp; omega) (by simp; omega) (by simp; omega)
        refine ⟨evs', ?_, h₂.trans (List.suffix_cons _ _), by simp at h₃; omega⟩
        rw [htake, hdrop, h₁, List.append_assoc, List.take_append_drop]
    | _ => simp [SockEv.benign] at hb

/-- A read loop over a benign schedule on a socket that ends too soon meets the end of the
connection. -/
theorem rdLoop_short (want : Nat) (got bytes : List Char) {evs : List SockEv}
    (hb : ∀ ev ∈ evs, ev.benign) (hw : got.length + bytes.length < want)
    (hr : bytes.length < evs.countP SockEv.isRead) :
    ∃ s, rdLoop want got evs bytes = (.error SMFIC_EOF, s) := by
  induction evs generalizing got bytes with
  | nil => simp at hr
  | cons ev evs ih =>
    have hb' : ∀ ev ∈ evs, ev.benign := fun ev h => hb ev (List.mem_cons_of_mem _ h)
    cases ev with
    | intr => exact ih got bytes hb' hw (by simpa [SockEv.isRead] using hr)
    | read n =>
      simp only [List.countP_cons, SockEv.isRead, if_true] at hr
      simp only [rdLoop]
      split_ifs with h₀ hdone
      · exact ⟨_, rfl⟩
      · omega
      · exact ih _ _ hb' (by simp; omega) (by simp; omega)
    | _ => simp [SockEv.benign] at hb

/-- The length field and the command character of a frame, over any benign schedule with
reads enough. -/
theorem rdLoop_header (c : Char) (len : Nat) (rest : List Char) {evs : List SockEv}
    (hb : ∀ ev ∈ evs, ev.benign) (hr : MILTER_LEN_BYTES + 1 ≤ evs.countP SockEv.isRead) :
    ∃ evs', rdLoop (MILTER_LEN_BYTES + 1) [] evs (htonl len ++ c :: rest) =
        (.ok (htonl len ++ [c]), ⟨evs', rest⟩) ∧ evs' <:+ evs ∧
      evs.countP SockEv.isRead ≤ evs'.countP SockEv.isRead + (MILTER_LEN_BYTES + 1) := by
  obtain ⟨evs', h₁, h₂, h₃⟩ := rdLoop_benign (MILTER_LEN_BYTES + 1) [] (htonl len ++ [c]) rest
    hb (by simp [MILTER_LEN_BYTES]) (by simp)
    (by simpa [MILTER_LEN_BYTES] using hr)
  exact ⟨evs', by simpa using h₁, h₂, by simpa [MILTER_LEN_BYTES] using h₃⟩

/-! ### Reading a frame -/

/-- `mi_rd_cmd` once it has read the length field of a frame with `len` bytes of data, within
`Maxdatasize`, and the command character: no more for `len = 0`, else the data loop. -/
theorem miRdCmd_of_header {s s₁ : Sock} {len : Nat} {c : Char} (hd : len ≤ Maxdatasize)
    (h : rdLoop (MILTER_LEN_BYTES + 1) [] s.evs s.bytes = (.ok (htonl (len + 1) ++ [c]), s₁)) :
    miRdCmd s = if len = 0 then (none, c, s₁) else
      match rdLoop len [] s₁.evs s₁.bytes with
      | (.error c', s) => (none, c', s)
      | (.ok buf, s) => (some buf, c, s) := by
  have hword : word32 (htonl (len + 1) ++ [c]) 0 = len + 1 := by
    rw [word32_htonl]; simp [Maxdatasize, MILTER_MAX_DATA_SIZE] at hd; omega
  have hcmd : (htonl (len + 1) ++ [c]).getD MILTER_LEN_BYTES '\x00' = c := rfl
  unfold miRdCmd
  rw [h]
  simp only [hword, hcmd]
  by_cases h₀ : len = 0
  · subst h₀
    simp
  · have hpos : ¬(Int32.ofNat (len + 1) - 1 ≤ 0) := by
      rw [expl_le_zero_iff (by simp [Maxdatasize, MILTER_MAX_DATA_SIZE] at hd; omega)]
      simp [Maxdatasize, MILTER_MAX_DATA_SIZE] at hd; omega
    simp only [hpos, if_false, expl_toInt (hd.trans_lt (by decide)), Int.toNat_natCast, h₀]
    rw [if_neg (by simpa using hd)]

/-- **Round trip of a frame.**  Over any benign schedule with reads enough, `mi_rd_cmd` reads
the frame of a command back, whatever the chunks the reads return: its command character and
its data (`NULL` when there are none), leaving what follows the frame on the socket. -/
theorem miRdCmd_frame (c : Char) (data rest : List Char) {evs : List SockEv}
    (hb : ∀ ev ∈ evs, ev.benign) (hd : data.length ≤ Maxdatasize)
    (hr : (frame c data).length ≤ evs.countP SockEv.isRead) :
    ∃ evs', miRdCmd ⟨evs, frame c data ++ rest⟩ =
        (if data = [] then none else some data, c, ⟨evs', rest⟩) ∧
      evs' <:+ evs ∧
      evs.countP SockEv.isRead ≤ evs'.countP SockEv.isRead + (frame c data).length := by
  rw [frame_length] at hr ⊢
  obtain ⟨evs₁, h₁, hs₁, hc₁⟩ := rdLoop_header c (data.length + 1) (data ++ rest) hb
    (by simp [MILTER_LEN_BYTES]; omega)
  rw [miRdCmd_of_header hd (by simpa [frame] using h₁)]
  by_cases h₀ : data = []
  · -- no data: `expl` is 0
    subst h₀
    exact ⟨evs₁, by simp, hs₁, by simp [MILTER_LEN_BYTES] at hc₁; omega⟩
  · -- the data loop
    obtain ⟨evs₂, h₂, hs₂, hc₂⟩ := rdLoop_benign data.length [] data rest
      (fun ev h => hb ev (hs₁.subset h)) (by simp) h₀ (by simp [MILTER_LEN_BYTES] at hc₁; omega)
    refine ⟨evs₂, ?_, hs₂.trans hs₁, by simp [MILTER_LEN_BYTES] at hc₁; omega⟩
    have hl : data.length ≠ 0 := by simpa using h₀
    simp [hl, h₂, h₀]

/-- **What `mi_rd_cmd` hands over, whatever the socket does.**  Over every schedule, when
`mi_rd_cmd` returns data, they are the data of one whole frame at the front of the socket:
a length field that counts them and the command character, the command character, and the
data, which are not empty and within `Maxdatasize`.  The frame is all it takes from the
socket. -/
theorem miRdCmd_some {s s' : Sock} {buf : List Char} {c : Char}
    (h : miRdCmd s = (some buf, c, s')) :
    ∃ hdr, s.bytes = hdr ++ c :: buf ++ s'.bytes ∧ hdr.length = MILTER_LEN_BYTES ∧
      word32 hdr 0 = buf.length + 1 ∧ 0 < buf.length ∧ buf.length ≤ Maxdatasize ∧
      s'.evs <:+ s.evs := by
  unfold miRdCmd at h
  split at h
  · simp at h
  rename_i data s₁ h₁
  obtain ⟨pre, hpre, hb₁, hl₁, hs₁⟩ := rdLoop_ok h₁
  dsimp only at h
  split at h
  · simp at h
  split at h
  · simp at h
  rename_i h₀ hbig
  split at h
  · simp at h
  rename_i body s₂ h₂
  simp only [Prod.mk.injEq, Option.some.injEq] at h
  obtain ⟨rfl, rfl, rfl⟩ := h
  rw [List.nil_append] at hpre
  subst hpre
  obtain ⟨pre₂, hpre₂, hb₂, hl₂, hs₂⟩ := rdLoop_ok h₂
  rw [List.nil_append] at hpre₂
  subst hpre₂
  obtain ⟨hw, hpos, hle⟩ := expl_accepted (word32_lt data 0) h₀ hbig
  -- the five bytes read first are the length field and the command character
  obtain ⟨hdr, c, rfl⟩ : ∃ hdr c, data = hdr ++ [c] := by
    simpa using (List.eq_nil_or_concat data).resolve_left
      (by rintro rfl; simp [MILTER_LEN_BYTES] at hl₁)
  have hhdr : hdr.length = MILTER_LEN_BYTES := by simp at hl₁; omega
  have hword : word32 (hdr ++ [c]) 0 = word32 hdr 0 := by
    have : (hdr ++ [c]).take 4 = hdr.take 4 :=
      List.take_append_of_le_length (by simp [hhdr, MILTER_LEN_BYTES])
    simp only [word32, List.drop_zero, this]
  have hc : (hdr ++ [c]).getD MILTER_LEN_BYTES '\x00' = c := by
    simp [List.getD_eq_getElem?_getD, hhdr]
  rw [hword] at hw hl₂ hpos hle
  rw [hc]
  refine ⟨hdr, by simp [hb₁, hb₂], hhdr, by omega, by omega, by omega, hs₂.trans hs₁⟩

/-- The frame of `SMFIC_HELO` with the data `mx` read in chunks of two and nine bytes. -/
theorem miRdCmd_some_helo :
    ∃ hdr, htonl 4 ++ ['H', 'm', 'x', '\x00'] = hdr ++ 'H' :: ['m', 'x', '\x00'] ++ [] ∧
      hdr.length = MILTER_LEN_BYTES ∧ word32 hdr 0 = ['m', 'x', '\x00'].length + 1 ∧
      0 < ['m', 'x', '\x00'].length ∧ ['m', 'x', '\x00'].length ≤ Maxdatasize ∧
      ([] : List SockEv) <:+ [.read 2, .intr, .read 9, .read 9] :=
  @miRdCmd_some ⟨[.read 2, .intr, .read 9, .read 9], htonl 4 ++ ['H', 'm', 'x', '\x00']⟩
    ⟨[], []⟩ ['m', 'x', '\x00'] 'H' (by decide)

/-- **What a `NULL` from `mi_rd_cmd` means, whatever the socket does.**  Either `*cmd` holds an
error code, or the frame at the front of the socket has a length field whose `expl` is not
positive, and `mi_rd_cmd` took its five bytes and nothing more. -/
theorem miRdCmd_none {s s' : Sock} {c : Char} (h : miRdCmd s = (none, c, s')) :
    (c = SMFIC_TIMEOUT ∨ c = SMFIC_SELECT ∨ c = SMFIC_RECVERR ∨ c = SMFIC_EOF ∨
      c = SMFIC_TOOBIG) ∨
    ∃ hdr, s.bytes = hdr ++ c :: s'.bytes ∧ hdr.length = MILTER_LEN_BYTES ∧
      Int32.ofNat (word32 hdr 0) - 1 ≤ 0 := by
  unfold miRdCmd at h
  split at h
  · rename_i c' s₁ h₁
    simp only [Prod.mk.injEq, true_and] at h
    obtain ⟨rfl, -⟩ := h
    rcases rdLoop_error h₁ with h | h | h | h <;> simp [h]
  rename_i data s₁ h₁
  obtain ⟨pre, hpre, hb₁, hl₁, -⟩ := rdLoop_ok h₁
  rw [List.nil_append] at hpre
  subst hpre
  obtain ⟨hdr, c₅, rfl⟩ : ∃ hdr c, data = hdr ++ [c] := by
    simpa using (List.eq_nil_or_concat data).resolve_left
      (by rintro rfl; simp [MILTER_LEN_BYTES] at hl₁)
  have hhdr : hdr.length = MILTER_LEN_BYTES := by simp at hl₁; omega
  have hword : word32 (hdr ++ [c₅]) 0 = word32 hdr 0 := by
    have : (hdr ++ [c₅]).take 4 = hdr.take 4 :=
      List.take_append_of_le_length (by simp [hhdr, MILTER_LEN_BYTES])
    simp only [word32, List.drop_zero, this]
  have hc : (hdr ++ [c₅]).getD MILTER_LEN_BYTES '\x00' = c₅ := by
    simp [List.getD_eq_getElem?_getD, hhdr]
  dsimp only at h
  rw [hword, hc] at h
  split at h
  · -- no data
    rename_i h₀
    simp only [Prod.mk.injEq, true_and] at h
    obtain ⟨rfl, rfl⟩ := h
    exact .inr ⟨hdr, by simp [hb₁], hhdr, h₀⟩
  split at h
  · simp only [Prod.mk.injEq, true_and] at h
    simp [← h.1]
  split at h
  · rename_i c' s₂ h₂
    simp only [Prod.mk.injEq, true_and] at h
    obtain ⟨rfl, -⟩ := h
    rcases rdLoop_error h₂ with h | h | h | h <;> simp [h]
  · simp at h

/-- A length field of 0 takes the next byte, here the first byte of the next frame's length
field, as its command character. -/
theorem miRdCmd_none_zero :
    ('\x00' = SMFIC_TIMEOUT ∨ '\x00' = SMFIC_SELECT ∨ '\x00' = SMFIC_RECVERR ∨
        '\x00' = SMFIC_EOF ∨ '\x00' = SMFIC_TOOBIG) ∨
      ∃ hdr, htonl 0 ++ frame 'Q' [] = hdr ++ '\x00' :: ['\x00', '\x00', '\x01', 'Q'] ∧
        hdr.length = MILTER_LEN_BYTES ∧ Int32.ofNat (word32 hdr 0) - 1 ≤ 0 :=
  @miRdCmd_none ⟨[.read 5, .read 5], htonl 0 ++ frame 'Q' []⟩
    ⟨[.read 5], ['\x00', '\x00', '\x01', 'Q']⟩ '\x00' (by decide)

/-- **A frame cut short.**  When the MTA closes the connection in the middle of a frame,
`mi_rd_cmd` reports the end of file, over any benign schedule with reads enough. -/
theorem miRdCmd_cut {c : Char} {data cut : List Char} {evs : List SockEv}
    (hb : ∀ ev ∈ evs, ev.benign) (hd : data.length ≤ Maxdatasize)
    (hcut : cut <+: frame c data) (hlt : cut.length < (frame c data).length)
    (hr : (frame c data).length ≤ evs.countP SockEv.isRead) :
    ∃ s, miRdCmd ⟨evs, cut⟩ = (none, SMFIC_EOF, s) := by
  rw [frame_length] at hr hlt
  by_cases hh : cut.length < MILTER_LEN_BYTES + 1
  · -- the end comes within the length field and the command character
    obtain ⟨s, hs⟩ := rdLoop_short (MILTER_LEN_BYTES + 1) [] cut hb
      (by rw [List.length_nil, Nat.zero_add]; exact hh) (by omega)
    refine ⟨s, ?_⟩
    unfold miRdCmd
    rw [hs]
  · -- the end comes within the data
    set k := cut.length - (MILTER_LEN_BYTES + 1) with hk
    have hcut₁ : cut = htonl (data.length + 1) ++ c :: data.take k := by
      rw [List.prefix_iff_eq_take.mp hcut, frame, List.take_append, List.take_of_length_le
        (by simp [MILTER_LEN_BYTES] at hh ⊢; omega)]
      simp only [htonl_length]
      rw [show cut.length - 4 = k + 1 by simp [MILTER_LEN_BYTES] at hh hk ⊢; omega,
        List.take_succ_cons]
    have hlen : k < data.length := by simp [MILTER_LEN_BYTES] at hh hk; omega
    obtain ⟨evs₁, h₁, hs₁, hc₁⟩ := rdLoop_header c (data.length + 1) (data.take k) hb
      (by simp [MILTER_LEN_BYTES]; omega)
    rw [← hcut₁] at h₁
    obtain ⟨s, hs⟩ := rdLoop_short data.length [] (data.take k)
      (fun ev h => hb ev (hs₁.subset h)) (by simp; omega)
      (by simp [MILTER_LEN_BYTES] at hc₁; simp; omega)
    refine ⟨s, ?_⟩
    rw [miRdCmd_of_header hd h₁, if_neg (by omega)]
    simp [hs]

/-- The MTA closes the connection after two bytes of the data of a `SMFIC_HELO`. -/
theorem miRdCmd_cut_helo :
    ∃ s, miRdCmd ⟨List.replicate 8 (.read 3), htonl 4 ++ ['H', 'm', 'x']⟩ = (none, SMFIC_EOF, s) :=
  @miRdCmd_cut 'H' ['m', 'x', '\x00'] _ _ (by decide) (by decide) (by decide) (by decide)
    (by decide)

/-- **A frame too big.**  A length field announcing more than `Maxdatasize` bytes of data
(and less than `2^31`) is refused with `SMFIC_TOOBIG` as soon as the length field and the
command character are read; the data are not read. -/
theorem miRdCmd_tooBig {len : Nat} {c : Char} {rest : List Char} {evs : List SockEv}
    (hb : ∀ ev ∈ evs, ev.benign) (hr : MILTER_LEN_BYTES + 1 ≤ evs.countP SockEv.isRead)
    (hbig : Maxdatasize < len) (hlen : len < 2 ^ 31) :
    ∃ evs', miRdCmd ⟨evs, htonl (len + 1) ++ c :: rest⟩ = (none, SMFIC_TOOBIG, ⟨evs', rest⟩) := by
  obtain ⟨evs₁, h₁, -, -⟩ := rdLoop_header c (len + 1) rest hb hr
  have hword : word32 (htonl (len + 1) ++ [c]) 0 = len + 1 := by
    rw [word32_htonl]; omega
  have hpos : ¬(Int32.ofNat (len + 1) - 1 ≤ 0) := by
    rw [expl_le_zero_iff (by omega)]; simp [Maxdatasize, MILTER_MAX_DATA_SIZE] at hbig; omega
  refine ⟨evs₁, ?_⟩
  unfold miRdCmd
  rw [h₁]
  simp only [hword, hpos, if_false, expl_toInt hlen]
  rw [if_pos (by exact_mod_cast hbig)]

/-- A body chunk announced with 70000 bytes is refused. -/
theorem miRdCmd_tooBig_body :
    ∃ evs', miRdCmd ⟨List.replicate 5 (.read 1), htonl (70000 + 1) ++ 'B' :: ['x']⟩ =
      (none, SMFIC_TOOBIG, ⟨evs', ['x']⟩) :=
  miRdCmd_tooBig (by decide) (by decide) (by decide) (by decide)

/-- A round that makes progress or is tried again: an interrupted wait or `writev`, or a
`writev` that writes at least one byte. -/
def WrEv.benign : WrEv → Bool
  | .intr => true
  | .wrote n => 0 < n
  | .fail => false

/-- A round that writes. -/
def WrEv.isWrite : WrEv → Bool
  | .wrote _ => true
  | _ => false

/-- What is left of the vector after a `writev` of `n` bytes is what follows them. -/
theorem advance_flatten (n : Nat) (iov : List (List Char)) :
    (advance n iov).1.flatten = iov.flatten.drop n := by
  induction iov generalizing n with
  | nil => simp [advance]
  | cons v vs ih =>
    unfold advance
    split_ifs with h
    · simp [List.drop_append_of_le_length h.le]
    · simp only [List.flatten_cons, List.nil_append, ih, List.drop_append,
        List.drop_eq_nil_of_le (Nat.le_of_not_lt h)]

/-- The vector is used up exactly when the `writev` wrote all of it. -/
theorem advance_all (n : Nat) (iov : List (List Char)) :
    (advance n iov).2 = decide (iov.flatten.length ≤ n) := by
  induction iov generalizing n with
  | nil => simp [advance]
  | cons v vs ih =>
    unfold advance
    split_ifs with h
    · simp; omega
    · simp only [ih, List.flatten_cons, List.length_append, decide_eq_decide]
      omega

theorem flatten_dropWhile_isEmpty (iov : List (List Char)) :
    (iov.dropWhile List.isEmpty).flatten = iov.flatten := by
  induction iov with
  | nil => rfl
  | cons v vs ih =>
    by_cases h : v.isEmpty
    · simp [ih, List.isEmpty_iff.mp h]
    · simp [h]

theorem dropWhile_isEmpty_eq_nil (iov : List (List Char)) :
    iov.dropWhile List.isEmpty = [] ↔ iov.flatten = [] := by
  induction iov with
  | nil => simp
  | cons v vs ih =>
    by_cases h : v.isEmpty
    · simp [ih, List.isEmpty_iff.mp h]
    · simp_all

/-- **`retry_writev` writes the vector in order, over any schedule.**  What reaches the MTA is
the front of the vector's bytes, none lost, doubled or out of order; when `retry_writev`
returns a count, it has written them all, and the count is their number. -/
theorem retryWritev_prefix (written : Nat) (iov : List (List Char)) (evs : List WrEv) :
    (retryWritev written iov evs).2 <+: iov.flatten ∧
      ∀ w, (retryWritev written iov evs).1 = some w →
        (retryWritev written iov evs).2 = iov.flatten ∧ w = written + iov.flatten.length := by
  induction evs generalizing written iov with
  | nil =>
    unfold retryWritev
    dsimp only
    split_ifs with h
    · rw [dropWhile_isEmpty_eq_nil] at h
      simp [h]
    · simp
  | cons ev evs ih =>
    unfold retryWritev
    dsimp only
    split_ifs with h
    · rw [dropWhile_isEmpty_eq_nil] at h
      simp [h]
    rw [← flatten_dropWhile_isEmpty iov]
    generalize iov.dropWhile List.isEmpty = iov₀
    cases ev with
    | fail => simp
    | intr => exact ih written iov₀
    | wrote n =>
      dsimp only
      rw [advance_all]
      split_ifs with hall <;> rw [decide_eq_true_eq, List.length_take] at hall
      · -- this `writev` wrote the rest of the vector
        have hout : iov₀.flatten.take n = iov₀.flatten := List.take_of_length_le (by omega)
        refine ⟨by rw [hout], fun w hw => ⟨hout, ?_⟩⟩
        simp only [Option.some.injEq] at hw
        rw [← hw, hout]
      · -- a partial write: the loop goes on with the rest of the vector
        have hn : (iov₀.flatten.take n).length = n := List.length_take_of_le (by omega)
        rw [hn]
        obtain ⟨h₁, h₂⟩ := ih (written + n) (advance n iov₀).1
        rw [advance_flatten] at h₁ h₂
        refine ⟨?_, fun w hw => ?_⟩
        · dsimp only
          conv_rhs => rw [← List.take_append_drop n iov₀.flatten]
          exact (List.prefix_append_right_inj _).mpr h₁
        · obtain ⟨h₃, h₄⟩ := h₂ w hw
          refine ⟨by rw [h₃, List.take_append_drop], ?_⟩
          rw [h₄, List.length_drop]
          omega

/-- **`retry_writev` finishes over any benign schedule with writes enough**: each `writev`
writes at least one byte, so that many writes empty the vector, however they split it. -/
theorem retryWritev_benign (written : Nat) (iov : List (List Char)) {evs : List WrEv}
    (hb : ∀ ev ∈ evs, ev.benign) (hr : iov.flatten.length ≤ evs.countP WrEv.isWrite) :
    (retryWritev written iov evs).1 = some (written + iov.flatten.length) := by
  induction evs generalizing written iov with
  | nil =>
    rw [List.countP_nil, Nat.le_zero, List.length_eq_zero_iff,
      ← dropWhile_isEmpty_eq_nil] at hr
    unfold retryWritev
    simp [hr, ← flatten_dropWhile_isEmpty iov]
  | cons ev evs ih =>
    have hb' : ∀ ev ∈ evs, ev.benign := fun ev h => hb ev (List.mem_cons_of_mem _ h)
    unfold retryWritev
    dsimp only
    split_ifs with h
    · rw [dropWhile_isEmpty_eq_nil] at h
      simp [h]
    rw [← flatten_dropWhile_isEmpty iov] at hr ⊢
    generalize iov.dropWhile List.isEmpty = iov₀ at hr ⊢
    cases ev with
    | fail => simp [WrEv.benign] at hb
    | intr => exact ih written iov₀ hb' (by simpa [WrEv.isWrite] using hr)
    | wrote n =>
      have hn : 0 < n := by simpa [WrEv.benign] using hb _ List.mem_cons_self
      simp only [List.countP_cons, WrEv.isWrite, if_true] at hr
      dsimp only
      rw [advance_all]
      split_ifs with hall <;> rw [decide_eq_true_eq, List.length_take] at hall
      · simp only [List.length_take]
        congr 2
        omega
      · have hk : (iov₀.flatten.take n).length = n := List.length_take_of_le (by omega)
        rw [hk, ih (written + n) (advance n iov₀).1 hb'
          (by rw [advance_flatten, List.length_drop]; omega), advance_flatten,
          List.length_drop]
        congr 1
        omega

/-- **What `mi_wr_cmd` puts on the wire, over any schedule**: the front of the frame of the
command with the `len` bytes of the buffer, and on `MI_SUCCESS` the whole frame, whose data are
then within `Maxdatasize`. -/
theorem miWrCmd_out (cmd : Char) (buf : Option (List Char)) (len : Nat) (evs : List WrEv) :
    (miWrCmd cmd buf len evs).2 <+: htonl (len + 1) ++ cmd :: (buf.getD []).take len ∧
      ((miWrCmd cmd buf len evs).1 = MI_SUCCESS →
        (miWrCmd cmd buf len evs).2 = htonl (len + 1) ++ cmd :: (buf.getD []).take len ∧
          len ≤ Maxdatasize) := by
  unfold miWrCmd
  split_ifs with hbad
  · exact ⟨List.nil_prefix, fun h => absurd h (by decide)⟩
  simp only [Bool.or_eq_true, decide_eq_true_eq, Bool.and_eq_true, Option.isNone_iff_eq_none,
    not_or, not_and, not_lt] at hbad
  -- the vector holds the frame, whether or not there is a buffer
  have hiov : (wrIov cmd buf len).flatten = htonl (len + 1) ++ cmd :: (buf.getD []).take len := by
    cases buf with
    | some b => simp [wrIov]
    | none =>
      have h₀ : len = 0 := by
        by_contra h
        exact hbad.2 (by omega) rfl
      simp [wrIov, h₀]
  obtain ⟨h₁, h₂⟩ := retryWritev_prefix 0 (wrIov cmd buf len) evs
  rw [hiov] at h₁ h₂
  split
  · rename_i out hw
    rw [hw] at h₁
    exact ⟨h₁, fun h => absurd h (by simp [MI_FAILURE, MI_SUCCESS])⟩
  · rename_i w out hw
    rw [hw] at h₁ h₂
    exact ⟨h₁, fun _ => ⟨(h₂ w rfl).1, hbad.1⟩⟩

/-- `mi_wr_cmd` succeeds over any benign schedule with writes enough, for data within
`Maxdatasize`. -/
theorem miWrCmd_benign {cmd : Char} {data : List Char} {evs : List WrEv}
    (hb : ∀ ev ∈ evs, ev.benign) (hd : data.length ≤ Maxdatasize)
    (hr : (frame cmd data).length ≤ evs.countP WrEv.isWrite) :
    (miWrCmd cmd (some data) data.length evs).1 = MI_SUCCESS := by
  have hw := retryWritev_benign 0 (wrIov cmd (some data) data.length) hb
    (by simp [wrIov] at hr ⊢; omega)
  unfold miWrCmd
  rw [if_neg (by simpa using hd)]
  rcases hrw : retryWritev 0 (wrIov cmd (some data) data.length) evs with ⟨_ | _, out⟩
  · simp [hrw] at hw
  · rfl

/-- `SMFIC_HELO` and its three bytes, written after an interrupted write over partial writes
of one and three bytes. -/
theorem miWrCmd_benign_helo :
    (∀ ev ∈ ([.intr, .wrote 3, .wrote 1, .wrote 1, .wrote 1, .wrote 1, .wrote 1, .wrote 1,
        .wrote 1] : List WrEv), ev.benign) ∧
      ['m', 'x', '\x00'].length ≤ Maxdatasize ∧
      (frame 'H' ['m', 'x', '\x00']).length ≤ ([.intr, .wrote 3, .wrote 1, .wrote 1, .wrote 1,
        .wrote 1, .wrote 1, .wrote 1, .wrote 1] : List WrEv).countP WrEv.isWrite ∧
      (miWrCmd 'H' (some ['m', 'x', '\x00']) ['m', 'x', '\x00'].length [.intr, .wrote 3,
        .wrote 1, .wrote 1, .wrote 1, .wrote 1, .wrote 1, .wrote 1, .wrote 1]).1 = MI_SUCCESS :=
  have hb : ∀ ev ∈ ([.intr, .wrote 3, .wrote 1, .wrote 1, .wrote 1, .wrote 1, .wrote 1,
      .wrote 1, .wrote 1] : List WrEv), ev.benign := by decide
  have hd : ['m', 'x', '\x00'].length ≤ Maxdatasize := by decide
  have hr : (frame 'H' ['m', 'x', '\x00']).length ≤ ([.intr, .wrote 3, .wrote 1, .wrote 1,
      .wrote 1, .wrote 1, .wrote 1, .wrote 1, .wrote 1] : List WrEv).countP WrEv.isWrite := by
    decide
  ⟨hb, hd, hr, miWrCmd_benign hb hd hr⟩

/-- **Round trip through the socket.**  The bytes that `mi_wr_cmd` puts on the wire for a
command and its data, over any schedule of writes on which it succeeds, are read back by
`mi_rd_cmd` over any benign schedule of reads with reads enough: the command, its data
(`NULL` when there are none), and the rest of the stream. -/
theorem miRdCmd_miWrCmd {cmd : Char} {data rest : List Char} {wevs : List WrEv}
    {evs : List SockEv} (hw : (miWrCmd cmd (some data) data.length wevs).1 = MI_SUCCESS)
    (hb : ∀ ev ∈ evs, ev.benign) (hr : (frame cmd data).length ≤ evs.countP SockEv.isRead) :
    ∃ evs', miRdCmd ⟨evs, (miWrCmd cmd (some data) data.length wevs).2 ++ rest⟩ =
      (if data = [] then none else some data, cmd, ⟨evs', rest⟩) := by
  obtain ⟨-, hout⟩ := miWrCmd_out cmd (some data) data.length wevs
  obtain ⟨hout, hd⟩ := hout hw
  rw [hout]
  obtain ⟨evs', h, -, -⟩ := miRdCmd_frame cmd data rest hb hd hr
  exact ⟨evs', by simpa [frame] using h⟩

/-- The frame of `SMFIC_HELO` written in two `writev`s and read in chunks of three, one and
nine bytes. -/
theorem miRdCmd_miWrCmd_helo :
    ∃ evs', miRdCmd ⟨[.read 3, .intr, .read 1, .read 9, .read 1, .read 1, .read 1, .read 1,
        .read 1], (miWrCmd 'H' (some ['m', 'x', '\x00']) ['m', 'x', '\x00'].length
          [.wrote 2, .intr, .wrote 64]).2 ++ []⟩ =
      (if ['m', 'x', '\x00'] = [] then none else some ['m', 'x', '\x00'], 'H', ⟨evs', []⟩) :=
  miRdCmd_miWrCmd (by decide) (by decide) (by decide)

end Milter

end Pmilter
