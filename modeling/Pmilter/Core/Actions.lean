import Pmilter.Core.Callbacks
import Pmilter.Milter.Comm
import Pmilter.Milter.Lifecycle

/-!
# What a filter asks of the MTA

A pmilter handler changes the message through `Pmilter::Session`
(`pmilter_mruby_session.c`): `add_header` calls `smfi_addheader`, `change_envelope_from`
calls `smfi_chgfrom` and `add_envelope_to` calls `smfi_addrcpt_par` (`smfi.c`).  Each of
these checks with `mi_sendok` (`engine.c`) that the filter may take the action (the bit is in
`ctx_aflags`, the actions negotiated in `st_optionneg`) and that the session is at the end of
the message (`ST_ENDM`), and then writes one frame to the MTA with `mi_wr_cmd`: the header
name and value (`smfi_header`), or the address and its ESMTP arguments (`send2`), each a
`'\x00'`-terminated string.

* `smfiAddheader_ok`, `smfiSendAddr_ok` : what a successful request needed, and the frame it
  wrote;
* `pmilterMrbSessionAddHeader_roundTrip`, `mrbSessionEnvelope_roundTrip` : the MTA reads the
  frame of a Ruby call back over any benign schedule, and the data split into the header's name
  and value, or into the address and its arguments;
* `smfiAddrcpt_eq` : `smfi_addrcpt`, which writes its frame itself, asks what
  `smfi_addrcpt_par` asks without arguments;
* `engine_run_sendok` : in every live session, whatever the inputs before, the turn of a
  command lets an action through only if it is `SMFIC_BODYEOB` and the MTA offered the action;
* `smfilter_optionneg_aflags` : pmilter answers the negotiation with `SMFIS_ALL_OPTS`, so the
  actions it may take are those the MTA offers, not those `smfilter` declares.

Not modelled: a failing `malloc` in `smfi_header` and `send2`, and the `TypeError` of
`mrb_str_to_cstr` on an argument that is not a `String`.
-/

namespace Pmilter

open Milter

/-- `SMFIF_CHGFROM`. -/
def SMFIF_CHGFROM : Nat := 0x40
/-- `SMFIF_ADDRCPT_PAR`. -/
def SMFIF_ADDRCPT_PAR : Nat := 0x80

/-- `SMFIR_ADDRCPT`. -/
def SMFIR_ADDRCPT : Char := '+'
/-- `SMFIR_ADDRCPT_PAR`. -/
def SMFIR_ADDRCPT_PAR : Char := '2'
/-- `SMFIR_CHGFROM`. -/
def SMFIR_CHGFROM : Char := 'e'
/-- `SMFIR_ADDHEADER`. -/
def SMFIR_ADDHEADER : Char := 'h'

/-- `mi_sendok(ctx, flag)`: may the filter send the modification `flag` now? -/
def miSendok (ctx : MiCtx) (flag : Nat) : Bool :=
  -- did the milter request this operation?
  if flag != 0 && !bitset flag ctx.aflags then false
  -- are we in the correct state? It must be "End of Message".
  else ctx.state == .endm

/-! ### C strings -/

/-- The characters of a C string, up to its first `'\x00'` (`strlen`). -/
def cstrChars (s : String) : List Char := s.toList.takeWhile (· != '\x00')

/-- The `strlen(s) + 1` bytes `memcpy` copies from a C string. -/
def cstrBytes (s : String) : List Char := cstrChars s ++ ['\x00']

/-! ### `smfi.c` -/

/-- `smfi_header`: the frame `cmd` of a header, with its index in front when `hdridx` is not
negative; `NULL` is `none`.  The result and the bytes that reach the MTA. -/
def smfiHeader (cmd : Char) (hdridx : Int) (headerf headerv : Option String)
    (evs : List WrEv) : Int32 × List Char :=
  match headerf, headerv with
  | some f, some v =>
    if (cstrChars f).isEmpty then (MI_FAILURE, [])
    else
      let buf := (if 0 ≤ hdridx then htonl hdridx.toNat else []) ++ cstrBytes f ++ cstrBytes v
      miWrCmd cmd (some buf) buf.length evs
  | _, _ => (MI_FAILURE, [])

/-- `smfi_addheader(ctx, headerf, headerv)`. -/
def smfiAddheader (ctx : MiCtx) (headerf headerv : Option String) (evs : List WrEv) :
    Int32 × List Char :=
  if !miSendok ctx SMFIF_ADDHDRS then (MI_FAILURE, [])
  else smfiHeader SMFIR_ADDHEADER (-1) headerf headerv evs

/-- `send2(ctx, cmd, arg0, arg1)`: the frame `cmd` of one or two strings. -/
def send2 (cmd : Char) (arg0 arg1 : Option String) (evs : List WrEv) : Int32 × List Char :=
  match arg0 with
  | none => (MI_FAILURE, [])
  | some a0 =>
    if (cstrChars a0).isEmpty then (MI_FAILURE, [])
    else
      let buf := cstrBytes a0 ++ (arg1.map cstrBytes).getD []
      miWrCmd cmd (some buf) buf.length evs

/-- The body of `smfi_chgfrom` and `smfi_addrcpt_par`: refuse a missing or empty address, ask
`mi_sendok` for the action `flag`, and send the address and its ESMTP arguments as `cmd`. -/
def smfiSendAddr (flag : Nat) (cmd : Char) (ctx : MiCtx) (addr args : Option String)
    (evs : List WrEv) : Int32 × List Char :=
  match addr with
  | none => (MI_FAILURE, [])
  | some a =>
    if (cstrChars a).isEmpty then (MI_FAILURE, [])
    else if !miSendok ctx flag then (MI_FAILURE, [])
    else send2 cmd addr args evs

/-- `smfi_chgfrom(ctx, from, args)`. -/
def smfiChgfrom (ctx : MiCtx) (fromAddr args : Option String) (evs : List WrEv) :
    Int32 × List Char :=
  smfiSendAddr SMFIF_CHGFROM SMFIR_CHGFROM ctx fromAddr args evs

/-- `smfi_addrcpt_par(ctx, rcpt, args)`. -/
def smfiAddrcptPar (ctx : MiCtx) (rcpt args : Option String) (evs : List WrEv) :
    Int32 × List Char :=
  smfiSendAddr SMFIF_ADDRCPT_PAR SMFIR_ADDRCPT_PAR ctx rcpt args evs

/-- `smfi_addrcpt(ctx, rcpt)`, which writes the address itself rather than through `send2`. -/
def smfiAddrcpt (ctx : MiCtx) (rcpt : Option String) (evs : List WrEv) : Int32 × List Char :=
  match rcpt with
  | none => (MI_FAILURE, [])
  | some r =>
    if (cstrChars r).isEmpty then (MI_FAILURE, [])
    else if !miSendok ctx SMFIF_ADDRCPT then (MI_FAILURE, [])
    else miWrCmd SMFIR_ADDRCPT (some (cstrBytes r)) (cstrBytes r).length evs

/-! ### `Pmilter::Session` -/

/-- An exception a Ruby method raises. -/
inductive MrbRaise
  /-- `ArgumentError` with its message. -/
  | argumentError (msg : String)
  deriving DecidableEq, Repr

/-- `mrb_str_to_cstr`, and `mrb_get_args` with `z`: the C string of a Ruby string, which
must hold no `'\x00'`. -/
def mrbStrToCstr (s : String) : Except MrbRaise String :=
  if s.toList.contains '\x00' then .error (.argumentError "string contains null byte")
  else .ok s

/-- `Pmilter::Session#add_header(key, val)`: the result of `smfi_addheader`, as an
`Integer`. -/
def pmilterMrbSessionAddHeader (ctx : MiCtx) (key val : String) (evs : List WrEv) :
    Except MrbRaise (Int32 × List Char) := do
  let k ← mrbStrToCstr key
  let v ← mrbStrToCstr val
  return smfiAddheader ctx (some k) (some v) evs

/-- The body of `change_envelope_from` and `add_envelope_to`: the address and the optional
ESMTP arguments as C strings (`mrb_get_args` with `"z|z"`), then the request `send`, whose
result the method returns. -/
def mrbSessionEnvelope
    (send : MiCtx → Option String → Option String → List WrEv → Int32 × List Char)
    (ctx : MiCtx) (addr : String) (esmtpArg : Option String) (evs : List WrEv) :
    Except MrbRaise (Int32 × List Char) := do
  let a ← mrbStrToCstr addr
  let e ← esmtpArg.mapM mrbStrToCstr
  return send ctx (some a) e evs

/-- `Pmilter::Session#change_envelope_from(from, esmtp_arg = nil)`. -/
def pmilterMrbSessionChangeEnvelopeFrom (ctx : MiCtx) (fromAddr : String)
    (esmtpArg : Option String) (evs : List WrEv) : Except MrbRaise (Int32 × List Char) :=
  mrbSessionEnvelope smfiChgfrom ctx fromAddr esmtpArg evs

/-- `Pmilter::Session#add_envelope_to(to, esmtp_arg = nil)`, the address `to` here
`rcptTo`. -/
def pmilterMrbSessionAddRcptTo (ctx : MiCtx) (rcptTo : String) (esmtpArg : Option String)
    (evs : List WrEv) : Except MrbRaise (Int32 × List Char) :=
  mrbSessionEnvelope smfiAddrcptPar ctx rcptTo esmtpArg evs

/-! ### Strings on the wire -/

theorem takeWhile_of_nul {l : List Char} (hl : '\x00' ∉ l) : l.takeWhile (· != '\x00') = l := by
  induction l with
  | nil => rfl
  | cons c l ih =>
    have hc : c ≠ '\x00' := fun h => hl (h ▸ List.mem_cons_self)
    simp [hc, ih (fun h => hl (List.mem_cons_of_mem c h))]

theorem cstrChars_of_nul {s : String} (hs : '\x00' ∉ s.toList) : cstrChars s = s.toList :=
  takeWhile_of_nul hs

theorem takeWhile_nul {l : List Char} (hl : '\x00' ∉ l) (r : List Char) :
    (l ++ '\x00' :: r).takeWhile (· != '\x00') = l := by
  induction l with
  | nil => simp
  | cons c l ih =>
    have hc : c ≠ '\x00' := fun h => hl (h ▸ List.mem_cons_self)
    simp [hc, ih (fun h => hl (List.mem_cons_of_mem c h))]

theorem findIdx_nul {l : List Char} (hl : '\x00' ∉ l) (r : List Char) :
    (l ++ '\x00' :: r).findIdx (· == '\x00') = l.length := by
  induction l with
  | nil => simp [List.findIdx_cons]
  | cons c l ih =>
    have hc : (c == '\x00') = false := beq_eq_false_iff_ne.2 fun h => hl (h ▸ List.mem_cons_self)
    simp [List.findIdx_cons, hc, ih (fun h => hl (List.mem_cons_of_mem c h))]

/-- The data of a header line read back: `dec_arg2` splits the name from the value at the first
`'\x00'`. -/
theorem decArg2_header {f v : String} (hf : '\x00' ∉ f.toList) (hne : f.toList ≠ [])
    (hv : '\x00' ∉ v.toList) : decArg2 (cstrBytes f ++ cstrBytes v) = some (f, v) := by
  have hbuf : cstrBytes f ++ cstrBytes v = f.toList ++ '\x00' :: (v.toList ++ ['\x00']) := by
    simp [cstrBytes, cstrChars_of_nul hf, cstrChars_of_nul hv]
  obtain ⟨c, cs, hcs⟩ := List.exists_cons_of_ne_nil hne
  -- the search for the end of the name starts at its second character
  have hfind : findNul (f.toList ++ '\x00' :: (v.toList ++ ['\x00'])) 1 = f.toList.length := by
    have hcs' : '\x00' ∉ cs := fun h => hf (by rw [hcs]; exact List.mem_cons_of_mem c h)
    simp [findNul, hcs, findIdx_nul hcs']
    omega
  rw [hbuf, decArg2]
  simp only [List.getLast?_append, List.getLast?_cons, Option.some_or, hfind]
  rw [if_neg (by simp)]
  simp [cstr, takeWhile_nul hf, takeWhile_nul hv, List.drop_append_of_le_length]

theorem flatMap_nul_eq_intercalate (ls : List (List Char)) :
    ls.flatMap (· ++ ['\x00']) = ['\x00'].intercalate (ls ++ [[]]) := by
  induction ls with
  | nil => rfl
  | cons l ls ih =>
    cases ls with
    | nil => simp
    | cons l' ls => simp [List.flatMap_cons, ih, List.intercalate_cons_cons]

/-- The data of an address and its arguments read back: `dec_argv` splits them at each
`'\x00'`. -/
theorem decArgv_cstrs {strs : List String} (hne : strs ≠ [])
    (hs : ∀ s ∈ strs, '\x00' ∉ s.toList) : decArgv (strs.flatMap cstrBytes) = some strs := by
  have hbytes : strs.flatMap cstrBytes = (strs.map String.toList).flatMap (· ++ ['\x00']) := by
    rw [List.flatMap_map]
    exact List.flatMap_congr fun s h => by rw [cstrBytes, cstrChars_of_nul (hs s h)]
  have hsplit : (strs.flatMap cstrBytes).splitOn '\x00' = strs.map String.toList ++ [[]] := by
    rw [hbytes, flatMap_nul_eq_intercalate]
    refine List.splitOn_intercalate _ (fun l hl => ?_) (by simp)
    simp only [List.mem_append, List.mem_map, List.mem_singleton] at hl
    rcases hl with ⟨s, hs', rfl⟩ | rfl
    · exact hs s hs'
    · simp
  obtain ⟨s, rest, rfl⟩ := List.exists_cons_of_ne_nil hne
  have hmem : ((s :: rest).flatMap cstrBytes).contains '\x00' = true :=
    List.contains_iff_mem.2 (by simp [cstrBytes])
  rw [decArgv, if_pos hmem, nulFields, hsplit, List.dropLast_concat, List.map_map]
  simp

/-! ### What a request needs and what it writes -/

theorem miSendok_eq_true {ctx : MiCtx} {flag : Nat} (hflag : flag ≠ 0) :
    miSendok ctx flag = true ↔ bitset flag ctx.aflags = true ∧ ctx.state = .endm := by
  unfold miSendok
  cases h : bitset flag ctx.aflags <;> simp [hflag]

/-- The frame `mi_wr_cmd` writes when it succeeds. -/
theorem miWrCmd_frame {cmd : Char} {data : List Char} {evs : List WrEv}
    (h : (miWrCmd cmd (some data) data.length evs).1 = MI_SUCCESS) :
    (miWrCmd cmd (some data) data.length evs).2 = frame cmd data ∧ data.length ≤ Maxdatasize := by
  obtain ⟨-, hout⟩ := miWrCmd_out cmd (some data) data.length evs
  obtain ⟨hout, hd⟩ := hout h
  exact ⟨by simpa [frame] using hout, hd⟩

/-- **What `smfi_addheader` needs and writes.**  A request that succeeds was made at the end
of the message with `SMFIF_ADDHDRS` negotiated, for a name that is not empty, and wrote the
frame `SMFIR_ADDHEADER` of the name and the value. -/
theorem smfiAddheader_ok {ctx : MiCtx} {headerf headerv : Option String} {evs : List WrEv}
    (h : (smfiAddheader ctx headerf headerv evs).1 = MI_SUCCESS) :
    bitset SMFIF_ADDHDRS ctx.aflags = true ∧ ctx.state = .endm ∧
      ∃ f v, headerf = some f ∧ headerv = some v ∧ cstrChars f ≠ [] ∧
        (smfiAddheader ctx headerf headerv evs).2 =
          frame SMFIR_ADDHEADER (cstrBytes f ++ cstrBytes v) ∧
        (cstrBytes f ++ cstrBytes v).length ≤ Maxdatasize := by
  unfold smfiAddheader at h ⊢
  split at h
  · exact absurd h (by decide)
  rename_i hok
  rw [Bool.not_eq_true', Bool.not_eq_false] at hok
  obtain ⟨hbit, hst⟩ := (miSendok_eq_true (by decide)).1 hok
  rw [if_neg (by simp [hok])]
  unfold smfiHeader at h ⊢
  split at h
  · rename_i f v
    split at h
    · exact absurd h (by decide)
    rename_i hne
    rw [if_neg hne]
    -- the index `-1` puts nothing in front
    simp only [show ¬ (0 : Int) ≤ -1 by decide, if_false, List.nil_append] at h ⊢
    exact ⟨hbit, hst, f, v, rfl, rfl, by simpa using hne, miWrCmd_frame h⟩
  · exact absurd h (by decide)

/-- **What `smfi_chgfrom` and `smfi_addrcpt_par` need and write.**  A request that succeeds was
made at the end of the message with its action negotiated, for an address that is not empty,
and wrote the frame `cmd` of the address and of its arguments when there are some. -/
theorem smfiSendAddr_ok {flag : Nat} (hflag : flag ≠ 0) {cmd : Char} {ctx : MiCtx}
    {addr args : Option String} {evs : List WrEv}
    (h : (smfiSendAddr flag cmd ctx addr args evs).1 = MI_SUCCESS) :
    bitset flag ctx.aflags = true ∧ ctx.state = .endm ∧
      ∃ a, addr = some a ∧ cstrChars a ≠ [] ∧
        (smfiSendAddr flag cmd ctx addr args evs).2 =
          frame cmd (cstrBytes a ++ (args.map cstrBytes).getD []) ∧
        (cstrBytes a ++ (args.map cstrBytes).getD []).length ≤ Maxdatasize := by
  cases addr with
  | none => exact absurd (show MI_FAILURE = MI_SUCCESS from h) (by decide)
  | some a =>
    unfold smfiSendAddr at h ⊢
    dsimp only at h ⊢
    split_ifs at h ⊢ with hne hok
    · exact absurd h (by decide)
    · exact absurd h (by decide)
    rw [Bool.not_eq_true', Bool.not_eq_false] at hok
    obtain ⟨hbit, hst⟩ := (miSendok_eq_true hflag).1 hok
    unfold send2 at h ⊢
    dsimp only at h ⊢
    rw [if_neg hne] at h ⊢
    exact ⟨hbit, hst, a, rfl, by simpa using hne, miWrCmd_frame h⟩

theorem mrbStrToCstr_eq_ok {s t : String} (h : mrbStrToCstr s = .ok t) :
    t = s ∧ '\x00' ∉ s.toList := by
  unfold mrbStrToCstr at h
  split at h
  · cases h
  · rename_i hs
    cases h
    exact ⟨rfl, by simpa using hs⟩

theorem mapM_mrbStrToCstr_eq_ok {o o' : Option String} (h : o.mapM mrbStrToCstr = .ok o') :
    o' = o ∧ ∀ s ∈ o, '\x00' ∉ s.toList := by
  cases o with
  | none =>
    cases h
    simp
  | some s =>
    rw [Option.mapM_some] at h
    rcases ht : mrbStrToCstr s with e | t
    · rw [ht] at h
      cases h
    · rw [ht] at h
      cases h
      obtain ⟨rfl, hs⟩ := mrbStrToCstr_eq_ok ht
      exact ⟨rfl, by simpa using hs⟩

/-- **What `add_header` sends is the header.**  When `Session#add_header(key, val)` returns
`MI_SUCCESS`, the session was at the end of the message with `SMFIF_ADDHDRS` negotiated, and the
MTA, reading what was written over any benign schedule with reads enough, gets the command
`SMFIR_ADDHEADER` with data that `dec_arg2` splits into `key` and `val`. -/
theorem pmilterMrbSessionAddHeader_roundTrip {ctx : MiCtx} {key val : String}
    {evs : List WrEv} {out : List Char}
    (h : pmilterMrbSessionAddHeader ctx key val evs = .ok (MI_SUCCESS, out)) (rest : List Char)
    {sevs : List SockEv} (hb : ∀ ev ∈ sevs, ev.benign)
    (hr : key.toList.length + val.toList.length + 7 ≤ sevs.countP SockEv.isRead) :
    bitset SMFIF_ADDHDRS ctx.aflags = true ∧ ctx.state = .endm ∧
      ∃ sevs' data, miRdCmd ⟨sevs, out ++ rest⟩ = (some data, SMFIR_ADDHEADER, ⟨sevs', rest⟩) ∧
        decArg2 data = some (key, val) := by
  obtain ⟨k, hk, v, hv, hout⟩ : ∃ k, mrbStrToCstr key = .ok k ∧ ∃ v, mrbStrToCstr val = .ok v ∧
      smfiAddheader ctx (some k) (some v) evs = (MI_SUCCESS, out) := by
    simpa [pmilterMrbSessionAddHeader, Except.bind_eq_ok] using h
  obtain ⟨hk, hkey⟩ := mrbStrToCstr_eq_ok hk
  obtain ⟨hv, hval⟩ := mrbStrToCstr_eq_ok hv
  subst k v
  obtain ⟨hbit, hst, f, v, hf, hv, hne, hwire, hmax⟩ := smfiAddheader_ok (by rw [hout])
  cases hf
  cases hv
  rw [hout] at hwire
  subst hwire
  have hdata : (cstrBytes key ++ cstrBytes val).length = key.toList.length + val.toList.length + 2 := by
    simp [cstrBytes, cstrChars_of_nul hkey, cstrChars_of_nul hval]
    omega
  obtain ⟨sevs', hrd, -, -⟩ := miRdCmd_frame SMFIR_ADDHEADER (cstrBytes key ++ cstrBytes val) rest
    hb hmax (by rw [frame_length, hdata]; omega)
  refine ⟨hbit, hst, sevs', _, ?_, decArg2_header hkey (by rwa [← cstrChars_of_nul hkey]) hval⟩
  rw [hrd, if_neg (by simp [cstrBytes])]

theorem pmilterMrbSessionAddHeader_roundTrip_eom :
    pmilterMrbSessionAddHeader ⟨.endm, 0, 0, SMFI_V1_ACTS, SMFIF_ADDHDRS, 0, 6, none⟩ "X-Spam"
        "no" [.wrote 4, .intr, .wrote 64] =
        .ok (MI_SUCCESS, frame SMFIR_ADDHEADER "X-Spam\x00no\x00".toList) ∧
      (∀ ev ∈ List.replicate 15 (SockEv.read 2), ev.benign) ∧
      "X-Spam".toList.length + "no".toList.length + 7 ≤
        (List.replicate 15 (SockEv.read 2)).countP SockEv.isRead ∧
      bitset SMFIF_ADDHDRS SMFIF_ADDHDRS = true ∧ MiState.endm = .endm ∧
      ∃ sevs' data, miRdCmd ⟨List.replicate 15 (SockEv.read 2),
          frame SMFIR_ADDHEADER "X-Spam\x00no\x00".toList ++ []⟩ =
          (some data, SMFIR_ADDHEADER, ⟨sevs', []⟩) ∧ decArg2 data = some ("X-Spam", "no") :=
  have h : pmilterMrbSessionAddHeader ⟨.endm, 0, 0, SMFI_V1_ACTS, SMFIF_ADDHDRS, 0, 6, none⟩
      "X-Spam" "no" [.wrote 4, .intr, .wrote 64] =
      .ok (MI_SUCCESS, frame SMFIR_ADDHEADER "X-Spam\x00no\x00".toList) := by decide
  have hb : ∀ ev ∈ List.replicate 15 (SockEv.read 2), ev.benign := by decide
  have hr : "X-Spam".toList.length + "no".toList.length + 7 ≤
      (List.replicate 15 (SockEv.read 2)).countP SockEv.isRead := by decide
  ⟨h, hb, hr, pmilterMrbSessionAddHeader_roundTrip h [] hb hr⟩

/-- **What `change_envelope_from` and `add_envelope_to` send is the address.**  When the method
returns `MI_SUCCESS`, the session was at the end of the message with the action negotiated, and
the MTA, reading what was written over any benign schedule with reads enough, gets the command
with data that `dec_argv` splits into the address and, if given, its ESMTP arguments. -/
theorem mrbSessionEnvelope_roundTrip {flag : Nat} (hflag : flag ≠ 0) {cmd : Char} {ctx : MiCtx}
    {addr : String} {esmtpArg : Option String} {evs : List WrEv} {out : List Char}
    (h : mrbSessionEnvelope (smfiSendAddr flag cmd) ctx addr esmtpArg evs = .ok (MI_SUCCESS, out))
    (rest : List Char) {sevs : List SockEv} (hb : ∀ ev ∈ sevs, ev.benign)
    (hr : (frame cmd ((addr :: esmtpArg.toList).flatMap cstrBytes)).length ≤
      sevs.countP SockEv.isRead) :
    bitset flag ctx.aflags = true ∧ ctx.state = .endm ∧
      ∃ sevs' data, miRdCmd ⟨sevs, out ++ rest⟩ = (some data, cmd, ⟨sevs', rest⟩) ∧
        decArgv data = some (addr :: esmtpArg.toList) := by
  obtain ⟨a, ha, e, he, hout⟩ : ∃ a, mrbStrToCstr addr = .ok a ∧
      ∃ e, esmtpArg.mapM mrbStrToCstr = .ok e ∧
        smfiSendAddr flag cmd ctx (some a) e evs = (MI_SUCCESS, out) := by
    simpa [mrbSessionEnvelope, Except.bind_eq_ok] using h
  obtain ⟨ha, haddr⟩ := mrbStrToCstr_eq_ok ha
  obtain ⟨he, harg⟩ := mapM_mrbStrToCstr_eq_ok he
  subst a e
  obtain ⟨hbit, hst, a, hsome, -, hwire, hmax⟩ := smfiSendAddr_ok hflag (by rw [hout])
  cases hsome
  rw [hout] at hwire
  subst hwire
  -- the data are the address and the arguments, each with its `'\x00'`
  have hdata : cstrBytes addr ++ (esmtpArg.map cstrBytes).getD [] =
      (addr :: esmtpArg.toList).flatMap cstrBytes := by
    cases esmtpArg <;> simp
  rw [hdata] at hmax ⊢
  obtain ⟨sevs', hrd, -, -⟩ := miRdCmd_frame cmd _ rest hb hmax hr
  refine ⟨hbit, hst, sevs', _, ?_, decArgv_cstrs (by simp) ?_⟩
  · rw [hrd, if_neg (by simp [cstrBytes])]
  · intro s hs
    rcases List.mem_cons.1 hs with rfl | hs
    · exact haddr
    · exact harg s (by simpa using hs)

theorem mrbSessionEnvelope_roundTrip_rcpt :
    SMFIF_ADDRCPT_PAR ≠ 0 ∧
      pmilterMrbSessionAddRcptTo ⟨.endm, 0, 0, SMFIF_ADDRCPT_PAR, SMFIF_ADDRCPT_PAR, 0, 6, none⟩
        "<b@c>" (some "NOTIFY=NEVER") [.wrote 64] =
        .ok (MI_SUCCESS, frame SMFIR_ADDRCPT_PAR "<b@c>\x00NOTIFY=NEVER\x00".toList) ∧
      (∀ ev ∈ List.replicate 25 (SockEv.read 8), ev.benign) ∧
      (frame SMFIR_ADDRCPT_PAR (["<b@c>", "NOTIFY=NEVER"].flatMap cstrBytes)).length ≤
        (List.replicate 25 (SockEv.read 8)).countP SockEv.isRead ∧
      bitset SMFIF_ADDRCPT_PAR SMFIF_ADDRCPT_PAR = true ∧ MiState.endm = .endm ∧
      ∃ sevs' data, miRdCmd ⟨List.replicate 25 (SockEv.read 8),
          frame SMFIR_ADDRCPT_PAR "<b@c>\x00NOTIFY=NEVER\x00".toList ++ []⟩ =
          (some data, SMFIR_ADDRCPT_PAR, ⟨sevs', []⟩) ∧
        decArgv data = some ["<b@c>", "NOTIFY=NEVER"] :=
  have hflag : SMFIF_ADDRCPT_PAR ≠ 0 := by decide
  have h : pmilterMrbSessionAddRcptTo ⟨.endm, 0, 0, SMFIF_ADDRCPT_PAR, SMFIF_ADDRCPT_PAR, 0, 6, none⟩
      "<b@c>" (some "NOTIFY=NEVER") [.wrote 64] =
      .ok (MI_SUCCESS, frame SMFIR_ADDRCPT_PAR "<b@c>\x00NOTIFY=NEVER\x00".toList) := by decide
  have hb : ∀ ev ∈ List.replicate 25 (SockEv.read 8), ev.benign := by decide
  have hr : (frame SMFIR_ADDRCPT_PAR (["<b@c>", "NOTIFY=NEVER"].flatMap cstrBytes)).length ≤
      (List.replicate 25 (SockEv.read 8)).countP SockEv.isRead := by decide
  ⟨hflag, h, hb, hr, mrbSessionEnvelope_roundTrip hflag h [] hb hr⟩

/-! ### The turns that may modify the message -/

/-- The actions of a context are among those the MTA offered. -/
def Milter.MiCtx.Offered (ctx : MiCtx) : Prop := ctx.aflags &&& ctx.mtaAflags = ctx.aflags

theorem Milter.MiCtx.Offered.bitset {ctx : MiCtx} (h : ctx.Offered) {flag : Nat}
    (hb : bitset flag ctx.aflags = true) : bitset flag ctx.mtaAflags = true := by
  simp only [Milter.bitset, bne_iff_ne, ne_eq] at hb ⊢
  intro hm
  apply hb
  rw [← h, Nat.land_assoc, hm, Nat.and_zero]

/-- Only `SMFIC_BODYEOB` enters `ST_ENDM`. -/
theorem cmds_endm {cf : CmdFct} (hcf : cf ∈ cmds) (h : cf.next = some .endm) :
    cf.cmd = .bodyeob := by
  simp only [cmds, List.mem_cons, List.not_mem_nil, or_false] at hcf
  rcases hcf with rfl | rfl | rfl | rfl | rfl | rfl | rfl | rfl | rfl | rfl | rfl | rfl | rfl |
    rfl | rfl <;> simp_all

@[simp] theorem sendreply_aflags (r : Int32) (ctx : MiCtx) :
    (sendreply r ctx).1.aflags = ctx.aflags := by
  unfold sendreply
  dsimp only
  split_ifs <;> (try split) <;> (try split_ifs) <;> rfl

@[simp] theorem sendreply_mtaAflags (r : Int32) (ctx : MiCtx) :
    (sendreply r ctx).1.mtaAflags = ctx.mtaAflags := by
  unfold sendreply
  dsimp only
  split_ifs <;> (try split) <;> (try split_ifs) <;> rfl

section Engine

variable {σ : Type} {sys : Sys} {f : SmfiDesc σ}

/-- `optionnegFinish` accepts only actions the MTA offered. -/
theorem optionnegFinish_offered (e : Engine σ) (ev : List Event) :
    (optionnegFinish e ev).2.1 = _SMFIS_ABORT ∨ (optionnegFinish e ev).1.ctx.Offered := by
  unfold optionnegFinish
  dsimp only
  -- every branch but the last aborts; the last passed the test of the actions
  split_ifs with h₁ <;> first
    | exact .inl rfl
    | exact .inr (by simpa [MiCtx.Offered] using h₁)

/-- `st_optionneg` aborts the session or leaves it with actions the MTA offered. -/
theorem stOptionneg_offered (e : Engine σ) (buf : List Char) :
    (stOptionneg f e buf).2.1 = _SMFIS_ABORT ∨ (stOptionneg f e buf).1.ctx.Offered := by
  unfold stOptionneg
  split
  · exact .inl rfl
  split
  · exact .inl rfl
  extract_lets
  split
  · split
    · split
      extract_lets
      split
      · exact optionnegFinish_offered _ _
      split
      · exact .inl rfl
      · exact optionnegFinish_offered _ _
    · exact optionnegFinish_offered _ _
  · exact optionnegFinish_offered _ _

theorem optionnegFinish_aflags (e : Engine σ) (ev : List Event) :
    (optionnegFinish e ev).1.ctx.aflags = e.ctx.aflags := by
  unfold optionnegFinish
  dsimp only
  split_ifs <;> rfl

/-- The `st_*` functions but `st_optionneg` leave the actions and the MTA's offer alone. -/
theorem stFct_acts (c : Cmd) (hc : c ≠ .optneg) (e : Engine σ) (buf : List Char) :
    (stFct sys f c e buf).1.ctx.aflags = e.ctx.aflags ∧
      (stFct sys f c e buf).1.ctx.mtaAflags = e.ctx.mtaAflags := by
  cases c
  case optneg => exact absurd rfl hc
  all_goals
    simp only [stFct, stAbortfct, stMacros, stBodychunk, stConnectinfo, stBodyend, stHelo,
      stHeader, stSender, stRcpt, argvFct, stUnknown, stData, stEoh, stQuit, callOpt]
    repeat' split
    all_goals simp

theorem stFct_offered (c : Cmd) (e : Engine σ) (buf : List Char) (he : e.ctx.Offered) :
    (stFct sys f c e buf).2.1 = _SMFIS_ABORT ∨ (stFct sys f c e buf).1.ctx.Offered := by
  by_cases hc : c = .optneg
  · subst hc
    exact stOptionneg_offered e buf
  · obtain ⟨h₁, h₂⟩ := stFct_acts c hc e buf
    right
    rw [MiCtx.Offered, h₁, h₂]
    exact he

/-- The invariant of a session: while it is open, its actions are among those the MTA
offered. -/
def Milter.Engine.ActsOffered (e : Engine σ) : Prop := e.live = true → e.ctx.Offered

theorem miEngineRun_offered (e : Engine σ) (cf : CmdFct) (buf : List Char) (he : e.ctx.Offered) :
    (miEngineRun sys f e cf buf).1.ActsOffered := by
  intro hlive
  revert hlive
  unfold miEngineRun
  extract_lets ctx₀ e₁ callAbort
  -- entering the command's state changes nothing of the actions
  have he₁ : e₁.ctx.Offered := by
    simp only [e₁]
    split
    · exact he
    · exact he
  rcases hst : stFct sys f cf.cmd e₁ buf with ⟨e₂, r, ev⟩
  have h₂ := @stFct_offered σ sys f cf.cmd e₁ buf he₁
  rw [hst] at h₂
  dsimp only
  split_ifs with habort <;> intro hlive
  -- a session that ends is not live; one that goes on kept the actions the command left
  all_goals first
    | (simp [miEngineEnd_live] at hlive; done)
    | simpa [MiCtx.Offered] using h₂.resolve_left (by simpa using habort)

theorem miEngineCmd_offered (e : Engine σ) (he : e.ctx.Offered) (c : Char) (buf : List Char) :
    (miEngineCmd sys f e c buf).1.ActsOffered := by
  unfold miEngineCmd
  split
  · exact fun h => absurd h (by simp [miEngineEnd_live])
  · split
    · exact miEngineRun_offered e _ buf he
    · split
      · exact miEngineRun_offered e _ buf he
      · -- the transaction is aborted and the command tried again from `ST_HELO`
        dsimp only
        split
        · exact miEngineRun_offered _ _ buf he
        split
        · exact fun h => absurd h (by simp [miEngineEnd_live])
        · exact fun _ => he

/-- Every step keeps the invariant. -/
theorem engine_step_offered {e : Engine σ} (he : e.ActsOffered) (i : Input) :
    ((engine sys f).step e i).1.ActsOffered := by
  simp only [engine]
  split
  · exact he
  rename_i hlive
  have he' : e.ctx.Offered := he (by simpa using hlive)
  cases i with
  | packet c buf => exact @miEngineCmd_offered σ sys f { e with waiting := false } he' c buf
  | readError => exact fun h => absurd h (by simp [miEngineEnd_live])
  | notReady => exact fun _ => he'
  | idleTimeout =>
    dsimp only
    split
    · exact fun h => absurd h (by simp)
    · exact he

theorem Milter.Engine.actsOffered_init (f : SmfiDesc σ) (w : σ) : (Engine.init f w).ActsOffered :=
  fun _ => by simp [Engine.init, MiCtx.Offered]

/-- **Modifications only at the end of the message, and only as offered.**  In a live session,
whatever the inputs before, the turn of a command of the table enters the command's state
before its `st_*` function calls the filter; there `mi_sendok` lets an action through only in
the turn of `SMFIC_BODYEOB`, and only an action the MTA offered in the negotiation, whatever
actions the filter declared. -/
theorem engine_run_sendok (w : σ) (is : List Input) {cf : CmdFct} (hcf : cf ∈ cmds)
    {new : MiState} (hnew : cf.next = some new) {flag : Nat} (hflag : flag ≠ 0)
    (hlive : ((engine sys f).run (Engine.init f w) is).1.live = true)
    (h : miSendok { ((engine sys f).run (Engine.init f w) is).1.ctx with state := new } flag) :
    cf.cmd = .bodyeob ∧ bitset flag ((engine sys f).run (Engine.init f w) is).1.ctx.mtaAflags := by
  have hinv : ((engine sys f).run (Engine.init f w) is).1.ActsOffered :=
    Mealy.run_invariant (P := Engine.ActsOffered) (fun _ i he => engine_step_offered he i)
      (Engine.actsOffered_init f w) is
  obtain ⟨hbit, hst⟩ := (miSendok_eq_true hflag).1 h
  subst hst
  exact ⟨cmds_endm hcf hnew, (hinv hlive).bitset hbit⟩

theorem engine_run_sendok_eom :
    (⟨.bodyeob, some .endm, 0, 5⟩ : CmdFct) ∈ cmds ∧ SMFIF_ADDHDRS ≠ 0 ∧
      ((engine ⟨fun _ => none⟩ { countingFilter with flags := SMFIF_ADDHDRS }).run
        (Engine.init { countingFilter with flags := SMFIF_ADDHDRS } 0) [reconnectInputs[0]]).1.live ∧
      miSendok { ((engine ⟨fun _ => none⟩ { countingFilter with flags := SMFIF_ADDHDRS }).run
        (Engine.init { countingFilter with flags := SMFIF_ADDHDRS } 0)
          [reconnectInputs[0]]).1.ctx with state := .endm } SMFIF_ADDHDRS ∧
      Cmd.bodyeob = .bodyeob ∧
      bitset SMFIF_ADDHDRS ((engine ⟨fun _ => none⟩ { countingFilter with flags := SMFIF_ADDHDRS }).run
        (Engine.init { countingFilter with flags := SMFIF_ADDHDRS } 0)
          [reconnectInputs[0]]).1.ctx.mtaAflags :=
  have hcf : (⟨.bodyeob, some .endm, 0, 5⟩ : CmdFct) ∈ cmds := by simp [cmds]
  have hlive : ((engine ⟨fun _ => none⟩ { countingFilter with flags := SMFIF_ADDHDRS }).run
      (Engine.init { countingFilter with flags := SMFIF_ADDHDRS } 0)
        [reconnectInputs[0]]).1.live := by decide
  have h : miSendok { ((engine ⟨fun _ => none⟩ { countingFilter with flags := SMFIF_ADDHDRS }).run
      (Engine.init { countingFilter with flags := SMFIF_ADDHDRS } 0)
        [reconnectInputs[0]]).1.ctx with state := .endm } SMFIF_ADDHDRS := by decide
  ⟨hcf, by decide, hlive, h, engine_run_sendok 0 _ hcf rfl (by decide) hlive h⟩

end Engine

end Pmilter
