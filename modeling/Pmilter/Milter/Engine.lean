import Pmilter.Milter.Reply
import Pmilter.Lib.Mealy

/-!
# The libmilter engine

`mi_engine` (`engine.c`) is the loop that serves one MTA connection: it reads a command,
checks the protocol transition, calls the `st_*` function of the command, which decodes the
command's arguments and calls the filter's callback, sends the reply, and moves the protocol
state.  A session ends on `SMFIC_QUIT`, on a read error or end of file, on an unknown command
or a protocol error (`_SMFIS_ABORT`).  On the way out it calls `xxfi_abort` if the connection
was inside a mail transaction and the session failed, and `xxfi_close` unless the last state
is `ST_QUIT` (whose `st_quit` already called it).

This build uses the worker pool (`_FFR_WORKERS_POOL`, `conf.h`): when the socket has no data
`mi_engine` returns `MI_CONTINUE` and the session waits in the pool, whose controller
(`mi_pool_controller`, `worker.c`) calls `xxfi_close` and closes a session that waits too
long.

The engine is generic in the filter: `SmfiDesc σ` holds the callbacks `xxfi_*` of a filter
whose own data has type `σ`, each returning its new data and its `sfsistat`.  `engine` is the
session as a `Mealy` machine whose inputs are what the socket delivers and whose outputs are
the callbacks called and the replies sent, in order.

Not modelled: macros (`st_macros` keeps the buffer, `mi_clr_macros`; a filter reads them
through its own interface), the global stop flag `mi_stop()`, logging and debug output, and
failures of socket writes (every write succeeds).  The network families follow this build:
`NETINET` and `NETUNIX` are on, `NETINET6` is off (`smapp/conf.h`), so `st_connectinfo`
refuses an IPv6 client as an unknown family.
-/

namespace Pmilter

namespace Milter

/-! ### Socket addresses and the filter interface -/

/-- `AF_UNIX`. -/
def AF_UNIX : Nat := 1
/-- `AF_INET`. -/
def AF_INET : Nat := 2
/-- `AF_INET6`. -/
def AF_INET6 : Nat := 10

/-- The client address `_SOCK_ADDR` passed to `xxfi_connect`. -/
inductive SockAddr
  /-- `sa_family = AF_INET`, with `sin_addr` and `sin_port`. -/
  | inet (addr : Nat) (port : Nat)
  /-- `sa_family = AF_INET6`, with `sin6_addr` and `sin6_port`. -/
  | inet6 (addr : Nat) (port : Nat)
  /-- `sa_family = AF_UNIX`, with `sun_path`. -/
  | unix (path : String)
  deriving DecidableEq, Repr

/-- `sa_family` of an address. -/
def SockAddr.saFamily : SockAddr → Nat
  | .inet .. => AF_INET
  | .inet6 .. => AF_INET6
  | .unix _ => AF_UNIX

/-- The callbacks of a filter (`struct smfiDesc`), over the filter's own data `σ`.  A missing
callback is `none`. -/
structure SmfiDesc (σ : Type) where
  /-- `xxfi_version`. -/
  version : Nat
  /-- `xxfi_flags`: the actions the filter needs. -/
  flags : Nat
  connect : Option (σ → String → Option SockAddr → σ × Int32)
  helo : Option (σ → String → σ × Int32)
  envfrom : Option (σ → List String → σ × Int32)
  envrcpt : Option (σ → List String → σ × Int32)
  header : Option (σ → String → String → σ × Int32)
  eoh : Option (σ → σ × Int32)
  body : Option (σ → List Char → σ × Int32)
  eom : Option (σ → σ × Int32)
  abort : Option (σ → σ × Int32)
  close : Option (σ → σ × Int32)
  unknown : Option (σ → String → σ × Int32)
  data : Option (σ → σ × Int32)
  /-- `xxfi_negotiate(ctx, f0, f1, f2, f3, pf0, pf1, pf2, pf3)`: from the MTA's actions and
  protocol flags and the initial values of `*pf0`, `*pf1`, the result and the values the filter
  leaves in `*pf0`, `*pf1` (`f2`, `f3`, `pf2`, `pf3` are always `0` and unused). -/
  negotiate : Option (σ → Nat → Nat → Nat → Nat → σ × Int32 × Nat × Nat)

/-- The callbacks, as names for the engine's outputs. -/
inductive Cb
  | connect | helo | envfrom | envrcpt | header | eoh | body | eom | abort | close | unknown
  | data | negotiate
  deriving DecidableEq, Repr

/-- What an observer of the engine sees: a callback of the filter being called, or a packet
sent to the MTA. -/
inductive Event
  | call (cb : Cb)
  | reply (r : Reply)
  deriving DecidableEq, Repr

variable {σ : Type}

/-- The protocol flags `mi_listener` sets for a new connection: one "do not send" flag for
each callback the filter lacks (`listener.c`). -/
def listenerPflags (f : SmfiDesc σ) : Nat :=
  (if f.connect.isNone then SMFIP_NOCONNECT else 0) |||
  (if f.helo.isNone then SMFIP_NOHELO else 0) |||
  (if f.envfrom.isNone then SMFIP_NOMAIL else 0) |||
  (if f.envrcpt.isNone then SMFIP_NORCPT else 0) |||
  (if f.header.isNone then SMFIP_NOHDRS else 0) |||
  (if f.eoh.isNone then SMFIP_NOEOH else 0) |||
  (if f.body.isNone then SMFIP_NOBODY else 0) |||
  (if f.version ≤ 3 || f.data.isNone then SMFIP_NODATA else 0) |||
  (if f.version ≤ 2 || f.unknown.isNone then SMFIP_NOUNKNOWN else 0)

/-! ### Decoding arguments -/

/-- The C string at the start of a buffer: the characters before the first `'\x00'`. -/
def cstr (buf : List Char) : String := String.ofList (buf.takeWhile (· != '\x00'))

/-- The index of the first `'\x00'` at or after `start`, or the length of the buffer. -/
def findNul (buf : List Char) (start : Nat) : Nat :=
  start + (buf.drop start).findIdx (· == '\x00')

/-- The `'\x00'`-terminated strings of a buffer, in order: the pieces between the `'\x00'`s
but the last, which no `'\x00'` ends. -/
def nulFields (buf : List Char) : List String :=
  ((buf.splitOn '\x00').dropLast).map String.ofList

/-- `dec_argv(buf, len)`: the argument vector of `MAIL` and `RCPT`, or `NULL` when the buffer
holds no `'\x00'`. -/
def decArgv (buf : List Char) : Option (List String) :=
  if buf.contains '\x00' then some (nulFields buf) else none

/-- `dec_arg2(buf, len, &s1, &s2)`: the name and value of a header line. -/
def decArg2 (buf : List Char) : Option (String × String) :=
  -- paranoia: check for terminating '\x00'
  if buf.getLast? != some '\x00' then none
  else
    let i := findNul buf 1
    if i ≥ buf.length - 1 then none else some (cstr buf, cstr (buf.drop (i + 1)))

/-- The 32-bit big-endian word at `off` (`ntohl` of four bytes). -/
def word32 (buf : List Char) (off : Nat) : Nat :=
  ((buf.drop off).take 4).foldl (fun acc c => acc * 256 + c.toNat % 256) 0

/-- The 16-bit port that follows the family byte, as copied from the buffer. -/
def word16 (buf : List Char) (off : Nat) : Nat :=
  ((buf.drop off).take 2).foldl (fun acc c => acc * 256 + c.toNat % 256) 0

/-! ### The engine's state -/

/-- The C library functions the engine calls that are not part of libmilter. -/
structure Sys where
  /-- `inet_aton(cp, &addr)`: the address if the text is a valid IPv4 address. -/
  inetAton : String → Option Nat

/-- The state of one session: the context, the local `curstate` of `mi_engine` (written back
to `ctx_state` at the end of each run of the loop), the table `next_states[]` with the skip
bits `fix_stm` has added, the filter's own data, and whether the session is open and waiting
in the worker pool. -/
structure Engine (σ : Type) where
  ctx : MiCtx
  cur : MiState
  table : MiState → Nat
  filt : σ
  live : Bool
  waiting : Bool

/-- A new session, as `mi_listener` creates it and `mi_engine` starts it in `ST_INIT`
(`fix_stm` applied to the listener's flags). -/
def Engine.init (f : SmfiDesc σ) (w : σ) : Engine σ where
  ctx := ⟨.init, listenerPflags f, 0, 0, 0, 0, 0, none⟩
  cur := .init
  table := fixStm (listenerPflags f) nextStates
  filt := w
  live := true
  waiting := false

/-- What the socket delivers to a session. -/
inductive Input
  /-- A command read by `mi_rd_cmd`: its character and its data. -/
  | packet (c : Char) (buf : List Char)
  /-- `mi_rd_cmd` fails: end of file, timeout, read error, a command too big. -/
  | readError
  /-- No data yet: `mi_rd_socket_ready` is false and `mi_engine` returns `MI_CONTINUE`. -/
  | notReady
  /-- The pool controller finds the session waiting for longer than its timeout. -/
  | idleTimeout

/-- Call an optional callback that takes only the context, recording the call. -/
def callOpt (cb : Cb) (fn : Option (σ → σ × Int32)) (w : σ) : σ × Int32 × List Event :=
  match fn with
  | some g => ((g w).1, (g w).2, [.call cb])
  | none => (w, SMFIS_CONTINUE, [])

/-- The result of an `st_*` function: the session afterwards, the `sfsistat`, and what it
did. -/
abbrev StOut (σ : Type) := Engine σ × Int32 × List Event

/-! ### The `st_*` functions -/

section StFunctions

variable (f : SmfiDesc σ) (e : Engine σ) (buf : List Char)

/-- `st_abortfct`: call `xxfi_abort`, answer nothing. -/
def stAbortfct : StOut σ :=
  let (w, _, ev) := callOpt .abort f.abort e.filt
  ({ e with filt := w }, _SMFIS_NOREPLY, ev)

/-- `st_macros`: the macros are kept (not modelled); only the result is. -/
def stMacros : StOut σ :=
  match buf with
  | [] => (e, _SMFIS_FAIL, [])
  | c :: rest =>
    if (decArgv rest).isNone then (e, _SMFIS_FAIL, [])
    else if [Cmd.connect, .helo, .mail, .rcpt, .data, .bodyeob, .eoh].any (·.code == c)
    then (e, _SMFIS_KEEP, [])
    else (e, _SMFIS_FAIL, [])

/-- `st_bodychunk`: pass a body chunk to `xxfi_body`. -/
def stBodychunk : StOut σ :=
  match f.body with
  | some g => ({ e with filt := (g e.filt buf).1 }, (g e.filt buf).2, [.call .body])
  | none => (e, SMFIS_CONTINUE, [])

/-- `SMFIA_UNKNOWN`. -/
def SMFIA_UNKNOWN : Char := 'U'
/-- `SMFIA_UNIX`. -/
def SMFIA_UNIX : Char := 'L'
/-- `SMFIA_INET`. -/
def SMFIA_INET : Char := '4'

/-- `sizeof sockaddr.sunix.sun_path` on Linux. -/
def SUN_PATH_SIZE : Nat := 108

/-- The client address `st_connectinfo` decodes from the data of `SMFIC_CONNECT` after the
host name: `none` for a protocol error (`_SMFIS_ABORT`), `some none` for an unknown family
(`hostaddr` is `NULL`), `some (some sa)` for an address.  `i` is the index of the family
byte. -/
def connectAddr (sys : Sys) (buf : List Char) (i : Nat) : Option (Option SockAddr) :=
  let l := buf.length
  let family := buf.getD i '\x00'
  if family == SMFIA_UNKNOWN then some none
  else if i + 1 + 2 ≥ l then none
  else
    let port := word16 buf (i + 1)
    let rest := buf.drop (i + 3)
    -- make sure string is terminated
    if buf.getD (l - 1) 'x' != '\x00' then none
    else if family == SMFIA_INET then
      (sys.inetAton (cstr rest)).map fun a => some (.inet a port)
    else if family == SMFIA_UNIX then
      if SUN_PATH_SIZE ≤ (cstr rest).length then none else some (some (.unix (cstr rest)))
    -- `SMFIA_INET6` is an unknown family without NETINET6
    else none

/-- `st_connectinfo`: decode the host name and address and call `xxfi_connect`. -/
def stConnectinfo (sys : Sys) : StOut σ :=
  match f.connect with
  | none => (e, SMFIS_CONTINUE, [])
  | some g =>
    let i := findNul buf 0
    if buf.length ≤ i + 1 then (e, _SMFIS_ABORT, [])
    else
      match connectAddr sys buf (i + 1) with
      | none => (e, _SMFIS_ABORT, [])
      | some sa => ({ e with filt := (g e.filt (cstr buf) sa).1 }, (g e.filt (cstr buf) sa).2,
          [.call .connect])

/-- `st_helo`: call `xxfi_helo` with the host name, which must end with `'\x00'`. -/
def stHelo : StOut σ :=
  match f.helo with
  | some g =>
    if buf.getLast? != some '\x00' then (e, MI_FAILURE, [])
    else ({ e with filt := (g e.filt (cstr buf)).1 }, (g e.filt (cstr buf)).2, [.call .helo])
  | none => (e, SMFIS_CONTINUE, [])

/-- `st_header`: call `xxfi_header` with the header's name and value. -/
def stHeader : StOut σ :=
  match f.header with
  | none => (e, SMFIS_CONTINUE, [])
  | some g =>
    match decArg2 buf with
    | some (hf, hv) => ({ e with filt := (g e.filt hf hv).1 }, (g e.filt hf hv).2,
        [.call .header])
    | none => (e, _SMFIS_ABORT, [])

/-- `ARGV_FCT`: the body of `st_sender` and `st_rcpt`. -/
def argvFct (cb : Cb) (fn : Option (σ → List String → σ × Int32)) : StOut σ :=
  match fn with
  | none => (e, SMFIS_CONTINUE, [])
  | some g =>
    match decArgv buf with
    | none => (e, _SMFIS_ABORT, [])
    | some argv => ({ e with filt := (g e.filt argv).1 }, (g e.filt argv).2, [.call cb])

/-- `st_sender`: `MAIL FROM`. -/
def stSender : StOut σ := argvFct e buf .envfrom f.envfrom

/-- `st_rcpt`: `RCPT TO`. -/
def stRcpt : StOut σ := argvFct e buf .envrcpt f.envrcpt

/-- `st_unknown`: call `xxfi_unknown` (filters of version above 2). -/
def stUnknown : StOut σ :=
  match f.unknown with
  | some g =>
    if 2 < f.version then
      ({ e with filt := (g e.filt (cstr buf)).1 }, (g e.filt (cstr buf)).2, [.call .unknown])
    else (e, SMFIS_CONTINUE, [])
  | none => (e, SMFIS_CONTINUE, [])

/-- `st_data`: call `xxfi_data` (filters of version above 3). -/
def stData : StOut σ :=
  if 3 < f.version then
    let (w, r, ev) := callOpt .data f.data e.filt
    ({ e with filt := w }, r, ev)
  else (e, SMFIS_CONTINUE, [])

/-- `st_eoh`: call `xxfi_eoh`. -/
def stEoh : StOut σ :=
  let (w, r, ev) := callOpt .eoh f.eoh e.filt
  ({ e with filt := w }, r, ev)

/-- `st_quit`: call `xxfi_close`, answer nothing. -/
def stQuit : StOut σ :=
  let (w, _, ev) := callOpt .close f.close e.filt
  ({ e with filt := w }, _SMFIS_NOREPLY, ev)

/-- `SMFI_PROT_VERSION`: the protocol version of this libmilter. -/
def SMFI_PROT_VERSION : Nat := 6
/-- `MILTER_OPTLEN`: the length of the data of `SMFIC_OPTNEG`. -/
def MILTER_OPTLEN : Nat := 12
/-- `SMFI_V1_ACTS`. -/
def SMFI_V1_ACTS : Nat := 0xF
/-- `SMFI_V1_PROT`. -/
def SMFI_V1_PROT : Nat := 0x3F
/-- `SMFI_INTERNAL`: protocol flags for libmilter's own use. -/
def SMFI_INTERNAL : Nat := 0x70000000
/-- `SMFIP_SKIP`: the MTA understands `SMFIS_SKIP`. -/
def SMFIP_SKIP : Nat := 0x400
/-- `SMFIP_NODATA`-like "no reply" flags that libmilter can fake (`fake_pflags`). -/
def fakePflags : Nat :=
  0x1000 ||| 0x2000 ||| 0x4000 ||| 0x8000 ||| 0x10000 ||| 0x20000 ||| 0x80 ||| 0x40000 |||
    0x80000

/-- `w & ~b`: the bits of `w` outside `b`. -/
def clearBits (b w : Nat) : Nat := w &&& (w ^^^ b)

/-- The loop of `st_optionneg` that removes from the flags sent to the MTA the faked "no
reply" flags the MTA does not support. -/
def unfakePflags (mtaPflags p2 : Nat) : Nat :=
  if mtaPflags &&& p2 != p2 then
    (List.range 32).foldl (fun p idx =>
      if mtaPflags &&& (1 <<< idx) != 1 <<< idx && fakePflags &&& (1 <<< idx) == 1 <<< idx
      then clearBits (1 <<< idx) p else p) p2
  else p2

/-- The checks at the end of `st_optionneg`: the MTA must offer the filter's actions and
protocol flags (after dropping `SMFIP_NODATA`, `SMFIP_NOUNKNOWN` it lacks); then `fix_stm`
and `_SMFIS_OPTIONS`. -/
def optionnegFinish (e : Engine σ) (ev : List Event) : StOut σ :=
  let ctx := e.ctx
  if ctx.aflags &&& ctx.mtaAflags != ctx.aflags then (e, _SMFIS_ABORT, ev)
  else
    let p2 := ctx.pflags2mta
    let p2 := if ctx.mtaPflags &&& p2 != p2 then
        let p2 := if bitset SMFIP_NODATA p2 && !bitset SMFIP_NODATA ctx.mtaPflags
          then clearBits SMFIP_NODATA p2 else p2
        if bitset SMFIP_NOUNKNOWN p2 && !bitset SMFIP_NOUNKNOWN ctx.mtaPflags
          then clearBits SMFIP_NOUNKNOWN p2 else p2
      else p2
    if ctx.mtaPflags &&& p2 != p2 then ({ e with ctx := { ctx with pflags2mta := p2 } },
      _SMFIS_ABORT, ev)
    else
      ({ e with ctx := { ctx with pflags2mta := clearBits SMFI_INTERNAL p2 },
                table := fixStm ctx.pflags e.table }, _SMFIS_OPTIONS, ev)

/-- `st_optionneg`: read the MTA's version, actions and protocol flags, let the filter's
`xxfi_negotiate` choose, and check that the MTA can satisfy the result. -/
def stOptionneg : StOut σ :=
  if buf.length < MILTER_OPTLEN then (e, _SMFIS_ABORT, [])
  else if word32 buf 0 < 2 then (e, _SMFIS_ABORT, [])
  else
    let v := word32 buf 0
    let mtaAflags := if word32 buf 4 == 0 then SMFI_V1_ACTS else word32 buf 4
    let mtaPflags := clearBits SMFI_INTERNAL (if word32 buf 8 == 0 then SMFI_V1_PROT
      else word32 buf 8)
    let vers := if SMFI_PROT_VERSION < v then SMFI_PROT_VERSION else v
    let ctx := { e.ctx with protVers2mta := vers, mtaAflags, mtaPflags, aflags := f.flags }
    let skip := if SMFIP_SKIP &&& mtaPflags != 0 then SMFIP_SKIP else 0
    match f.negotiate with
    | some g =>
      if 4 < f.version then
        let (w, r, mA, mP) := g e.filt mtaAflags (mtaPflags ||| fakePflags) mtaAflags
          (ctx.pflags ||| skip)
        let e := { e with filt := w }
        if r == SMFIS_ALL_OPTS then
          let p2 := unfakePflags mtaPflags (ctx.pflags ||| skip)
          optionnegFinish { e with ctx := { ctx with aflags := mtaAflags, pflags2mta := p2 } }
            [.call .negotiate]
        else if r != SMFIS_CONTINUE then ({ e with ctx }, _SMFIS_ABORT, [.call .negotiate])
        else
          let p2 := unfakePflags mtaPflags mP
          optionnegFinish { e with ctx := { ctx with aflags := mA, pflags := mP, pflags2mta := p2 } }
            [.call .negotiate]
      else optionnegFinish { e with ctx := { ctx with pflags2mta := ctx.pflags } } []
    | none => optionnegFinish { e with ctx := { ctx with pflags2mta := ctx.pflags } } []

/-- `st_bodyend`: the last body chunk (if not empty) goes to `xxfi_body`, whose refusal is
answered at once; then, if it went on, `xxfi_eom`. -/
def stBodyend : StOut σ :=
  let (e, r, ev) : StOut σ :=
    match f.body with
    | some g =>
      if 0 < buf.length then
        let e := { e with filt := (g e.filt buf).1 }
        let r := (g e.filt buf).2
        if r != SMFIS_CONTINUE then
          ({ e with ctx := (sendreply r e.ctx).1 }, r,
            .call .body :: ((sendreply r e.ctx).2.map Event.reply).toList)
        else (e, r, [.call .body])
      else (e, SMFIS_CONTINUE, [])
    | none => (e, SMFIS_CONTINUE, [])
  if r == SMFIS_CONTINUE then
    match f.eom with
    | some g => ({ e with filt := (g e.filt).1 }, (g e.filt).2, ev ++ [.call .eom])
    | none => (e, r, ev)
  else (e, r, ev)

end StFunctions

/-- `cm_fct`: the `st_*` function of each command. -/
def stFct (sys : Sys) (f : SmfiDesc σ) (c : Cmd) (e : Engine σ) (buf : List Char) : StOut σ :=
  match c with
  | .abort => stAbortfct f e
  | .define => stMacros e buf
  | .body => stBodychunk f e buf
  | .connect => stConnectinfo f e buf sys
  | .bodyeob => stBodyend f e buf
  | .helo => stHelo f e buf
  | .header => stHeader f e buf
  | .mail => stSender f e buf
  | .optneg => stOptionneg f e buf
  | .eoh => stEoh f e
  | .quit => stQuit f e
  | .data => stData f e
  | .rcpt => stRcpt f e buf
  | .unknown => stUnknown f e buf
  | .quitNc => stQuit f e

/-! ### `mi_engine` -/

/-- The end of `mi_engine` for a session that leaves its loop with `ret`: `ctx_state` takes
the last state, `xxfi_abort` is called if the session failed inside a mail transaction
(`call_abort`), `xxfi_close` unless the last state is `ST_QUIT`; the worker then closes the
session (`mi_close_session`). -/
def miEngineEnd (f : SmfiDesc σ) (e : Engine σ) (ret : Int32) (callAbort : Bool) :
    Engine σ × List Event :=
  let e := { e with ctx := { e.ctx with state := e.cur } }
  let (w, _, ev₁) :=
    if ret == MI_FAILURE && callAbort then callOpt .abort f.abort e.filt else (e.filt, 0, [])
  let (w, _, ev₂) := if e.ctx.state != .quit then callOpt .close f.close w else (w, 0, [])
  ({ e with filt := w, live := false }, ev₁ ++ ev₂)

/-- The rest of a turn of the loop once the command's state is accepted: enter the state,
run the command's function, send the reply, and move the state as the result says. -/
def miEngineRun (sys : Sys) (f : SmfiDesc σ) (e : Engine σ) (cf : CmdFct) (buf : List Char) :
    Engine σ × List Event :=
  let e := match cf.next with
    | some new => { e with cur := new, ctx := { e.ctx with state := new } }
    | none => e
  let callAbort := e.cur.inMail
  let (e, r, ev) := stFct sys f cf.cmd e buf
  let (ctx, rep) := sendreply r e.ctx
  let ev := ev ++ (rep.map Event.reply).toList
  let e := { e with ctx }
  let e :=
    -- accept mail, no further actions taken
    if r == SMFIS_ACCEPT then { e with cur := .helo }
    -- a refusal ends the transaction unless the command ignores it (`CT_IGNO`)
    else if (r == SMFIS_REJECT || r == SMFIS_DISCARD || r == SMFIS_TEMPFAIL) &&
      !bitset CT_IGNO cf.todo then { e with cur := .helo }
    else e
  if r == _SMFIS_ABORT then
    let (e, ev') := miEngineEnd f e MI_FAILURE callAbort
    (e, ev ++ ev')
  else if bitset CT_END cf.todo then
    let (e, ev') := miEngineEnd f e MI_SUCCESS callAbort
    (e, ev ++ ev')
  else (e, ev)

/-- One turn of the loop of `mi_engine` on a command read from the MTA. -/
def miEngineCmd (sys : Sys) (f : SmfiDesc σ) (e : Engine σ) (c : Char) (buf : List Char) :
    Engine σ × List Event :=
  let callAbort := e.cur.inMail
  match lookupCmd c with
  -- unknown command
  | none => miEngineEnd f e MI_FAILURE callAbort
  | some cf =>
    match cf.next with
    | none => miEngineRun sys f e cf buf
    | some new =>
      if transOk e.table e.cur new then miEngineRun sys f e cf buf
      else
        -- a wrong transition aborts a mail transaction and tries again from `ST_HELO`
        let (w, _, ev) := if callAbort then callOpt .abort f.abort e.filt else (e.filt, 0, [])
        let e := { e with filt := w, cur := .helo }
        if transOk e.table .helo new then
          let (e, ev') := miEngineRun sys f e cf buf
          (e, ev ++ ev')
        -- the command is ignored, but the test of the loop `CT_END` still applies to it
        else if bitset CT_END cf.todo then
          let (e, ev') := miEngineEnd f e MI_SUCCESS callAbort
          (e, ev ++ ev')
        else (e, ev)

/-- **The session** served by `mi_engine` under the worker pool, as a machine.  A closed
session ignores every further input. -/
def engine (sys : Sys) (f : SmfiDesc σ) : Mealy (Engine σ) Input Event where
  step e i :=
    if !e.live then (e, [])
    else
      match i with
      | .packet c buf => miEngineCmd sys f { e with waiting := false } c buf
      | .readError => miEngineEnd f e MI_FAILURE e.cur.inMail
      -- `mi_engine` returns `MI_CONTINUE`: neither abort nor close, the state is kept
      | .notReady => ({ e with ctx := { e.ctx with state := e.cur }, waiting := true }, [])
      | .idleTimeout =>
        if e.waiting then
          let (w, _, ev) := callOpt .close f.close e.filt
          ({ e with filt := w, live := false }, ev)
        else (e, [])

end Milter

end Pmilter
