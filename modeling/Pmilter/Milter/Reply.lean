import Pmilter.Milter.Defs

/-!
# Replies to the MTA

After each callback `mi_engine` hands its result to `sendreply` (`engine.c`), which writes
the answer to the MTA on the socket.  Only some results have an answer: `SMFIS_CONTINUE`,
`SMFIS_REJECT`, `SMFIS_TEMPFAIL`, `SMFIS_DISCARD`, `SMFIS_ACCEPT`, `SMFIS_SKIP` and the
internal `_SMFIS_OPTIONS`; `SMFIS_NOREPLY` is answered only when the filter negotiated "no
reply" for the step and the MTA cannot do without one; every other value is silently dropped.

`MiCtx` is the part of libmilter's context `SMFICTX` that the engine reads and writes, and
`sendreply` returns the reply packet it writes (the socket is modelled as accepting every
write, so `sendreply` always returns `MI_SUCCESS`).

* `sendreply_answered` : the result values that get an answer when no "no reply" flag is
  negotiated, which is the case for every step of a filter such as pmilter's.
-/

namespace Pmilter

namespace Milter

/-- The part of a libmilter context (`SMFICTX`) that the engine reads and writes. -/
structure MiCtx where
  /-- `ctx_state`: the protocol state. -/
  state : MiState
  /-- `ctx_pflags`: the protocol flags of the filter. -/
  pflags : Nat
  /-- `ctx_mta_pflags`: the protocol flags offered by the MTA. -/
  mtaPflags : Nat
  /-- `ctx_mta_aflags`: the actions offered by the MTA. -/
  mtaAflags : Nat
  /-- `ctx_aflags`: the actions of the filter. -/
  aflags : Nat
  /-- `ctx_pflags2mta`: the protocol flags sent to the MTA. -/
  pflags2mta : Nat
  /-- `ctx_prot_vers2mta`: the protocol version sent to the MTA. -/
  protVers2mta : Nat
  /-- `ctx_reply`: a reply text set with `smfi_setreply`, if any. -/
  reply : Option String
  deriving DecidableEq, Repr

/-- A packet written to the MTA. -/
inductive Reply
  /-- A reply that is one `SMFIR_*` character. -/
  | code (c : Char)
  /-- `SMFIR_REPLYCODE` with the text of `ctx_reply`. -/
  | replyCode (text : String)
  /-- `SMFIC_OPTNEG` with the negotiated version, actions and protocol flags. -/
  | options (vers aflags pflags : Nat)
  deriving DecidableEq, Repr

/-- `SMFIR_ACCEPT`. -/
def SMFIR_ACCEPT : Char := 'a'
/-- `SMFIR_CONTINUE`. -/
def SMFIR_CONTINUE : Char := 'c'
/-- `SMFIR_DISCARD`. -/
def SMFIR_DISCARD : Char := 'd'
/-- `SMFIR_REJECT`. -/
def SMFIR_REJECT : Char := 'r'
/-- `SMFIR_SKIP`. -/
def SMFIR_SKIP : Char := 's'
/-- `SMFIR_TEMPFAIL`. -/
def SMFIR_TEMPFAIL : Char := 't'

/-- `get_nr_bit`: the "no reply" protocol flag of a state, `0` if it has none. -/
def getNrBit : MiState → Nat
  | .conn => 0x1000
  | .helo => 0x2000
  | .mail => 0x4000
  | .rcpt => 0x8000
  | .data => 0x10000
  | .unkn => 0x20000
  | .hdrs => 0x80
  | .eohs => 0x40000
  | .body => 0x80000
  | _ => 0

/-- The values that `sendreply` turns into `SMFIS_NOREPLY` when the filter said it would not
reply in this state. -/
def forcedNoreply (r : Int32) : Bool :=
  r == SMFIS_CONTINUE || r == SMFIS_TEMPFAIL || r == SMFIS_REJECT || r == SMFIS_DISCARD ||
    r == SMFIS_ACCEPT || r == SMFIS_SKIP || r == _SMFIS_OPTIONS

/-- `sendreply(r, sd, timeout, ctx)`: the context afterwards (`ctx_reply` is freed once sent)
and the packet written to the MTA, if any. -/
def sendreply (r : Int32) (ctx : MiCtx) : MiCtx × Option Reply :=
  let bit := getNrBit ctx.state
  -- a filter that negotiated "no reply" for this state has its answer suppressed
  let r := if bit != 0 && ctx.pflags &&& bit != 0 && r != SMFIS_NOREPLY && forcedNoreply r
    then SMFIS_NOREPLY else r
  if r == SMFIS_CONTINUE then (ctx, some (.code SMFIR_CONTINUE))
  else if r == SMFIS_TEMPFAIL || r == SMFIS_REJECT then
    match ctx.reply with
    | some text =>
      if (r == SMFIS_TEMPFAIL && text.front == '4') || (r == SMFIS_REJECT && text.front == '5')
      then ({ ctx with reply := none }, some (.replyCode text))
      else (ctx, some (.code (if r == SMFIS_REJECT then SMFIR_REJECT else SMFIR_TEMPFAIL)))
    | none => (ctx, some (.code (if r == SMFIS_REJECT then SMFIR_REJECT else SMFIR_TEMPFAIL)))
  else if r == SMFIS_DISCARD then (ctx, some (.code SMFIR_DISCARD))
  else if r == SMFIS_ACCEPT then (ctx, some (.code SMFIR_ACCEPT))
  else if r == SMFIS_SKIP then (ctx, some (.code SMFIR_SKIP))
  else if r == _SMFIS_OPTIONS then
    (ctx, some (.options ctx.protVers2mta ctx.aflags ctx.pflags2mta))
  else if r == SMFIS_NOREPLY then
    -- the MTA cannot do without a reply: fake one
    if bit != 0 && ctx.pflags &&& bit != 0 && ctx.mtaPflags &&& bit == 0
    then (ctx, some (.code SMFIR_CONTINUE)) else (ctx, none)
  else (ctx, none)

/-- The result values that `sendreply` answers when no "no reply" flag is set. -/
def answered (r : Int32) : Bool :=
  r == SMFIS_CONTINUE || r == SMFIS_REJECT || r == SMFIS_DISCARD || r == SMFIS_ACCEPT ||
    r == SMFIS_TEMPFAIL || r == SMFIS_SKIP || r == _SMFIS_OPTIONS

/-- **What gets an answer.**  When the filter negotiated no "no reply" flag for the current
state, `sendreply` writes a packet exactly for the values `answered` lists; every other
value (`SMFIS_NOREPLY`, `SMFIS_ALL_OPTS`, `_SMFIS_KEEP`, `_SMFIS_ABORT`, …) is dropped. -/
theorem sendreply_answered (r : Int32) (ctx : MiCtx) (h : ctx.pflags &&& getNrBit ctx.state = 0) :
    (sendreply r ctx).2.isSome = answered r := by
  have hnr : (getNrBit ctx.state != 0 && ctx.pflags &&& getNrBit ctx.state != 0) = false := by
    simp [h]
  unfold sendreply answered
  simp only [hnr, Bool.false_and, Bool.false_eq_true, ↓reduceIte]
  -- one goal for each branch of the `switch (r)` of `sendreply`
  repeat' split
  all_goals simp_all [SMFIS_CONTINUE, SMFIS_REJECT, SMFIS_DISCARD, SMFIS_ACCEPT, SMFIS_TEMPFAIL,
    SMFIS_SKIP, SMFIS_NOREPLY, _SMFIS_OPTIONS]
  all_goals tauto

end Milter

end Pmilter
