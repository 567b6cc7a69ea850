import Pmilter.Milter.Engine

/-!
# pmilter's data

The data of `pmilter.h`, as the session callbacks of `pmilter.c` use it:

* `PmilterConfig`: the startup configuration (`pmilter_config`), as far as the callbacks
  read it: whether mruby handlers are enabled and the path of each session handler;
* `CommandRec`: the record `command_rec` the mruby side reads through `Pmilter::Session`;
* `MrbCode`: a handler `pmilter_mrb_code`;
* `PmilterState`: the per-connection state `pmilter_state`, with its twelve handler slots
  `mruby_<phase>_handler` as one function of the `Phase`;
* `Conn`: what one libmilter context holds for pmilter: its private data pointer
  (`smfi_getpriv`), which points either to the `pmilter_config` or to a `pmilter_state`, and
  the `pmilter_state` objects allocated so far (a freed one is gone).

A callback ends either normally or in a `Fault`: undefined behaviour of the C code (the
configuration read as a `pmilter_state`, a freed `pmilter_state` read, a `NULL`
dereferenced).  What the C library and the mruby runtime answer during one callback
(allocations, compilation, the run of the script, `inet_ntop`, `time`, `smfi_getsymval`) is
its `Ext`; the theorems about the callbacks hold for every `Ext`, unless a hypothesis names
the answer they need.
-/

namespace Pmilter

open Milter

/-! ### Phases and handler code -/

/-- The twelve session phases, one per session callback, in the order of `pmilter_state`. -/
inductive Phase
  | connect | helo | envfrom | envrcpt | header | eoh | body | eom | abort | close | unknown
  | data
  deriving DecidableEq, Repr

/-- The phases, in order. -/
def Phase.all : List Phase :=
  [.connect, .helo, .envfrom, .envrcpt, .header, .eoh, .body, .eom, .abort, .close, .unknown,
    .data]

theorem Phase.mem_all (ph : Phase) : ph ∈ Phase.all := by
  cases ph <;> simp [Phase.all]

/-- The name `"mruby_" #hook_phase "_handler"` that the handler macro stores in
`pmilter->phase`. -/
def Phase.handlerName : Phase → String
  | .connect => "mruby_connect_handler"
  | .helo => "mruby_helo_handler"
  | .envfrom => "mruby_envfrom_handler"
  | .envrcpt => "mruby_envrcpt_handler"
  | .header => "mruby_header_handler"
  | .eoh => "mruby_eoh_handler"
  | .body => "mruby_body_handler"
  | .eom => "mruby_eom_handler"
  | .abort => "mruby_abort_handler"
  | .close => "mruby_close_handler"
  | .unknown => "mruby_unknown_handler"
  | .data => "mruby_data_handler"

/-- The startup configuration `pmilter_config`, as the session callbacks read it. -/
structure PmilterConfig where
  /-- `enable_mruby_handler`. -/
  enableMrubyHandler : Bool
  /-- `mruby_<phase>_handler_path` for the twelve session phases (`NULL` is `none`). -/
  handlerPath : Phase → Option String

/-- A handler `pmilter_mrb_code` read from a file: its path `code.file` and whether
compilation attached an `mrbc_context` to it (`code->ctx`, which `pmilter_mrb_code_from_file`
leaves unset). -/
structure MrbCode where
  file : String
  ctx : Bool
  deriving DecidableEq, Repr

/-- `command_rec` with its `connection_rec` and `smtp_header`: what `Pmilter::Session` reads.
A `char *` that is `NULL` is `none`. -/
structure CommandRec where
  hostname : Option String
  ipaddr : Option String
  hostaddr : Option SockAddr
  connectDaemon : Option String
  helohost : Option String
  envelopeFrom : Option String
  envelopeTo : Option String
  /-- `receive_time`, an `int`. -/
  receiveTime : Int32
  /-- `header->key`. -/
  headerKey : Option String
  /-- `header->value`. -/
  headerValue : Option String
  bodyChunk : Option (List Char)
  bodyChunkLen : Nat
  deriving DecidableEq, Repr

/-- `pmilter_command_init`: every field `NULL` or `0`. -/
def CommandRec.init : CommandRec :=
  ⟨none, none, none, none, none, none, none, 0, none, none, none, 0⟩

/-- The mruby interpreter `mrb_state`, as far as pmilter uses it: `mrb->exc`, a pending
exception. -/
structure Mrb where
  exc : Bool
  deriving DecidableEq, Repr

/-- `pmilter_state`: the per-connection state of pmilter. -/
structure PmilterState where
  /-- `mrb`: `NULL` (`none`) when mruby handlers are disabled. -/
  mrb : Option Mrb
  /-- `cmd`: `NULL` when `pmilter_command_init` failed. -/
  cmd : Option CommandRec
  /-- `status`, the C `int` every callback returns. -/
  status : Int32
  /-- `phase`, the name of the running handler. -/
  phase : String
  /-- The slots `mruby_<phase>_handler`; `none` is `PMILTER_CONF_UNSET`. -/
  handler : Phase → Option MrbCode

/-- The run of a handler script as pmilter observes it: the arguments of its calls of
`Pmilter.status=` (each an `mrb_int`, 64 bits on this platform), in order, and whether it ends
with an uncaught exception. -/
structure ScriptRun where
  statuses : List Int64
  raised : Bool
  deriving DecidableEq, Repr

/-- How `pmilter_state_compile_internal` goes for a handler: the file does not open, it opens
but does not parse or generate code (the `mrbc_context` is then already attached), the parser
or the code generator raises (an identifier too long, `NoMemoryError`) and leaves the exception
in `mrb->exc`, or it compiles. -/
inductive Compile
  | openFailed | failed | raised | ok
  deriving DecidableEq, Repr

/-- What the C library and the mruby runtime answer during one callback. -/
structure Ext where
  /-- `malloc` of the `pmilter_state` in `pmilter_create_conf` succeeds. -/
  stateAlloc : Bool
  /-- `mrb_open` succeeds. -/
  mrbOpen : Bool
  /-- The `calloc`s of `pmilter_command_init` succeed. -/
  cmdAlloc : Bool
  /-- `malloc` in `pmilter_mrb_code_from_file` succeeds. -/
  codeAlloc : Bool
  /-- The `n`-th `strdup` of the callback (from `0`) succeeds. -/
  dupOk : Nat → Bool
  /-- How the handler compiles. -/
  compile : Compile
  /-- How the handler script runs. -/
  run : ScriptRun
  /-- `inet_ntop` of the address of an `AF_INET` or `AF_INET6` socket address. -/
  inetNtop : SockAddr → Option String
  /-- `smfi_getsymval(ctx, name)`. -/
  symval : String → Option String
  /-- `time(&t)`. -/
  now : Int64

/-! ### The private data of a connection -/

/-- What `smfi_getpriv(ctx)` points to: the `pmilter_config` given to `smfi_main`, or the
`pmilter_state` at an address. -/
inductive Priv
  | config
  | state (a : Nat)
  deriving DecidableEq, Repr

/-- One run of a handler script, with the session data it can read (`pmilter->cmd`). -/
structure HandlerRun where
  phase : Phase
  cmd : Option CommandRec
  deriving DecidableEq, Repr

/-- What one libmilter context holds for pmilter: the private data pointer, the
`pmilter_state` objects by address (`none`: never allocated or freed), the next fresh
address, and the runs of handler scripts so far (an observation, not C data). -/
structure Conn where
  priv : Priv
  heap : Nat → Option PmilterState
  next : Nat
  runs : List HandlerRun

/-- A new connection: the private data is the configuration, nothing is allocated. -/
def Conn.init : Conn := ⟨.config, fun _ => none, 0, []⟩

/-- Undefined behaviour reached by a callback. -/
inductive Fault
  /-- The `pmilter_config` behind `smfi_getpriv` is used as a `pmilter_state`. -/
  | configAsState
  /-- A `pmilter_state` behind `smfi_getpriv` is used as the `pmilter_config`. -/
  | stateAsConfig
  /-- A freed `pmilter_state` is read. -/
  | useAfterFree
  /-- A `NULL` pointer is dereferenced. -/
  | nullDeref
  deriving DecidableEq, Repr

namespace Conn

variable (c : Conn)

/-- `smfi_getpriv(ctx)` used as a `pmilter_state *`. -/
def getState : Except Fault Nat :=
  match c.priv with
  | .state a => .ok a
  | .config => .error .configAsState

/-- `smfi_getpriv(ctx)` used as the `pmilter_config *`. -/
def getConfig : Except Fault Unit :=
  match c.priv with
  | .config => .ok ()
  | .state _ => .error .stateAsConfig

/-- Read the `pmilter_state` at `a`. -/
def load (a : Nat) : Except Fault PmilterState :=
  match c.heap a with
  | some p => .ok p
  | none => .error .useAfterFree

/-- Write the `pmilter_state` at `a`. -/
def store (a : Nat) (p : PmilterState) : Conn :=
  { c with heap := Function.update c.heap a (some p) }

/-- `free(pmilter)`. -/
def free (a : Nat) : Conn :=
  { c with heap := Function.update c.heap a none }

/-- `malloc` of a new `pmilter_state`, at the next fresh address. -/
def alloc (p : PmilterState) : Conn :=
  { c with heap := Function.update c.heap c.next (some p), next := c.next + 1 }

/-- `smfi_setpriv(ctx, data)`. -/
def setPriv (v : Priv) : Conn := { c with priv := v }

/-- Record a run of a handler script. -/
def logRun (r : HandlerRun) : Conn := { c with runs := c.runs ++ [r] }

variable {c}

@[simp] theorem store_heap_self (a : Nat) (p : PmilterState) : (c.store a p).heap a = some p := by
  simp [store]

@[simp] theorem store_heap_ne {a b : Nat} (p : PmilterState) (h : b ≠ a) :
    (c.store a p).heap b = c.heap b := by
  simp [store, h]

@[simp] theorem store_priv (a : Nat) (p : PmilterState) : (c.store a p).priv = c.priv := rfl
@[simp] theorem store_runs (a : Nat) (p : PmilterState) : (c.store a p).runs = c.runs := rfl
@[simp] theorem store_next (a : Nat) (p : PmilterState) : (c.store a p).next = c.next := rfl

@[simp] theorem free_heap_self (a : Nat) : (c.free a).heap a = none := by
  simp [free]

@[simp] theorem free_priv (a : Nat) : (c.free a).priv = c.priv := rfl
@[simp] theorem free_runs (a : Nat) : (c.free a).runs = c.runs := rfl

@[simp] theorem setPriv_priv (v : Priv) : (c.setPriv v).priv = v := rfl
@[simp] theorem setPriv_heap (v : Priv) : (c.setPriv v).heap = c.heap := rfl
@[simp] theorem setPriv_runs (v : Priv) : (c.setPriv v).runs = c.runs := rfl

@[simp] theorem logRun_priv (r : HandlerRun) : (c.logRun r).priv = c.priv := rfl
@[simp] theorem logRun_heap (r : HandlerRun) : (c.logRun r).heap = c.heap := rfl
@[simp] theorem logRun_runs (r : HandlerRun) : (c.logRun r).runs = c.runs ++ [r] := rfl

@[simp] theorem alloc_priv (p : PmilterState) : (c.alloc p).priv = c.priv := rfl
@[simp] theorem alloc_runs (p : PmilterState) : (c.alloc p).runs = c.runs := rfl

@[simp] theorem load_store_self (a : Nat) (p : PmilterState) : (c.store a p).load a = .ok p := by
  simp [load]

theorem load_eq_ok {a : Nat} {p : PmilterState} : c.load a = .ok p ↔ c.heap a = some p := by
  unfold load
  split <;> simp_all

theorem getState_eq_ok {a : Nat} : c.getState = .ok a ↔ c.priv = .state a := by
  unfold getState
  split <;> simp_all

end Conn

end Pmilter
