import Pmilter.Config.Toml
import Pmilter.Core.Types

/-!
# `pmilter_config_parse`

At startup `main` reads the TOML file into a tree, and `pmilter_config_parse` fills the
`pmilter_config` from it: the log level, the six `server` keys through the typed getters
`pmilter_config_get_bool`, `_integer` and `_string`, and the fourteen handler paths.

A typed getter is meant to stop the program with a configuration error when its key holds a
node of another type, but it tests `!toml_type(node) == TOML_X`, which C reads as
`(!toml_type(node)) == TOML_X`: every enumerator is at least 1, so its `!` is 0, and no
enumerator is 0.  The test never holds; a missing key reaches `toml_type(NULL)`.

* `pmilterConfigGet_eq` : a typed getter is the read of its member at its key, whatever the
  type of the node;
* `pmilterConfigParse_avoids` : so `pmilter_config_parse` never stops with a configuration
  error;
* `pmilterConfigParse_retype` : and what it reads does not depend on the type of any node of
  the tree;
* `pmilterConfigParse_unchecked` : the two together.
-/

namespace Pmilter

open Except

/-! ### The typed getters -/

/-- C's `!` on an `int`. -/
def cNot (v : Nat) : Nat := if v = 0 then 1 else 0

/-- The body shared by `pmilter_config_get_integer`, `_string` and `_bool`: they differ in the
type they test, the text after the key in their error, and the member they read. -/
def pmilterConfigGet {α : Type} (want : TomlType) (msg : String)
    (read : TomlValue TomlNode → Option α) (root : TomlNode) (key : String) :
    Except ConfigStop α := do
  let node ← tomlGet root key
  if cNot (← tomlType node).toNat == want.toNat then
    throw (.exit (key ++ msg))
  tomlRead node read

/-- `pmilter_config_get_integer`: `value.integer`, narrowed to the `int` it returns. -/
def pmilterConfigGetInteger (root : TomlNode) (key : String) : Except ConfigStop Int32 :=
  Int64.toInt32 <$> pmilterConfigGet .int " must be integer type in config" TomlValue.integer? root key

/-- `pmilter_config_get_string`: `value.string`. -/
def pmilterConfigGetString (root : TomlNode) (key : String) : Except ConfigStop String :=
  pmilterConfigGet .string " must be string type in config" TomlValue.string? root key

/-- `pmilter_config_get_bool`: 1 when `value.integer` is not 0, and 0 otherwise. -/
def pmilterConfigGetBool (root : TomlNode) (key : String) : Except ConfigStop Int32 :=
  (fun v => if v ≠ 0 then 1 else 0) <$>
    pmilterConfigGet .boolean " must be boolen type in config" TomlValue.integer? root key

/-! ### The log level and the handler paths -/

/-- `PMILTER_LOG_WARN`. -/
def PMILTER_LOG_WARN : Nat := 4

/-- `err_levels`. -/
def errLevels : List String :=
  ["emerg", "alert", "crit", "error", "warn", "notice", "info", "debug"]

/-- `pmilter_get_log_level(level_str)`: the index of the last level named `level_str`, or
`PMILTER_LOG_WARN`. -/
def pmilterGetLogLevel (levelStr : String) : Nat :=
  (List.range errLevels.length).foldl
    (fun level i => if levelStr = errLevels.getD i "" then i else level) PMILTER_LOG_WARN

/-- `pmilter_config_get_log_level`: the level named at `server.log_level`, or
`PMILTER_LOG_WARN` when the key is absent. -/
def pmilterConfigGetLogLevel (root : TomlNode) : Except ConfigStop Nat := do
  let node ← tomlGet root "server.log_level"
  match node with
  | some _ => return pmilterGetLogLevel (← tomlRead node TomlValue.string?)
  | none => return PMILTER_LOG_WARN

/-- The body of the two handler macros: the path at `key`, `NULL` when the key is absent. -/
def handlerConfigValue (root : TomlNode) (key : String) : Except ConfigStop (Option String) := do
  let node ← tomlGet root key
  match node with
  | some _ => return some (← tomlRead node TomlValue.string?)
  | none => return none

/-- `PMILTER_CONFIG_HANDLER_CONFIG_VALUE(root, node, config, phase)`. -/
def pmilterConfigHandlerConfigValue (root : TomlNode) (phase : String) :
    Except ConfigStop (Option String) :=
  handlerConfigValue root ("handler.config.mruby_" ++ phase ++ "_handler")

/-- `PMILTER_SESSION_HANDLER_CONFIG_VALUE(root, node, config, phase)`. -/
def pmilterSessionHandlerConfigValue (root : TomlNode) (phase : Phase) :
    Except ConfigStop (Option String) :=
  handlerConfigValue root ("handler.session." ++ phase.handlerName)

/-- `pmilter_config_mruby_handler`: the paths of the `postconfig` and `master_exit` handlers, and
of the twelve session handlers, read in this order. -/
def pmilterConfigMrubyHandler (root : TomlNode) :
    Except ConfigStop (Option String × Option String × (Phase → Option String)) := do
  let postconfig ← pmilterConfigHandlerConfigValue root "postconfig"
  let masterExit ← pmilterConfigHandlerConfigValue root "master_exit"
  let connect ← pmilterSessionHandlerConfigValue root .connect
  let helo ← pmilterSessionHandlerConfigValue root .helo
  let envfrom ← pmilterSessionHandlerConfigValue root .envfrom
  let envrcpt ← pmilterSessionHandlerConfigValue root .envrcpt
  let header ← pmilterSessionHandlerConfigValue root .header
  let eoh ← pmilterSessionHandlerConfigValue root .eoh
  let body ← pmilterSessionHandlerConfigValue root .body
  let eom ← pmilterSessionHandlerConfigValue root .eom
  let abort ← pmilterSessionHandlerConfigValue root .abort
  let close ← pmilterSessionHandlerConfigValue root .close
  let unknown ← pmilterSessionHandlerConfigValue root .unknown
  let data ← pmilterSessionHandlerConfigValue root .data
  return (postconfig, masterExit, fun
    | .connect => connect
    | .helo => helo
    | .envfrom => envfrom
    | .envrcpt => envrcpt
    | .header => header
    | .eoh => eoh
    | .body => body
    | .eom => eom
    | .abort => abort
    | .close => close
    | .unknown => unknown
    | .data => data)

/-! ### `pmilter_config_parse` -/

/-- The fields of `pmilter_config` that `pmilter_config_parse` sets, over those the session
callbacks read. -/
structure ServerConfig extends PmilterConfig where
  logLevel : Nat
  timeout : Int32
  listen : String
  listenBacklog : Int32
  debug : Int32
  minWorker : Int32
  mrubyPostconfigHandlerPath : Option String
  mrubyMasterExitHandlerPath : Option String

/-- `pmilter_config_parse(config, root)`.  `enable_mruby_handler` is a one-bit field, which
keeps the low bit of the 0 or 1 it is given. -/
def pmilterConfigParse (root : TomlNode) : Except ConfigStop ServerConfig := do
  let logLevel ← pmilterConfigGetLogLevel root
  let enableMrubyHandler ← pmilterConfigGetBool root "server.mruby_handler"
  let timeout ← pmilterConfigGetInteger root "server.timeout"
  let listen ← pmilterConfigGetString root "server.listen"
  let listenBacklog ← pmilterConfigGetInteger root "server.listen_backlog"
  let debug ← pmilterConfigGetInteger root "server.debug"
  let minWorker ← pmilterConfigGetInteger root "server.min_worker"
  let (postconfig, masterExit, handlerPath) ← pmilterConfigMrubyHandler root
  return { enableMrubyHandler := enableMrubyHandler % 2 != 0, handlerPath, logLevel, timeout,
           listen, listenBacklog, debug, minWorker, mrubyPostconfigHandlerPath := postconfig,
           mrubyMasterExitHandlerPath := masterExit }

/-! ### The type test never holds -/

theorem TomlType.toNat_pos (t : TomlType) : 0 < t.toNat := by
  cases t <;> decide

theorem cNot_toNat (t : TomlType) : cNot t.toNat = 0 := by
  unfold cNot
  rw [if_neg (Nat.pos_iff_ne_zero.mp t.toNat_pos)]

/-- **A typed getter does not test the type**: it is the read of its member at its key. -/
theorem pmilterConfigGet_eq {α : Type} (want : TomlType) (msg : String)
    (read : TomlValue TomlNode → Option α) (root : TomlNode) (key : String) :
    pmilterConfigGet want msg read root key = tomlGet root key >>= fun node => tomlRead node read := by
  unfold pmilterConfigGet
  cases tomlGet root key with
  | error e => rfl
  | ok node =>
    cases node with
    | none => rfl
    | some n =>
      -- `(!type) == want` is `0 == want`, and `want` is at least 1
      have hne : cNot n.type.toNat ≠ want.toNat := by
        rw [cNot_toNat]
        exact (Nat.pos_iff_ne_zero.mp want.toNat_pos).symm
      simp [tomlType, hne]

/-! ### No configuration error -/

section Avoids

/-- `toml_get` stops only at a read of a wrong member. -/
theorem tomlGetPath_avoids (path : List (List Char)) (n : TomlNode) :
    (tomlGetPath n path).Avoids ConfigStop.IsExit := by
  induction path generalizing n with
  | nil => exact Avoids.ok _ _
  | cons a rest ih =>
    unfold tomlGetPath
    split
    · exact Avoids.error (by simp [ConfigStop.IsExit])
    · split
      · exact ih _
      · exact Avoids.ok _ _

theorem tomlGet_avoids (root : TomlNode) (key : String) :
    (tomlGet root key).Avoids ConfigStop.IsExit :=
  tomlGetPath_avoids _ root

theorem tomlRead_avoids {α : Type} (node : Option TomlNode) (read : TomlValue TomlNode → Option α) :
    (tomlRead node read).Avoids ConfigStop.IsExit := by
  unfold tomlRead
  split
  · exact Avoids.error (by simp [ConfigStop.IsExit])
  · split
    · exact Avoids.ok _ _
    · exact Avoids.error (by simp [ConfigStop.IsExit])

theorem pmilterConfigGet_avoids {α : Type} (want : TomlType) (msg : String)
    (read : TomlValue TomlNode → Option α) (root : TomlNode) (key : String) :
    (pmilterConfigGet want msg read root key).Avoids ConfigStop.IsExit := by
  rw [pmilterConfigGet_eq]
  exact (tomlGet_avoids root key).bind fun node => tomlRead_avoids node read

theorem handlerConfigValue_avoids (root : TomlNode) (key : String) :
    (handlerConfigValue root key).Avoids ConfigStop.IsExit := by
  unfold handlerConfigValue
  refine (tomlGet_avoids root key).bind fun node => ?_
  cases node with
  | none => exact Avoids.ok _ _
  | some n => exact (tomlRead_avoids _ _).bind fun s => Avoids.ok _ _

theorem pmilterConfigGetLogLevel_avoids (root : TomlNode) :
    (pmilterConfigGetLogLevel root).Avoids ConfigStop.IsExit := by
  unfold pmilterConfigGetLogLevel
  refine (tomlGet_avoids root _).bind fun node => ?_
  cases node with
  | none => exact Avoids.ok _ _
  | some n => exact (tomlRead_avoids _ _).bind fun s => Avoids.ok _ _

theorem pmilterConfigMrubyHandler_avoids (root : TomlNode) :
    (pmilterConfigMrubyHandler root).Avoids ConfigStop.IsExit := by
  unfold pmilterConfigMrubyHandler pmilterConfigHandlerConfigValue
    pmilterSessionHandlerConfigValue
  -- fourteen reads of a path, one after another
  refine (handlerConfigValue_avoids root _).bind fun _ => ?_
  refine (handlerConfigValue_avoids root _).bind fun _ => ?_
  refine (handlerConfigValue_avoids root _).bind fun _ => ?_
  refine (handlerConfigValue_avoids root _).bind fun _ => ?_
  refine (handlerConfigValue_avoids root _).bind fun _ => ?_
  refine (handlerConfigValue_avoids root _).bind fun _ => ?_
  refine (handlerConfigValue_avoids root _).bind fun _ => ?_
  refine (handlerConfigValue_avoids root _).bind fun _ => ?_
  refine (handlerConfigValue_avoids root _).bind fun _ => ?_
  refine (handlerConfigValue_avoids root _).bind fun _ => ?_
  refine (handlerConfigValue_avoids root _).bind fun _ => ?_
  refine (handlerConfigValue_avoids root _).bind fun _ => ?_
  refine (handlerConfigValue_avoids root _).bind fun _ => ?_
  refine (handlerConfigValue_avoids root _).bind fun _ => ?_
  exact Avoids.ok _ _

/-- **`pmilter_config_parse` never stops with a configuration error.** -/
theorem pmilterConfigParse_avoids (root : TomlNode) :
    (pmilterConfigParse root).Avoids ConfigStop.IsExit := by
  unfold pmilterConfigParse pmilterConfigGetBool pmilterConfigGetInteger pmilterConfigGetString
  refine (pmilterConfigGetLogLevel_avoids root).bind fun _ => ?_
  refine ((pmilterConfigGet_avoids _ _ _ root _).map _).bind fun _ => ?_
  refine ((pmilterConfigGet_avoids _ _ _ root _).map _).bind fun _ => ?_
  refine (pmilterConfigGet_avoids _ _ _ root _).bind fun _ => ?_
  refine ((pmilterConfigGet_avoids _ _ _ root _).map _).bind fun _ => ?_
  refine ((pmilterConfigGet_avoids _ _ _ root _).map _).bind fun _ => ?_
  refine ((pmilterConfigGet_avoids _ _ _ root _).map _).bind fun _ => ?_
  exact (pmilterConfigMrubyHandler_avoids root).bind fun _ => Avoids.ok _ _

end Avoids

/-! ### Blind to the types -/

section Retype

variable (f : Option String → TomlType → TomlType) (root : TomlNode)

@[simp] theorem pmilterConfigGet_retype {α : Type} (want : TomlType) (msg : String)
    (read : TomlValue TomlNode → Option α) (hread : ∀ v, read (v.retype f) = read v)
    (key : String) :
    pmilterConfigGet want msg read (root.retype f) key = pmilterConfigGet want msg read root key := by
  rw [pmilterConfigGet_eq, pmilterConfigGet_eq, tomlGet_retype]
  cases tomlGet root key with
  | error e => rfl
  | ok node => exact tomlRead_retype f node read hread

@[simp] theorem handlerConfigValue_retype (key : String) :
    handlerConfigValue (root.retype f) key = handlerConfigValue root key := by
  unfold handlerConfigValue
  rw [tomlGet_retype]
  cases tomlGet root key with
  | error e => rfl
  | ok node =>
    cases node with
    | none => rfl
    | some n => simp [tomlRead]

@[simp] theorem pmilterConfigGetLogLevel_retype :
    pmilterConfigGetLogLevel (root.retype f) = pmilterConfigGetLogLevel root := by
  unfold pmilterConfigGetLogLevel
  rw [tomlGet_retype]
  cases tomlGet root "server.log_level" with
  | error e => rfl
  | ok node =>
    cases node with
    | none => rfl
    | some n => simp [tomlRead]

/-- **What `pmilter_config_parse` reads does not depend on the types of the nodes.** -/
theorem pmilterConfigParse_retype :
    pmilterConfigParse (root.retype f) = pmilterConfigParse root := by
  simp [pmilterConfigParse, pmilterConfigGetBool, pmilterConfigGetInteger, pmilterConfigGetString,
    pmilterConfigMrubyHandler, pmilterConfigHandlerConfigValue, pmilterSessionHandlerConfigValue]

end Retype

/-- **`pmilter_config_parse` does not check the types of the configuration.**  Whatever the
tree, it never stops with the configuration error of its typed getters, and what it reads, or
where it fails, is the same when any node of the tree is given any other type. -/
theorem pmilterConfigParse_unchecked (root : TomlNode) (f : Option String → TomlType → TomlType) :
    (∀ msg, pmilterConfigParse root ≠ .error (.exit msg)) ∧
      pmilterConfigParse (root.retype f) = pmilterConfigParse root := by
  refine ⟨fun msg h => ?_, pmilterConfigParse_retype f root⟩
  exact pmilterConfigParse_avoids root (.exit msg) h trivial

/-- A configuration whose `server.timeout` is `true`, the other `server` keys of their types. -/
def timeoutTrueToml : TomlNode :=
  .mk .root none (.map [
    .mk .table (some "server") (.map [
      .mk .boolean (some "mruby_handler") (.integer 1),
      .mk .boolean (some "timeout") (.integer 1),
      .mk .string (some "listen") (.string "inet:10025@127.0.0.1"),
      .mk .int (some "listen_backlog") (.integer 128),
      .mk .int (some "debug") (.integer 0),
      .mk .int (some "min_worker") (.integer 1)])])

/-- `server.timeout = true` is read as the timeout 1, as `server.timeout = 1` is. -/
theorem pmilterConfigParse_timeoutTrue :
    (pmilterConfigParse timeoutTrueToml).map ServerConfig.timeout = .ok 1 ∧
      (∀ msg, pmilterConfigParse timeoutTrueToml ≠ .error (.exit msg)) ∧
      pmilterConfigParse (timeoutTrueToml.retype fun n t => if n = some "timeout" then .int else t) =
        pmilterConfigParse timeoutTrueToml :=
  ⟨by decide, pmilterConfigParse_unchecked timeoutTrueToml _⟩

end Pmilter
