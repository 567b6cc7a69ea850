import Pmilter.Lib.Except
import Mathlib.Data.List.Basic

/-!
# The tree libtoml hands to pmilter

`toml_parse` leaves a tree of `struct toml_node`: each node has a `type`, a `name` (`NULL` for
the root and the items of a list) and a `union value` of which the parser fills the member that
goes with the type: `map` for the root and the tables, `list` for lists and table arrays,
`integer` for integers and booleans, `string` for strings.  pmilter reads the tree with
`toml_get`, which walks a dotted key one name at a time, and `toml_type`.

A read of a member the parser did not fill reinterprets the bytes of another member; the model
stops there (`ConfigStop.wrongMember`), as it stops at a `NULL` dereference.

* `tomlGet_retype` : `toml_get` never looks at the type of a node: in a tree whose nodes are
  given other types, every key leads to the same node, retyped;
* `tomlRead_retype` : nor does a read of a member.
-/

namespace Pmilter

/-- `enum toml_type`. -/
inductive TomlType
  | root | table | list | int | float | string | date | boolean | tableArray | inlineTable
  deriving DecidableEq, Repr

/-- The value of the enumerator: `TOML_ROOT = 1`, then in order. -/
def TomlType.toNat : TomlType → Nat
  | .root => 1
  | .table => 2
  | .list => 3
  | .int => 4
  | .float => 5
  | .string => 6
  | .date => 7
  | .boolean => 8
  | .tableArray => 9
  | .inlineTable => 10

/-- The member of `union value` the parser filled, with its contents; the contents of a
`floating` and an `rfc3339_time` are left out, pmilter reads neither. -/
inductive TomlValue (α : Type)
  | map (items : List α)
  | list (items : List α)
  | integer (v : Int64)
  | floating
  | string (s : String)
  | rfc3339Time

/-- `struct toml_node`: its `type`, its `name` and its `value`. -/
inductive TomlNode
  | mk (type : TomlType) (name : Option String) (value : TomlValue TomlNode)

namespace TomlNode

def type : TomlNode → TomlType
  | .mk t _ _ => t

def name : TomlNode → Option String
  | .mk _ n _ => n

def value : TomlNode → TomlValue TomlNode
  | .mk _ _ v => v

end TomlNode

/-- How reading the configuration can stop short of a configuration. -/
inductive ConfigStop
  /-- `pmilter_log_error(PMILTER_LOG_EMERG, config, ...)` with this text, then `exit(1)`. -/
  | exit (msg : String)
  /-- A `NULL` node is dereferenced. -/
  | nullDeref
  /-- A member of `union value` is read from a node whose parser filled another one. -/
  | wrongMember
  deriving DecidableEq, Repr

/-- The stop is the configuration error of `exit(1)`. -/
def ConfigStop.IsExit : ConfigStop → Prop
  | .exit _ => True
  | _ => False

/-! ### `toml_get` and `toml_type` -/

/-- The tokens `strsep(&name, ".")` hands out, one after another, until it returns `NULL`:
the pieces of the key between its dots, empty ones included. -/
def strsepDots : List Char → List (List Char)
  | [] => [[]]
  | c :: cs =>
    let rest := strsepDots cs
    if c = '.' then [] :: rest else (c :: rest.headD []) :: rest.tail

example : strsepDots "server.timeout".toList = ["server".toList, "timeout".toList] := by decide

/-- The items `list_for_each(&node->value.map, item, map)` visits.  A list's `value.list` is the
same `list_head` as `value.map`, and a `toml_list_item` is laid out as a `toml_table_item`, so a
list's items are visited too; the value of any other node is not a list head (`none`). -/
def TomlNode.mapItems : TomlNode → Option (List TomlNode)
  | .mk _ _ (.map items) => some items
  | .mk _ _ (.list items) => some items
  | _ => none

/-- The loop of `toml_get` from `node` over the remaining names: the first item with the name,
skipping items without one, or `NULL` when there is none. -/
def tomlGetPath (node : TomlNode) : List (List Char) → Except ConfigStop (Option TomlNode)
  | [] => .ok (some node)
  | a :: rest =>
    match node.mapItems with
    | none => .error .wrongMember
    | some items =>
      match items.find? (fun it => it.name.map String.toList == some a) with
      | some it => tomlGetPath it rest
      | none => .ok none

/-- `toml_get(root, key)`. -/
def tomlGet (root : TomlNode) (key : String) : Except ConfigStop (Option TomlNode) :=
  tomlGetPath root (strsepDots key.toList)

/-- `toml_type(node)`, which reads `node->type`. -/
def tomlType : Option TomlNode → Except ConfigStop TomlType
  | none => .error .nullDeref
  | some n => .ok n.type

def TomlValue.integer? : TomlValue α → Option Int64
  | .integer v => some v
  | _ => none

def TomlValue.string? : TomlValue α → Option String
  | .string s => some s
  | _ => none

/-- `node->value.<member>`, where `read` gives the member if the parser filled it. -/
def tomlRead (node : Option TomlNode) (read : TomlValue TomlNode → Option α) :
    Except ConfigStop α :=
  match node with
  | none => .error .nullDeref
  | some n =>
    match read n.value with
    | some v => .ok v
    | none => .error .wrongMember

/-! ### Reading ignores the types -/

mutual

/-- The tree with the type of every node replaced by `f` of its name and type. -/
def TomlNode.retype (f : Option String → TomlType → TomlType) : TomlNode → TomlNode
  | .mk t n v => .mk (f n t) n (TomlValue.retype f v)

def TomlValue.retype (f : Option String → TomlType → TomlType) :
    TomlValue TomlNode → TomlValue TomlNode
  | .map items => .map (TomlNode.retypeItems f items)
  | .list items => .list (TomlNode.retypeItems f items)
  | .integer v => .integer v
  | .floating => .floating
  | .string s => .string s
  | .rfc3339Time => .rfc3339Time

def TomlNode.retypeItems (f : Option String → TomlType → TomlType) :
    List TomlNode → List TomlNode
  | [] => []
  | x :: xs => x.retype f :: TomlNode.retypeItems f xs

end

section Retype

variable (f : Option String → TomlType → TomlType)

theorem TomlNode.retypeItems_eq (items : List TomlNode) :
    TomlNode.retypeItems f items = items.map (TomlNode.retype f) := by
  induction items with
  | nil => rfl
  | cons x xs ih => simp [TomlNode.retypeItems, ih]

@[simp] theorem TomlNode.retype_name (n : TomlNode) : (n.retype f).name = n.name := by
  cases n
  rfl

@[simp] theorem TomlNode.retype_value (n : TomlNode) :
    (n.retype f).value = n.value.retype f := by
  cases n
  rfl

@[simp] theorem TomlValue.retype_integer? (v : TomlValue TomlNode) :
    (v.retype f).integer? = v.integer? := by
  cases v <;> rfl

@[simp] theorem TomlValue.retype_string? (v : TomlValue TomlNode) :
    (v.retype f).string? = v.string? := by
  cases v <;> rfl

theorem TomlNode.retype_mapItems (n : TomlNode) :
    (n.retype f).mapItems = n.mapItems.map (List.map (TomlNode.retype f)) := by
  obtain ⟨t, nm, v⟩ := n
  cases v <;> simp [TomlNode.retype, TomlValue.retype, TomlNode.mapItems,
    TomlNode.retypeItems_eq]

/-- **The walk of `toml_get` ignores the types**: from a retyped node, every path leads to the
same node, retyped. -/
theorem tomlGetPath_retype (path : List (List Char)) (n : TomlNode) :
    tomlGetPath (n.retype f) path = (Option.map (TomlNode.retype f)) <$> tomlGetPath n path := by
  induction path generalizing n with
  | nil => rfl
  | cons a rest ih =>
    simp only [tomlGetPath, TomlNode.retype_mapItems]
    cases n.mapItems with
    | none => rfl
    | some items =>
      -- the item is found by its name, which retyping keeps
      have hfind : (items.map (TomlNode.retype f)).find? (fun it => it.name.map String.toList == some a) =
          (items.find? (fun it => it.name.map String.toList == some a)).map (TomlNode.retype f) := by
        rw [List.find?_map]
        simp only [Function.comp_def, TomlNode.retype_name]
      simp only [Option.map_some, hfind]
      cases items.find? (fun it => it.name.map String.toList == some a) with
      | none => rfl
      | some it => exact ih it

theorem tomlGet_retype (root : TomlNode) (key : String) :
    tomlGet (root.retype f) key = (Option.map (TomlNode.retype f)) <$> tomlGet root key :=
  tomlGetPath_retype f _ root

/-- **A read of an integer or a string ignores the type** of the node. -/
theorem tomlRead_retype (node : Option TomlNode) {α : Type} (read : TomlValue TomlNode → Option α)
    (hread : ∀ v, read (v.retype f) = read v) :
    tomlRead (node.map (TomlNode.retype f)) read = tomlRead node read := by
  cases node with
  | none => rfl
  | some n => simp [tomlRead, hread]

end Retype

end Pmilter
