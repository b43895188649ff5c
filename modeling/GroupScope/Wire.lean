import GroupScope.Directory.Table
import GroupScope.Keyed
import GroupScope.Parameters.Codec
import GroupScope.Predicate.Set
import GroupScope.Settings
/-!
# Types on the wire

How the types of this library are written as JSON, and the strict readers that accept what was
written. The readers agree on a few rules:

* a value of a fixed list of names is the name, or an object with that name as its only field and
  `null` as its value;
* a record is an object, in which no field of the record may stand twice and unknown fields are
  ignored, or the list of its fields in order, where nothing may follow the last one and only fields
  with a default may be missing;
* an id is a whole number of at most 64 bits without a sign, so `1.0` is none.
-/

namespace GroupScope.Wire

/-! ## Building blocks -/

/-- Reads a text. -/
def text? : Json → Option String
  | .string text => some text
  | _ => none

/-- Reads a truth value. -/
def bool? : Json → Option Bool
  | .bool b => some b
  | _ => none

/-- Reads an id. -/
def id? : Json → Option GroupId
  | .number n => n.toUInt64?
  | _ => none

/-- Reads a signed word. -/
def int64? : Json → Option Int64
  | .number n => n.toInt64?
  | _ => none

/-- Reads a number of at most 32 bits without a sign. -/
def nat32? : Json → Option Nat
  | .number (.integer value) => if 0 ≤ value ∧ value < pow2 32 then some value.toNat else none
  | _ => none

/-- Reads a list. -/
def list? (item? : Json → Option α) : Json → Option (List α)
  | .array items => items.mapM item?
  | _ => none

/-- Reads a list of ids. -/
def ids? : Json → Option (List GroupId) := list? id?

/-- Reads a value that may be `null`. -/
def nullable? (value? : Json → Option α) : Json → Option (Option α)
  | .null => some none
  | value => (value? value).map some

/-- Reads an object whose fields all have values of one type. -/
def map? (value? : Json → Option α) : Json → Option (List (String × α))
  | .object fields => fields.mapM fun (name, value) => (value? value).map fun value => (name, value)
  | _ => none

/-- Reads one of the given names. -/
def name? (ofText? : String → Option α) : Json → Option α
  | .string text => ofText? text
  | .object [(text, .null)] => ofText? text
  | _ => none

/-- The name stands in the object twice. -/
def isRepeated (fields : List (String × Json)) (name : String) : Bool :=
  1 < fields.countP fun field => field.1 == name

/-- The fields of a record in order, each absent or present. -/
def fields? (names : List String) : Json → Option (List (Option Json))
  | .object fields =>
    if names.any (isRepeated fields) then none
    else some (names.map fun name => fields.lookup name)
  | .array items =>
    if items.length ≤ names.length then some ((List.range names.length).map fun i => items[i]?)
    else none
  | _ => none

/-- A field that must be there. -/
def required (value? : Json → Option α) (field : Option Json) : Option α := field.bind value?

/-- A field with a default. -/
def withDefault (default : α) (value? : Json → Option α) : Option Json → Option α
  | none => some default
  | some value => value? value

/-! ## Expressions -/

/-- Reads an item of an expression: a text or a signed word. -/
def listItem? (value : Json) : Option ListItem :=
  match value with
  | .string text => some (.text text)
  | value => (int64? value).map .integer

/-- Reads an expression: a text, a signed word or a list of items. -/
def expression? (value : Json) : Option Expression :=
  match value with
  | .string text => some (.text text)
  | .array items => (items.mapM listItem?).map .list
  | value => (int64? value).map .integer

/-- The name of a directive. -/
def directiveName : Directive → String
  | .plain => "none"
  | .currentGroup => "current_group"
  | .myGroups => "my_groups"
  | .noGroup => "no_group"
  | .mustHaveGroup => "must_have_group"

/-- The directive with a name. -/
def directiveOfName? (name : String) : Option Directive :=
  [Directive.plain, .currentGroup, .myGroups, .noGroup, .mustHaveGroup].find? fun directive =>
    directiveName directive = name

/-- Reads a directive. -/
def directive? : Json → Option Directive := name? directiveOfName?

/-- Writes a directive. -/
def directive (value : Directive) : Json := .string (directiveName value)

/-- Writes native lists; an unset list is left out. -/
def nativeLists (lists : NativeLists) : Json :=
  .object <|
    Parameters.optionalField "include" .ids lists.included ++
    Parameters.optionalField "exclude" .ids lists.excluded

/-- Reads native lists. -/
def nativeLists? (value : Json) : Option NativeLists := do
  let [included, excluded] ← fields? ["include", "exclude"] value | none
  let included ← withDefault none (nullable? ids?) included
  let excluded ← withDefault none (nullable? ids?) excluded
  some { included, excluded }

/-- Writes a resolution; dropped items are left out when there are none. -/
def resolution (r : Resolution) : Json :=
  .object <|
    [("include_ids", .ids r.included), ("exclude_ids", .ids r.excluded),
      ("directive", directive r.directive), ("native", nativeLists r.native)] ++
    if r.dropped.isEmpty then [] else [("dropped_tokens", .array (r.dropped.map .string))]

/-- Reads a resolution. -/
def resolution? (value : Json) : Option Resolution := do
  let names := ["include_ids", "exclude_ids", "directive", "native", "dropped_tokens"]
  let [included, excluded, directive, native, dropped] ← fields? names value | none
  let included ← required ids? included
  let excluded ← required ids? excluded
  let directive ← required directive? directive
  let native ← required nativeLists? native
  let dropped ← withDefault [] (list? text?) dropped
  some { included, excluded, directive, native, dropped }

/-! ## Viewers and directories -/

/-- Writes a viewer. -/
def viewer : Viewer → Json
  | .anonymous => .string "anonymous"
  | .user id => .object [("authenticated", .id id)]

/-- Reads a viewer. -/
def viewer? : Json → Option Viewer
  | .string "anonymous" => some .anonymous
  | .object [("anonymous", .null)] => some .anonymous
  | .object [("authenticated", value)] => (id? value).map .user
  | _ => none

/-- Writes the tables of a directory. -/
def directoryTable (table : DirectoryTable) : Json :=
  .object
    [("groups", .object (table.groups.entries.map fun (slug, id) => (slug, .id id))),
      ("members", .object (table.members.entries.map fun (user, groups) => (user, .ids groups)))]

/-- Reads the tables of a directory. -/
def directoryTable? (value : Json) : Option DirectoryTable := do
  let [groups, members] ← fields? ["groups", "members"] value | none
  let groups ← withDefault [] (map? id?) groups
  let members ← withDefault [] (map? ids?) members
  some { groups := Keyed.ofList groups, members := Keyed.ofList members }

/-! ## Predicates -/

/-- The kind of a predicate. -/
def predicateKind : Predicate → String
  | .noGroup => "no_group"
  | .hasGroup => "has_group"
  | .inGroups _ => "in_groups"
  | .notInGroups _ => "not_in_groups"
  | .visible _ => "visible"

/-- The fields of a predicate. -/
def predicateFields (predicate : Predicate) : List (String × Json) :=
  ("kind", .string (predicateKind predicate)) ::
    match predicate with
    | .noGroup | .hasGroup => []
    | .inGroups ids | .notInGroups ids => [("ids", .ids ids)]
    | .visible memberOf => [("member_of", .ids memberOf)]

/-- Writes a predicate. -/
def predicate (value : Predicate) : Json := .object (predicateFields value)

/-- Reads a predicate of a kind from what is beside the kind. -/
def predicateOfKind? (kind : String) (rest : Json) : Option Predicate :=
  let idsUnder (name : String) : Option (List GroupId) := do
    let [ids] ← fields? [name] rest | none
    required ids? ids
  let nothingIn : Option Unit :=
    match rest with
    | .array (_ :: _) => none
    | _ => some ()
  match kind with
  | "no_group" => nothingIn.map fun _ => .noGroup
  | "has_group" => nothingIn.map fun _ => .hasGroup
  | "in_groups" => (idsUnder "ids").map .inGroups
  | "not_in_groups" => (idsUnder "ids").map .notInGroups
  | "visible" => (idsUnder "member_of").map .visible
  | _ => none

/-- Reads a predicate: an object with its kind, or a list that starts with the kind. -/
def predicate? : Json → Option Predicate
  | .object fields =>
    match fields? ["kind"] (.object fields) with
    | some [some (.string kind)] => predicateOfKind? kind (.object fields)
    | _ => none
  | .array (.string kind :: rest) => predicateOfKind? kind (.array rest)
  | _ => none

/-- Writes a fragment name. -/
def predicateName (name : PredicateName) : Json := .string name.text

/-- Reads a fragment name. -/
def predicateName? : Json → Option PredicateName := name? PredicateName.ofText?

/-- Writes a set of fragments. -/
def predicateSet (set : PredicateSet) : Json :=
  .object (set.toList.map fun (name, value) => (name.text, predicate value))

/-- Reads a set of fragments; every field must be a fragment name. -/
def predicateSet? : Json → Option PredicateSet
  | .object fields =>
    fields.foldlM (fun set (name, value) => do
      let name ← PredicateName.ofText? name
      let predicate ← predicate? value
      some (set.update name (some predicate))) PredicateSet.empty
  | _ => none

/-! ## Markers and settings -/

/-- Reads the marker for the viewer's groups. -/
def marker? : Json → Option GroupParameter :=
  name? fun text => if text = "my" then some .my else none

/-- Writes column names. -/
def columns (value : Columns) : Json :=
  .object [("group", .string value.group), ("private", .string value.privacy)]

/-- Reads column names, which need not be identifiers. -/
def columns? (value : Json) : Option Columns := do
  let [group, privacy] ← fields? ["group", "private"] value | none
  let group ← withDefault ({} : Columns).group text? group
  let privacy ← withDefault ({} : Columns).privacy text? privacy
  some { group, privacy }

/-- Writes settings. -/
def settings (value : Settings) : Json :=
  .object
    [("version", .nat value.version), ("groups_enabled", .bool value.groupsEnabled),
      ("columns", columns value.columns)]

/-- Reads settings. -/
def settings? (value : Json) : Option Settings := do
  let [version, groupsEnabled, columns] ←
    fields? ["version", "groups_enabled", "columns"] value | none
  let version ← withDefault settingsVersion nat32? version
  let groupsEnabled ← withDefault true bool? groupsEnabled
  let columns ← withDefault {} columns? columns
  some { version, groupsEnabled, columns }

end GroupScope.Wire
