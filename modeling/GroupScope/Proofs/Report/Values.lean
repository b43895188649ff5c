import GroupScope.Proofs.Json.RoundTrip
import GroupScope.Proofs.Search.Acceptance
import GroupScope.Report.Explanation
/-!
# Reports as values

What a report in JSON says is what its text is read back as. Texts, ids and numbers in a report come
from the parameters, the settings and the directory, and any of them is read back; a report is never
nested deeper than a reader goes. Reading sorts the fields of every object by name, which changes
nothing about the value of a field:

    report                 field            what is read under it
    parameters             those that are set
    fragments              predicates       name and condition of every fragment
    explanation            params           what is read back of the parameters
                           sql              the conditions under their names
                           dropped          the dropped items as texts
-/

namespace GroupScope

/-! ## §1. Parts of reports. -/

namespace Json

variable {room : Nat}

theorem readable_id (id : GroupId) : Readable room (.id id) := by
  refine .integer ⟨?_, ?_⟩
  · rw [pow2_63]
    omega
  · have hlt := id.toNat_lt
    rw [pow2_64]
    omega

theorem readable_ids (ids : List GroupId) : Readable (room + 1) (.ids ids) := by
  refine .array fun item hitem => ?_
  obtain ⟨id, -, rfl⟩ := List.mem_map.mp hitem
  exact readable_id id

theorem readable_int64 (value : Int64) : Readable room (.integer value.toInt) := by
  refine .integer ⟨?_, ?_⟩
  · have hlow := value.le_toInt
    rw [pow2_63]
    omega
  · have hhigh := value.toInt_lt
    rw [pow2_64]
    omega

theorem readable_optional (text : Option String) : Readable room (.optional .string text) := by
  cases text with
  | none => exact .null
  | some text => exact .string text

theorem readable_optionalField {encode : α → Json} (h : ∀ a, Readable room (encode a))
    (name : String) (value : Option α) :
    ∀ field ∈ Parameters.optionalField name encode value, Readable room field.2 := by
  cases value with
  | none => simp [Parameters.optionalField]
  | some a => simpa [Parameters.optionalField] using h a

/-- Fields with different names are read back as they are if their values are. -/
theorem lookup_canonical {fields : List (String × Json)} (hnames : (fields.map Prod.fst).Nodup)
    (hvalues : ∀ field ∈ fields, field.2.canonical = field.2) (name : String) :
    (canonical (.object fields)).field? name = fields.lookup name := by
  rw [field?_canonical hnames]
  cases hlookup : fields.lookup name with
  | none => rfl
  | some value =>
    have hmem : (name, value) ∈ fields := by
      obtain ⟨before, after, rfl, -⟩ := List.lookup_eq_some_iff.mp hlookup
      simp
    exact congrArg some (hvalues _ hmem)

/-- Fields that are sorted are read back in the same order. -/
theorem canonical_object {fields : List (String × Json)} (hsorted : SortedByName fields) :
    canonical (.object fields) = .object (fields.map fun field => (field.1, field.2.canonical)) := by
  have hcanonical : SortedByName (fields.map fun field => (field.1, field.2.canonical)) :=
    List.pairwise_map.mpr hsorted
  rw [canonical, canonicalFields_eq_map, Keyed.entries_ofList hcanonical]

theorem canonical_of_sorted {fields : List (String × Json)} (hsorted : SortedByName fields)
    (hvalues : ∀ field ∈ fields, field.2.canonical = field.2) :
    canonical (.object fields) = .object fields := by
  have hmap : (fields.map fun field => (field.1, field.2.canonical)) =
      fields.map fun field => field :=
    List.map_congr_left fun field hfield => congrArg (Prod.mk field.1) (hvalues field hfield)
  rw [canonical_object hsorted, hmap, List.map_id']

end Json

/-! ## §2. Parameters. -/

theorem Expression.readable_toJson {room : Nat} (e : Expression) :
    Json.Readable (room + 1) e.toJson := by
  cases e with
  | text s => exact .string s
  | integer value => exact Json.readable_int64 value
  | list items =>
    refine .array fun item hitem => ?_
    obtain ⟨item, -, rfl⟩ := List.mem_map.mp hitem
    cases item with
    | text s => exact .string s
    | integer value => exact Json.readable_int64 value

theorem Expression.canonical_toJson (e : Expression) : e.toJson.canonical = e.toJson := by
  cases e with
  | text s => rfl
  | integer value => rfl
  | list items => exact Json.canonical_map ListItem.toJson items fun item => by cases item <;> rfl

namespace Parameters

theorem readable_groupToJson {room : Nat} (group : GroupParameter) :
    Json.Readable (room + 1) (groupToJson group) := by
  cases group with
  | my => exact .string "my"
  | expression e => exact e.readable_toJson

theorem canonical_groupToJson (group : GroupParameter) :
    (groupToJson group).canonical = groupToJson group := by
  cases group with
  | my => rfl
  | expression e => exact e.canonical_toJson

/-- The fields that parameters are written as. -/
def fields (p : Parameters) : List (String × Json) :=
  optionalField "group" groupToJson p.group ++
    optionalField "group_in" .ids p.included ++
    optionalField "group_notin" .ids p.excluded ++
    optionalField "group__in" .ids p.nativeIncluded ++
    optionalField "group__not_in" .ids p.nativeExcluded ++
    flagField "group_is_none" p.withoutGroup ++
    flagField "group_must_exist" p.withGroup

theorem toJson_eq_object (p : Parameters) : p.toJson = .object p.fields := rfl

/-- What holds of the name and the value of every parameter holds of every field. -/
theorem forall_mem_fields {P : String × Json → Prop} (p : Parameters)
    (hgroup : ∀ group, P ("group", groupToJson group))
    (hids : ∀ name ids, P (name, .ids ids)) (hflag : ∀ name, P (name, .bool true)) :
    ∀ field ∈ p.fields, P field := by
  have hoptional {α : Type} {name : String} {encode : α → Json} (h : ∀ a, P (name, encode a))
      (value : Option α) : ∀ field ∈ optionalField name encode value, P field := by
    cases value with
    | none => simp [optionalField]
    | some a => simpa [optionalField] using h a
  have hflags (name : String) (value : Bool) : ∀ field ∈ flagField name value, P field := by
    cases value with
    | false => simp [flagField]
    | true => simpa [flagField] using hflag name
  unfold fields
  simp only [List.forall_mem_append]
  exact ⟨⟨⟨⟨⟨⟨hoptional hgroup _, hoptional (hids _) _⟩, hoptional (hids _) _⟩,
    hoptional (hids _) _⟩, hoptional (hids _) _⟩, hflags _ _⟩, hflags _ _⟩

/-- No two fields have one name. -/
theorem nodup_fields (p : Parameters) : (p.fields.map Prod.fst).Nodup := by
  have hoptional {α : Type} (name : String) (encode : α → Json) (value : Option α) :
      ((optionalField name encode value).map Prod.fst).Sublist [name] := by
    cases value <;> simp [optionalField]
  have hflag (name : String) (value : Bool) :
      ((flagField name value).map Prod.fst).Sublist [name] := by
    cases value <;> simp [flagField]
  have hsublist : (p.fields.map Prod.fst).Sublist
      ["group", "group_in", "group_notin", "group__in", "group__not_in", "group_is_none",
        "group_must_exist"] := by
    unfold fields
    simp only [List.map_append]
    exact (((((hoptional _ _ _).append (hoptional _ _ _)).append (hoptional _ _ _)).append
      (hoptional _ _ _)).append (hoptional _ _ _)).append (hflag _ _) |>.append (hflag _ _)
  exact hsublist.nodup (by decide)

theorem readable_toJson {room : Nat} (p : Parameters) : Json.Readable (room + 2) p.toJson := by
  rw [toJson_eq_object]
  exact .object <| p.forall_mem_fields (fun group => readable_groupToJson group)
    (fun _ ids => Json.readable_ids ids) (fun _ => .bool true)

/-- **Parameters are read from their printed value** as from the value itself. -/
theorem ofJson_canonical (p : Parameters) :
    Parameters.ofJson p.toJson.canonical = Parameters.ofJson p.toJson := by
  rw [toJson_eq_object, Json.canonical]
  refine Parameters.ofJson_congr fun name _ => ?_
  exact Json.lookup_canonical p.nodup_fields
    (p.forall_mem_fields (fun group => canonical_groupToJson group)
      (fun _ ids => Json.canonical_ids ids) (fun _ => rfl)) name

end Parameters

/-! ## §3. Fragments. -/

/-- The stable order of fragments is the order of their names. -/
theorem PredicateSet.sorted_fields (set : PredicateSet) (encode : Predicate → Json) :
    SortedByName (set.toList.map fun (name, p) => (name.text, encode p)) := by
  have hall : PredicateName.all.Pairwise fun a b => a.text < b.text := by decide
  unfold SortedByName toList
  rw [List.pairwise_map, List.pairwise_filterMap]
  refine hall.imp fun hlt first hfirst second hsecond => ?_
  obtain ⟨_, -, rfl⟩ := Option.map_eq_some_iff.mp hfirst
  obtain ⟨_, -, rfl⟩ := Option.map_eq_some_iff.mp hsecond
  exact hlt

namespace Report

/-- The value of a report on fragments. -/
def predicatesValue (set : PredicateSet) (columns : Columns) : Json :=
  .object
    [("predicates", .array (set.toList.map fun (name, predicate) =>
        fragmentJson columns name predicate)),
      ("where", .optional .string (set.joinedClause columns))]

theorem predicatesJson_eq (set : PredicateSet) (columns : Columns) :
    predicatesJson set columns = (predicatesValue set columns).pretty := rfl

theorem readable_fragmentJson {room : Nat} (columns : Columns) (name : PredicateName)
    (predicate : Predicate) : Json.Readable (room + 2) (fragmentJson columns name predicate) := by
  refine .object ?_
  cases predicate <;>
    simp only [Wire.predicateFields, List.cons_append, List.nil_append, List.forall_mem_cons] <;>
    simp [Json.Readable.string, Json.readable_ids]

theorem readable_predicatesValue {room : Nat} (set : PredicateSet) (columns : Columns) :
    Json.Readable (room + 4) (predicatesValue set columns) := by
  refine .object ?_
  simp only [List.forall_mem_cons, List.not_mem_nil, false_implies, implies_true, and_true]
  refine ⟨.array fun item hitem => ?_, Json.readable_optional _⟩
  obtain ⟨fragment, -, rfl⟩ := List.mem_map.mp hitem
  exact readable_fragmentJson columns fragment.1 fragment.2

/-- Name and condition of a fragment are read back. -/
theorem field?_fragmentJson (columns : Columns) (name : PredicateName) (predicate : Predicate) :
    (fragmentJson columns name predicate).canonical.field? "name" = some (.string name.text) ∧
      (fragmentJson columns name predicate).canonical.field? "sql" =
        some (.string (predicate.clause columns)) := by
  unfold fragmentJson
  rw [Json.field?_canonical, Json.field?_canonical]
  · cases predicate <;> exact ⟨rfl, rfl⟩
  all_goals cases predicate <;> simp [Wire.predicateFields]

/-- **What is read back of a report on fragments**: every fragment with its name and condition. -/
theorem field?_predicatesValue (set : PredicateSet) (columns : Columns) :
    ∃ items, (predicatesValue set columns).canonical.field? "predicates" = some (.array items) ∧
      items.map (fun item => (item.field? "name", item.field? "sql")) =
        (set.clauses columns).map fun (name, clause) =>
          (some (.string name.text), some (.string clause)) := by
  refine ⟨(set.toList.map fun (name, predicate) => fragmentJson columns name predicate).map
    Json.canonical, ?_, ?_⟩
  · unfold predicatesValue
    rw [Json.field?_canonical, lookup_entry, if_pos rfl, Option.map_some, Json.canonical,
      Json.canonicalItems_eq_map]
    show ["predicates", "where"].Nodup
    decide
  · unfold PredicateSet.clauses
    rw [List.map_map, List.map_map, List.map_map]
    refine List.map_congr_left fun fragment _ => ?_
    obtain ⟨hname, hsql⟩ := field?_fragmentJson columns fragment.1 fragment.2
    exact Prod.ext hname hsql

/-! ## §4. Explanations. -/

/-- The conditions of a set under their names. -/
def clauseFields (set : PredicateSet) (columns : Columns) : List (String × Json) :=
  (set.clauses columns).map fun (name, clause) => (name.text, .string clause)

theorem sorted_clauseFields (set : PredicateSet) (columns : Columns) :
    SortedByName (clauseFields set columns) := by
  unfold clauseFields PredicateSet.clauses
  rw [List.map_map]
  exact set.sorted_fields fun p => .string (p.clause columns)

theorem canonical_clauseFields (set : PredicateSet) (columns : Columns) :
    Json.canonical (.object (clauseFields set columns)) = .object (clauseFields set columns) := by
  refine Json.canonical_of_sorted (sorted_clauseFields set columns) fun field hfield => ?_
  obtain ⟨clause, -, rfl⟩ := List.mem_map.mp hfield
  rfl

/-- The fields of an explanation. -/
def explanationFields (e : Explanation) (columns : Columns) : List (String × Json) :=
  [("expression", .optional .string e.expression),
    ("directive", Wire.directive e.resolution.directive),
    ("include_ids", .ids e.resolution.included),
    ("exclude_ids", .ids e.resolution.excluded),
    ("dropped", .array (e.dropped.map droppedJson)),
    ("params", e.parameters.toJson),
    ("sql", .object (clauseFields e.predicates columns))]

/-- The value of an explanation. -/
def explanationValue (e : Explanation) (columns : Columns) : Json :=
  .object (explanationFields e columns)

theorem explanationJson_eq (e : Explanation) (columns : Columns) :
    explanationJson e columns = (explanationValue e columns).pretty := rfl

theorem readable_droppedJson {room : Nat} (item : DroppedItem) :
    Json.Readable (room + 1) (droppedJson item) := by
  refine .object ?_
  rw [List.forall_mem_cons]
  exact ⟨.string item.text, Json.readable_optionalField (fun slug => .string slug) _ _⟩

theorem readable_explanationValue {room : Nat} (e : Explanation) (columns : Columns) :
    Json.Readable (room + 3) (explanationValue e columns) := by
  refine .object ?_
  simp only [explanationFields, List.forall_mem_cons, List.not_mem_nil, false_implies,
    implies_true, and_true]
  refine ⟨Json.readable_optional _, .string _, Json.readable_ids _, Json.readable_ids _,
    .array fun item hitem => ?_, e.parameters.readable_toJson, .object fun field hfield => ?_⟩
  · obtain ⟨dropped, -, rfl⟩ := List.mem_map.mp hitem
    exact readable_droppedJson dropped
  · obtain ⟨clause, -, rfl⟩ := List.mem_map.mp hfield
    exact .string clause.2

theorem field?_droppedJson (item : DroppedItem) :
    (droppedJson item).canonical.field? "token" = some (.string item.text) := by
  unfold droppedJson
  rw [Json.field?_canonical]
  · rfl
  · cases item.suggestion <;> simp [Parameters.optionalField]

/-- **What is read back of an explanation.** -/
theorem field?_explanationValue (e : Explanation) (columns : Columns) :
    let report := (explanationValue e columns).canonical
    report.field? "params" = some e.parameters.toJson.canonical
      ∧ report.field? "sql" = some (.object (clauseFields e.predicates columns))
      ∧ report.field? "directive" = some (Wire.directive e.resolution.directive)
      ∧ report.field? "include_ids" = some (.ids e.resolution.included)
      ∧ report.field? "exclude_ids" = some (.ids e.resolution.excluded)
      ∧ report.field? "dropped" =
          some (.array (e.dropped.map fun item => (droppedJson item).canonical)) := by
  intro report
  have hnames : ((explanationFields e columns).map Prod.fst).Nodup := by
    show ["expression", "directive", "include_ids", "exclude_ids", "dropped", "params", "sql"].Nodup
    decide
  have hfield (name : String) :
      report.field? name = ((explanationFields e columns).lookup name).map Json.canonical :=
    Json.field?_canonical hnames name
  refine ⟨hfield _, ?_, hfield _, ?_, ?_, ?_⟩
  · rw [hfield]
    exact congrArg some (canonical_clauseFields e.predicates columns)
  · rw [hfield]
    exact congrArg some (Json.canonical_ids e.resolution.included)
  · rw [hfield]
    exact congrArg some (Json.canonical_ids e.resolution.excluded)
  · rw [hfield]
    show some (Json.canonical (.array (e.dropped.map droppedJson))) = _
    rw [Json.canonical, Json.canonicalItems_eq_map, List.map_map]
    rfl

end Report

end GroupScope
