import Mathlib.Data.List.Basic
import GroupScope.Proofs.Predicate.Meaning
import GroupScope.Proofs.Report.Values
/-!
# The last write wins

A set is changed in three ways. Under each name stands what the last change of that name left there:

    change          what it leaves under a name
    insert n p      p under n
    remove n        nothing under n
    load value      under every name its last fragment of that name, or nothing;
                    all stays as it is if the value is no set

Whatever is asked of a set can be told from what stands under the names, and is listed in their
stable order. A set that was written is read back as it was. The main statement is
`last_write_wins`.
-/

namespace GroupScope

/-! ## §1. What a set tells. -/

/-- The place of a name in the stable order. -/
def PredicateName.place (name : PredicateName) : Nat := all.idxOf name

theorem PredicateName.increasing_all : all.Pairwise fun a b => a.place < b.place := by decide

/-- All that can be asked of the set is told by what is held under the names. -/
structure PredicateSet.Tells (set : PredicateSet) (held : PredicateName → Option Predicate) :
    Prop where
  get? : ∀ name, set.get? name = held name
  contains : ∀ name, set.contains name = (held name).isSome
  /-- The names strictly increase. -/
  increasing : set.names.Pairwise fun a b => a.place < b.place
  nodup : set.names.Nodup
  mem_names : ∀ name, name ∈ set.names ↔ held name ≠ none
  mem_toList : ∀ name p, (name, p) ∈ set.toList ↔ held name = some p
  toList_names : set.toList.map Prod.fst = set.names
  size : set.size = PredicateName.all.countP fun name => (held name).isSome
  isEmpty : set.isEmpty = true ↔ ∀ name, held name = none
  clauses : ∀ columns, set.clauses columns =
    PredicateName.all.filterMap fun name => (held name).map fun p => (name, p.clause columns)
  /-- The conditions are joined, unless there are none. -/
  joinedClause : ∀ columns, set.joinedClause columns =
    if ∀ name ∈ PredicateName.all, held name = none then none
    else some <| String.intercalate " AND " <|
      PredicateName.all.filterMap fun name => (held name).map (Predicate.clause columns)

namespace PredicateSet

variable (set : PredicateSet)

theorem names_eq_filter : set.names = PredicateName.all.filter set.contains := by
  unfold names toList
  rw [List.map_filterMap, ← List.filterMap_eq_filter]
  refine List.filterMap_congr fun name _ => ?_
  unfold contains
  cases h : set.get? name <;> simp [Option.guard, h]

theorem isEmpty_iff : set.isEmpty = true ↔ ∀ name, set.get? name = none := by
  unfold isEmpty toList
  rw [List.isEmpty_iff, List.filterMap_eq_nil_iff]
  simp only [PredicateName.mem_all, forall_const, Option.map_eq_none_iff]

theorem clauses_eq_filterMap (columns : Columns) : set.clauses columns =
    PredicateName.all.filterMap fun name =>
      (set.get? name).map fun p => (name, p.clause columns) := by
  unfold clauses toList
  rw [List.map_filterMap]
  refine List.filterMap_congr fun name _ => ?_
  rw [Option.map_map]
  rfl

theorem joinedClause_eq_ite (columns : Columns) : set.joinedClause columns =
    if ∀ name ∈ PredicateName.all, set.get? name = none then none
    else some <| String.intercalate " AND " <|
      PredicateName.all.filterMap fun name =>
        (set.get? name).map (Predicate.clause columns) := by
  have htexts : (set.clauses columns).map Prod.snd =
      PredicateName.all.filterMap fun name => (set.get? name).map (Predicate.clause columns) := by
    rw [clauses_eq_filterMap, List.map_filterMap]
    refine List.filterMap_congr fun name _ => ?_
    rw [Option.map_map]
    rfl
  unfold joinedClause
  rw [htexts]
  refine if_congr ?_ rfl rfl
  rw [isEmpty_iff]
  simp only [PredicateName.mem_all, forall_const]

/-- **Every set tells what is stored in it.** -/
theorem tells_get? : set.Tells set.get? := by
  have hincreasing : set.names.Pairwise fun a b => a.place < b.place := by
    rw [names_eq_filter]
    exact PredicateName.increasing_all.filter _
  constructor
  case get? => exact fun name => rfl
  case contains => exact fun name => rfl
  case increasing => exact hincreasing
  case nodup =>
    -- A name is not before itself.
    refine hincreasing.imp fun {a b} hlt heq => ?_
    rw [heq] at hlt
    exact Nat.lt_irrefl _ hlt
  case mem_names =>
    intro name
    rw [names_eq_filter, List.mem_filter, contains, Option.isSome_iff_ne_none]
    exact and_iff_right name.mem_all
  case mem_toList => exact fun name p => set.mem_toList
  case toList_names => rfl
  case size =>
    have hnames : set.size = set.names.length := (List.length_map _).symm
    rw [hnames, names_eq_filter, ← List.countP_eq_length_filter]
    rfl
  case isEmpty => exact set.isEmpty_iff
  case clauses => exact set.clauses_eq_filterMap
  case joinedClause => exact set.joinedClause_eq_ite

end PredicateSet

/-! ## §2. Sets as values. -/

/-- Under different names, a value is found wherever it stands. -/
theorem lookup_eq_some_iff_mem {entries : List (PredicateName × Predicate)}
    (h : (entries.map Prod.fst).Nodup) {name : PredicateName} {p : Predicate} :
    entries.lookup name = some p ↔ (name, p) ∈ entries := by
  induction entries with
  | nil => simp
  | cons entry entries ih =>
    obtain ⟨here, q⟩ := entry
    obtain ⟨hhere, hentries⟩ := List.nodup_cons.mp h
    rw [List.mem_cons, Prod.mk.injEq, ← ih hentries]
    by_cases heq : name = here
    · subst heq
      have hnone : entries.lookup name ≠ some p := by
        intro hfound
        exact hhere (List.mem_map.mpr ⟨_, (ih hentries).mp hfound, rfl⟩)
      simp [hnone, eq_comm]
    · have hbeq : (name == here) = false := beq_false_of_ne heq
      simp [List.lookup_cons, hbeq, heq]

/-- What is stored in a set is found in its list from either end. -/
theorem PredicateSet.lookup_reverse_toList (set : PredicateSet) (name : PredicateName) :
    set.toList.reverse.lookup name = set.get? name := by
  have hnames : (set.toList.reverse.map Prod.fst).Nodup := by
    rw [List.map_reverse, (List.reverse_perm _).nodup_iff]
    exact set.tells_get?.nodup
  ext p
  rw [lookup_eq_some_iff_mem hnames, List.mem_reverse, mem_toList]

/-- Stores fragments one after the other. -/
def PredicateSet.store (set : PredicateSet) (fragments : List (PredicateName × Predicate)) :
    PredicateSet :=
  fragments.foldl (fun set fragment => set.update fragment.1 (some fragment.2)) set

/-- The last fragment of a name is the one that stays. -/
theorem PredicateSet.get?_store (set : PredicateSet)
    (fragments : List (PredicateName × Predicate)) (name : PredicateName) :
    (set.store fragments).get? name = (fragments.reverse.lookup name).or (set.get? name) := by
  induction fragments generalizing set with
  | nil => rfl
  | cons fragment fragments ih =>
    obtain ⟨here, p⟩ := fragment
    have hstore : set.store ((here, p) :: fragments) = (set.update here (some p)).store fragments :=
      rfl
    rw [hstore, ih, List.reverse_cons, List.lookup_append]
    by_cases h : name = here
    · subst h
      rw [get?_update_self]
      cases fragments.reverse.lookup name <;> simp
    · have hbeq : (name == here) = false := beq_false_of_ne h
      rw [get?_update_of_ne set (some p) h]
      cases fragments.reverse.lookup name <;> simp [List.lookup_cons, hbeq]

namespace Wire

/-- The fragment in a field. -/
def fragment? (field : String × Json) : Option (PredicateName × Predicate) := do
  some (← PredicateName.ofText? field.1, ← predicate? field.2)

/-- The fragments in the fields of an object, in their order. -/
def fragments? : Json → Option (List (PredicateName × Predicate))
  | .object fields => fields.mapM fragment?
  | _ => none

/-- **A value is a set if every field of it is a fragment**, and they are stored in their order. -/
theorem predicateSet?_eq (value : Json) :
    predicateSet? value = (fragments? value).map PredicateSet.empty.store := by
  cases value with
  | object fields =>
    unfold predicateSet? fragments?
    simp only
    generalize PredicateSet.empty = set
    induction fields generalizing set with
    | nil => rfl
    | cons field fields ih =>
      rw [List.foldlM_cons, List.mapM_cons]
      cases hname : PredicateName.ofText? field.1 with
      | none => simp [fragment?, hname]
      | some name =>
        cases hp : predicate? field.2 with
        | none => simp [fragment?, hname, hp]
        | some p =>
          -- The rest of the fields is read in the same way from a set with one fragment more.
          simp only [fragment?, hname, hp, Option.bind_eq_bind, Option.bind_some]
          exact (ih _).trans (by cases fields.mapM fragment? <;> rfl)
  | null | bool | number | string | array => rfl

theorem id?_id (id : GroupId) : id? (.id id) = some id :=
  Json.Number.toUInt64?_id id

theorem ids?_ids (ids : List GroupId) : ids? (.ids ids) = some ids := by
  show (ids.map Json.id).mapM id? = some ids
  induction ids with
  | nil => rfl
  | cons id ids ih => rw [List.map_cons, List.mapM_cons, id?_id, ih]; rfl

theorem predicate?_predicate (p : Predicate) : predicate? (predicate p) = some p := by
  cases p with
  | noGroup | hasGroup => rfl
  | inGroups ids | notInGroups ids | visible ids =>
    show Option.map _ (ids? (.ids ids)) = _
    rw [ids?_ids]
    rfl

theorem isRepeated_of_nodup {fields : List (String × Json)} (h : (fields.map Prod.fst).Nodup)
    (name : String) : isRepeated fields name = false := by
  have hcount : (fields.map Prod.fst).count name ≤ 1 := List.nodup_iff_count.mp h name
  rw [List.count_eq_countP, List.countP_map] at hcount
  exact decide_eq_false (Nat.not_lt.mpr hcount)

/-- A predicate is read from fields of different names in any order. -/
theorem predicate?_congr {fields others : List (String × Json)}
    (hfields : (fields.map Prod.fst).Nodup) (hothers : (others.map Prod.fst).Nodup)
    (h : ∀ name, fields.lookup name = others.lookup name) :
    predicate? (.object fields) = predicate? (.object others) := by
  have hrepeated : isRepeated fields = isRepeated others :=
    funext fun name => (isRepeated_of_nodup hfields name).trans
      (isRepeated_of_nodup hothers name).symm
  unfold predicate? predicateOfKind? fields?
  simp only [h, hrepeated, List.map_cons, List.map_nil]

theorem predicate?_canonical (p : Predicate) : predicate? (predicate p).canonical = some p := by
  have hnames : ((predicateFields p).map Prod.fst).Nodup := by
    cases p <;> simp [predicateFields]
  have hvalues : ∀ field ∈ predicateFields p, field.2.canonical = field.2 := by
    cases p <;> simp [predicateFields, Json.canonical, Json.canonical_ids]
  -- Sorting leaves no name twice.
  have hsorted (sorted : Keyed Json) : (sorted.entries.map Prod.fst).Nodup := by
    refine List.Pairwise.imp (fun {a b} hlt heq => ?_) sorted.pairwise_names
    rw [heq] at hlt
    exact String.lt_irrefl b hlt
  rw [← predicate?_predicate p]
  exact predicate?_congr (hsorted _) hnames fun name => Json.lookup_canonical hnames hvalues name

/-- A set is read from its fragments, however their values are written. -/
theorem predicateSet?_fields (set : PredicateSet) {encode : Predicate → Json}
    (h : ∀ p, predicate? (encode p) = some p) :
    predicateSet? (.object (set.toList.map fun (name, p) => (name.text, encode p))) = some set := by
  have hfragments :
      fragments? (.object (set.toList.map fun (name, p) => (name.text, encode p))) =
        some set.toList := by
    unfold fragments?
    simp only
    induction set.toList with
    | nil => rfl
    | cons fragment rest ih =>
      rw [List.map_cons, List.mapM_cons, ih]
      simp [fragment?, PredicateName.ofText?_text, h]
  rw [predicateSet?_eq, hfragments, Option.map_some]
  congr 1
  refine PredicateSet.ext_get? fun name => ?_
  rw [PredicateSet.get?_store, PredicateSet.get?_empty, Option.or_none]
  exact set.lookup_reverse_toList name

theorem readable_predicateSet {room : Nat} (set : PredicateSet) :
    Json.Readable (room + 3) (predicateSet set) := by
  refine .object fun field hfield => ?_
  obtain ⟨⟨name, p⟩, -, rfl⟩ := List.mem_map.mp hfield
  refine .object ?_
  cases p <;> simp [predicateFields, Json.Readable.string, Json.readable_ids]

/-- **A set is read back from what was written**, as a value and from its text. -/
theorem predicateSet?_predicateSet (set : PredicateSet) :
    predicateSet? (predicateSet set) = some set
      ∧ (Json.read (predicateSet set).pretty).bind predicateSet? = some set := by
  refine ⟨predicateSet?_fields set predicate?_predicate, ?_⟩
  rw [Json.read_pretty (readable_predicateSet set), Option.bind_some, predicateSet,
    Json.canonical_object (set.sorted_fields predicate), List.map_map]
  exact predicateSet?_fields set predicate?_canonical

end Wire

/-! ## §3. Changes. -/

/-- A change of a set. -/
inductive SetChange where
  /-- Stores a predicate under a name. -/
  | insert (name : PredicateName) (predicate : Predicate)
  /-- Removes what is stored under a name. -/
  | remove (name : PredicateName)
  /-- Puts the set that a value is in the place of the whole set. -/
  | load (value : Json)
  deriving Repr

namespace SetChange

/-- The set after the change. A value that is no set changes nothing. -/
def apply (set : PredicateSet) : SetChange → PredicateSet
  | insert name predicate => (set.insert name predicate).2
  | remove name => (set.remove name).2
  | load value => (Wire.predicateSet? value).getD set

/-- What the change leaves under a name, unless it leaves the name alone. -/
def leaves? (name : PredicateName) : SetChange → Option (Option Predicate)
  | insert other predicate => if other = name then some (some predicate) else none
  | remove other => if other = name then some none else none
  | load value => (Wire.fragments? value).map fun fragments => fragments.reverse.lookup name

/-- What the last of the changes that do not leave a name alone left there. -/
def last (changes : List SetChange) (name : PredicateName) : Option Predicate :=
  (changes.reverse.findSome? (leaves? name)).getD none

/-- The last change of the name stored the predicate. -/
theorem last_eq_some_iff {changes : List SetChange} {name : PredicateName} {p : Predicate} :
    last changes name = some p ↔
      ∃ before change after, changes = before ++ change :: after
        ∧ change.leaves? name = some (some p) ∧ ∀ later ∈ after, later.leaves? name = none := by
  have hleft : last changes name = some p ↔
      changes.reverse.findSome? (leaves? name) = some (some p) := by
    unfold last
    cases changes.reverse.findSome? (leaves? name) with
    | none => simp
    | some content => simp
  rw [hleft, List.findSome?_eq_some_iff]
  -- The search goes from the last change to the first, so what it passes over comes after.
  constructor
  · rintro ⟨after, change, before, hchanges, hchange, hafter⟩
    refine ⟨before.reverse, change, after.reverse, ?_, hchange, ?_⟩
    · rw [← List.reverse_reverse changes, hchanges]
      simp
    · intro later hlater
      exact hafter later (List.mem_reverse.mp hlater)
  · rintro ⟨before, change, after, rfl, hchange, hafter⟩
    refine ⟨after.reverse, change, before.reverse, by simp, hchange, ?_⟩
    intro later hlater
    exact hafter later (List.mem_reverse.mp hlater)

/-- **One change**: under a name stands what the change leaves there, or what stood there. -/
theorem get?_apply (set : PredicateSet) (change : SetChange) (name : PredicateName) :
    (change.apply set).get? name = (change.leaves? name).getD (set.get? name) := by
  cases change with
  | insert other p =>
    unfold apply leaves? PredicateSet.insert
    by_cases h : other = name
    · subst h
      simp
    · simp [h, PredicateSet.get?_update_of_ne set (some p) (Ne.symm h)]
  | remove other =>
    unfold apply leaves? PredicateSet.remove
    by_cases h : other = name
    · subst h
      simp
    · simp [h, PredicateSet.get?_update_of_ne set none (Ne.symm h)]
  | load value =>
    unfold apply leaves?
    simp only [Wire.predicateSet?_eq]
    cases Wire.fragments? value with
    | none => rfl
    | some fragments =>
      -- The loaded set was stored from nothing, so names without a fragment are free.
      simp only [Option.map_some, Option.getD_some, PredicateSet.get?_store,
        PredicateSet.get?_empty, Option.or_none]

/-- The set after changes one after the other. -/
def run (set : PredicateSet) (changes : List SetChange) : PredicateSet := changes.foldl apply set

/-- **Changes one after the other**: the last one of a name counts. -/
theorem get?_run (set : PredicateSet) (changes : List SetChange) (name : PredicateName) :
    (run set changes).get? name =
      (changes.reverse.findSome? (leaves? name)).getD (set.get? name) := by
  unfold run
  induction changes generalizing set with
  | nil => rfl
  | cons change changes ih =>
    rw [List.foldl_cons, ih, get?_apply, List.reverse_cons, List.findSome?_append]
    -- What a later change leaves under the name hides this one.
    cases changes.reverse.findSome? (leaves? name) with
    | some content => rfl
    | none => cases h : change.leaves? name <;> simp [h]

theorem run_concat (set : PredicateSet) (changes : List SetChange) (change : SetChange) :
    run set (changes ++ [change]) = change.apply (run set changes) :=
  List.foldl_concat ..

end SetChange

/-- **The last write wins.** After changes of the empty set, a name holds what the last change that
did not leave it alone stored there, and nothing if that change stored nothing. This is what the set
tells, whatever is asked of it. Inserting and removing answer what was stored before. A set that is
written and read back, as a value or as text, is the same set. -/
theorem last_write_wins (changes : List SetChange) :
    (SetChange.run .empty changes).Tells (SetChange.last changes)
      ∧ (∀ name p, SetChange.last changes name = some p ↔
          ∃ before change after, changes = before ++ change :: after
            ∧ change.leaves? name = some (some p)
            ∧ ∀ later ∈ after, later.leaves? name = none)
      ∧ (∀ name p, (SetChange.run .empty changes).insert name p =
          (SetChange.last changes name, SetChange.run .empty (changes ++ [.insert name p])))
      ∧ (∀ name, (SetChange.run .empty changes).remove name =
          (SetChange.last changes name, SetChange.run .empty (changes ++ [.remove name])))
      ∧ ∀ set : PredicateSet, Wire.predicateSet? (Wire.predicateSet set) = some set
          ∧ (Json.read (Wire.predicateSet set).pretty).bind Wire.predicateSet? = some set := by
  have hget : (SetChange.run .empty changes).get? = SetChange.last changes := by
    funext name
    rw [SetChange.get?_run, PredicateSet.get?_empty]
    rfl
  refine ⟨hget ▸ PredicateSet.tells_get? _, fun name p => SetChange.last_eq_some_iff, ?_, ?_,
    Wire.predicateSet?_predicateSet⟩
  · intro name p
    rw [SetChange.run_concat, ← hget]
    rfl
  · intro name
    rw [SetChange.run_concat, ← hget]
    rfl

/-- Loading replaces the whole set, and of two fields of one name the last one counts. What is no
set is refused. -/
theorem last_write_wins_of_refused_load :
    let fields := [("group", .array [.string "has_group"]), ("group", Wire.predicate .noGroup)]
    let changes := [.insert .privacy (.visible [3]), .load (.object fields),
      .load (.object [("owner", Wire.predicate .hasGroup)])]
    SetChange.last changes .group = some .noGroup
      ∧ SetChange.last changes .privacy = none
      ∧ (.group, .noGroup) ∈ (SetChange.run .empty changes).toList
      ∧ .privacy ∉ (SetChange.run .empty changes).names := by
  intro fields changes
  have hgroup : SetChange.last changes .group = some .noGroup := by decide +kernel
  have hprivacy : SetChange.last changes .privacy = none := by decide +kernel
  have htells := (last_write_wins changes).1
  exact ⟨hgroup, hprivacy, (htells.mem_toList .group .noGroup).mpr hgroup,
    fun hmem => (htells.mem_names .privacy).mp hmem hprivacy⟩

end GroupScope
