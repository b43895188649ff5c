import GroupScope.Proofs.Report.NearMiss
import GroupScope.Proofs.Resolution.Mirror
/-!
# Typing what was suggested

A suggestion is a slug as the directory has it. Whoever takes it up types it in place of the dropped
item, behind the item's hyphen if there was one, and there it is read like any other item: it is
trimmed, a hyphen in front is no part of it, a numeral is a number, and the id zero is a miss. So
the suggestion does name its group if it reads as itself, and the id is not zero:

    trimmed,  no numeral,  no hyphen in front or behind the item's   →   (usable ↔ 0 < id)

Other suggestions name what they are read as. The main statement is `suggestion_usable_iff`.
-/

namespace GroupScope

/-! ## §1. Texts that name a group. -/

/-- Wherever the text stands in a list, it adds the id on the given side, and nothing is dropped for
it. -/
def AddsAlways (context : Context) (settings : Settings) (text : String) (excluded : Bool)
    (id : GroupId) : Prop :=
  ∀ (before after : List ListItem) (native : NativeLists),
    let resolution := fun items : List ListItem =>
      (resolve (some (.list items)) native context settings).value
    let first := resolution before
    let last := resolution after
    let whole := resolution (before ++ .text text :: after)
    whole.included = first.included ++ (if excluded then [] else [id]) ++ last.included
      ∧ whole.excluded = first.excluded ++ (if excluded then [id] else []) ++ last.excluded
      ∧ whole.dropped = first.dropped ++ last.dropped

/-- The text is an item on the given side that names the id. -/
def Item.Names (context : Context) (text : List Char) (excluded : Bool) (id : GroupId) : Prop :=
  ∃ item, Item.ofChars? text = some item ∧ item.excluded = excluded
    ∧ (item.resolve context).value = some id

/-- What an item adds on both sides tells its side and its id. -/
theorem Item.added_iff {item : Item} {context : Context} {excluded : Bool} {id : GroupId} :
    ((item.includedId? context).toList = (if excluded then [] else [id])
        ∧ (item.excludedId? context).toList = if excluded then [id] else []) ↔
      item.excluded = excluded ∧ (item.resolve context).value = some id := by
  unfold includedId? excludedId?
  cases item.excluded <;> cases excluded <;> cases (item.resolve context).value <;> simp

section

variable {context : Context} {settings : Settings} {text : String} {excluded : Bool} {id : GroupId}

/-- **A text adds an id wherever it stands** if it is an item that names the id. -/
theorem addsAlways_iff (hon : settings.groupsEnabled = true) :
    AddsAlways context settings text excluded id ↔
      Item.Names context text.toList excluded id := by
  have hlists : ∀ (native : NativeLists) (items : List ListItem), Resolution.Collects context
      (Item.ofPieces (items.map fun item => item.itemText.toList))
      (resolve (some (.list items)) native context settings).value :=
    fun native => collects_resolve_list native hon
  constructor
  · intro h
    -- It is enough to look at the list that has this text alone.
    obtain ⟨hincluded, hexcluded, -⟩ := h [] [] {}
    have hempty : Resolution.Collects context [] _ := hlists {} []
    have halone := hlists {} [.text text]
    rw [List.nil_append, halone.included, hempty.included] at hincluded
    rw [List.nil_append, halone.excluded, hempty.excluded] at hexcluded
    simp only [List.flatMap_nil, List.nil_append, List.append_nil] at hincluded hexcluded
    unfold Item.ofPieces at hincluded hexcluded
    cases hitem : Item.ofChars? text.toList with
    | none =>
      rw [List.map_singleton, ListItem.itemText, List.filterMap_cons_none hitem]
        at hincluded hexcluded
      cases excluded with
      | true => cases hexcluded
      | false => cases hincluded
    | some item =>
      rw [List.map_singleton, ListItem.itemText, List.filterMap_cons_some hitem]
        at hincluded hexcluded
      refine ⟨item, hitem, Item.added_iff.mp ⟨?_, ?_⟩⟩
      · simpa using hincluded
      · simpa using hexcluded
  · rintro ⟨item, hitem, hadds⟩ before after native resolution first last whole
    obtain ⟨hincluded, hexcluded⟩ := Item.added_iff.mpr hadds
    have hpieces : Item.ofPieces ((before ++ .text text :: after).map
        fun item => item.itemText.toList) =
        Item.ofPieces (before.map fun item => item.itemText.toList)
          ++ item :: Item.ofPieces (after.map fun item => item.itemText.toList) := by
      unfold Item.ofPieces
      rw [List.map_append, List.map_cons, List.filterMap_append, ListItem.itemText,
        List.filterMap_cons_some hitem]
    have hdropped : item.droppedText? context = none := by
      unfold Item.droppedText?
      rw [hadds.2]
      rfl
    have hwhole := hlists native (before ++ .text text :: after)
    rw [hpieces] at hwhole
    refine ⟨?_, ?_, ?_⟩
    · rw [hwhole.included, (hlists native before).included, (hlists native after).included,
        List.flatMap_append, List.flatMap_cons, hincluded, List.append_assoc]
    · rw [hwhole.excluded, (hlists native before).excluded, (hlists native after).excluded,
        List.flatMap_append, List.flatMap_cons, hexcluded, List.append_assoc]
    · rw [hwhole.dropped, (hlists native before).dropped, (hlists native after).dropped,
        List.flatMap_append, List.flatMap_cons, hdropped]
      rfl

end

/-- Nothing is dropped where groups are switched off. -/
theorem groupsEnabled_of_mem_dropped {expression : Option Expression} {native : NativeLists}
    {context : Context} {settings : Settings} {text : String}
    (h : text ∈ (resolve expression native context settings).value.dropped) :
    settings.groupsEnabled = true := by
  cases expression with
  | none => cases h
  | some e =>
    cases hon : settings.groupsEnabled with
    | true => rfl
    | false =>
      unfold resolve at h
      simp only [hon, Bool.false_eq_true, if_false] at h
      cases h

/-! ## §2. What a replacement is read as. -/

/-- The dropped item has a hyphen in front. -/
def DroppedItem.excluded (item : DroppedItem) : Bool := item.text.toList.head? = some '-'

/-- The slug in place of the dropped item, behind the item's hyphen if there is one. -/
def DroppedItem.replacement (item : DroppedItem) (slug : String) : String :=
  if item.excluded then "-" ++ slug else slug

/-- The trimmed text is read as the group with the id: as a number, or else as a slug. -/
def DirectoryTable.ReadsAs (table : DirectoryTable) (text : List Char) (id : GroupId) : Prop :=
  if Numeral.isNumeral text = true then Numeral.groupId? text = some id
  else text ≠ [] ∧ table.groupOf (String.ofList text) = some id ∧ 0 < id

section

variable {context : Context} {table : DirectoryTable} {text : List Char} {id : GroupId}
  (htable : context.directory = table.toDirectory)

include htable

theorem Item.resolve_eq_some_iff {item : Item} (hr : item.reference = .ofChars text) :
    (item.resolve context).value = some id ↔ table.ReadsAs text id := by
  unfold resolve DirectoryTable.ReadsAs
  rw [hr]
  unfold Reference.ofChars
  by_cases hnumeral : Numeral.isNumeral text = true
  · rw [if_pos hnumeral, if_pos hnumeral]
    exact Iff.rfl
  · rw [if_neg hnumeral, if_neg hnumeral]
    by_cases hempty : text = []
    · subst hempty
      exact iff_of_false nofun fun h => h.1 rfl
    · have hslug : (String.ofList text).isEmpty = false := by simpa using hempty
      simp only [hslug, Bool.false_eq_true, if_false]
      rw [Context.resolveSlug_eq_some_iff, htable]
      show Except.ok _ = Except.ok _ ∧ _ ↔ _
      rw [Except.ok.injEq]
      exact (and_iff_right hempty).symm

/-- Behind a hyphen, a text is read as it is, but for the blanks at its ends. -/
theorem Item.names_hyphen_iff :
    Item.Names context ('-' :: text) true id ↔ table.ReadsAs (Text.trim text) id := by
  have hitem : Item.ofChars? ('-' :: text) =
      some ⟨String.ofList ('-' :: Text.trimEnd text), true, .ofChars (Text.trim text)⟩ := by
    have htrim : Text.trim ('-' :: text) = '-' :: Text.trimEnd text :=
      Text.trim_cons_of_not_blank (by decide) text
    have hcounts : ¬('-' :: Text.trimEnd text = [] ∨ '-' :: Text.trimEnd text = ['0']) := by simp
    unfold ofChars?
    simp only [htrim, if_neg hcounts, splitHyphen, Text.trim_trimEnd]
  unfold Names
  simp only [hitem, Option.some.injEq, exists_eq_left', true_and]
  exact resolve_eq_some_iff htable rfl

/-- Without one in front, the text may not begin with a hyphen of its own. -/
theorem Item.names_iff :
    Item.Names context text false id ↔
      (Text.trim text).head? ≠ some '-' ∧ table.ReadsAs (Text.trim text) id := by
  unfold Names ofChars?
  simp only
  by_cases hskipped : Text.trim text = [] ∨ Text.trim text = ['0']
  · rw [if_pos hskipped]
    refine iff_of_false (fun ⟨_, h, _⟩ => nomatch h) fun ⟨_, h⟩ => ?_
    -- Neither the empty text nor zero is read as any group.
    unfold DirectoryTable.ReadsAs at h
    rcases hskipped with hskipped | hskipped
    · rw [hskipped, if_neg (by decide)] at h
      exact h.1 rfl
    · have hzero : Numeral.groupId? ['0'] = none := by decide
      rw [hskipped, if_pos (by decide), hzero] at h
      cases h
  · rw [if_neg hskipped]
    simp only [Option.some.injEq, exists_eq_left']
    by_cases hhyphen : (Text.trim text).head? = some '-'
    · obtain ⟨rest, hrest⟩ := List.head?_eq_some_iff.mp hhyphen
      refine iff_of_false (fun h => ?_) fun h => h.1 hhyphen
      rw [hrest] at h
      cases h.1
    · rw [splitHyphen_of_no_hyphen hhyphen, and_iff_right hhyphen, and_iff_right rfl]
      exact resolve_eq_some_iff htable rfl

end

/-! ## §3. Suggestions. -/

/-- Every slug of a directory has an id. -/
theorem DirectoryTable.exists_groupOf {table : DirectoryTable} {slug : String}
    (h : slug ∈ table.groups.names) : ∃ id, table.groupOf slug = some id := by
  obtain ⟨entry, hentry, rfl⟩ := List.mem_map.mp h
  apply Option.isSome_iff_exists.mp
  exact List.lookup_isSome_iff.mpr ⟨entry, hentry, beq_self_eq_true entry.1⟩

/-- **A suggestion is usable if it is read as itself.** Let a slug be suggested for a dropped item.
The slug has an id in the directory. Typed in place of the item, behind the item's hyphen if there
is one, it adds this id wherever it stands in a list, and is not dropped, if and only if it does not
bring a hyphen where the item had none, and is, once trimmed, a numeral of this id, or no numeral
and a slug with this id, which is not zero. So a slug that has no blanks at its ends, is no numeral
and brings no such hyphen is usable unless its id is zero. -/
theorem suggestion_usable_iff {prepared : CommandLine.Prepared} {expression : Option String}
    {item : DroppedItem} {slug : String}
    (h : item ∈ (prepared.explain expression).value.dropped)
    (hslug : item.suggestion = some slug) :
    ∃ id, prepared.table.groupOf slug = some id ∧
      let usable := AddsAlways prepared.context prepared.settings (item.replacement slug)
        item.excluded id
      let reading := Text.trim slug.toList
      (usable ↔
          (item.excluded = true ∨ reading.head? ≠ some '-')
            ∧ prepared.table.ReadsAs reading id)
        ∧ (reading = slug.toList → Numeral.isNumeral slug.toList = false →
            (item.excluded = true ∨ slug.toList.head? ≠ some '-') → (usable ↔ 0 < id)) := by
  obtain ⟨hsuggestion, hdropped⟩ := CommandLine.Prepared.mem_dropped_explain h
  have hon := groupsEnabled_of_mem_dropped hdropped
  rw [hsuggestion, DirectoryTable.suggest_eq_some_iff] at hslug
  obtain ⟨hname, hne⟩ := DirectoryTable.mem_slugs_iff.mp hslug.1.mem
  obtain ⟨id, hid⟩ := DirectoryTable.exists_groupOf hname
  refine ⟨id, hid, ?_⟩
  intro usable reading
  have hread : usable ↔
      (item.excluded = true ∨ reading.head? ≠ some '-') ∧ prepared.table.ReadsAs reading id := by
    show AddsAlways _ _ _ _ _ ↔ _
    rw [addsAlways_iff hon]
    unfold DroppedItem.replacement
    cases item.excluded with
    | true =>
      have htext : ("-" ++ slug).toList = '-' :: slug.toList := String.toList_append
      rw [if_pos rfl, htext, Item.names_hyphen_iff rfl]
      exact (and_iff_right (.inl rfl)).symm
    | false =>
      rw [if_neg Bool.false_ne_true, Item.names_iff rfl]
      simp only [Bool.false_eq_true, false_or]
      exact Iff.rfl
  refine ⟨hread, ?_⟩
  intro htrim hnumeral hhyphen
  rw [hread, htrim, and_iff_right hhyphen]
  unfold DirectoryTable.ReadsAs
  rw [if_neg (by simp [hnumeral]), String.ofList_toList, hid, and_iff_right rfl]
  exact and_iff_right fun hempty => hne (String.toList_inj.mp hempty)

/-- The slug suggested for an excluded item, behind its hyphen again. -/
theorem suggestion_usable_behind_hyphen :
    let prepared : CommandLine.Prepared :=
      { settings := {}, table := { groups := .ofList [("book-club", 9), ("chess", 12)] }
        viewer := .anonymous, page := none, existing := {}
        request := { expression := some (.text "5, -chss") } }
    let item : DroppedItem := ⟨"-chss", some "chess"⟩
    item ∈ (prepared.explain none).value.dropped ∧ item.suggestion = some "chess"
      ∧ prepared.table.groupOf "chess" = some 12 ∧ item.replacement "chess" = "-chess"
      ∧ AddsAlways prepared.context prepared.settings (item.replacement "chess") item.excluded
          12 := by
  intro prepared item
  have hdropped : item ∈ (prepared.explain none).value.dropped := by decide +kernel
  obtain ⟨id, hid, -, husable⟩ := suggestion_usable_iff hdropped rfl
  have hstored : prepared.table.groupOf "chess" = some 12 := by decide +kernel
  rw [hstored, Option.some.injEq] at hid
  subst hid
  have hpos : (0 : GroupId) < 12 := by decide
  exact ⟨hdropped, rfl, hstored, by decide,
    (husable (by decide) (by decide) (.inl (by decide))).mpr hpos⟩

/-- A slug that is a numeral is read as the number, a slug with the id zero and one with a hyphen in
front are not found. All three are suggested. -/
theorem suggestions_read_otherwise :
    let prepared : CommandLine.Prepared :=
      { settings := {}, table := { groups := .ofList [("2024", 7), ("ghost", 0), ("-team", 5)] }
        viewer := .anonymous, page := none, existing := {}
        request := { expression := some (.text "2O24,ghst,steam") } }
    let items : List DroppedItem :=
      [⟨"2O24", some "2024"⟩, ⟨"ghst", some "ghost"⟩, ⟨"steam", some "-team"⟩]
    let replaced : List ListItem := [.text "2024", .text "ghost", .text "-team"]
    (prepared.explain none).value.dropped = items
      ∧ (resolve (some (.list replaced)) {} prepared.context prepared.settings).value =
          { included := [2024], dropped := ["ghost", "-team"] } := by
  exact ⟨by decide +kernel, by decide +kernel⟩

end GroupScope
