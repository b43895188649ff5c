import Mathlib.Data.List.Basic
import GroupScope.Proofs.Resolution.Pieces
/-!
# Exclusion mirrors inclusion

A hyphen in front of an item moves what the item names to the other list and changes nothing else.
So the list with a hyphen before every item resolves to the mirror image of the list without:

    included    nothing
    excluded    what was included
    dropped     what was dropped, each with a hyphen in front

This asks of the items that they are trimmed, not empty and without a hyphen of their own. The item
`0` is left out as well: it stands for nothing, while `-0` is an item that names no group.
-/

namespace GroupScope

/-! ## §1. Tidy items. -/

/-- A text that is an item as it stands, and still the same item behind a hyphen. -/
structure Item.IsTidy (text : String) : Prop where
  /-- There are no blanks at its ends. -/
  trim_eq : Text.trim text.toList = text.toList
  /-- It is not empty. -/
  ne_empty : text ≠ ""
  /-- It is not the item that stands for nothing. -/
  ne_zero : text ≠ "0"
  /-- It has no hyphen in front. -/
  no_hyphen : text.toList.head? ≠ some '-'

namespace Item

instance (text : String) : Decidable (IsTidy text) :=
  decidable_of_iff
    (Text.trim text.toList = text.toList ∧ text ≠ "" ∧ text ≠ "0"
      ∧ text.toList.head? ≠ some '-')
    ⟨fun ⟨htrim, hempty, hzero, hhyphen⟩ => ⟨htrim, hempty, hzero, hhyphen⟩,
      fun h => ⟨h.trim_eq, h.ne_empty, h.ne_zero, h.no_hyphen⟩⟩

/-- The item that a tidy text stands for. -/
def ofTidy (text : String) : Item :=
  { text, excluded := false, reference := .ofChars text.toList }

/-- The item with a hyphen in front. -/
def hyphened (item : Item) : Item := { item with text := "-" ++ item.text, excluded := true }

theorem splitHyphen_of_no_hyphen {text : List Char} (h : text.head? ≠ some '-') :
    splitHyphen text = (false, text) := by
  unfold splitHyphen
  split
  next rest => exact absurd rfl h
  next => rfl

variable {text : String}

theorem IsTidy.ofChars?_eq (h : IsTidy text) : ofChars? text.toList = some (ofTidy text) := by
  have hcounts : ¬(text.toList = [] ∨ text.toList = ['0']) := by
    rintro (hempty | hzero)
    · exact h.ne_empty (String.toList_inj.mp hempty)
    · exact h.ne_zero (String.toList_inj.mp hzero)
  unfold ofChars? ofTidy
  simp only [h.trim_eq, if_neg hcounts, splitHyphen_of_no_hyphen h.no_hyphen, String.ofList_toList]

/-- Behind a hyphen a tidy text names what it names alone. -/
theorem IsTidy.ofChars?_hyphen (h : IsTidy text) :
    ofChars? ("-" ++ text).toList = some (ofTidy text).hyphened := by
  have htext : ("-" ++ text).toList = '-' :: text.toList := String.toList_append
  -- The hyphen is not blank, so nothing is trimmed in front of the text.
  have htrim : Text.trim ('-' :: text.toList) = '-' :: text.toList := by
    rw [Text.trim_cons_of_not_blank (by decide), Text.trimEnd_eq_self_of_trim h.trim_eq]
  have hcounts : ¬('-' :: text.toList = [] ∨ '-' :: text.toList = ['0']) := by simp
  unfold ofChars? hyphened ofTidy
  rw [htext]
  simp only [htrim, if_neg hcounts, splitHyphen, h.trim_eq, Option.some.injEq]
  rw [← htext, String.ofList_toList]

variable {texts : List String} (h : ∀ text ∈ texts, IsTidy text)

include h

theorem ofPieces_tidy : ofPieces (texts.map String.toList) = texts.map ofTidy := by
  unfold ofPieces
  rw [List.filterMap_map]
  exact List.filterMap_eq_map_iff_forall_eq_some.mpr fun text htext => (h text htext).ofChars?_eq

theorem ofPieces_hyphened :
    ofPieces ((texts.map fun text => "-" ++ text).map String.toList) =
      (texts.map ofTidy).map hyphened := by
  unfold ofPieces
  rw [List.map_map, List.filterMap_map, List.map_map]
  exact List.filterMap_eq_map_iff_forall_eq_some.mpr
    fun text htext => (h text htext).ofChars?_hyphen

end Item

/-! ## §2. What a hyphen changes. -/

section

variable (item : Item) (context : Context)

theorem Item.includedId?_hyphened : item.hyphened.includedId? context = none := rfl

theorem Item.excludedId?_hyphened (h : item.excluded = false) :
    item.hyphened.excludedId? context = item.includedId? context := by
  unfold includedId?
  rw [h]
  rfl

theorem Item.droppedText?_hyphened :
    item.hyphened.droppedText? context =
      (item.droppedText? context).map fun text => "-" ++ text := by
  unfold droppedText?
  rw [apply_ite (Option.map _)]
  rfl

end

/-- **A hyphen before every item** turns what the items are resolved to into its mirror image. -/
theorem Resolution.Collects.hyphened {context : Context} {items : List Item} {r s : Resolution}
    (hitems : ∀ item ∈ items, item.excluded = false) (hr : Collects context items r)
    (hs : Collects context (items.map Item.hyphened) s) :
    r.excluded = [] ∧ s.included = [] ∧ s.excluded = r.included
      ∧ s.dropped = r.dropped.map fun text => "-" ++ text := by
  rw [hr.included, hr.excluded, hr.dropped, hs.included, hs.excluded, hs.dropped]
  simp only [List.flatMap_map, List.map_flatMap, List.flatMap_eq_nil_iff]
  refine ⟨fun item hitem => ?_, fun item _ => ?_, List.flatMap_congr fun item hitem => ?_,
    List.flatMap_congr fun item _ => ?_⟩
  · rw [Item.excludedId?, hitems item hitem]
    rfl
  · rw [item.includedId?_hyphened]
    rfl
  · rw [item.excludedId?_hyphened context (hitems item hitem)]
  · rw [item.droppedText?_hyphened, Option.toList_map]

/-- Something is included just when some item alone adds an included id. -/
theorem Resolution.Collects.included_ne_nil_iff {context : Context} {items : List Item}
    {r : Resolution} (h : Collects context items r) :
    r.included ≠ [] ↔ ∃ item ∈ items, item.includedId? context ≠ none := by
  rw [h.included, ne_eq, List.flatMap_eq_nil_iff]
  simp

/-! ## §3. Lists with and without hyphens. -/

section

variable {context : Context} {settings : Settings} (native : NativeLists)
  (hon : settings.groupsEnabled = true)

include hon

/-- The lists of a list expression collect what its items add. -/
theorem collects_resolve_list (items : List ListItem) :
    Resolution.Collects context (Item.ofPieces (items.map fun item => item.itemText.toList))
      (resolve (some (.list items)) native context settings).value := by
  rw [resolve_of_groupsEnabled native hon]
  exact Resolution.collects_ofLists context _ native

theorem collects_resolve_texts (texts : List String) :
    Resolution.Collects context (Item.ofPieces (texts.map String.toList))
      (resolve (some (.list (texts.map .text))) native context settings).value := by
  have hcollects : Resolution.Collects context _ _ :=
    collects_resolve_list native hon (texts.map .text)
  rw [List.map_map] at hcollects
  exact hcollects

variable {texts : List String} (h : ∀ text ∈ texts, Item.IsTidy text)

include h

theorem collects_resolve_tidy :
    Resolution.Collects context (texts.map Item.ofTidy)
      (resolve (some (.list (texts.map .text))) native context settings).value := by
  rw [← Item.ofPieces_tidy h]
  exact collects_resolve_texts native hon texts

theorem collects_resolve_hyphened :
    Resolution.Collects context ((texts.map Item.ofTidy).map Item.hyphened)
      (resolve (some (.list ((texts.map fun text => "-" ++ text).map .text))) native context
        settings).value := by
  rw [← Item.ofPieces_hyphened h]
  exact collects_resolve_texts native hon _

/-- Tidy texts include something just when one of them does so alone. -/
theorem included_resolve_tidy_ne_nil_iff :
    (resolve (some (.list (texts.map .text))) native context settings).value.included ≠ [] ↔
      ∃ text ∈ texts,
        (resolve (some (.list [.text text])) native context settings).value.included ≠ [] := by
  -- Alone, a tidy text is a list of one tidy item, and it is resolved as it is among others.
  have halone : ∀ text ∈ texts,
      ((resolve (some (.list [.text text])) native context settings).value.included ≠ [] ↔
        (Item.ofTidy text).includedId? context ≠ none) := by
    intro text htext
    have hone : Resolution.Collects context [Item.ofTidy text] _ :=
      collects_resolve_tidy native hon (List.forall_mem_singleton.mpr (h text htext))
    rw [List.map_singleton] at hone
    rw [hone.included_ne_nil_iff]
    simp
  rw [(collects_resolve_tidy native hon h).included_ne_nil_iff]
  constructor
  · rintro ⟨item, hitem, hadds⟩
    obtain ⟨text, htext, rfl⟩ := List.mem_map.mp hitem
    exact ⟨text, htext, (halone text htext).mpr hadds⟩
  · rintro ⟨text, htext, hadds⟩
    exact ⟨_, List.mem_map_of_mem htext, (halone text htext).mp hadds⟩

end

/-- **Exclusion mirrors inclusion.** Let groups be switched on, and let the texts be trimmed, not
empty, different from `0` and without a hyphen in front. The list of the texts with a hyphen before
each includes nothing, excludes the ids that the list of the texts includes, and drops the texts
that it drops, each with its hyphen. It asks for some group exactly when one of the texts names a
group by itself. -/
theorem exclusion_mirrors_inclusion {texts : List String} (h : ∀ text ∈ texts, Item.IsTidy text)
    (native : NativeLists) (context : Context) (settings : Settings)
    (hon : settings.groupsEnabled = true) :
    let resolution := fun texts : List String =>
      (resolve (some (.list (texts.map .text))) native context settings).value
    let including := resolution texts
    let excluding := resolution (texts.map fun text => "-" ++ text)
    excluding.included = [] ∧ including.excluded = []
      ∧ excluding.excluded = including.included
      ∧ excluding.dropped = including.dropped.map (fun text => "-" ++ text)
      ∧ (excluding.directive = .mustHaveGroup ↔
          ∃ text ∈ texts, (resolution [text]).included ≠ []) := by
  intro resolution including excluding
  have hplain : ∀ item ∈ texts.map Item.ofTidy, item.excluded = false := by
    intro item hitem
    obtain ⟨text, -, rfl⟩ := List.mem_map.mp hitem
    rfl
  obtain ⟨hnone, hincluded, hexcluded, hdropped⟩ :=
    (collects_resolve_tidy native hon h).hyphened hplain (collects_resolve_hyphened native hon h)
  refine ⟨hincluded, hnone, hexcluded, hdropped, ?_⟩
  have hdirective : excluding.directive = .mustHaveGroup ↔
      excluding.included = [] ∧ excluding.excluded ≠ [] :=
    (resolve_outcome _ native context settings).mustHaveGroup_iff
  rw [hdirective, hincluded, hexcluded, included_resolve_tidy_ne_nil_iff native hon h]
  exact and_iff_right rfl

/-- A slug with blanks inside, a number with an exponent, a slug that nobody knows, and a text that
would be a keyword if it stood alone. -/
theorem exclusion_mirrors_inclusion_of_four_texts :
    let directory : Directory :=
      { groupOf := fun slug => .ok (if slug = "red team" then some 4 else none)
        groupsOf := fun _ => .ok [] }
    let context : Context := { viewer := .user 1, page := some 9, directory }
    let texts := ["red team", "+5e0", "blue", "my"]
    let excluding :=
      (resolve (some (.list ((texts.map fun text => "-" ++ text).map .text))) {} context {}).value
    (∀ text ∈ texts, Item.IsTidy text)
      ∧ (resolve (some (.list (texts.map .text))) {} context {}).value =
          { included := [4, 5], dropped := ["blue", "my"] }
      ∧ excluding.included = [] ∧ excluding.excluded = [4, 5]
      ∧ excluding.dropped = ["-blue", "-my"] ∧ excluding.directive = .mustHaveGroup := by
  intro directory context texts excluding
  have htidy : ∀ text ∈ texts, Item.IsTidy text := by decide
  have hincluding : (resolve (some (.list (texts.map .text))) {} context {}).value =
      { included := [4, 5], dropped := ["blue", "my"] } := by
    decide +kernel
  obtain ⟨hincluded, -, hexcluded, hdropped, hdirective⟩ :=
    exclusion_mirrors_inclusion htidy {} context {} rfl
  refine ⟨htidy, hincluding, hincluded, ?_, ?_, ?_⟩
  · exact hexcluded.trans (congrArg Resolution.included hincluding)
  · exact hdropped.trans (congrArg (fun r => r.dropped.map fun text => "-" ++ text) hincluding)
  · exact hdirective.mpr ⟨"red team", List.mem_cons_self, by decide +kernel⟩

end GroupScope
