import GroupScope.CommandLine.Run
import GroupScope.Proofs.Directory.Closest
import GroupScope.Proofs.Number.Spelling
import GroupScope.Proofs.Resolution.Pieces
/-!
# Which near misses get a suggestion

An explanation lists the dropped items with a suggestion for each. An item is looked up as it is
written, without one hyphen. The suggestion is made for what stands behind all of its hyphens, and
letter case does not count. So an item may miss a slug by very little and get no suggestion:

    Chess      differs from the slug chess in letter case alone
    --chess    differs from the slug chess in one more hyphen alone

Any other item that is near a slug gets one, unless it has so many hyphens that it is not near the
slug without them. The main statement is `near_miss_suggested_iff`.
-/

namespace GroupScope

/-! ## §1. Dropped items. -/

section

variable {expression : Option Expression} {native : NativeLists} {context : Context}
  {settings : Settings} {text : String}

/-- What is dropped was the item of a piece of text. -/
theorem exists_item_of_mem_dropped
    (h : text ∈ (resolve expression native context settings).value.dropped) :
    ∃ piece item, Item.ofChars? piece = some item ∧ item.text = text := by
  have houtcome := resolve_outcome expression native context settings
  generalize (resolve expression native context settings).value = r at h houtcome
  cases houtcome with
  | items pieces =>
    obtain ⟨item, hitem, htext⟩ :=
      (Resolution.collects_ofLists context _ native).exists_of_mem_dropped h
    obtain ⟨piece, -, hpiece⟩ := List.mem_filterMap.mp hitem
    exact ⟨piece, item, hpiece, htext⟩
  | nothing | currentGroup | myGroups | noGroup => cases h

/-- A dropped item is trimmed. -/
theorem trim_of_mem_dropped
    (h : text ∈ (resolve expression native context settings).value.dropped) :
    Text.trim text.toList = text.toList := by
  obtain ⟨piece, item, hpiece, rfl⟩ := exists_item_of_mem_dropped h
  rw [Item.text_of_ofChars? hpiece, String.toList_ofList, Text.trim_trim]

end

/-- The slug that a dropped item was looked up under: what follows its one hyphen, trimmed. -/
def DroppedItem.slug (item : DroppedItem) : String :=
  String.ofList (Item.afterHyphen item.text.toList)

/-- Behind one hyphen and behind all of them stands the same slug, unless it has a hyphen in front
itself. -/
theorem slugOfDropped_eq {item : DroppedItem}
    (htrim : Text.trim item.text.toList = item.text.toList)
    (h : item.slug.toList.head? ≠ some '-') : slugOfDropped item.text = item.slug := by
  unfold DroppedItem.slug at h ⊢
  unfold slugOfDropped
  rw [String.toList_ofList] at h
  generalize item.text.toList = text at htrim h
  apply congrArg String.ofList
  unfold Item.afterHyphen at h ⊢
  split at h
  next rest =>
    have hrest : rest.dropWhile (· == '-') = rest := by
      cases rest with
      | nil => rfl
      | cons c rest =>
        by_cases hc : c = '-'
        · -- A second hyphen would be the first character of the slug.
          subst hc
          rw [Text.trim_cons_of_not_blank (by decide)] at h
          exact absurd rfl h
        · exact List.dropWhile_cons_of_neg (by simpa using hc)
    rw [List.dropWhile_cons_of_pos (by rfl), hrest]
  next hother =>
    have htext : text.dropWhile (· == '-') = text := by
      cases text with
      | nil => rfl
      | cons c rest =>
        refine List.dropWhile_cons_of_neg fun hc => ?_
        rw [beq_iff_eq.mp hc] at h
        exact absurd rfl h
    rw [htext, htrim]

/-- An explanation has a suggestion for each item that was dropped. -/
theorem CommandLine.Prepared.mem_dropped_explain {prepared : Prepared} {expression : Option String}
    {item : DroppedItem} (h : item ∈ (prepared.explain expression).value.dropped) :
    item.suggestion = prepared.table.suggest (slugOfDropped item.text)
      ∧ item.text ∈ (resolve prepared.request.expression prepared.request.native prepared.context
          prepared.settings).value.dropped := by
  obtain ⟨text, htext, rfl⟩ := List.mem_map.mp h
  exact ⟨rfl, htext⟩

/-! ## §2. Near misses. -/

namespace DirectoryTable

/-- No group has the slug, but one has a slug within three edits of it, letter case aside. -/
structure NearMiss (table : DirectoryTable) (slug : String) : Prop where
  missing : slug ∉ table.groups.names
  near : ∃ other ∈ table.groups.names, other ≠ "" ∧ distance slug other ≤ 3

/-- No group has the text for its slug if letter case does not count. -/
def IsNew (table : DirectoryTable) (text : String) : Prop :=
  ∀ other ∈ table.groups.names, other ≠ "" →
    Text.lowercase text.toList ≠ Text.lowercase other.toList

theorem suggest_ne_none_iff_isNew {table : DirectoryTable} {query : String} :
    table.suggest query ≠ none ↔
      table.IsNew query
        ∧ ∃ other ∈ table.groups.names, other ≠ "" ∧ distance query other ≤ 3 := by
  rw [suggest_ne_none_iff]
  simp only [IsNew, mem_slugs_iff, and_imp, and_assoc]
  rfl

end DirectoryTable

/-- **Which near misses get a suggestion.** Let an item of an explanation be dropped, and let the
slug behind its one hyphen belong to no group but be near a slug that does. The item gets a
suggestion if and only if what stands behind all of its hyphens is no slug up to letter case either
and is near a slug as well. If the slug has no hyphen in front, all that counts is that it differs
from every slug in more than letter case. -/
theorem near_miss_suggested_iff {prepared : CommandLine.Prepared} {expression : Option String}
    {item : DroppedItem} (h : item ∈ (prepared.explain expression).value.dropped)
    (hnear : prepared.table.NearMiss item.slug) :
    let bare := slugOfDropped item.text
    (item.suggestion ≠ none ↔
        prepared.table.IsNew bare
          ∧ ∃ other ∈ prepared.table.groups.names, other ≠ ""
              ∧ DirectoryTable.distance bare other ≤ 3)
      ∧ (item.slug.toList.head? ≠ some '-' →
          (item.suggestion ≠ none ↔ prepared.table.IsNew item.slug)) := by
  intro bare
  obtain ⟨hsuggestion, hdropped⟩ := CommandLine.Prepared.mem_dropped_explain h
  rw [hsuggestion]
  refine ⟨DirectoryTable.suggest_ne_none_iff_isNew, ?_⟩
  intro hhyphen
  rw [slugOfDropped_eq (trim_of_mem_dropped hdropped) hhyphen,
    DirectoryTable.suggest_ne_none_iff_isNew]
  exact and_iff_left hnear.near

/-- A slug with a letter missing, behind a hyphen, gets the suggestion. -/
theorem near_miss_suggested_of_missing_letter :
    let prepared : CommandLine.Prepared :=
      { settings := {}, table := { groups := .ofList [("book-club", 9), ("chess", 12)] }
        viewer := .anonymous, page := none, existing := {}
        request := { expression := some (.text "5, -chss") } }
    let item : DroppedItem := ⟨"-chss", some "chess"⟩
    item ∈ (prepared.explain none).value.dropped ∧ prepared.table.NearMiss item.slug
      ∧ item.slug.toList.head? ≠ some '-' ∧ prepared.table.IsNew item.slug := by
  intro prepared item
  have hdropped : item ∈ (prepared.explain none).value.dropped := by decide +kernel
  have hnear : prepared.table.NearMiss item.slug :=
    ⟨by decide +kernel, "chess", by decide +kernel, by decide, by decide +kernel⟩
  have hhyphen : item.slug.toList.head? ≠ some '-' := by decide
  have hsuggested := (near_miss_suggested_iff hdropped hnear).2 hhyphen
  exact ⟨hdropped, hnear, hhyphen, hsuggested.mp (by decide)⟩

/-- Letter case alone, and hyphens alone, leave a near miss without a suggestion. -/
theorem near_misses_without_suggestion :
    let prepared : CommandLine.Prepared :=
      { settings := {}, table := { groups := .ofList [("chess", 12)] }
        viewer := .anonymous, page := none, existing := {}
        request := { expression := some (.text "Chess,--chess") } }
    let upper : DroppedItem := ⟨"Chess", none⟩
    let hyphened : DroppedItem := ⟨"--chess", none⟩
    (prepared.explain none).value.dropped = [upper, hyphened]
      ∧ prepared.table.NearMiss upper.slug ∧ prepared.table.NearMiss hyphened.slug := by
  intro prepared upper hyphened
  refine ⟨by decide +kernel, ?_, ?_⟩
  · exact ⟨by decide +kernel, "chess", by decide +kernel, by decide, by decide +kernel⟩
  · exact ⟨by decide +kernel, "chess", by decide +kernel, by decide, by decide +kernel⟩

end GroupScope
