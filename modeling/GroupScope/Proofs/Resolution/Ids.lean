import GroupScope.Proofs.Lookup
import GroupScope.Proofs.Number.Spelling
import GroupScope.Proofs.Resolution.Outcome
/-!
# Where the ids of a resolution come from

An id gets into a resolution in three ways only: as a usable number, as the answer of the directory
to a slug, or as the group of the page. So it is never zero, and it fits a signed word if the
directory and the page give no greater ones.
-/

namespace GroupScope

/-! ## §1. Sources. -/

/-- How an id gets into a resolution. -/
inductive Resolution.Source (context : Context) (id : GroupId) : Prop
  /-- The id is a usable number. -/
  | number (n : Nat) (h : GroupId.ofNat? n = some id)
  /-- The directory has the id under a slug. -/
  | slug (slug : String) (h : context.directory.groupOf slug = .ok (some id)) (hpos : 0 < id)
  /-- The id is the group of the page. -/
  | page (h : context.page = some id) (hpos : 0 < id)

namespace Resolution.Source

variable {context : Context} {id : GroupId}

theorem pos (h : Source context id) : 0 < id := by
  cases h with
  | number n h =>
    obtain ⟨hn, hpos, -⟩ := GroupId.toNat_of_ofNat? h
    rw [UInt64.lt_iff_toNat_lt, hn]
    exact hpos
  | slug _ _ hpos | page _ hpos => exact hpos

/-- All sources give ids that fit a signed word, if the directory and the page do. -/
theorem isStorable (h : Source context id)
    (hslug : ∀ slug id, context.directory.groupOf slug = .ok (some id) →
      id.toNat ≤ GroupId.maxStored)
    (hpage : ∀ id, context.page = some id → id.toNat ≤ GroupId.maxStored) :
    id.isStorable = true := by
  unfold GroupId.isStorable
  rw [decide_eq_true_eq]
  cases h with
  | number n h =>
    obtain ⟨hn, -, hle⟩ := GroupId.toNat_of_ofNat? h
    rw [hn]
    exact hle
  | slug slug h _ => exact hslug slug id h
  | page h _ => exact hpage id h

end Resolution.Source

/-! ## §2. Items. -/

theorem Numeral.ofNat?_of_groupId? {text : List Char} {id : GroupId}
    (h : groupId? text = some id) : ∃ n, GroupId.ofNat? n = some id := by
  unfold groupId? at h
  simp only at h
  split at h
  · exact ⟨_, h⟩
  · split at h
    · cases h
    · obtain ⟨x, -, hx⟩ := Option.bind_eq_some_iff.mp h
      exact ⟨_, hx⟩

/-- The reference of an item of text is read off some characters. -/
theorem Item.reference_of_mem_ofPieces {pieces : List (List Char)} {item : Item}
    (h : item ∈ Item.ofPieces pieces) : ∃ value, item.reference = .ofChars value := by
  obtain ⟨piece, -, hpiece⟩ := List.mem_filterMap.mp h
  exact ⟨_, Item.reference_of_ofChars? hpiece⟩

theorem Item.source_of_resolve {item : Item} {context : Context} {id : GroupId} {value : List Char}
    (hr : item.reference = .ofChars value) (h : (item.resolve context).value = some id) :
    Resolution.Source context id := by
  unfold Item.resolve at h
  rw [hr] at h
  unfold Reference.ofChars at h
  cases hnumeral : Numeral.isNumeral value with
  | true =>
    rw [hnumeral] at h
    obtain ⟨n, hn⟩ := Numeral.ofNat?_of_groupId? h
    exact .number n hn
  | false =>
    simp only [hnumeral, Bool.false_eq_true, if_false] at h
    split at h
    · cases h
    · obtain ⟨hslug, hpos⟩ := Context.resolveSlug_eq_some_iff.mp h
      exact .slug _ hslug hpos

/-- Reporting that an item is dropped does not change what it names. -/
theorem Item.value_resolveOrDrop (item : Item) (context : Context) :
    (item.resolveOrDrop context).value = (item.resolve context).value := by
  unfold Item.resolveOrDrop
  cases h : (item.resolve context).value <;> simp [h]

/-! ## §3. Lists and resolutions. -/

/-- The id is in one of the two lists. -/
def Resolution.Lists.Has (lists : Resolution.Lists) (id : GroupId) : Prop :=
  id ∈ lists.included ∨ id ∈ lists.excluded

/-- An item adds no other id than the one it names. -/
theorem Resolution.Lists.has_add {lists : Resolution.Lists} {item : Item} {found : Option GroupId}
    {id : GroupId} (h : (lists.add item found).Has id) : found = some id ∨ lists.Has id := by
  cases found with
  | none => exact .inr h
  | some new =>
    unfold add at h
    simp only at h
    split at h
    · rcases h with h | h
      · exact .inr (.inl h)
      · rcases List.mem_cons.mp h with rfl | h
        · exact .inl rfl
        · exact .inr (.inr h)
    · rcases h with h | h
      · rcases List.mem_cons.mp h with rfl | h
        · exact .inl rfl
        · exact .inr (.inl h)
      · exact .inr (.inr h)

theorem source_of_resolveItems {context : Context} {items : List Item}
    (hitems : ∀ item ∈ items, ∃ value, item.reference = .ofChars value) {id : GroupId}
    (h : (resolveItems context items).value.Has id) : Resolution.Source context id := by
  -- Lists grow from the last item to the first, each adding at most the id that it names.
  induction items with
  | nil => rcases h with h | h <;> exact absurd h List.not_mem_nil
  | cons item items ih =>
    rcases Resolution.Lists.has_add h with h | h
    · obtain ⟨value, hvalue⟩ := hitems item List.mem_cons_self
      rw [Item.value_resolveOrDrop] at h
      exact Item.source_of_resolve hvalue h
    · exact ih (fun other hother => hitems other (List.mem_cons_of_mem item hother)) h

/-- **Every id of a resolution has a source.** -/
theorem Resolution.Outcome.source {context : Context} {native : NativeLists} {r : Resolution}
    (h : Outcome context native r) {id : GroupId} (hid : id ∈ r.included ∨ id ∈ r.excluded) :
    Source context id := by
  cases h with
  | currentGroup current hcurrent =>
    have heq : id = current := by simpa using hid
    subst heq
    obtain ⟨hpage, hpos⟩ := Context.currentGroup_eq_some_iff.mp hcurrent
    exact .page hpage hpos
  | items pieces =>
    exact source_of_resolveItems (fun _ hitem => Item.reference_of_mem_ofPieces hitem) hid
  | nothing | myGroups | noGroup => simp at hid

end GroupScope
