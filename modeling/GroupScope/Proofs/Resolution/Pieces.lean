import GroupScope.Proofs.Resolution.Answers
import GroupScope.Proofs.Resolution.Shapes
/-!
# Every item counts once

The items of an expression are resolved one by one, and each of them adds to exactly one of three
lists. So the lists follow the order of the items, and a text that is put together from two others
has the lists of the first followed by those of the second:

    lists of "a,b"   =   lists of a  ++  lists of b

Cleaning works on the text as a whole, before it is cut, but it moves nothing from one item to
another. A text that is a keyword has no items, so it is left out.
-/

namespace GroupScope

/-! ## §1. What one item adds. -/

section

variable (item : Item) (context : Context)

/-- The id that an item adds to the included ones. -/
def Item.includedId? : Option GroupId :=
  if item.excluded then none else (item.resolve context).value

/-- The id that an item adds to the excluded ones. -/
def Item.excludedId? : Option GroupId :=
  if item.excluded then (item.resolve context).value else none

/-- The text that an item adds to the dropped ones. -/
def Item.droppedText? : Option String :=
  if (item.resolve context).value.isNone then some item.text else none

/-- An item adds to one list only, and to that one once. -/
theorem Item.length_added :
    (item.includedId? context).toList.length + (item.excludedId? context).toList.length
      + (item.droppedText? context).toList.length = 1 := by
  unfold includedId? excludedId? droppedText?
  cases item.excluded <;> cases (item.resolve context).value <;> rfl

/-- What an item adds stands in front. -/
theorem Resolution.Lists.add_resolved (lists : Resolution.Lists) :
    lists.add item (item.resolve context).value =
      { included := (item.includedId? context).toList ++ lists.included
        excluded := (item.excludedId? context).toList ++ lists.excluded
        dropped := (item.droppedText? context).toList ++ lists.dropped } := by
  unfold Item.includedId? Item.excludedId? Item.droppedText? add
  cases item.excluded <;> cases (item.resolve context).value <;> rfl

end

/-- The three lists of a resolution collect what the items add to them, in their order. -/
structure Resolution.Collects (context : Context) (items : List Item) (r : Resolution) : Prop where
  included : r.included = items.flatMap fun item => (item.includedId? context).toList
  excluded : r.excluded = items.flatMap fun item => (item.excludedId? context).toList
  dropped : r.dropped = items.flatMap fun item => (item.droppedText? context).toList

theorem value_resolveItems_eq (context : Context) (items : List Item) :
    (resolveItems context items).value =
      { included := items.flatMap fun item => (item.includedId? context).toList
        excluded := items.flatMap fun item => (item.excludedId? context).toList
        dropped := items.flatMap fun item => (item.droppedText? context).toList } := by
  rw [value_resolveItems]
  induction items with
  | nil => rfl
  | cons item items ih => rw [List.foldr_cons, ih, Resolution.Lists.add_resolved]; rfl

namespace Resolution

theorem collects_ofLists (context : Context) (items : List Item) (native : NativeLists) :
    Collects context items (.ofLists (resolveItems context items).value native) where
  included := congrArg Lists.included (value_resolveItems_eq context items)
  excluded := congrArg Lists.excluded (value_resolveItems_eq context items)
  dropped := congrArg Lists.dropped (value_resolveItems_eq context items)

namespace Collects

variable {context : Context} {items others : List Item} {r s t : Resolution}

/-- **No item is lost and none counts twice.** -/
theorem length_eq (h : Collects context items r) :
    r.included.length + r.excluded.length + r.dropped.length = items.length := by
  rw [h.included, h.excluded, h.dropped]
  clear h
  induction items with
  | nil => rfl
  | cons item items ih =>
    have hone := item.length_added context
    simp only [List.flatMap_cons, List.length_append, List.length_cons] at ih ⊢
    omega

/-- **The lists of two rows of items follow each other.** -/
theorem append_eq (hr : Collects context items r) (hs : Collects context others s)
    (ht : Collects context (items ++ others) t) :
    t.included = r.included ++ s.included ∧ t.excluded = r.excluded ++ s.excluded
      ∧ t.dropped = r.dropped ++ s.dropped := by
  refine ⟨?_, ?_, ?_⟩
  · rw [ht.included, hr.included, hs.included, List.flatMap_append]
  · rw [ht.excluded, hr.excluded, hs.excluded, List.flatMap_append]
  · rw [ht.dropped, hr.dropped, hs.dropped, List.flatMap_append]

/-- Only the text of an item can be dropped. -/
theorem exists_of_mem_dropped (h : Collects context items r) {text : String}
    (htext : text ∈ r.dropped) : ∃ item ∈ items, item.text = text := by
  rw [h.dropped] at htext
  obtain ⟨item, hitem, hadded⟩ := List.mem_flatMap.mp htext
  unfold Item.droppedText? at hadded
  split at hadded
  · exact ⟨item, hitem, (List.mem_singleton.mp hadded).symm⟩
  · cases hadded

/-- **Items in another order** yield the lists in another order. -/
theorem perm (hperm : items.Perm others) (hr : Collects context items r)
    (hs : Collects context others s) :
    r.included.Perm s.included ∧ r.excluded.Perm s.excluded ∧ r.dropped.Perm s.dropped := by
  rw [hr.included, hr.excluded, hr.dropped, hs.included, hs.excluded, hs.dropped]
  exact ⟨hperm.flatMap_right _, hperm.flatMap_right _, hperm.flatMap_right _⟩

end Collects

end Resolution

/-! ## §2. Pieces and items. -/

/-- The piece stands for an item. -/
def Item.Counts (piece : List Char) : Prop := Text.trim piece ≠ [] ∧ Text.trim piece ≠ ['0']

instance (piece : List Char) : Decidable (Item.Counts piece) :=
  inferInstanceAs (Decidable (_ ∧ _))

theorem Item.text_of_ofChars? {piece : List Char} {item : Item}
    (h : Item.ofChars? piece = some item) : item.text = String.ofList (Text.trim piece) := by
  unfold ofChars? at h
  simp only at h
  split at h
  · cases h
  · injection h with h
    rw [← h]

theorem Item.isSome_ofChars? (piece : List Char) :
    (Item.ofChars? piece).isSome = decide (Item.Counts piece) := by
  unfold ofChars? Counts
  simp only
  by_cases h : Text.trim piece = [] ∨ Text.trim piece = ['0']
  · rw [if_pos h]
    exact (decide_eq_false fun hc => h.elim hc.1 hc.2).symm
  · rw [if_neg h]
    exact (decide_eq_true (not_or.mp h)).symm

theorem Item.length_ofPieces (pieces : List (List Char)) :
    (Item.ofPieces pieces).length = pieces.countP fun piece => Item.Counts piece := by
  unfold ofPieces
  rw [List.length_filterMap_eq_countP]
  exact congrArg (List.countP · pieces) (funext Item.isSome_ofChars?)

/-! ## §3. Texts between commas. -/

/-- Cleaning neither joins pieces nor cuts them. -/
theorem Text.length_pieces_clean (text : List Char) :
    (splitBy (· == ',') (clean text)).length = (splitBy (· == ',') text).length := by
  have hpieces := congrArg List.length (map_trim_pieces_clean text)
  rwa [List.length_map, List.length_map] at hpieces

/-- A text without commas is one piece. -/
theorem Text.pieces_of_comma_not_mem {text : List Char} (h : ',' ∉ text) :
    splitBy (· == ',') text = [text] := by
  have hone : splitBy (· == ',') (join [','] [text]) = [text] :=
    splitBy_join (List.cons_ne_nil text []) fun piece hpiece => List.mem_singleton.mp hpiece ▸ h
  rwa [join, List.intercalate_singleton] at hone

/-- The pieces before a comma are followed by those after it. -/
theorem Text.pieces_append (first second : List Char) :
    splitBy (· == ',') (first ++ ',' :: second) =
      splitBy (· == ',') first ++ splitBy (· == ',') second :=
  splitBy_append_cons (by decide) first second

/-- The pieces of a text, joined again, are the text. -/
theorem Text.join_pieces (text : List Char) : join [','] (splitBy (· == ',') text) = text := by
  rw [splitBy_eq_splitOnP]
  exact List.intercalate_splitOn ','

theorem Text.comma_not_mem_of_mem_pieces {text piece : List Char}
    (h : piece ∈ splitBy (· == ',') text) : ',' ∉ piece := by
  intro hcomma
  have hsep := not_isSeparator_of_mem_splitBy h hcomma
  simp at hsep

/-- Two texts with a comma between them have the items of both. -/
theorem Item.ofText_clean_append (first second : List Char) :
    Item.ofText (Text.clean (first ++ ',' :: second)) =
      Item.ofText (Text.clean first) ++ Item.ofText (Text.clean second) := by
  rw [ofText_clean, ofText_clean, ofText_clean, Text.pieces_append, List.map_append]
  exact List.filterMap_append

/-- Pieces in another order have the same items in another order. -/
theorem Item.perm_ofText_clean {text : List Char} {order : List (List Char)}
    (h : order.Perm (Text.splitBy (· == ',') text)) :
    (Item.ofText (Text.clean (Text.join [','] order))).Perm (Item.ofText (Text.clean text)) := by
  have hne : order ≠ [] := by
    rintro rfl
    exact Text.splitBy_ne_nil _ text h.symm.eq_nil
  have hcomma : ∀ piece ∈ order, ',' ∉ piece := fun piece hpiece =>
    Text.comma_not_mem_of_mem_pieces (h.mem_iff.mp hpiece)
  rw [ofText_clean, ofText_clean, Text.splitBy_join hne hcomma]
  exact (h.map Text.clean).filterMap Item.ofChars?

/-! ## §4. Texts that are no keywords. -/

theorem IsShortcut.comma_not_mem {text : List Char} {context : Context}
    (h : IsShortcut text context) : ',' ∉ text := by
  rcases h with rfl | ⟨rfl, -⟩ | ⟨rfl, -⟩ <;> decide

/-- A keyword is one piece. -/
theorem IsShortcut.length_pieces {text : List Char} {context : Context}
    (h : IsShortcut (Text.clean text) context) :
    (Text.splitBy (· == ',') text).length = 1 := by
  rw [← Text.length_pieces_clean, Text.pieces_of_comma_not_mem h.comma_not_mem]
  rfl

/-- Two texts with a comma between them are no keyword. -/
theorem not_isShortcut_append (first second : List Char) (context : Context) :
    ¬IsShortcut (Text.clean (first ++ ',' :: second)) context := by
  intro h
  have hone := h.length_pieces
  rw [Text.pieces_append, List.length_append] at hone
  have hfirst := List.length_pos_iff.mpr (Text.splitBy_ne_nil (· == ',') first)
  have hsecond := List.length_pos_iff.mpr (Text.splitBy_ne_nil (· == ',') second)
  omega

/-- A keyword has no other order than its own. -/
theorem IsShortcut.join_order {text : List Char} {context : Context}
    (h : IsShortcut (Text.clean text) context) {order : List (List Char)}
    (horder : order.Perm (Text.splitBy (· == ',') text)) : Text.join [','] order = text := by
  obtain ⟨piece, hpiece⟩ := List.length_eq_one_iff.mp h.length_pieces
  have hsame : order = Text.splitBy (· == ',') text := by
    rw [hpiece] at horder ⊢
    exact List.perm_singleton.mp horder
  rw [hsame, Text.join_pieces]

/-! ## §5. The three lists of a text. -/

/-- Cleaning twice is cleaning once, so a cleaned text resolves as the text does. -/
theorem Expression.resolve_clean (text : String) (context : Context) (native : NativeLists) :
    (Expression.text (String.ofList (Text.clean text.toList))).resolve context native =
      (Expression.text text).resolve context native := by
  unfold resolve
  simp only [String.toList_ofList, Text.clean_clean]

theorem resolve_clean (text : String) (native : NativeLists) (context : Context)
    (settings : Settings) :
    resolve (some (.text (String.ofList (Text.clean text.toList)))) native context settings =
      resolve (some (.text text)) native context settings := by
  unfold resolve
  simp only [Expression.resolve_clean]

section

variable {context : Context} {settings : Settings} (native : NativeLists)
  (hon : settings.groupsEnabled = true)

include hon

/-- With groups switched on, a request's expression is resolved. -/
theorem resolve_of_groupsEnabled (e : Expression) :
    resolve (some e) native context settings = e.resolve context native := by
  unfold resolve
  simp only [hon, if_true]

/-- The lists of a text that is no keyword collect what its items add. -/
theorem collects_resolve_text {text : String}
    (h : ¬IsShortcut (Text.clean text.toList) context) :
    Resolution.Collects context (Item.ofText (Text.clean text.toList))
      (resolve (some (.text text)) native context settings).value := by
  rw [resolve_of_groupsEnabled native hon, Expression.resolve_text h]
  exact Resolution.collects_ofLists context _ native

/-- Pieces in another order yield the same lists in another order. -/
theorem perm_lists_of_perm_pieces {text : String} {order : List (List Char)}
    (horder : order.Perm (Text.splitBy (· == ',') text.toList))
    (h : ¬IsShortcut (Text.clean (String.ofList (Text.join [','] order)).toList) context) :
    let before := (resolve (some (.text text)) native context settings).value
    let after := (resolve (some (.text (String.ofList (Text.join [','] order)))) native context
      settings).value
    after.included.Perm before.included ∧ after.excluded.Perm before.excluded
      ∧ after.dropped.Perm before.dropped := by
  have htext : ¬IsShortcut (Text.clean text.toList) context := by
    intro hshortcut
    rw [String.toList_ofList, hshortcut.join_order horder] at h
    exact h hshortcut
  have hafter := collects_resolve_text native hon h
  rw [String.toList_ofList] at hafter
  exact Resolution.Collects.perm (Item.perm_ofText_clean horder) hafter
    (collects_resolve_text native hon htext)

end

/-- **Every item counts once, where it stands.** Let groups be switched on. Two texts that are no
keywords have, with a comma between them, the lists of the first followed by those of the second. A
text that is no keyword has as many entries in its three lists as its cleaned text has pieces that
are neither blank nor `0`. The pieces of a text or of its cleaned text, put in another order between
commas, yield the same lists in another order, unless the result is a keyword. -/
theorem every_item_counts_once (native : NativeLists) (context : Context) (settings : Settings)
    (hon : settings.groupsEnabled = true) :
    (∀ a b : String, ¬IsShortcut (Text.clean a.toList) context →
        ¬IsShortcut (Text.clean b.toList) context →
          let first := (resolve (some (.text a)) native context settings).value
          let second := (resolve (some (.text b)) native context settings).value
          let both := (resolve (some (.text (a ++ "," ++ b))) native context settings).value
          both.included = first.included ++ second.included
            ∧ both.excluded = first.excluded ++ second.excluded
            ∧ both.dropped = first.dropped ++ second.dropped)
      ∧ (∀ text : String, ¬IsShortcut (Text.clean text.toList) context →
          let r := (resolve (some (.text text)) native context settings).value
          r.included.length + r.excluded.length + r.dropped.length =
            (Text.splitBy (· == ',') (Text.clean text.toList)).countP fun piece =>
              Text.trim piece ≠ [] ∧ Text.trim piece ≠ ['0'])
      ∧ ∀ (text : String) (order : List (List Char)),
          order.Perm (Text.splitBy (· == ',') text.toList)
              ∨ order.Perm (Text.splitBy (· == ',') (Text.clean text.toList)) →
            let reordered := String.ofList (Text.join [','] order)
            ¬IsShortcut (Text.clean reordered.toList) context →
              let before := (resolve (some (.text text)) native context settings).value
              let after := (resolve (some (.text reordered)) native context settings).value
              after.included.Perm before.included ∧ after.excluded.Perm before.excluded
                ∧ after.dropped.Perm before.dropped := by
  refine ⟨?_, ?_, ?_⟩
  · intro a b ha hb
    have htext : (a ++ "," ++ b).toList = a.toList ++ ',' :: b.toList := by simp
    have hab : ¬IsShortcut (Text.clean (a ++ "," ++ b).toList) context := by
      rw [htext]
      exact not_isShortcut_append a.toList b.toList context
    have hboth := collects_resolve_text native hon hab
    rw [htext, Item.ofText_clean_append] at hboth
    exact Resolution.Collects.append_eq (collects_resolve_text native hon ha)
      (collects_resolve_text native hon hb) hboth
  · intro text htext
    have hlength := (collects_resolve_text native hon htext).length_eq
    exact hlength.trans (Item.length_ofPieces _)
  · intro text order horder reordered h
    rcases horder with horder | horder
    · exact perm_lists_of_perm_pieces native hon horder h
    · rw [← resolve_clean]
      rw [← String.toList_ofList (l := Text.clean text.toList)] at horder
      exact perm_lists_of_perm_pieces native hon horder h

/-- Two untidy texts with a comma between them, and three pieces backwards. -/
theorem every_item_counts_once_of_untidy_texts :
    let directory : Directory :=
      { groupOf := fun slug => .ok (if slug = "red team" then some 4 else none)
        groupsOf := fun _ => .ok [] }
    let context : Context := { viewer := .user 1, page := some 9, directory }
    let value := fun text : String => (resolve (some (.text text)) {} context {}).value
    let order := (Text.splitBy (· == ',') " my,-7,-5e0".toList).reverse
    (value "-7, red \tteam \x01").included = [4]
      ∧ (value ("-7, red \tteam \x01" ++ "," ++ "-5e0,my")).excluded =
          (value "-7, red \tteam \x01").excluded ++ (value "-5e0,my").excluded
      ∧ (value (String.ofList (Text.join [','] order))).excluded = [5, 7]
      ∧ (value (String.ofList (Text.join [','] order))).excluded.Perm
          (value " my,-7,-5e0").excluded := by
  intro directory context value order
  obtain ⟨hjoined, -, hreordered⟩ := every_item_counts_once {} context {} rfl
  have hfirst : ¬IsShortcut (Text.clean "-7, red \tteam \x01".toList) context := by
    rintro (h | ⟨h, -⟩ | ⟨h, -⟩) <;> exact absurd h (by decide +kernel)
  have hsecond : ¬IsShortcut (Text.clean "-5e0,my".toList) context := by
    rintro (h | ⟨h, -⟩ | ⟨h, -⟩) <;> exact absurd h (by decide +kernel)
  have hreverse :
      ¬IsShortcut (Text.clean (String.ofList (Text.join [','] order)).toList) context := by
    rintro (h | ⟨h, -⟩ | ⟨h, -⟩) <;> exact absurd h (by decide +kernel)
  have hboth := (hjoined _ _ hfirst hsecond).2.1
  have hperm := (hreordered _ order (.inl (List.reverse_perm _)) hreverse).2.1
  exact ⟨by decide +kernel, hboth, by decide +kernel, hperm⟩

end GroupScope
