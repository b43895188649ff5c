import GroupScope.Proofs.Resolution.Ids
/-!
# What a resolution depends on

A resolution asks three things of its context: the current group, whether a user is logged in, and
which groups the items name. Contexts that agree on these yield the same resolution, whatever else
is in them:

    same current group, same kind of viewer, same answers for the items  →  same resolution

The events may differ, since a failed lookup is reported and a missing group is not.
-/

namespace GroupScope

/-! ## §1. Items. -/

/-- The lists grow from the last item to the first, each item with its own answer. -/
theorem value_resolveItems (context : Context) (items : List Item) :
    (resolveItems context items).value =
      items.foldr (fun item lists => lists.add item (item.resolve context).value) {} := by
  induction items with
  | nil => rfl
  | cons item items ih =>
    rw [List.foldr_cons, ← ih, ← Item.value_resolveOrDrop]
    rfl

/-- **Items with the same answers** give the same lists. -/
theorem resolveItems_congr {context other : Context} {items : List Item}
    (h : ∀ item ∈ items, (item.resolve context).value = (item.resolve other).value) :
    (resolveItems context items).value = (resolveItems other items).value := by
  rw [value_resolveItems, value_resolveItems]
  induction items with
  | nil => rfl
  | cons item items ih =>
    rw [List.foldr_cons, List.foldr_cons, h item List.mem_cons_self,
      ih fun rest hrest => h rest (List.mem_cons_of_mem item hrest)]

/-! ## §2. Expressions. -/

/-- The items that an expression is resolved to, unless it is a keyword. -/
def Expression.items : Expression → List Item
  | .text s => Item.ofText (Text.clean s.toList)
  | .integer value => Item.ofText (decimalText value).toList
  | .list items => Item.ofPieces (items.map fun item => item.itemText.toList)

section

variable {context other : Context} (hgroup : context.currentGroup = other.currentGroup)
  (huser : context.viewer.isUser = other.viewer.isUser)

include hgroup huser

theorem keywordResolution?_congr (text : List Char) (native : NativeLists) :
    keywordResolution? text context native = keywordResolution? text other native := by
  unfold keywordResolution?
  cases Keyword.ofChars? text with
  | none => rfl
  | some keyword =>
    show keyword.resolve? context native = keyword.resolve? other native
    cases keyword with
    | this => rw [Keyword.resolve?, Keyword.resolve?, hgroup]
    | my => rw [Keyword.resolve?, Keyword.resolve?, huser]
    | zero => rfl

theorem Expression.value_resolve_congr {expression : Expression}
    (hitems : ∀ item ∈ expression.items, (item.resolve context).value = (item.resolve other).value)
    (native : NativeLists) :
    (expression.resolve context native).value = (expression.resolve other native).value := by
  have hlists : (Resolution.ofItems expression.items context native).value =
      (Resolution.ofItems expression.items other native).value :=
    congrArg (Resolution.ofLists · native) (resolveItems_congr hitems)
  unfold Expression.resolve
  -- A keyword does not look at the items, so only the plain lists are left to compare.
  cases expression with
  | text s =>
    simp only
    rw [keywordResolution?_congr hgroup huser]
    cases keywordResolution? (Text.clean s.toList) other native with
    | some resolution => rfl
    | none => exact hlists
  | integer value =>
    by_cases hzero : value = 0
    · simp only [hzero, if_true]
    · simp only [hzero, if_false]
      exact hlists
  | list items => exact hlists

/-- **Contexts that agree on what is asked** yield the same resolution. -/
theorem value_resolve_congr {expression : Option Expression}
    (hitems : ∀ e, expression = some e → ∀ item ∈ e.items,
      (item.resolve context).value = (item.resolve other).value)
    (native : NativeLists) (settings : Settings) :
    (resolve expression native context settings).value =
      (resolve expression native other settings).value := by
  cases expression with
  | none => rfl
  | some e =>
    unfold resolve
    cases settings.groupsEnabled with
    | false => rfl
    | true => exact Expression.value_resolve_congr hgroup huser (hitems e rfl) native

end

end GroupScope
