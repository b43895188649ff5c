import GroupScope.Proofs.Resolution.Pieces
import GroupScope.Proofs.Search.Independence
/-!
# What is logged about items

Items are resolved one after the other, and so they are logged. An item that names a group is not
mentioned. An item that names none is reported as dropped, and right before that the failure of its
lookup is reported, if it failed:

    log of the items   =   log of the first  ++  log of the second  ++  …

So the dropped items of a resolution can be read off its log.
-/

namespace GroupScope

/-- The text of an item that was dropped, if that is what the event reports. -/
def Event.dropped? : Event → Option String
  | .itemDropped text => some text
  | _ => none

/-! ## §1. One item. -/

namespace Item

variable (item : Item) (context : Context)

/-- The slug that an item is looked up under and the failure of that lookup. -/
def failure? : Option (String × LookupFailure) :=
  item.slug?.bind fun slug =>
    match context.directory.groupOf slug with
    | .ok _ => none
    | .error failure => some (slug, failure)

/-- What is logged about an item: the failure of its lookup, and that it was dropped. -/
def log : List Event :=
  match item.failure? context with
  | some (slug, failure) => [.slugLookupFailed slug failure, .itemDropped item.text]
  | none => if (item.resolve context).value = none then [.itemDropped item.text] else []

/-- To resolve an item reports at most that its lookup failed, and then it has no group. -/
theorem resolve_eq :
    item.resolve context =
      match item.failure? context with
      | some (slug, failure) => ⟨none, [.slugLookupFailed slug failure]⟩
      | none => ⟨(item.resolve context).value, []⟩ := by
  unfold failure? slug? resolve
  cases item.reference with
  | id id => rfl
  | slug slug =>
    by_cases hempty : slug.isEmpty = true
    · simp only [hempty, if_true]
      rfl
    · simp only [hempty]
      unfold Context.resolveSlug
      cases h : context.directory.groupOf slug with
      | ok found => simp [h]; rfl
      | error failure => simp [h]; rfl

theorem events_resolveOrDrop : (item.resolveOrDrop context).events = item.log context := by
  unfold resolveOrDrop log
  rw [Logged.events_bind]
  have hresolve := item.resolve_eq context
  cases hfailure : item.failure? context with
  | some failed =>
    rw [hfailure] at hresolve
    rw [hresolve]
    rfl
  | none =>
    rw [hfailure] at hresolve
    have hevents : (item.resolve context).events = [] := congrArg Logged.events hresolve
    rw [hevents]
    cases (item.resolve context).value <;> rfl

/-- An item is reported as dropped when it is. -/
theorem filterMap_log :
    (item.log context).filterMap Event.dropped? = (item.droppedText? context).toList := by
  unfold log droppedText?
  have hresolve := item.resolve_eq context
  cases hfailure : item.failure? context with
  | some failed =>
    rw [hfailure] at hresolve
    rw [hresolve]
    rfl
  | none => cases (item.resolve context).value <;> rfl

end Item

/-! ## §2. All items. -/

/-- **The items are logged one after the other.** -/
theorem events_resolveItems (context : Context) (items : List Item) :
    (resolveItems context items).events = items.flatMap fun item => item.log context := by
  induction items with
  | nil => rfl
  | cons item items ih =>
    rw [List.flatMap_cons, ← ih, ← item.events_resolveOrDrop]
    show _ ++ (_ ++ []) = _
    rw [List.append_nil]

theorem events_ofItems (context : Context) (items : List Item) (native : NativeLists) :
    (Resolution.ofItems items context native).events =
      items.flatMap fun item => item.log context := by
  rw [← events_resolveItems]
  exact List.append_nil _

/-! ## §3. Expressions. -/

section

variable {context : Context} (native : NativeLists)

/-- An expression that is no keyword is resolved item by item. Only the number zero is not, but then
it has no items. -/
theorem Expression.resolve_items {e : Expression} (h : e.isKeywordIn context = false) :
    e.resolve context native = Resolution.ofItems e.items context native
      ∨ e.items = [] ∧ e.resolve context native = pure { directive := .noGroup, native } := by
  cases e with
  | text s =>
    have hkeyword : keywordResolution? (Text.clean s.toList) context native = none := by
      rw [keywordResolution?_native, Option.map_eq_none_iff]
      exact Option.isNone_iff_eq_none.mp (Option.isSome_eq_false_iff.mp h)
    unfold resolve
    simp only [hkeyword]
    exact .inl rfl
  | integer value =>
    by_cases hzero : value = 0
    · subst hzero
      exact .inr ⟨rfl, rfl⟩
    · unfold resolve
      simp only [hzero, if_false]
      exact .inl rfl
  | list items => exact .inl rfl

/-- The items that a request's expression is resolved to; without one there are none. -/
def requestedItems : Option Expression → List Item
  | none => []
  | some e => e.items

/-- **What is logged about an expression** that is no keyword is what is logged about its items, and
the dropped ones can be read off it. -/
theorem events_resolve {expression : Option Expression} {settings : Settings}
    (hon : settings.groupsEnabled = true)
    (h : ∀ e ∈ expression, e.isKeywordIn context = false) :
    let resolved := resolve expression native context settings
    resolved.events = (requestedItems expression).flatMap (fun item => item.log context)
      ∧ resolved.value.dropped = resolved.events.filterMap Event.dropped? := by
  intro resolved
  cases expression with
  | none => exact ⟨rfl, rfl⟩
  | some e =>
    have hresolve : resolved = e.resolve context native := resolve_of_groupsEnabled native hon e
    rw [hresolve]
    rcases Expression.resolve_items native (h e rfl) with hitems | ⟨hnil, hzero⟩
    · rw [hitems, events_ofItems]
      refine ⟨rfl, ?_⟩
      rw [List.filterMap_flatMap]
      simp only [Item.filterMap_log]
      exact (Resolution.collects_ofLists context e.items native).dropped
    · rw [hzero]
      simp only [requestedItems, hnil]
      exact ⟨rfl, rfl⟩

end

end GroupScope
