import GroupScope.Proofs.Request.NativeList
import GroupScope.Proofs.Search.Degradation
/-!
# What each stage may depend on

Normalizing a request asks the directory for slugs and nothing else, and of the viewer it asks no
more than whether somebody is logged in. Compiling asks for the groups of the user who is logged in
and for nothing else. Two runs that agree on what their stage asks for have the same result,
whatever else differs:

    same kind of viewer, same current group, same answers for the slugs  →  same parameters
    same user, same groups of that user                                  →  same fragments

A slug that looks like a number is never asked for. The main statement is `stages_independent`.
-/

namespace GroupScope

/-! ## §1. Slugs that are looked up. -/

/-- The slug that an item is looked up under; numbers and the empty slug are not looked up. -/
def Item.slug? (item : Item) : Option String :=
  match item.reference with
  | .id _ => none
  | .slug slug => if slug.isEmpty then none else some slug

/-- The text is a keyword that is taken in the context, so it is not looked at item by item. -/
def Expression.isKeywordIn (context : Context) : Expression → Bool
  | .text s => (keywordResolution? (Text.clean s.toList) context {}).isSome
  | .integer _ | .list _ => false

/-- The slugs that a request asks the directory of a context for. -/
def Request.slugs (request : Request) (context : Context) : List String :=
  match request.expression with
  | none => []
  | some e => if e.isKeywordIn context then [] else e.items.filterMap Item.slug?

theorem Item.isNumeral_of_slug? {value : List Char} {item : Item} {slug : String}
    (hr : item.reference = .ofChars value) (h : item.slug? = some slug) :
    Numeral.isNumeral slug.toList = false := by
  unfold slug? at h
  rw [hr] at h
  unfold Reference.ofChars at h
  cases hnumeral : Numeral.isNumeral value with
  | true =>
    rw [hnumeral] at h
    cases h
  | false =>
    simp only [hnumeral, Bool.false_eq_true, if_false] at h
    split at h
    · cases h
    · injection h with h
      rw [← h, String.toList_ofList]
      exact hnumeral

theorem Expression.reference_of_mem_items {e : Expression} {item : Item} (h : item ∈ e.items) :
    ∃ value, item.reference = .ofChars value := by
  cases e with
  | text | integer | list => exact Item.reference_of_mem_ofPieces h

/-- **A number is never looked up as a slug.** -/
theorem Request.isNumeral_of_mem_slugs {request : Request} {context : Context} {slug : String}
    (h : slug ∈ request.slugs context) : Numeral.isNumeral slug.toList = false := by
  unfold slugs at h
  split at h
  · cases h
  · split at h
    · cases h
    · obtain ⟨item, hitem, hslug⟩ := List.mem_filterMap.mp h
      obtain ⟨value, hvalue⟩ := Expression.reference_of_mem_items hitem
      exact Item.isNumeral_of_slug? hvalue hslug

/-! ## §2. Normalizing. -/

/-- To a request, both contexts look the same: the viewer is of the same kind, the current group is
the same, and so is what the slugs that are looked up are found to be. -/
structure Context.AlikeFor (context other : Context) (request : Request) : Prop where
  viewer : context.viewer.isUser = other.viewer.isUser
  group : context.currentGroup = other.currentGroup
  slugs : ∀ slug ∈ request.slugs context,
    Directory.settledGroup (context.directory.groupOf slug) =
      Directory.settledGroup (other.directory.groupOf slug)

/-- An item asks for its slug at most. -/
theorem Item.value_resolve_congr {item : Item} {context other : Context}
    (h : ∀ slug, item.slug? = some slug →
      Directory.settledGroup (context.directory.groupOf slug) =
        Directory.settledGroup (other.directory.groupOf slug)) :
    (item.resolve context).value = (item.resolve other).value := by
  rw [value_resolve, value_resolve]
  unfold slug? at h
  cases hreference : item.reference with
  | id id => rfl
  | slug slug =>
    rw [hreference] at h
    by_cases hempty : slug.isEmpty = true
    · simp only [hempty, if_true]
    · simp only [hempty]
      exact h slug (if_neg hempty)

/-- A keyword that is taken is what the expression resolves to, and its items are not resolved. -/
theorem Expression.value_resolve_of_isKeywordIn {context other : Context} {e : Expression}
    (hviewer : context.viewer.isUser = other.viewer.isUser)
    (hgroup : context.currentGroup = other.currentGroup) (h : e.isKeywordIn context = true)
    (native : NativeLists) :
    (e.resolve context native).value = (e.resolve other native).value := by
  cases e with
  | integer | list => cases h
  | text s =>
    -- Whether a keyword is taken does not depend on the lists that go along with it.
    have hsome : (keywordResolution? (Text.clean s.toList) context native).isSome = true := by
      rw [keywordResolution?_native, Option.isSome_map]
      exact h
    obtain ⟨r, hr⟩ := Option.isSome_iff_exists.mp hsome
    have hother : keywordResolution? (Text.clean s.toList) other native = some r := by
      rw [← keywordResolution?_congr hgroup hviewer]
      exact hr
    unfold resolve
    simp only [hr, hother]

theorem Context.AlikeFor.value_resolve {context other : Context} {request : Request}
    (h : context.AlikeFor other request) (settings : Settings) :
    (resolve request.expression request.native context settings).value =
      (resolve request.expression request.native other settings).value := by
  have hslugs := h.slugs
  unfold Request.slugs at hslugs
  cases hexpression : request.expression with
  | none => rfl
  | some e =>
    rw [hexpression] at hslugs
    simp only at hslugs
    by_cases hkeyword : e.isKeywordIn context = true
    · unfold resolve
      cases settings.groupsEnabled with
      | false => rfl
      | true =>
        exact Expression.value_resolve_of_isKeywordIn h.viewer h.group hkeyword request.native
    · simp only [hkeyword] at hslugs
      apply value_resolve_congr h.group h.viewer
      intro e' he' item hitem
      injection he' with he'
      subst he'
      apply Item.value_resolve_congr
      intro slug hslug
      exact hslugs slug (List.mem_filterMap.mpr ⟨item, hitem, hslug⟩)

/-- **Normalizing depends on what it asks for**, and on nothing else. -/
theorem Context.AlikeFor.value_normalize {context other : Context} {request : Request}
    (h : context.AlikeFor other request) (existing : Parameters) (settings : Settings) :
    (existing.normalize request context settings).value =
      (existing.normalize request other settings).value := by
  rw [Parameters.value_normalize, Parameters.value_normalize, h.value_resolve]

/-- Contexts that differ in the user, in memberships and in slugs that are numbers look the same to
every request. -/
theorem Context.alikeFor_of_not_isNumeral {context : Context} {viewer : Viewer}
    {directory : Directory} (hviewer : viewer.isUser = context.viewer.isUser)
    (hslugs : ∀ slug : String, Numeral.isNumeral slug.toList = false →
      directory.groupOf slug = context.directory.groupOf slug) (request : Request) :
    context.AlikeFor { context with viewer, directory } request where
  viewer := hviewer.symm
  group := rfl
  slugs slug hslug := by
    rw [hslugs slug (Request.isNumeral_of_mem_slugs hslug)]

/-! ## §3. Compiling. -/

/-- **Compiling depends on the viewer's memberships**, and on nothing else. -/
theorem Parameters.value_compile_congr {context other : Context}
    (h : context.memberships.value = other.memberships.value) (p : Parameters) :
    (p.compile context).value = (p.compile other).value := by
  rw [compile_eq, compile_eq, h]

theorem Context.memberships_congr {context other : Context} {user : UserId}
    (hcontext : context.viewer = .user user) (hother : other.viewer = .user user)
    (h : context.directory.groupsOf user = other.directory.groupsOf user) :
    context.memberships.value = other.memberships.value := by
  rw [memberships_eq, memberships_eq, hcontext, hother]
  simp only [Viewer.user?, Option.map_some]
  rw [groupsOf_eq, groupsOf_eq, h]

/-! ## §4. Both stages. -/

/-- **Each stage depends on what it asks for.** Normalizing yields the same parameters in two
contexts that look alike to the request. So it never depends on who is logged in, on memberships, or
on what a directory lists under a number. Compiling yields the same fragments for a user in two
contexts whose directories list the same groups for that user, and for an anonymous viewer in any
two contexts. -/
theorem stages_independent :
    (∀ (context other : Context) (request : Request), context.AlikeFor other request →
        ∀ (existing : Parameters) (settings : Settings),
          (existing.normalize request context settings).value =
            (existing.normalize request other settings).value)
      ∧ (∀ (context : Context) (viewer : Viewer) (directory : Directory),
          viewer.isUser = context.viewer.isUser →
          (∀ slug : String, Numeral.isNumeral slug.toList = false →
            directory.groupOf slug = context.directory.groupOf slug) →
          ∀ (existing : Parameters) (request : Request) (settings : Settings),
            (existing.normalize request { context with viewer, directory } settings).value =
              (existing.normalize request context settings).value)
      ∧ (∀ (context other : Context) (user : UserId), context.viewer = .user user →
          other.viewer = .user user →
          context.directory.groupsOf user = other.directory.groupsOf user →
          ∀ p : Parameters, (p.compile context).value = (p.compile other).value)
      ∧ ∀ context other : Context, context.viewer = .anonymous → other.viewer = .anonymous →
          ∀ p : Parameters, (p.compile context).value = (p.compile other).value := by
  refine ⟨?_, ?_, ?_, ?_⟩
  · intro context other request h existing settings
    exact h.value_normalize existing settings
  · intro context viewer directory hviewer hslugs existing request settings
    have halike := Context.alikeFor_of_not_isNumeral hviewer hslugs request
    exact (halike.value_normalize existing settings).symm
  · intro context other user hcontext hother hgroups p
    exact p.value_compile_congr (Context.memberships_congr hcontext hother hgroups)
  · intro context other hcontext hother p
    apply p.value_compile_congr
    rw [Context.memberships_eq, Context.memberships_eq, hcontext, hother]
    rfl

/-- Two users under directories that agree on `chess`, and on the groups of the second user. One of
them lists a group under the number 5, and they fail to answer where the other does not. -/
theorem stages_independent_of_two_users :
    let first : Directory :=
      { groupOf := fun slug => .ok (if slug = "5" then some 90 else some 12)
        groupsOf := fun _ => .ok [12, 14] }
    let second : Directory :=
      { groupOf := fun slug => if slug = "chess" then .ok (some 12) else .error ⟨"offline"⟩
        groupsOf := fun user => .ok (if user = 8 then [12, 14] else []) }
    let third : Directory :=
      { groupOf := fun slug => .ok (if Numeral.isNumeral slug.toList then none else some 12)
        groupsOf := fun _ => .error ⟨"offline"⟩ }
    let request : Request := { expression := some (.text "5,-7,chess") }
    let p : Parameters := { group := some .my }
    ((Parameters.normalize {} request ⟨.user 3, some 0, first⟩ {}).value =
        (Parameters.normalize {} request ⟨.user 8, none, second⟩ {}).value)
      ∧ ((Parameters.normalize {} request ⟨.user 3, none, first⟩ {}).value =
          (Parameters.normalize {} request ⟨.user 8, none, third⟩ {}).value)
      ∧ ((p.compile ⟨.user 8, some 5, first⟩).value = (p.compile ⟨.user 8, none, second⟩).value)
      ∧ (p.compile ⟨.anonymous, none, first⟩).value =
          (p.compile ⟨.anonymous, none, second⟩).value := by
  intro first second third request p
  obtain ⟨hnormalize, hnumeral, hcompile, hanonymous⟩ := stages_independent
  refine ⟨?_, ?_, ?_, ?_⟩
  · have halike : Context.AlikeFor ⟨.user 3, some 0, first⟩ ⟨.user 8, none, second⟩ request := by
      refine ⟨rfl, rfl, ?_⟩
      have hslugs : request.slugs ⟨.user 3, some 0, first⟩ = ["chess"] := by decide +kernel
      rw [hslugs]
      intro slug hslug
      rw [List.mem_singleton.mp hslug]
      rfl
    exact hnormalize _ _ _ halike {} {}
  · refine (hnumeral ⟨.user 3, none, first⟩ (.user 8) third rfl ?_ {} request {}).symm
    intro slug hslug
    have hne : slug ≠ "5" := by
      rintro rfl
      revert hslug
      decide
    show Except.ok _ = Except.ok _
    rw [hslug, if_neg hne]
    rfl
  · exact hcompile _ _ 8 rfl rfl rfl p
  · exact hanonymous _ _ rfl rfl p

end GroupScope
