import GroupScope.Directory.Table
import GroupScope.Proofs.Text.ByteOrder
import GroupScope.Proofs.Text.EditDistance
/-!
# The first of the closest slugs

A slug is suggested for a text if it is as close to the text as any slug, the first in order of
those that are, and neither too far away nor the text itself:

    suggest query = some slug   ↔   slug is the first closest,  1 ≤ distance ≤ 3

Letter case does not count, the empty slug is no slug, and the order is that of the bytes. Only the
least distance is held against the bounds, so a slug at distance zero leaves nothing to suggest even
if another one is near. The main statement is `suggest_first_closest`.
-/

namespace GroupScope.DirectoryTable

/-! ## §1. The first closest. -/

/-- No slug is closer to the query, and those before this one are farther away. -/
structure IsFirstClosest (query : String) (slugs : List String) (slug : String) : Prop where
  mem : slug ∈ slugs
  least : ∀ other ∈ slugs, distance query slug ≤ distance query other
  first : ∀ other ∈ slugs, other < slug → distance query slug < distance query other

variable {query slug : String} {slugs : List String}

theorem IsFirstClosest.unique {other : String} (h : IsFirstClosest query slugs slug)
    (hother : IsFirstClosest query slugs other) : slug = other := by
  -- Of two different ones, the later would have to be closer than the earlier.
  have hnot : ¬slug < other := fun hlt =>
    Nat.not_lt.mpr (h.least other hother.mem) (hother.first slug h.mem hlt)
  have hnot' : ¬other < slug := fun hlt =>
    Nat.not_lt.mpr (hother.least slug h.mem) (h.first other hother.mem hlt)
  exact String.le_antisymm (String.not_lt.mp hnot') (String.not_lt.mp hnot)

theorem closest_eq_none_iff : closest query slugs = none ↔ slugs = [] := by
  cases slugs with
  | nil => simp [closest]
  | cons first rest =>
    unfold closest
    cases closest query rest with
    | none => simp
    | some found =>
      simp only
      split <;> simp

/-- Of sorted slugs, the first closest is found, with its distance. -/
theorem isFirstClosest_of_closest {least : Nat} (hsorted : slugs.Pairwise (· < ·))
    (h : closest query slugs = some (slug, least)) :
    IsFirstClosest query slugs slug ∧ least = distance query slug := by
  -- The first slug wins a tie, so it has to be compared with the best of the rest alone.
  induction slugs generalizing slug least with
  | nil => cases h
  | cons first rest ih =>
    obtain ⟨hbefore, hrest⟩ := List.pairwise_cons.mp hsorted
    have hnone : ∀ other ∈ first :: rest, ¬other < first := by
      intro other hother hlt
      rcases List.mem_cons.mp hother with rfl | hother
      · exact String.lt_irrefl _ hlt
      · exact String.lt_irrefl _ (String.lt_trans hlt (hbefore other hother))
    unfold closest at h
    simp only at h
    cases hclosest : closest query rest with
    | none =>
      rw [hclosest] at h
      obtain ⟨rfl, rfl⟩ : first = slug ∧ distance query first = least := by simpa using h
      rw [closest_eq_none_iff.mp hclosest] at hnone ⊢
      refine ⟨⟨List.mem_cons_self, ?_, ?_⟩, rfl⟩
      · intro other hother
        rw [List.mem_singleton.mp hother]
      · intro other hother hlt
        exact absurd hlt (hnone other hother)
    | some found =>
      obtain ⟨best, bestDistance⟩ := found
      obtain ⟨hbest, rfl⟩ := ih hrest hclosest
      rw [hclosest] at h
      simp only at h
      split at h
      next hle =>
        obtain ⟨rfl, rfl⟩ : first = slug ∧ distance query first = least := by simpa using h
        refine ⟨⟨List.mem_cons_self, ?_, ?_⟩, rfl⟩
        · intro other hother
          rcases List.mem_cons.mp hother with rfl | hother
          · exact Nat.le_refl _
          · exact Nat.le_trans hle (hbest.least other hother)
        · intro other hother hlt
          exact absurd hlt (hnone other hother)
      next hfar =>
        obtain ⟨rfl, rfl⟩ : best = slug ∧ distance query best = least := by simpa using h
        refine ⟨⟨List.mem_cons_of_mem first hbest.mem, ?_, ?_⟩, rfl⟩
        · intro other hother
          rcases List.mem_cons.mp hother with rfl | hother
          · exact Nat.le_of_lt (Nat.not_le.mp hfar)
          · exact hbest.least other hother
        · intro other hother hlt
          rcases List.mem_cons.mp hother with rfl | hother
          · exact Nat.not_le.mp hfar
          · exact hbest.first other hother hlt

/-- Where there are slugs, one of them is the first closest. -/
theorem exists_closest (hsorted : slugs.Pairwise (· < ·)) (hne : slugs ≠ []) :
    ∃ best, closest query slugs = some (best, distance query best)
      ∧ IsFirstClosest query slugs best := by
  cases h : closest query slugs with
  | none => exact absurd (closest_eq_none_iff.mp h) hne
  | some found =>
    obtain ⟨best, least⟩ := found
    obtain ⟨hbest, rfl⟩ := isFirstClosest_of_closest hsorted h
    exact ⟨best, rfl, hbest⟩

/-! ## §2. Suggestions. -/

variable {table : DirectoryTable}

theorem mem_slugs_iff : slug ∈ table.slugs ↔ slug ∈ table.groups.names ∧ slug ≠ "" := by
  simp [slugs]

theorem pairwise_slugs (table : DirectoryTable) : table.slugs.Pairwise (· < ·) :=
  table.groups.pairwise_names.filter _

/-- **What is suggested** is the first closest slug, if its distance lies within the bounds. -/
theorem suggest_eq_some_iff :
    table.suggest query = some slug ↔
      IsFirstClosest query table.slugs slug ∧ 0 < distance query slug
        ∧ distance query slug ≤ maxDistance := by
  unfold suggest
  by_cases hne : table.slugs = []
  · rw [closest_eq_none_iff.mpr hne]
    constructor
    · nofun
    · rintro ⟨h, -⟩
      have hmem := h.mem
      rw [hne] at hmem
      cases hmem
  · obtain ⟨best, hclosest, hbest⟩ := exists_closest table.pairwise_slugs hne
    rw [hclosest]
    simp only
    constructor
    · intro h
      split at h
      next hbounds =>
        injection h with h
        rw [← h]
        exact ⟨hbest, hbounds⟩
      next => cases h
    · rintro ⟨h, hbounds⟩
      rw [hbest.unique h, if_pos hbounds]

/-- **Nothing is suggested** if there is no slug, if one is the query but for letter case, or if all
are too far away. -/
theorem suggest_eq_none_iff :
    table.suggest query = none ↔
      table.slugs = [] ∨ (∃ slug ∈ table.slugs, distance query slug = 0)
        ∨ ∀ slug ∈ table.slugs, maxDistance < distance query slug := by
  by_cases hne : table.slugs = []
  · have hnone : table.suggest query = none := by
      unfold suggest
      rw [closest_eq_none_iff.mpr hne]
    exact iff_of_true hnone (.inl hne)
  · obtain ⟨best, hclosest, hbest⟩ := exists_closest table.pairwise_slugs hne
    have hzero : (∃ slug ∈ table.slugs, distance query slug = 0) ↔ distance query best = 0 := by
      constructor
      · rintro ⟨slug, hslug, h⟩
        exact Nat.le_zero.mp (h ▸ hbest.least slug hslug)
      · intro h
        exact ⟨best, hbest.mem, h⟩
    have hfar : (∀ slug ∈ table.slugs, maxDistance < distance query slug) ↔
        maxDistance < distance query best := by
      constructor
      · intro h
        exact h best hbest.mem
      · intro h slug hslug
        exact Nat.lt_of_lt_of_le h (hbest.least slug hslug)
    rw [hzero, hfar]
    unfold suggest
    rw [hclosest]
    simp only [ite_eq_right_iff, reduceCtorEq, imp_false, hne, false_or]
    omega

/-- Texts at no distance differ in letter case at most. -/
theorem distance_eq_zero_iff :
    distance query slug = 0 ↔ Text.lowercase query.toList = Text.lowercase slug.toList :=
  Text.editDistance_eq_zero_iff

/-- Something is suggested if a slug is near and none is the query but for letter case. -/
theorem suggest_ne_none_iff :
    table.suggest query ≠ none ↔
      (∀ slug ∈ table.slugs, Text.lowercase query.toList ≠ Text.lowercase slug.toList)
        ∧ ∃ slug ∈ table.slugs, distance query slug ≤ maxDistance := by
  rw [ne_eq, suggest_eq_none_iff]
  simp only [distance_eq_zero_iff]
  constructor
  · intro h
    simp only [not_or, not_exists, not_and, not_forall, Nat.not_lt, exists_prop] at h
    exact h.2
  · rintro ⟨hzero, slug, hslug, hnear⟩ (hnone | ⟨other, hother, hsame⟩ | hfar)
    · rw [hnone] at hslug
      cases hslug
    · exact hzero other hother hsame
    · exact Nat.not_lt.mpr hnear (hfar slug hslug)

/-- Distances are counted in edits of the two texts in lower case. -/
theorem isLeast_distance (query slug : String) :
    IsLeast {n | Text.EditedIn n (Text.lowercase query.toList) (Text.lowercase slug.toList)}
      (distance query slug) :=
  Text.isLeast_editDistance _ _

/-- **The suggestion is the first closest slug.** The distance of a slug is the least number of
single characters to insert, delete or replace that turn the query into it, both in lower case. A
slug is suggested if and only if it is a slug of the directory, not empty, at a distance from one to
three, with no slug nearer, and every slug before it in order of the UTF-8 bytes farther away. So
nothing is suggested exactly if there are no slugs but the empty one, if the least distance is zero,
or if it is more than three. -/
theorem suggest_first_closest (table : DirectoryTable) (query : String) :
    let slugs := table.groups.names.filter (· ≠ "")
    (∀ slug, IsLeast
        {n | Text.EditedIn n (Text.lowercase query.toList) (Text.lowercase slug.toList)}
        (distance query slug))
      ∧ (∀ slug, table.suggest query = some slug ↔
          slug ∈ slugs ∧ 1 ≤ distance query slug ∧ distance query slug ≤ 3
            ∧ (∀ other ∈ slugs, distance query slug ≤ distance query other)
            ∧ ∀ other ∈ slugs, Text.utf8Bytes other < Text.utf8Bytes slug →
                distance query slug < distance query other)
      ∧ (table.suggest query = none ↔
          slugs = [] ∨ (∃ slug ∈ slugs, distance query slug = 0)
            ∨ ∀ slug ∈ slugs, 3 < distance query slug) := by
  intro slugs
  have hslugs : slugs = table.slugs := by
    apply List.filter_congr
    intro slug _
    rw [Bool.eq_iff_iff]
    simp
  rw [hslugs]
  refine ⟨isLeast_distance query, ?_, suggest_eq_none_iff⟩
  intro slug
  rw [suggest_eq_some_iff]
  constructor
  · rintro ⟨h, hpos, hle⟩
    refine ⟨h.mem, hpos, hle, h.least, ?_⟩
    intro other hother hlt
    exact h.first other hother ((Text.lt_iff_utf8Bytes_lt other slug).mpr hlt)
  · rintro ⟨hmem, hpos, hle, hleast, hfirst⟩
    refine ⟨⟨hmem, hleast, ?_⟩, hpos, hle⟩
    intro other hother hlt
    exact hfirst other hother ((Text.lt_iff_utf8Bytes_lt other slug).mp hlt)

/-- Three slugs are one edit away, and the capital comes first. -/
example :
    suggest { groups := .ofList [("bat", 1), ("Cat", 2), ("mat", 3)] } "hat" = some "Cat" := by
  decide +kernel

end GroupScope.DirectoryTable
