import Mathlib.Data.List.Basic
import GroupScope.Proofs.Number.Digits
import GroupScope.Proofs.Resolution.Pieces
/-!
# Expressions and native lists read numbers alike

One text may be given as an expression or as a native list. An expression is cleaned as a whole, cut
at commas, and looked at item by item: a hyphen excludes, and what is no number is a slug. A native
list is cut at once, and what is no number becomes zero. If no slug has a group, both keep the same
numbers of the text, in the same order:

    ids that the expression includes  =  ids of the list without the zeros

Both sides are collected here from the trimmed pieces of the text. Control characters that are not
blank are left out: cleaning removes them, and may make a number of what was none before.
-/

namespace GroupScope

/-! ## §1. The number in a text. -/

/-- The id that a text names as a number. -/
def Numeral.idOf? (text : List Char) : Option GroupId :=
  if isNumeral text then groupId? text else none

namespace Numeral

theorem idOf?_of_blank {text : List Char} (h : ∃ c ∈ text, Text.isBlank c = true) :
    idOf? text = none := by
  obtain ⟨c, hc, hblank⟩ := h
  refine if_neg fun hnumeral => ?_
  rw [isBlank_of_mem_numeral hnumeral hc] at hblank
  cases hblank

/-- With a hyphen in front, no number names an id. -/
theorem idOf?_hyphen (rest : List Char) : idOf? ('-' :: rest) = none := by
  have hnegative : (decimal ('-' :: rest)).negative = true := rfl
  unfold idOf?
  split
  next hnumeral =>
    rw [Option.eq_none_iff_forall_ne_some]
    intro id hid
    rw [(isPositive_of_groupId? hnumeral hid).2.1] at hnegative
    cases hnegative
  next => rfl

theorem idOf?_ne_zero {text : List Char} {id : GroupId} (h : idOf? text = some id) : id ≠ 0 := by
  unfold idOf? at h
  split at h
  next =>
    obtain ⟨n, hn⟩ := ofNat?_of_groupId? h
    obtain ⟨hid, hpos, -⟩ := GroupId.toNat_of_ofNat? hn
    rintro rfl
    rw [← hid] at hpos
    exact absurd hpos (Nat.lt_irrefl 0)
  next => cases h

/-- Squeezing makes no difference to the number in a text that trimming would not make. -/
theorem idOf?_squeeze (text : List Char) : idOf? (Text.squeeze text) = idOf? (Text.trim text) := by
  rcases Text.squeeze_eq_trim_or text with heq | ⟨hsqueezed, htrimmed⟩
  · rw [heq]
  · rw [idOf?_of_blank hsqueezed, idOf?_of_blank htrimmed]

end Numeral

/-! ## §2. The numbers of a native list. -/

namespace IdList

theorem idOfChars_eq_getD (text : List Char) :
    idOfChars text = (Numeral.idOf? (Text.trim text)).getD 0 := by
  unfold idOfChars Numeral.idOf?
  simp only
  split <;> rfl

/-- **The list without its zeros** is collected from the pieces of the text. -/
theorem filter_map_idOfChars (text : List Char) :
    ((pieces text).map idOfChars).filter (· ≠ 0) =
      (Text.splitBy (· == ',') text).filterMap fun piece => Numeral.idOf? (Text.trim piece) := by
  unfold pieces
  rw [List.filter_map, List.filter_filter, ← List.filterMap_eq_map, List.filterMap_filter]
  refine List.filterMap_congr fun piece _ => ?_
  simp only [Function.comp_apply, idOfChars_eq_getD]
  -- A blank piece is left out, and any other is read as zero just when it names no id.
  by_cases hblank : Text.trim piece = []
  · rw [hblank]
    rfl
  · cases hid : Numeral.idOf? (Text.trim piece) with
    | none => simp
    | some id => simp [hblank, Numeral.idOf?_ne_zero hid]

end IdList

/-! ## §3. The numbers of an expression. -/

section

variable {context : Context}
  (hslugs : ∀ slug id, context.directory.groupOf slug ≠ .ok (some id))

include hslugs

/-- An item names a group only as a number. -/
theorem Item.value_resolve_eq_idOf? {item : Item} {value : List Char}
    (hr : item.reference = .ofChars value) :
    (item.resolve context).value = Numeral.idOf? value := by
  unfold resolve
  rw [hr]
  unfold Reference.ofChars Numeral.idOf?
  by_cases hnumeral : Numeral.isNumeral value = true
  · rw [if_pos hnumeral, if_pos hnumeral]
    rfl
  · rw [if_neg hnumeral, if_neg hnumeral]
    simp only
    split
    · rfl
    · rw [Option.eq_none_iff_forall_ne_some]
      intro id hid
      exact hslugs _ id (Context.resolveSlug_eq_some_iff.mp hid).1

/-- What a piece adds to the included ids is the number that it names. -/
theorem Item.includedId?_of_ofChars? (piece : List Char) :
    (Item.ofChars? piece).bind (includedId? · context) = Numeral.idOf? (Text.trim piece) := by
  unfold ofChars?
  simp only
  split
  next hskipped =>
    -- What stands for nothing names no id either.
    rw [Option.bind_none]
    rcases hskipped with hskipped | hskipped <;> rw [hskipped] <;> decide
  next =>
    unfold splitHyphen
    split
    next rest hrest => rw [hrest, Numeral.idOf?_hyphen]; rfl
    next => exact value_resolve_eq_idOf? hslugs rfl

/-- **The included ids of an expression** are collected from the pieces of its text. -/
theorem Item.filterMap_includedId?_ofText {text : List Char}
    (hkept : ∀ c ∈ text, Text.isKept c = true) :
    (Item.ofText (Text.clean text)).filterMap (includedId? · context) =
      (Text.splitBy (· == ',') text).filterMap fun piece => Numeral.idOf? (Text.trim piece) := by
  have hpieces : (Text.splitBy (· == ',') (Text.squeeze text)).map Text.trim =
      (Text.splitBy (· == ',') text).map Text.squeeze := by
    refine Text.map_trim_splitBy_squeeze (fun c hc => ?_) text
    rw [beq_iff_eq.mp hc]
    decide
  rw [ofText, Text.clean_eq_squeeze_of_isKept hkept, ← ofPieces_map_trim, hpieces, ofPieces,
    List.filterMap_map, List.filterMap_filterMap]
  -- Piece by piece now: the squeezed piece names the number that the trimmed one does.
  refine List.filterMap_congr fun piece _ => ?_
  rw [Function.comp_apply, includedId?_of_ofChars? hslugs, Text.trim_squeeze,
    Numeral.idOf?_squeeze]

end

/-- The only keyword for a viewer who is nobody and comes from no group's page is `0`. -/
theorem IsShortcut.eq_zero {text : List Char} {context : Context} (h : IsShortcut text context)
    (hviewer : context.viewer = .anonymous) (hpage : context.currentGroup = none) :
    text = ['0'] := by
  rcases h with hzero | ⟨-, hthis⟩ | ⟨-, hmy⟩
  · exact hzero
  · rw [hpage] at hthis
    cases hthis
  · rw [hviewer] at hmy
    cases hmy

/-! ## §4. Both readings. -/

/-- **Expressions and native lists read numbers alike.** Let groups be switched on, and let nobody
be logged in, no group's page be open and no slug have a group. Of a text whose control characters
are all blank, the expression includes exactly the ids other than zero that the native list has, in
the same order and as often. -/
theorem numbers_read_alike (text : String) (native : NativeLists) (context : Context)
    (settings : Settings) (hon : settings.groupsEnabled = true)
    (hcontrol : ∀ c ∈ text.toList, Text.isControl c = true → Text.isBlank c = true)
    (hviewer : context.viewer = .anonymous) (hpage : context.currentGroup = none)
    (hslugs : ∀ slug id, context.directory.groupOf slug ≠ .ok (some id)) :
    ∃ ids, IdList.ofJson? (.string text) = .ok (some ids)
      ∧ (resolve (some (.text text)) native context settings).value.included =
          ids.filter (· ≠ 0) := by
  refine ⟨_, rfl, ?_⟩
  have hkept : ∀ c ∈ text.toList, Text.isKept c = true :=
    fun c hc => Text.isKept_iff.mpr (hcontrol c hc)
  have hitems := Item.filterMap_includedId?_ofText hslugs hkept
  rw [IdList.filter_map_idOfChars, ← hitems]
  by_cases hshortcut : IsShortcut (Text.clean text.toList) context
  · -- The keyword `0` includes nothing, and as an item it would stand for nothing.
    have hzero := hshortcut.eq_zero hviewer hpage
    unfold resolve Expression.resolve
    simp only [hon, if_true, hzero]
    rfl
  · rw [(collects_resolve_text native hon hshortcut).included, List.filterMap_eq_flatMap_toList]

/-- Blanks around numbers and inside one, a sign, an exponent and a fraction, a hyphen in front, a
zero, an empty piece and a word. -/
theorem numbers_read_alike_in_untidy_text :
    let directory : Directory := { groupOf := fun _ => .ok none, groupsOf := fun _ => .ok [] }
    let context : Context := { viewer := .anonymous, page := some 0, directory }
    let text := "5,\t+5e0\u0085,-7, 0,,my,1 2, 12.9"
    IdList.ofJson? (.string text) = .ok (some [5, 5, 0, 0, 0, 0, 12])
      ∧ (resolve (some (.text text)) {} context {}).value.included = [5, 5, 12] := by
  intro directory context text
  have hnative : (IdList.pieces text.toList).map IdList.idOfChars = [5, 5, 0, 0, 0, 0, 12] := by
    decide +kernel
  have hlist : IdList.ofJson? (.string text) = .ok (some [5, 5, 0, 0, 0, 0, 12]) :=
    congrArg (fun ids => Except.ok (some ids)) hnative
  have hcontrols : text.toList.filter Text.isControl = ['\t', '\u0085'] := by decide +kernel
  have hcontrol : ∀ c ∈ text.toList, Text.isControl c = true → Text.isBlank c = true := by
    intro c hc hcontrol
    have hmem : c ∈ ['\t', '\u0085'] := hcontrols ▸ List.mem_filter.mpr ⟨hc, hcontrol⟩
    simp only [List.mem_cons, List.not_mem_nil, or_false] at hmem
    rcases hmem with rfl | rfl <;> decide
  obtain ⟨ids, hids, hincluded⟩ :=
    numbers_read_alike text {} context {} rfl hcontrol rfl rfl fun _ _ => nofun
  rw [hlist] at hids
  cases hids
  exact ⟨hlist, hincluded⟩

end GroupScope
