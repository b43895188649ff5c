import GroupScope.Proofs.Number.Digits
/-!
# One meaning for three shapes

An expression may be a text, one number, or a list of items. A number means what its decimal text
means, and a list means what the text means that has its items between commas:

    n               as   "n"
    [a, b, c]       as   "a,b,c"

A list holds no keywords, so its text must not be one. Nor may cleaning do more to an item than
trimming it: only a text is cleaned as a whole, while the items of a list are merely trimmed. The
main statement is `shapes_agree`.
-/

namespace GroupScope

/-! ## §1. Pieces that are trimmed alike. -/

theorem Item.ofChars?_trim (piece : List Char) :
    Item.ofChars? (Text.trim piece) = Item.ofChars? piece := by
  unfold ofChars?
  rw [Text.trim_trim]

/-- **An item is known from its trimmed piece.** -/
theorem Item.ofPieces_map_trim (pieces : List (List Char)) :
    Item.ofPieces (pieces.map Text.trim) = Item.ofPieces pieces := by
  unfold ofPieces
  rw [List.filterMap_map]
  exact congrArg (List.filterMap · pieces) (funext ofChars?_trim)

/-- A cleaned text has the cleaned pieces of the text, but for blanks at their ends. -/
theorem Text.map_trim_pieces_clean (text : List Char) :
    (splitBy (· == ',') (clean text)).map trim = (splitBy (· == ',') text).map clean := by
  apply map_trim_splitBy_clean
  · intro c hc
    rw [beq_iff_eq.mp hc]
    decide
  · intro c hc
    rw [beq_iff_eq.mp hc]
    decide

/-- A cleaned text has the items of its cleaned pieces. -/
theorem Item.ofText_clean (text : List Char) :
    Item.ofText (Text.clean text) =
      Item.ofPieces ((Text.splitBy (· == ',') text).map Text.clean) := by
  unfold ofText
  rw [← ofPieces_map_trim, Text.map_trim_pieces_clean]

/-! ## §2. Keywords. -/

/-- The text is a keyword, and its condition holds in the context. -/
def IsShortcut (text : List Char) (context : Context) : Prop :=
  text = ['0'] ∨ text = ['t', 'h', 'i', 's'] ∧ context.currentGroup.isSome = true
    ∨ text = ['m', 'y'] ∧ context.viewer.isUser = true

/-- A text has a resolution of its own just when it is such a keyword. -/
theorem keywordResolution?_eq_none_iff {text : List Char} {context : Context}
    {native : NativeLists} :
    keywordResolution? text context native = none ↔ ¬IsShortcut text context := by
  unfold keywordResolution? Keyword.ofChars? IsShortcut
  split
  next hthis =>
    subst hthis
    cases h : context.currentGroup <;> simp [Keyword.resolve?, h]
  next hthis =>
    split
    next hmy =>
      subst hmy
      cases h : context.viewer.isUser <;> simp [Keyword.resolve?, h]
    next hmy =>
      split
      next hzero => simp [Keyword.resolve?, hzero]
      next hzero => simp [hthis, hmy, hzero]

/-- A text that is no keyword is resolved item by item. -/
theorem Expression.resolve_text {text : String} {context : Context}
    (h : ¬IsShortcut (Text.clean text.toList) context) (native : NativeLists) :
    (Expression.text text).resolve context native =
      Resolution.ofItems (Item.ofText (Text.clean text.toList)) context native := by
  unfold resolve
  simp only [keywordResolution?_eq_none_iff.mpr h]

/-! ## §3. Numbers. -/

/-- A decimal text has digits and hyphens only. -/
theorem isDigit_of_mem_decimalText {value : Int64} {c : Char} (h : c ∈ (decimalText value).toList) :
    c.isDigit = true ∨ c = '-' := by
  by_cases hd : c.isDigit = true
  · exact .inl hd
  · refine .inr (Decidable.byContradiction fun hs => ?_)
    exact Int.letter_not_mem_toString (by simpa using hd) hs value.toInt h

theorem isBlank_of_mem_decimalText {value : Int64} {c : Char}
    (h : c ∈ (decimalText value).toList) : Text.isBlank c = false := by
  rcases isDigit_of_mem_decimalText h with hd | rfl
  · exact Text.isBlank_of_isDigit hd
  · decide

theorem isControl_of_mem_decimalText {value : Int64} {c : Char}
    (h : c ∈ (decimalText value).toList) : Text.isControl c = false := by
  rcases isDigit_of_mem_decimalText h with hd | rfl
  · exact Text.isControl_of_isDigit hd
  · decide

theorem clean_decimalText (value : Int64) :
    Text.clean (decimalText value).toList = (decimalText value).toList :=
  Text.clean_eq_self (fun _ => isBlank_of_mem_decimalText) (fun _ => isControl_of_mem_decimalText)

/-- Only zero is written `0`. -/
theorem eq_zero_of_decimalText {value : Int64} (h : (decimalText value).toList = ['0']) :
    value = 0 := by
  have hzero : value.toInt = 0 := by
    unfold decimalText at h
    cases hvalue : value.toInt with
    | ofNat n =>
      rw [hvalue] at h
      have hdigits : Nat.toDigits 10 n = ['0'] := by
        rw [← Nat.toList_repr]
        exact h
      have hn : Numeral.digitsValue (Nat.toDigits 10 n) = n := Nat.ofDigitChars_ten_toDigits
      rw [hdigits] at hn
      rw [← hn]
      rfl
    | negSucc n =>
      -- A negative number is written with a hyphen in front.
      rw [hvalue] at h
      have hhead : ("-" ++ Nat.repr (n + 1)).toList = ['0'] := h
      rw [String.toList_append] at hhead
      injection hhead with hhead
      exact absurd hhead (by decide)
  exact Int64.toInt_inj.mp hzero

/-- The text of a number other than zero is no keyword. -/
theorem not_isShortcut_decimalText {value : Int64} (h : value ≠ 0) (context : Context) :
    ¬IsShortcut (decimalText value).toList context := by
  have hletter : ∀ c : Char, c.isDigit = false → c ≠ '-' → c ∉ (decimalText value).toList :=
    fun c hd hs => Int.letter_not_mem_toString hd hs value.toInt
  rintro (hzero | ⟨hthis, -⟩ | ⟨hmy, -⟩)
  · exact h (eq_zero_of_decimalText hzero)
  · have ht : 't' ∉ (decimalText value).toList := hletter 't' rfl (by decide)
    rw [hthis] at ht
    exact ht List.mem_cons_self
  · have hm : 'm' ∉ (decimalText value).toList := hletter 'm' rfl (by decide)
    rw [hmy] at hm
    exact hm List.mem_cons_self

/-- **A number means what its decimal text means.** Zero alone is a keyword, with the same meaning.
-/
theorem Expression.value_resolve_integer (value : Int64) (context : Context)
    (native : NativeLists) :
    ((Expression.integer value).resolve context native).value =
      ((Expression.text (decimalText value)).resolve context native).value := by
  by_cases hzero : value = 0
  · subst hzero
    rfl
  · -- Both are resolved from the same items, as the text is clean and no keyword.
    have hshortcut : ¬IsShortcut (Text.clean (decimalText value).toList) context := by
      rw [clean_decimalText]
      exact not_isShortcut_decimalText hzero context
    rw [resolve_text hshortcut, clean_decimalText]
    show (if value = 0 then _ else _ : Logged Resolution).value = _
    rw [if_neg hzero]

/-! ## §4. Lists. -/

/-- The item is an integer, or a text without commas that cleaning only trims. -/
def ListItem.IsPlain : ListItem → Prop
  | .text s => ',' ∉ s.toList ∧ Text.clean s.toList = Text.trim s.toList
  | .integer _ => True

theorem ListItem.IsPlain.comma_not_mem {item : ListItem} (h : item.IsPlain) :
    ',' ∉ item.itemText.toList := by
  cases item with
  | text text => exact h.1
  | integer value => exact Int.letter_not_mem_toString rfl (by decide) value.toInt

theorem ListItem.IsPlain.clean_eq_trim {item : ListItem} (h : item.IsPlain) :
    Text.clean item.itemText.toList = Text.trim item.itemText.toList := by
  cases item with
  | text text => exact h.2
  | integer value =>
    show Text.clean (decimalText value).toList = Text.trim (decimalText value).toList
    rw [clean_decimalText, Text.trim_eq_self fun _ => isBlank_of_mem_decimalText]

/-- **The items of a list are those of its joined text.** -/
theorem Item.ofText_clean_join {items : List ListItem} (h : ∀ item ∈ items, item.IsPlain) :
    Item.ofText (Text.clean (String.intercalate "," (items.map ListItem.itemText)).toList) =
      Item.ofPieces (items.map fun item => item.itemText.toList) := by
  have hjoined : (String.intercalate "," (items.map ListItem.itemText)).toList =
      Text.join [','] (items.map fun item => item.itemText.toList) := by
    rw [String.toList_intercalate, List.map_map]
    rfl
  rw [hjoined, ofText_clean]
  by_cases hne : items = []
  · -- The empty text has one piece, and it is blank.
    subst hne
    rfl
  · have hcomma : ∀ piece ∈ items.map fun item => item.itemText.toList, ',' ∉ piece := by
      intro piece hpiece
      obtain ⟨item, hitem, rfl⟩ := List.mem_map.mp hpiece
      exact (h item hitem).comma_not_mem
    have hclean : (items.map fun item => item.itemText.toList).map Text.clean =
        (items.map fun item => item.itemText.toList).map Text.trim := by
      rw [List.map_map, List.map_map]
      exact List.map_congr_left fun item hitem => (h item hitem).clean_eq_trim
    rw [Text.splitBy_join (by simpa using hne) hcomma, hclean, ofPieces_map_trim]

/-! ## §5. All shapes. -/

/-- **The three shapes agree.** In any context, under any settings and beside any native lists, a
number resolves to the same as its decimal text. So does a list of numbers and texts as its items
between commas, provided that the texts hold no commas, that cleaning does no more to them than
trimming, and that the joined text is not a keyword whose condition holds; even the events are the
same then. -/
theorem shapes_agree (native : NativeLists) (context : Context) (settings : Settings) :
    (∀ value : Int64,
        (resolve (some (.integer value)) native context settings).value =
          (resolve (some (.text (decimalText value))) native context settings).value)
      ∧ ∀ items : List ListItem, (∀ item ∈ items, item.IsPlain) →
          let joined := String.intercalate "," (items.map ListItem.itemText)
          ¬IsShortcut (Text.clean joined.toList) context →
            resolve (some (.list items)) native context settings =
              resolve (some (.text joined)) native context settings := by
  constructor
  · intro value
    unfold resolve
    cases settings.groupsEnabled with
    | false => rfl
    | true => exact Expression.value_resolve_integer value context native
  · intro items hplain joined hshortcut
    unfold resolve
    cases settings.groupsEnabled with
    | false => rfl
    | true =>
      show (Expression.list items).resolve context native =
        (Expression.text joined).resolve context native
      rw [Expression.resolve_text hshortcut, Item.ofText_clean_join hplain]
      rfl

/-- A slug between blanks, a number to exclude, and a word that is a keyword only by itself. -/
theorem shapes_agree_of_mixed_list :
    let directory : Directory :=
      { groupOf := fun slug => .ok (if slug = "red team" then some 4 else none)
        groupsOf := fun _ => .ok [] }
    let context : Context := { viewer := .anonymous, page := some 9, directory }
    let items : List ListItem := [.text " red team\t", .integer (-7), .text "this"]
    let resolution : Resolution := { included := [4], excluded := [7], dropped := ["this"] }
    (∀ item ∈ items, item.IsPlain)
      ∧ (resolve (some (.list items)) {} context {}).value = resolution
      ∧ (resolve (some (.text " red team\t,-7,this")) {} context {}).value = resolution := by
  intro directory context items resolution
  have hplain : ∀ item ∈ items, item.IsPlain := by
    intro item hitem
    rcases List.mem_cons.mp hitem with rfl | hitem
    · exact ⟨by decide, by decide⟩
    rcases List.mem_cons.mp hitem with rfl | hitem
    · trivial
    · rw [List.mem_singleton.mp hitem]
      exact ⟨by decide, by decide⟩
  have hlist : (resolve (some (.list items)) {} context {}).value = resolution := by rfl
  have hshortcut : ¬IsShortcut (Text.clean " red team\t,-7,this".toList) context := by
    rintro (h | ⟨h, -⟩ | ⟨h, -⟩) <;> exact absurd h (by decide)
  have hsame := (shapes_agree {} context {}).2 items hplain hshortcut
  refine ⟨hplain, hlist, ?_⟩
  rw [← hlist, hsame]
  rfl

end GroupScope
