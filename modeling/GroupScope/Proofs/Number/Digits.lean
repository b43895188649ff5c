import GroupScope.Request
import GroupScope.Proofs.Number.Spelling
import GroupScope.Proofs.Parameters.Reread
import GroupScope.Proofs.Text.Words
/-!
# Numbers written in digits

The decimal text of a number is a numeral, and names that number if it is a usable id:

    groupId? (digits of n)  =  ofNat? n

So an id that is written down in digits and read as a text comes back, unless no signed word holds
it. In the other direction, only a positive numeral names an id at all.
-/

namespace GroupScope

/-! ## §1. Digits. -/

theorem bounds_of_isDigit {c : Char} (h : c.isDigit = true) : 48 ≤ c.toNat ∧ c.toNat ≤ 57 := by
  simp only [Char.isDigit, Bool.and_eq_true, decide_eq_true_eq] at h
  exact ⟨h.1, h.2⟩

theorem ne_of_isDigit {c d : Char} (hc : c.isDigit = true) (hd : d.isDigit = false) : c ≠ d := by
  rintro rfl
  rw [hc] at hd
  cases hd

/-- A class of characters whose ranges leave out the digits has no digit. -/
theorem Text.Ranges.contains_of_isDigit {ranges : Ranges}
    (hranges : ∀ r ∈ ranges, r.2 < 48 ∨ 57 < r.1) {c : Char} (h : c.isDigit = true) :
    ranges.contains c = false := by
  obtain ⟨hlow, hhigh⟩ := bounds_of_isDigit h
  rw [Bool.eq_false_iff]
  intro hc
  obtain ⟨r, hr, hfrom, hto⟩ := Ranges.contains_eq_true_iff.mp hc
  have hout := hranges r hr
  omega

theorem Text.isBlank_of_isDigit {c : Char} (h : c.isDigit = true) : isBlank c = false :=
  Ranges.contains_of_isDigit (by decide) h

theorem Text.isControl_of_isDigit {c : Char} (h : c.isDigit = true) : isControl c = false :=
  Ranges.contains_of_isDigit (by decide) h

theorem isDigit_of_mem_repr {n : Nat} {c : Char} (h : c ∈ (Nat.repr n).toList) :
    c.isDigit = true := by
  rw [Nat.toList_repr] at h
  exact Nat.isDigit_of_mem_toDigits (by decide) (by decide) h

/-! ## §2. Blanks. -/

namespace Numeral

/-- No numeral holds a blank. -/
theorem isBlank_of_mem_numeral {text : List Char} (h : isNumeral text = true) {c : Char}
    (hc : c ∈ text) : Text.isBlank c = false := by
  have hsign : ∀ sign : Sign, c ∈ sign.text → Text.isBlank c = false := by
    intro sign hc
    cases sign with
    | none => cases hc
    | plus | minus =>
      rw [List.mem_singleton.mp hc]
      decide
  obtain ⟨n, rfl⟩ := exists_spelling h
  simp only [Spelling.text, List.mem_append] at hc
  rcases hc with hc | hc | hc
  · exact hsign n.sign hc
  · rcases n.isDigit_of_mem_mantissa hc with hd | rfl
    · exact Text.isBlank_of_isDigit hd
    · decide
  · cases hexponent : n.exponent with
    | none =>
      rw [hexponent] at hc
      cases hc
    | some exponent =>
      rw [hexponent, exponentText, Exponent.text, List.mem_cons, List.mem_append] at hc
      rcases hc with rfl | hc | hc
      · rcases exponent.mark_eq with he | he <;> rw [he] <;> decide
      · exact hsign exponent.sign hc
      · exact Text.isBlank_of_isDigit (exponent.isDigit c hc)

/-! ## §3. Numerals of digits alone. -/

theorem unsigned_of_isDigit {text : List Char} (h : ∀ c ∈ text, c.isDigit = true) :
    Unsigned text :=
  unsigned_of_forall fun c hc => not_sign_of_isDigit (h c hc)

theorem splitExponent_eq_self {text : List Char} (h : ∀ c ∈ text, c.isDigit = true) :
    splitExponent text = (text, none) := by
  have hmark : ∀ c ∈ text, isExponentMark c = false := by
    intro c hc
    have he : c ≠ 'e' := ne_of_isDigit (h c hc) rfl
    have hE : c ≠ 'E' := ne_of_isDigit (h c hc) rfl
    simp [isExponentMark, he, hE]
  have hsplit := splitExponent_append hmark []
  rwa [splitExponent, List.append_nil] at hsplit

theorem dropPlus_eq_self {text : List Char} (h : ∀ c ∈ text, c.isDigit = true) :
    dropPlus text = text := by
  unfold dropPlus
  split
  next rest => exact absurd rfl (unsigned_of_isDigit h rest).1
  next => rfl

theorem isNumeral_of_digits {text : List Char} (hne : text ≠ [])
    (h : ∀ c ∈ text, c.isDigit = true) : isNumeral text = true := by
  let n : Spelling :=
    { sign := .none, whole := text, fraction := none, exponent := none
      isDigit := by simpa using h, ne_nil := by simpa using hne }
  have htext : n.text = text := by
    simp [n, Spelling.text, Spelling.mantissa, Sign.text, fractionText, exponentText]
  exact htext ▸ n.isNumeral_text

theorem groupId?_of_digits {text : List Char} (h : ∀ c ∈ text, c.isDigit = true) :
    groupId? text = GroupId.ofNat? (digitsValue text) := by
  unfold groupId?
  rw [dropPlus_eq_self h]
  exact if_pos (List.all_eq_true.mpr h)

/-- **The digits of a number name that number**, if it is a usable id. -/
theorem groupId?_repr (n : Nat) : groupId? (Nat.repr n).toList = GroupId.ofNat? n := by
  have hvalue : digitsValue (Nat.toDigits 10 n) = n := Nat.ofDigitChars_ten_toDigits
  rw [groupId?_of_digits fun c hc => isDigit_of_mem_repr hc, Nat.toList_repr, hvalue]

end Numeral

/-- **An id written in digits** is read back as a text if it is storable, and is zero else. -/
theorem IdList.idOfChars_repr (id : GroupId) :
    IdList.idOfChars (Nat.repr id.toNat).toList = if id.isStorable = true then id else 0 := by
  have hdigits : ∀ c ∈ (Nat.repr id.toNat).toList, c.isDigit = true :=
    fun c hc => isDigit_of_mem_repr hc
  have hne : (Nat.repr id.toNat).toList ≠ [] := by
    rw [Nat.toList_repr]
    exact Nat.toDigits_ne_nil
  unfold idOfChars
  rw [Text.trim_eq_self fun c hc => Text.isBlank_of_isDigit (hdigits c hc)]
  simp only [Numeral.isNumeral_of_digits hne hdigits, if_true, Numeral.groupId?_repr]
  unfold GroupId.ofNat? GroupId.isStorable
  rw [UInt64.ofNat_toNat]
  simp only [decide_eq_true_eq]
  by_cases hpos : 0 < id.toNat
  · by_cases hmax : id.toNat ≤ GroupId.maxStored
    · rw [if_pos ⟨hpos, hmax⟩, if_pos hmax]
      rfl
    · rw [if_neg fun h => hmax h.2, if_neg hmax]
      rfl
  · have hzero : id = 0 := UInt64.toNat_inj.mp (by simpa using hpos)
    subst hzero
    rfl

/-! ## §4. Numbers that are not positive. -/

theorem Binary64.truncate_eq_zero {x : Binary64} (h : x.mantissa = 0) : x.truncate = 0 := by
  by_cases he : 0 ≤ x.exponent
  · simp [truncate, toFraction, scale, he, h]
  · simp [truncate, toFraction, scale, he, h]

namespace Numeral

/-- The text is a numeral and spells a positive number. -/
def IsPositive (text : List Char) : Prop :=
  isNumeral text = true ∧ (decimal text).negative = false ∧ (decimal text).digits ≠ 0

/-- What is left of a text without its plus sign has no other sign if it consists of digits. -/
theorem dropSign_eq_of_dropPlus {text : List Char}
    (h : ∀ c ∈ dropPlus text, c.isDigit = true) :
    dropSign text = dropPlus text ∧ (text.head? == some '-') = false := by
  unfold dropPlus at h ⊢
  split at h
  next rest => exact ⟨rfl, rfl⟩
  next =>
    refine ⟨dropSign_of_unsigned (unsigned_of_isDigit h), ?_⟩
    cases text with
    | nil => rfl
    | cons c rest =>
      have hne : c ≠ '-' := ne_of_isDigit (h c List.mem_cons_self) rfl
      simp [hne]

theorem decimal_of_digits {text : List Char} (h : ∀ c ∈ dropPlus text, c.isDigit = true) :
    (decimal text).negative = false ∧ (decimal text).digits = digitsValue (dropPlus text) := by
  obtain ⟨hsign, hhead⟩ := dropSign_eq_of_dropPlus h
  have hplain : (dropPlus text).filter (· != '.') = dropPlus text := by
    rw [List.filter_eq_self]
    intro c hc
    have hne : c ≠ '.' := ne_of_isDigit (h c hc) rfl
    simp [hne]
  unfold decimal
  rw [hsign, splitExponent_eq_self h]
  exact ⟨hhead, congrArg digitsValue hplain⟩

/-- **Only positive numerals name an id.** -/
theorem isPositive_of_groupId? {text : List Char} {id : GroupId} (hn : isNumeral text = true)
    (h : groupId? text = some id) : IsPositive text := by
  unfold groupId? at h
  simp only at h
  split at h
  next hdigits =>
    obtain ⟨hnegative, hvalue⟩ := decimal_of_digits (List.all_eq_true.mp hdigits)
    obtain ⟨-, hpos, -⟩ := GroupId.toNat_of_ofNat? h
    refine ⟨hn, hnegative, ?_⟩
    rw [hvalue]
    omega
  next =>
    split at h
    next => cases h
    next hnegative =>
      obtain ⟨x, hx, hid⟩ := Option.bind_eq_some_iff.mp h
      refine ⟨hn, by simpa using hnegative, ?_⟩
      intro hzero
      -- No digit but zeros give the double zero, whatever the exponent.
      have hdouble : x = Binary64.zero := by
        simpa [Binary64.ofDecimal, hzero] using hx.symm
      rw [hdouble, Binary64.truncate_eq_zero rfl] at hid
      cases hid

end Numeral

end GroupScope
