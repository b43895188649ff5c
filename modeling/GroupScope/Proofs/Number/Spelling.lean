import GroupScope.Expression.Item
/-!
# How numbers are spelled

A numeral is a sign, a mantissa and an exponent, and only the mantissa must be there:

    numeral   =  [sign] mantissa [exponent]
    mantissa  =  ASCII digits, at least one, with at most one point anywhere among them
    exponent  =  "e" or "E", [sign], ASCII digits, at least one

`isNumeral` takes a text apart at the first mark of an exponent and drops signs in two places. The
texts that it accepts are exactly the spellings of this grammar. In an item a further hyphen may
stand in front; what is left without it decides whether the item is a number or a slug.
-/

namespace GroupScope.Numeral

/-! ## §1. The grammar. -/

/-- What may stand in front of a number or of an exponent. -/
inductive Sign where
  | none
  | plus
  | minus
  deriving DecidableEq, Repr

/-- A sign as text. -/
def Sign.text : Sign → List Char
  | .none => []
  | .plus => ['+']
  | .minus => ['-']

/-- An exponent: a mark, a sign and digits. -/
structure Exponent where
  /-- The letter in front. -/
  mark : Char
  sign : Sign
  digits : List Char
  mark_eq : mark = 'e' ∨ mark = 'E'
  isDigit : ∀ c ∈ digits, c.isDigit = true
  ne_nil : digits ≠ []

/-- An exponent as text. -/
def Exponent.text (exponent : Exponent) : List Char :=
  exponent.mark :: (exponent.sign.text ++ exponent.digits)

/-- A numeral taken apart. -/
structure Spelling where
  sign : Sign
  /-- The digits before the point. -/
  whole : List Char
  /-- The digits after the point, if there is a point. -/
  fraction : Option (List Char)
  exponent : Option Exponent
  isDigit : ∀ c ∈ whole ++ fraction.getD [], c.isDigit = true
  ne_nil : whole ++ fraction.getD [] ≠ []

/-- A fraction as text, with the point in front. -/
def fractionText : Option (List Char) → List Char
  | none => []
  | some digits => '.' :: digits

/-- An exponent as text, if there is one. -/
def exponentText : Option Exponent → List Char
  | none => []
  | some exponent => exponent.text

namespace Spelling

/-- The digits with the point among them. -/
def mantissa (n : Spelling) : List Char := n.whole ++ fractionText n.fraction

/-- A numeral as text. -/
def text (n : Spelling) : List Char := n.sign.text ++ (n.mantissa ++ exponentText n.exponent)

end Spelling

/-! ## §2. Signs. -/

/-- No sign begins the text. -/
def Unsigned (text : List Char) : Prop := ∀ rest, text ≠ '+' :: rest ∧ text ≠ '-' :: rest

theorem dropSign_of_unsigned {text : List Char} (h : Unsigned text) : dropSign text = text := by
  unfold dropSign
  split
  next rest => exact absurd rfl (h rest).1
  next rest => exact absurd rfl (h rest).2
  next => rfl

theorem dropSign_append (sign : Sign) {text : List Char} (h : Unsigned text) :
    dropSign (sign.text ++ text) = text := by
  cases sign with
  | none => exact dropSign_of_unsigned h
  | plus | minus => rfl

theorem exists_sign (text : List Char) : ∃ sign : Sign, text = sign.text ++ dropSign text := by
  unfold dropSign
  split
  · exact ⟨.plus, rfl⟩
  · exact ⟨.minus, rfl⟩
  · exact ⟨.none, rfl⟩

theorem unsigned_of_forall {text : List Char} (h : ∀ c ∈ text, c ≠ '+' ∧ c ≠ '-') :
    Unsigned text := by
  intro rest
  constructor
  · rintro rfl
    exact (h '+' List.mem_cons_self).1 rfl
  · rintro rfl
    exact (h '-' List.mem_cons_self).2 rfl

theorem not_sign_of_isDigit {c : Char} (h : c.isDigit = true) : c ≠ '+' ∧ c ≠ '-' := by
  constructor <;> rintro rfl <;> exact absurd h (by decide)

/-! ## §3. Exponents. -/

theorem isExponentMark_iff {c : Char} : isExponentMark c = true ↔ c = 'e' ∨ c = 'E' := by
  simp [isExponentMark]

/-- A text without marks goes to the mantissa. -/
theorem splitExponent_append {mantissa : List Char}
    (h : ∀ c ∈ mantissa, isExponentMark c = false) (rest : List Char) :
    splitExponent (mantissa ++ rest) =
      (mantissa ++ (splitExponent rest).1, (splitExponent rest).2) := by
  induction mantissa with
  | nil => rfl
  | cons c mantissa ih =>
    rw [List.cons_append, splitExponent, h c List.mem_cons_self,
      ih fun d hd => h d (List.mem_cons_of_mem c hd)]
    rfl

/-- **A text is cut at its first mark**, and nothing but the mark is lost. -/
theorem eq_of_splitExponent {text mantissa : List Char} {exponent : Option (List Char)}
    (h : splitExponent text = (mantissa, exponent)) :
    exponent = none ∧ text = mantissa
      ∨ ∃ mark rest, isExponentMark mark = true ∧ exponent = some rest
          ∧ text = mantissa ++ mark :: rest := by
  induction text generalizing mantissa with
  | nil =>
    cases h
    exact .inl ⟨rfl, rfl⟩
  | cons c text ih =>
    by_cases hc : isExponentMark c = true
    · rw [splitExponent, if_pos hc] at h
      cases h
      exact .inr ⟨c, text, hc, rfl, rfl⟩
    · rw [splitExponent, if_neg hc] at h
      cases h
      rcases ih rfl with ⟨hnone, htext⟩ | ⟨mark, rest, hmark, hsome, htext⟩
      · exact .inl ⟨hnone, congrArg (c :: ·) htext⟩
      · exact .inr ⟨mark, rest, hmark, hsome, congrArg (c :: ·) htext⟩

/-- After the mark come a sign and digits. -/
theorem isExponent_iff {text : List Char} :
    isExponent text = true ↔
      ∃ (sign : Sign) (digits : List Char), text = sign.text ++ digits ∧ digits ≠ []
        ∧ ∀ c ∈ digits, c.isDigit = true := by
  have hdigits : isExponent text = true ↔
      dropSign text ≠ [] ∧ ∀ c ∈ dropSign text, c.isDigit = true := by
    simp [isExponent]
  rw [hdigits]
  constructor
  · rintro ⟨hne, hall⟩
    obtain ⟨sign, hsign⟩ := exists_sign text
    exact ⟨sign, dropSign text, hsign, hne, hall⟩
  · rintro ⟨sign, digits, rfl, hne, hall⟩
    rw [dropSign_append sign (unsigned_of_forall fun c hc => not_sign_of_isDigit (hall c hc))]
    exact ⟨hne, hall⟩

/-! ## §4. Mantissas. -/

theorem ne_point_of_isDigit {c : Char} (h : c.isDigit = true) : c ≠ '.' := by
  rintro rfl
  exact absurd h (by decide)

/-- But for the point, a mantissa has the characters of its two parts. -/
theorem mem_append_fractionText {whole : List Char} {fraction : Option (List Char)} {c : Char}
    (h : c ≠ '.') : c ∈ whole ++ fractionText fraction ↔ c ∈ whole ++ fraction.getD [] := by
  cases fraction with
  | none => rfl
  | some digits => simp [fractionText, h]

/-- A text with at most one point is cut in two there, or has none. -/
theorem exists_fractionText {text : List Char} (h : text.count '.' ≤ 1) :
    ∃ whole fraction, text = whole ++ fractionText fraction ∧ '.' ∉ whole ++ fraction.getD [] := by
  by_cases hpoint : '.' ∈ text
  · obtain ⟨whole, digits, rfl⟩ := List.append_of_mem hpoint
    refine ⟨whole, some digits, rfl, ?_⟩
    have hcount : whole.count '.' + digits.count '.' = 0 := by
      simp only [List.count_append, List.count_cons_self] at h
      omega
    rw [← List.count_eq_zero, List.count_append]
    exact hcount
  · exact ⟨text, none, (List.append_nil text).symm, by simpa using hpoint⟩

theorem count_append_fractionText {whole : List Char} {fraction : Option (List Char)}
    (h : '.' ∉ whole ++ fraction.getD []) : (whole ++ fractionText fraction).count '.' ≤ 1 := by
  rw [List.mem_append, not_or] at h
  rw [List.count_append, List.count_eq_zero.mpr h.1]
  cases fraction with
  | none => exact Nat.zero_le 1
  | some digits =>
    have hdigits : digits.count '.' = 0 := List.count_eq_zero.mpr h.2
    simp [fractionText, hdigits]

/-- **A mantissa is a word of digits with at most one point**, and not the point alone. -/
theorem isMantissa_iff {text : List Char} :
    isMantissa text = true ↔
      ∃ whole fraction, text = whole ++ fractionText fraction
        ∧ (∀ c ∈ whole ++ fraction.getD [], c.isDigit = true)
        ∧ whole ++ fraction.getD [] ≠ [] := by
  have hparts : isMantissa text = true ↔
      ((∀ c ∈ text, c.isDigit = true ∨ c = '.') ∧ ∃ c ∈ text, c.isDigit = true)
        ∧ text.count '.' ≤ 1 := by
    simp [isMantissa]
  rw [hparts]
  constructor
  · rintro ⟨⟨hall, d, hd, hdigit⟩, hcount⟩
    obtain ⟨whole, fraction, rfl, hpoint⟩ := exists_fractionText hcount
    refine ⟨whole, fraction, rfl, fun c hc => ?_, ?_⟩
    · have hne : c ≠ '.' := fun h => hpoint (h ▸ hc)
      exact (hall c ((mem_append_fractionText hne).mpr hc)).resolve_right hne
    · have hd' := (mem_append_fractionText (ne_point_of_isDigit hdigit)).mp hd
      exact List.ne_nil_of_mem hd'
  · rintro ⟨whole, fraction, rfl, hall, hne⟩
    have hpoint : '.' ∉ whole ++ fraction.getD [] := fun h => ne_point_of_isDigit (hall '.' h) rfl
    obtain ⟨d, hd⟩ := List.exists_mem_of_ne_nil _ hne
    refine ⟨⟨fun c hc => ?_, d, ?_, hall d hd⟩, count_append_fractionText hpoint⟩
    · by_cases hne : c = '.'
      · exact .inr hne
      · exact .inl (hall c ((mem_append_fractionText hne).mp hc))
    · exact (mem_append_fractionText (ne_point_of_isDigit (hall d hd))).mpr hd

/-! ## §5. Numerals. -/

namespace Spelling

/-- A mantissa holds digits and points only. -/
theorem isDigit_of_mem_mantissa (n : Spelling) {c : Char} (h : c ∈ n.mantissa) :
    c.isDigit = true ∨ c = '.' := by
  by_cases hc : c = '.'
  · exact .inr hc
  · exact .inl (n.isDigit c ((mem_append_fractionText hc).mp h))

theorem not_isExponentMark_of_mem_mantissa (n : Spelling) {c : Char} (h : c ∈ n.mantissa) :
    isExponentMark c = false := by
  rw [Bool.eq_false_iff]
  intro hmark
  rcases n.isDigit_of_mem_mantissa h with hc | rfl
  · rcases isExponentMark_iff.mp hmark with rfl | rfl <;> exact absurd hc (by decide)
  · exact absurd hmark (by decide)

/-- No sign begins a mantissa, and it is not empty. -/
theorem unsigned_mantissa_append (n : Spelling) (rest : List Char) :
    Unsigned (n.mantissa ++ rest) := by
  have hne : n.mantissa ≠ [] := by
    obtain ⟨d, hd⟩ := List.exists_mem_of_ne_nil _ n.ne_nil
    exact List.ne_nil_of_mem
      ((mem_append_fractionText (ne_point_of_isDigit (n.isDigit d hd))).mpr hd)
  obtain ⟨c, tail, hcons⟩ := List.exists_cons_of_ne_nil hne
  have hc : c ≠ '+' ∧ c ≠ '-' := by
    rcases n.isDigit_of_mem_mantissa (hcons ▸ List.mem_cons_self : c ∈ n.mantissa) with hd | rfl
    · exact not_sign_of_isDigit hd
    · decide
  intro other
  rw [hcons]
  constructor
  · rintro h
    exact hc.1 (List.cons.inj h).1
  · rintro h
    exact hc.2 (List.cons.inj h).1

/-- What stands after the mark of an exponent. -/
def afterMark (n : Spelling) : Option (List Char) :=
  n.exponent.map fun exponent => exponent.sign.text ++ exponent.digits

/-- **A spelling is taken apart into its own pieces.** -/
theorem splitExponent_text (n : Spelling) :
    splitExponent (dropSign n.text) = (n.mantissa, n.afterMark) := by
  rw [text, dropSign_append n.sign (n.unsigned_mantissa_append _),
    splitExponent_append fun c hc => n.not_isExponentMark_of_mem_mantissa hc]
  unfold afterMark
  cases n.exponent with
  | none => exact congrArg (·, none) (List.append_nil n.mantissa)
  | some exponent =>
    have hmark : isExponentMark exponent.mark = true := isExponentMark_iff.mpr exponent.mark_eq
    have hcut : splitExponent exponent.text =
        ([], some (exponent.sign.text ++ exponent.digits)) := by
      rw [Exponent.text, splitExponent, if_pos hmark]
    rw [exponentText, hcut, List.append_nil]
    rfl

theorem isNumeral_text (n : Spelling) : isNumeral n.text = true := by
  have hmantissa : isMantissa n.mantissa = true :=
    isMantissa_iff.mpr ⟨n.whole, n.fraction, rfl, n.isDigit, n.ne_nil⟩
  have hafter : n.afterMark.all isExponent = true := by
    unfold afterMark
    cases n.exponent with
    | none => rfl
    | some exponent =>
      exact isExponent_iff.mpr
        ⟨exponent.sign, exponent.digits, rfl, exponent.ne_nil, exponent.isDigit⟩
  unfold isNumeral
  rw [n.splitExponent_text]
  exact Bool.and_eq_true_iff.mpr ⟨hmantissa, hafter⟩

end Spelling

/-- An accepted text is spelled by its pieces. -/
theorem exists_spelling {text : List Char} (h : isNumeral text = true) :
    ∃ n : Spelling, n.text = text := by
  obtain ⟨sign, hsign⟩ := exists_sign text
  obtain ⟨mantissa, exponent, hcut⟩ : ∃ m e, splitExponent (dropSign text) = (m, e) := ⟨_, _, rfl⟩
  unfold isNumeral at h
  rw [hcut] at h
  obtain ⟨hmantissa, hexponent⟩ := Bool.and_eq_true_iff.mp h
  obtain ⟨whole, fraction, rfl, hdigit, hne⟩ := isMantissa_iff.mp hmantissa
  rw [hsign]
  rcases eq_of_splitExponent hcut with ⟨rfl, htext⟩ | ⟨mark, rest, hmark, rfl, htext⟩
  · refine ⟨⟨sign, whole, fraction, none, hdigit, hne⟩, ?_⟩
    rw [htext]
    exact congrArg (sign.text ++ ·) (List.append_nil _)
  · obtain ⟨power, digits, rfl, hnonempty, hall⟩ := isExponent_iff.mp hexponent
    refine ⟨⟨sign, whole, fraction, some ⟨mark, power, digits, isExponentMark_iff.mp hmark, hall,
      hnonempty⟩, hdigit, hne⟩, ?_⟩
    rw [htext]
    rfl

/-- **The numerals are the spellings.** -/
theorem isNumeral_iff {text : List Char} :
    isNumeral text = true ↔ ∃ n : Spelling, n.text = text := by
  constructor
  · exact exists_spelling
  · rintro ⟨n, rfl⟩
    exact n.isNumeral_text

end GroupScope.Numeral

namespace GroupScope

/-! ## §6. Numbers and slugs. -/

/-- What is left without one hyphen in front, trimmed. -/
def Item.afterHyphen : List Char → List Char
  | '-' :: rest => Text.trim rest
  | text => text

/-- The part of a piece of text that says what the item names. -/
def Item.bare (piece : List Char) : List Char := Item.afterHyphen (Text.trim piece)

theorem Item.snd_splitHyphen (text : List Char) : (splitHyphen text).2 = afterHyphen text := by
  unfold splitHyphen
  split
  next rest => rfl
  next hother =>
    unfold afterHyphen
    split
    next rest => exact (hother rest rfl).elim
    next => rfl

/-- What an item names is read off its bare part. -/
theorem Item.reference_of_ofChars? {piece : List Char} {item : Item}
    (h : Item.ofChars? piece = some item) : item.reference = .ofChars (Item.bare piece) := by
  unfold ofChars? at h
  simp only at h
  split at h
  · cases h
  · injection h with h
    rw [← h, bare, ← snd_splitHyphen]

/-- **A numeral is recognized by its grammar.** A text is a numeral exactly when it has a spelling.
So the item that a piece of text stands for is a number exactly when its bare part, trimmed and
without one hyphen in front, has a spelling, and otherwise it is that part as a slug. -/
theorem numeral_iff_spelled :
    (∀ text : List Char, Numeral.isNumeral text = true ↔ ∃ n : Numeral.Spelling, n.text = text)
      ∧ ∀ (piece : List Char) (item : Item), Item.ofChars? piece = some item →
          ((∃ id, item.reference = .id id) ↔ ∃ n : Numeral.Spelling, n.text = Item.bare piece)
            ∧ (item.reference = .slug (String.ofList (Item.bare piece)) ↔
                ¬∃ n : Numeral.Spelling, n.text = Item.bare piece) := by
  refine ⟨fun text => Numeral.isNumeral_iff, fun piece item hitem => ?_⟩
  rw [Item.reference_of_ofChars? hitem, ← Numeral.isNumeral_iff]
  unfold Reference.ofChars
  by_cases hnumeral : Numeral.isNumeral (Item.bare piece) = true
  · simp [hnumeral]
  · simp [hnumeral]

/-- A hyphen and a minus sign with blanks between them: the item is a number, though not a usable
one. -/
theorem numeral_iff_spelled_of_two_hyphens :
    ∃ item : Item, Item.ofChars? "- -.5E+1 ".toList = some item
      ∧ item.reference = .id none ∧ ∃ n : Numeral.Spelling, n.text = "-.5E+1".toList := by
  have hitem : Item.ofChars? "- -.5E+1 ".toList =
      some { text := "- -.5E+1", excluded := true, reference := .id none } := by decide
  exact ⟨_, hitem, rfl, ((numeral_iff_spelled.2 _ _ hitem).1).mp ⟨none, rfl⟩⟩

end GroupScope
