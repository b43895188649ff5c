import GroupScope.Keyed
/-!
# Code points and bytes

Names are sorted by the code points of their characters. In UTF-8 the same names are rows of bytes,
and comparing these byte by byte gives the same order:

    s < t  ↔  bytes of s < bytes of t

For a greater code point has a greater byte at the first place where the two encodings differ, and
no encoding begins another one.
-/

namespace GroupScope.Text

/-- The bytes of a text in UTF-8. -/
def utf8Bytes (s : String) : List UInt8 := s.toUTF8.data.toList

theorem utf8Bytes_ofList (s : List Char) :
    utf8Bytes (String.ofList s) = s.flatMap String.utf8EncodeChar := by
  unfold utf8Bytes
  rw [String.toUTF8, String.toByteArray_ofList, List.utf8Encode, List.data_toByteArray]

/-! ## §1. Characters. -/

theorem cons_ofNat_lt_cons_iff {a b : Nat} (ha : a < 256) (hb : b < 256) (s t : List UInt8) :
    UInt8.ofNat a :: s < UInt8.ofNat b :: t ↔ a < b ∨ a = b ∧ s < t := by
  rw [List.cons_lt_cons_iff, UInt8.lt_iff_toNat_lt, ← UInt8.toNat_inj,
    UInt8.toNat_ofNat_of_lt' ha, UInt8.toNat_ofNat_of_lt' hb]

/-- **A greater character has greater bytes**, whatever follows them. -/
theorem utf8EncodeChar_append_lt {c d : Char} (h : c < d) (s t : List UInt8) :
    String.utf8EncodeChar c ++ s < String.utf8EncodeChar d ++ t := by
  have hlt : c.val.toNat < d.val.toNat := h
  have hbound : d.val.toNat < 0x110000 := by
    have hvalid := d.valid
    simp only [UInt32.isValidChar, Nat.isValidChar] at hvalid
    omega
  unfold String.utf8EncodeChar
  generalize c.val.toNat = m at hlt
  generalize d.val.toNat = n at hlt hbound
  -- Every byte but the first holds one digit to the base 64.
  have hquotients : ∀ k : Nat, k / 4096 = k / 64 / 64 ∧ k / 262144 = k / 64 / 64 / 64 := by
    intro k
    rw [Nat.div_div_eq_div_mul, Nat.div_div_eq_div_mul]
    exact ⟨rfl, rfl⟩
  simp only [hquotients]
  -- An encoding has one to four bytes, and a longer one begins with a greater byte.
  repeat' split
  all_goals simp (disch := omega) only [List.cons_append, List.nil_append, cons_ofNat_lt_cons_iff]
  all_goals omega

theorem utf8EncodeChar_ne_nil (c : Char) : String.utf8EncodeChar c ≠ [] := by
  unfold String.utf8EncodeChar
  simp only
  repeat' split
  all_goals exact List.cons_ne_nil _ _

/-! ## §2. Texts. -/

theorem flatMap_utf8EncodeChar_lt {s t : List Char} (h : s < t) :
    s.flatMap String.utf8EncodeChar < t.flatMap String.utf8EncodeChar := by
  induction h with
  | @nil d t =>
    obtain ⟨byte, bytes, hbytes⟩ := List.exists_cons_of_ne_nil (utf8EncodeChar_ne_nil d)
    rw [List.flatMap_cons, hbytes]
    exact .nil
  | rel h =>
    rw [List.flatMap_cons, List.flatMap_cons]
    exact utf8EncodeChar_append_lt h _ _
  | cons _ ih =>
    rw [List.flatMap_cons, List.flatMap_cons]
    exact List.append_left_lt ih

theorem utf8Bytes_lt {s t : String} (h : s < t) : utf8Bytes s < utf8Bytes t := by
  rw [← String.ofList_toList (s := s), ← String.ofList_toList (s := t), utf8Bytes_ofList,
    utf8Bytes_ofList]
  exact flatMap_utf8EncodeChar_lt (String.lt_iff.mp h)

/-- **The order of texts is the order of their bytes.** -/
theorem lt_iff_utf8Bytes_lt (s t : String) : s < t ↔ utf8Bytes s < utf8Bytes t := by
  constructor
  · exact utf8Bytes_lt
  · intro h
    refine Decidable.byContradiction fun hnot => ?_
    have hle : t ≤ s := String.not_lt.mp hnot
    by_cases hsame : t = s
    · rw [hsame] at h
      exact List.lt_irrefl _ h
    · have hlt : t < s := by
        refine Decidable.byContradiction fun hnot' => ?_
        exact hsame (String.le_antisymm hle (String.not_lt.mp hnot'))
      exact List.lt_irrefl _ (List.lt_trans h (utf8Bytes_lt hlt))

end GroupScope.Text
