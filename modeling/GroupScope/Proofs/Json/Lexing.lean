import GroupScope.Json.Printer
import GroupScope.Json.Reader
import GroupScope.Proofs.Number.Digits
/-!
# Tokens of printed JSON

What the printer writes is cut into the tokens that it stands for: brackets, commas and colons as
they are, each string as one token, and each whole number as one token, as long as 64 bits hold it.
Blanks between them are skipped. A piece of text is looked at together with whatever follows it,
because a number ends only where something else begins:

    Lexes text tokens   ↔   with any delimited rest behind it, text is cut into the tokens

The main statement is `lexes_prettyAt`.
-/

namespace GroupScope.Json

/-! ## §1. Cutting a text. -/

/-- The text is cut into the tokens. -/
inductive Tokens : List Char → List Token → Prop
  | nil : Tokens [] []
  | blank {c : Char} {rest : List Char} {tokens : List Token} (hc : isBlank c = true)
      (h : Tokens rest tokens) : Tokens (c :: rest) tokens
  | token {c : Char} {text rest : List Char} {token : Token} {tokens : List Token}
      (hc : isBlank c = false) (ht : readToken (c :: text) = some (token, rest))
      (hlength : rest.length ≤ text.length) (h : Tokens rest tokens) :
      Tokens (c :: text) (token :: tokens)

theorem readTokens_blank {c : Char} (hc : isBlank c = true) (count : Nat) (rest : List Char) :
    readTokens count (c :: rest) = readTokens count rest := by
  have hdrop : (c :: rest).dropWhile isBlank = rest.dropWhile isBlank :=
    List.dropWhile_cons_of_pos hc
  rw [readTokens.eq_def, readTokens.eq_def count rest]
  simp only [hdrop]

/-- **Reading yields the tokens**, if it may take as many steps as there are characters. -/
theorem Tokens.readTokens {text : List Char} {tokens : List Token} (h : Tokens text tokens)
    {count : Nat} (hcount : text.length ≤ count) : Json.readTokens count text = some tokens := by
  -- Only tokens take a step, and each of them is at least one character long.
  induction h generalizing count with
  | nil => cases count <;> rfl
  | blank hc h ih =>
    rw [readTokens_blank hc]
    apply ih
    rw [List.length_cons] at hcount
    omega
  | @token c text rest token tokens hc ht hlength h ih =>
    have hdrop : (c :: text).dropWhile isBlank = c :: text :=
      List.dropWhile_cons_of_neg (by simp [hc])
    rw [List.length_cons] at hcount
    obtain ⟨count, rfl⟩ : ∃ n, count = n + 1 := ⟨count - 1, by omega⟩
    have hmore : Json.readTokens count rest = some tokens := ih (by omega)
    rw [Json.readTokens.eq_def]
    simp only [hdrop, ht, hmore, Option.bind_eq_bind, Option.bind_some]

/-- A number ends here: the text is over, or a comma or a line break comes next. -/
def Delimited (rest : List Char) : Prop := ∀ c ∈ rest.head?, c = ',' ∨ c = '\n'

/-- The text is cut into the tokens, whatever delimited text comes behind it. -/
def Lexes (text : List Char) (tokens : List Token) : Prop :=
  ∀ (rest : List Char) (more : List Token), Delimited rest → Tokens rest more →
    Tokens (text ++ rest) (tokens ++ more)

/-! ## §2. Strings. -/

theorem hexValue?_hexDigit : ∀ n < 16, hexValue? (hexDigit n) = some n := by decide

theorem hexUnit?_control {n : Nat} (h : n < 32) :
    hexUnit? '0' '0' (hexDigit (n / 16)) (hexDigit (n % 16)) = some n := by
  have hzero : hexValue? '0' = some 0 := rfl
  unfold hexUnit?
  rw [hzero, hexValue?_hexDigit _ (by omega), hexValue?_hexDigit _ (by omega)]
  show some _ = some n
  congr 1
  omega

/-- A character that needs no escape is read as it is. -/
theorem readString_plain {c : Char} (hquote : c ≠ '"') (hbackslash : c ≠ '\\')
    (hlow : ¬c.toNat < 0x20) (rest : List Char) :
    readString (c :: rest) = (readString rest).map fun (chars, rest) => (c :: chars, rest) := by
  have hnone : ¬(decide (c.toNat < 0x20) || c == '\\') = true := by
    rw [Bool.or_eq_true, decide_eq_true_eq, beq_iff_eq]
    exact not_or.mpr ⟨hlow, hbackslash⟩
  rw [readString.eq_def]
  split
  case h_1 heq => cases heq
  case h_2 heq => exact absurd (List.cons.inj heq).1 hquote
  case h_3 heq => exact absurd (List.cons.inj heq).1 hbackslash
  case h_4 heq => exact absurd (List.cons.inj heq).1 hbackslash
  case h_5 heq =>
    obtain ⟨rfl, rfl⟩ := List.cons.inj heq
    exact if_neg hnone

/-- **An escaped character is read back.** -/
theorem readString_escapeChar (c : Char) (rest : List Char) :
    readString (escapeChar c ++ rest) =
      (readString rest).map fun (chars, rest) => (c :: chars, rest) := by
  unfold escapeChar
  split
  case h_8 hquote hbackslash _ _ _ _ _ =>
    split
    next hlow =>
      -- A control character is written by its number, which is no half of a pair.
      have hunit := hexUnit?_control hlow
      have hchar : Char.ofNat c.toNat = c := Char.ofNat_toNat c
      simp only [List.cons_append, List.nil_append]
      rw [readString]
      simp only [hunit, hchar]
      rw [if_neg (by omega), if_neg (by omega)]
    next hlow => exact readString_plain hquote hbackslash hlow rest
  all_goals
    simp only [List.cons_append, List.nil_append]
    rw [readString.eq_def]
    simp [shortEscape?]

/-- The characters of a string are read back up to the closing quote. -/
theorem readString_escaped (chars rest : List Char) :
    readString (chars.flatMap escapeChar ++ '"' :: rest) = some (chars, rest) := by
  induction chars with
  | nil =>
    show readString ('"' :: rest) = _
    rw [readString]
  | cons c chars ih =>
    rw [List.flatMap_cons, List.append_assoc, readString_escapeChar, ih]
    rfl

/-- **A quoted string is one token**, whatever comes behind it. -/
theorem Tokens.quote (s : String) {rest : List Char} {more : List Token} (h : Tokens rest more) :
    Tokens ((quote s).toList ++ rest) (.string s :: more) := by
  have htext : (Json.quote s).toList ++ rest =
      '"' :: (s.toList.flatMap escapeChar ++ '"' :: rest) := by
    simp [Json.quote]
  rw [htext]
  refine .token rfl ?_ ?_ h
  · show (readString _).map _ = _
    rw [readString_escaped]
    simp
  · rw [List.length_append, List.length_cons]
    omega

/-! ## §3. Whole numbers and words. -/

/-- A text that is read as one token up to its end. -/
theorem lexes_single {c : Char} {text : List Char} {token : Token} (hc : isBlank c = false)
    (h : ∀ rest, Delimited rest → readToken (c :: text ++ rest) = some (token, rest)) :
    Lexes (c :: text) [token] := by
  intro rest more hrest hmore
  refine .token hc (h rest hrest) ?_ hmore
  show rest.length ≤ (text ++ rest).length
  rw [List.length_append]
  omega

/-- The digits of a positive number do not start with a zero. -/
theorem toDigits_eq_cons {n : Nat} (h : 0 < n) :
    ∃ c digits, Nat.toDigits 10 n = c :: digits ∧ c ≠ '0' := by
  induction n using Nat.strongRecOn with
  | _ n ih =>
    rcases Nat.lt_or_ge n 10 with hlow | hhigh
    · have hdigit : ∀ n < 10, 0 < n → n.digitChar ≠ '0' := by decide
      exact ⟨n.digitChar, [], Nat.toDigits_of_lt_base hlow, hdigit n hlow h⟩
    · obtain ⟨c, digits, hdigits, hc⟩ := ih (n / 10) (by omega) (by omega)
      refine ⟨c, digits ++ [(n % 10).digitChar], ?_, hc⟩
      rw [Nat.toDigits_of_base_le (by decide) hhigh, hdigits]
      rfl

/-- Only the number zero starts with a zero, which stands alone. -/
theorem leadingZero_toDigits (n : Nat) :
    ((Nat.toDigits 10 n).isEmpty || ((Nat.toDigits 10 n).head? == some '0' &&
      decide (1 < (Nat.toDigits 10 n).length))) = false := by
  rcases Nat.eq_zero_or_pos n with rfl | hpos
  · rfl
  · obtain ⟨c, digits, hdigits, hc⟩ := toDigits_eq_cons hpos
    simp [hdigits, hc]

theorem spanDigits_append {digits rest : List Char} (hdigits : ∀ c ∈ digits, c.isDigit = true)
    (hrest : ∀ c ∈ rest.head?, c.isDigit = false) :
    spanDigits (digits ++ rest) = (digits, rest) := by
  unfold spanDigits
  rw [List.takeWhile_append_of_pos hdigits, List.dropWhile_append_of_pos hdigits]
  cases rest with
  | nil => simp
  | cons c rest =>
    have hc : c.isDigit = false := hrest c rfl
    rw [List.takeWhile_cons_of_neg (by simp [hc]), List.dropWhile_cons_of_neg (by simp [hc])]
    simp

/-- Behind a number there is no digit, no point and no exponent. -/
theorem Delimited.ends {rest : List Char} (h : Delimited rest) :
    (∀ c ∈ rest.head?, c.isDigit = false) ∧ readFraction rest = some (none, rest) ∧
      readExponent rest = some (none, rest) := by
  cases rest with
  | nil => exact ⟨by simp, rfl, rfl⟩
  | cons c rest =>
    rcases h c rfl with rfl | rfl <;> exact ⟨by simp, rfl, rfl⟩

theorem decimalValue_toDigits (n : Nat) : decimalValue (Nat.toDigits 10 n) = n :=
  Nat.ofDigitChars_ten_toDigits

/-- Behind the sign, digits are read as the number that they spell. -/
theorem readNumber_signed (negative : Bool) (n : Nat) {text rest : List Char}
    (hsign : (match text with
      | '-' :: rest => (true, rest)
      | _ => (false, text)) = (negative, Nat.toDigits 10 n ++ rest))
    (hn : (if negative then 0 < n && n ≤ pow2 63 else n < pow2 64) = true)
    (hrest : Delimited rest) :
    readNumber text = some (.integer (if negative then -n else n), rest) := by
  obtain ⟨hend, hfraction, hexponent⟩ := hrest.ends
  have hdigits : ∀ c ∈ Nat.toDigits 10 n, c.isDigit = true :=
    fun c hc => Nat.isDigit_of_mem_toDigits (by decide) (by decide) hc
  have hspan := spanDigits_append hdigits hend
  unfold readNumber
  split
  next heq =>
    obtain ⟨rfl, rfl⟩ := Prod.mk.inj (heq.symm.trans hsign)
    rw [hspan]
    simp [leadingZero_toDigits, hfraction, hexponent, decimalValue_toDigits, hn]

/-- A digit or a minus sign starts a number. -/
theorem readToken_number {c : Char} (hc : c.isDigit = true ∨ c = '-') (text : List Char) :
    isBlank c = false ∧ readToken (c :: text) =
      (readNumber (c :: text)).map fun (n, rest) => (.scalar (.number n), rest) := by
  rcases hc with hdigit | rfl
  · have hne {d : Char} (hd : d.isDigit = false) : c ≠ d := ne_of_isDigit hdigit hd
    refine ⟨by simp [isBlank, hne], ?_⟩
    unfold readToken
    split
    case h_12 => rfl
    all_goals simp_all
  · exact ⟨rfl, rfl⟩

/-- A whole number that some 64-bit word holds. -/
def Fits (value : Int) : Prop := -(pow2 63 : Int) ≤ value ∧ value < pow2 64

/-- **A whole number of 64 bits is one token.** -/
theorem lexes_integer {value : Int} (h : Fits value) :
    Lexes (toString value).toList [.scalar (.integer value)] := by
  obtain ⟨hlow, hhigh⟩ := h
  cases value with
  | ofNat n =>
    obtain ⟨c, digits, hdigits⟩ :=
      List.exists_cons_of_ne_nil (Nat.toDigits_ne_nil (b := 10) (n := n))
    have hc : c.isDigit = true :=
      Nat.isDigit_of_mem_toDigits (b := 10) (n := n) (by decide) (by decide) (by simp [hdigits])
    have htext : (toString (Int.ofNat n)).toList = c :: digits := by
      rw [← hdigits, ← Nat.toList_repr]
      rfl
    have hn : n < pow2 64 := Int.ofNat_lt.mp hhigh
    rw [htext]
    refine lexes_single (readToken_number (.inl hc) []).1 fun rest hrest => ?_
    rw [List.cons_append, (readToken_number (.inl hc) _).2,
      readNumber_signed false n ?_ (by simpa using hn) hrest]
    · rfl
    · rw [hdigits]
      split
      next heq =>
        obtain ⟨rfl, -⟩ := List.cons.inj heq
        exact absurd hc (by decide)
      next => rfl
  | negSucc n =>
    have htext : (toString (Int.negSucc n)).toList = '-' :: Nat.toDigits 10 (n + 1) := by
      rw [← Nat.toList_repr, ← List.singleton_append]
      exact String.toList_append
    have hn : n + 1 ≤ pow2 63 := by omega
    rw [htext]
    refine lexes_single rfl fun rest hrest => ?_
    rw [List.cons_append, (readToken_number (.inr rfl) _).2,
      readNumber_signed true (n + 1) rfl (by simpa using hn) hrest]
    rfl

theorem dropWord_append (word rest : List Char) : dropWord word (word ++ rest) = some rest := by
  induction word with
  | nil => rfl
  | cons c word ih => simpa [dropWord] using ih

theorem lexes_word {word : String} {c : Char} {text : List Char} {value : Json}
    (hword : word.toList = c :: text) (hc : isBlank c = false)
    (h : ∀ rest, readToken (c :: text ++ rest) =
      (dropWord (c :: text) (c :: text ++ rest)).map fun rest => (.scalar value, rest)) :
    Lexes word.toList [.scalar value] := by
  rw [hword]
  refine lexes_single hc fun rest _ => ?_
  rw [h, dropWord_append]
  rfl

theorem lexes_null : Lexes "null".toList [.scalar .null] := lexes_word rfl rfl fun _ => rfl

theorem lexes_boolText (b : Bool) : Lexes (boolText b).toList [.scalar (.bool b)] := by
  cases b with
  | false => exact lexes_word rfl rfl fun _ => rfl
  | true => exact lexes_word rfl rfl fun _ => rfl

/-! ## §4. Blocks. -/

theorem toList_lineBreak (depth : Nat) :
    (lineBreak depth).toList = '\n' :: List.replicate (2 * depth) ' ' := by
  simp [lineBreak]

/-- Blanks at the start of a text are skipped. -/
theorem Tokens.lineBreak (depth : Nat) {rest : List Char} {more : List Token}
    (h : Tokens rest more) : Tokens ((lineBreak depth).toList ++ rest) more := by
  have hblanks : ∀ count, Tokens (List.replicate count ' ' ++ rest) more := by
    intro count
    induction count with
    | zero => exact h
    | succ count ih => exact .blank rfl ih
  rw [toList_lineBreak]
  exact .blank rfl (hblanks _)

theorem delimited_lineBreak (depth : Nat) (rest : List Char) :
    Delimited ((lineBreak depth).toList ++ rest) := by
  intro c hc
  rw [toList_lineBreak] at hc
  exact .inr (Option.some.inj hc).symm

/-- **Lines with commas between them** are cut one after the other. -/
theorem lexes_intercalate (depth : Nat) {line : α → String} {tokens : α → List Token}
    {items : List α} (h : ∀ item ∈ items, Lexes (line item).toList (tokens item)) :
    Lexes (String.intercalate ("," ++ lineBreak depth) (items.map line)).toList
      ([Token.comma].intercalate (items.map tokens)) := by
  rw [String.toList_intercalate, String.toList_append]
  induction items with
  | nil => exact fun rest more _ hmore => hmore
  | cons item items ih =>
    cases items with
    | nil => simpa using h item List.mem_cons_self
    | cons next items =>
      have hitem := h item List.mem_cons_self
      have hitems := ih fun item hitem => h item (List.mem_cons_of_mem _ hitem)
      intro rest more hrest hmore
      simp only [List.map_cons, List.intercalate_cons_cons, List.append_assoc] at hitems ⊢
      -- An item is followed by a comma, so a number at its end stops there.
      refine hitem _ _ ?_ ?_
      · exact fun c hc => .inl (Option.some.inj hc).symm
      · exact .token rfl rfl (by simp) (.lineBreak depth (hitems rest more hrest hmore))

/-- The text is a single character that is a token by itself, whatever comes behind it. -/
def IsMark (text : String) (token : Token) : Prop :=
  ∃ c, text.toList = [c] ∧ isBlank c = false ∧ ∀ rest, readToken (c :: rest) = some (token, rest)

theorem Tokens.mark {text : String} {token : Token} (hmark : IsMark text token)
    {rest : List Char} {more : List Token} (h : Tokens rest more) :
    Tokens (text.toList ++ rest) (token :: more) := by
  obtain ⟨c, htext, hc, hread⟩ := hmark
  rw [htext]
  exact .token hc (hread rest) (Nat.le_refl _) h

/-- **A block** is its brackets around its lines. -/
theorem lexes_block {opening closing : String} {openToken closeToken : Token} {depth : Nat}
    {line : α → String} {tokens : α → List Token} {items : List α}
    (hopening : IsMark opening openToken) (hclosing : IsMark closing closeToken)
    (h : ∀ item ∈ items, Lexes (line item).toList (tokens item)) :
    Lexes (block opening closing depth (items.map line)).toList
      (openToken :: ([Token.comma].intercalate (items.map tokens) ++ [closeToken])) := by
  intro rest more _ hmore
  have hclose := Tokens.mark hclosing hmore
  cases items with
  | nil =>
    rw [List.map_nil, block, String.toList_append, List.append_assoc]
    exact .mark hopening hclose
  | cons item items =>
    -- The last line is followed by a line break, which ends it like a comma ends the others.
    have hend := Tokens.lineBreak depth hclose
    have hlines := lexes_intercalate (depth + 1) h _ _ (delimited_lineBreak depth _) hend
    rw [List.map_cons] at hlines ⊢
    simp only [block, String.toList_append, List.append_assoc, List.cons_append,
      List.nil_append] at hlines ⊢
    exact .mark hopening (.lineBreak (depth + 1) hlines)

/-! ## §5. Values. -/

mutual

/-- The tokens of a value. -/
def tokens : Json → List Token
  | .null => [.scalar .null]
  | .bool b => [.scalar (.bool b)]
  | .number n => [.scalar (.number n)]
  | .string s => [.string s]
  | .array items =>
    .openArray :: ([.comma].intercalate (itemTokens items) ++ [.closeArray])
  | .object fields =>
    .openObject :: ([.comma].intercalate (fieldTokens fields) ++ [.closeObject])

/-- The tokens of the items. -/
def itemTokens : List Json → List (List Token)
  | [] => []
  | item :: rest => tokens item :: itemTokens rest

/-- The tokens of the fields. -/
def fieldTokens : List (String × Json) → List (List Token)
  | [] => []
  | (name, value) :: rest => (.string name :: .colon :: tokens value) :: fieldTokens rest

end

/-- The value can be read back: its whole numbers have 64 bits, it holds no doubles, and it is
nested no deeper than the given number of levels. -/
inductive Readable : Nat → Json → Prop
  | null {room : Nat} : Readable room .null
  | bool {room : Nat} (b : Bool) : Readable room (.bool b)
  | integer {room : Nat} {value : Int} (h : Fits value) : Readable room (.integer value)
  | string {room : Nat} (s : String) : Readable room (.string s)
  | array {room : Nat} {items : List Json} (h : ∀ item ∈ items, Readable room item) :
      Readable (room + 1) (.array items)
  | object {room : Nat} {fields : List (String × Json)}
      (h : ∀ field ∈ fields, Readable room field.2) : Readable (room + 1) (.object fields)

theorem prettyItems_eq_map (depth : Nat) (items : List Json) :
    prettyItems depth items = items.map (prettyAt depth) := by
  induction items with
  | nil => rfl
  | cons item items ih => rw [prettyItems, ih, List.map_cons]

theorem prettyFields_eq_map (depth : Nat) (fields : List (String × Json)) :
    prettyFields depth fields =
      fields.map fun field => quote field.1 ++ ": " ++ prettyAt depth field.2 := by
  induction fields with
  | nil => rfl
  | cons field fields ih => rw [prettyFields, ih, List.map_cons]

theorem itemTokens_eq_map (items : List Json) : itemTokens items = items.map tokens := by
  induction items with
  | nil => rfl
  | cons item items ih => rw [itemTokens, ih, List.map_cons]

theorem fieldTokens_eq_map (fields : List (String × Json)) :
    fieldTokens fields =
      fields.map fun field => .string field.1 :: .colon :: tokens field.2 := by
  induction fields with
  | nil => rfl
  | cons field fields ih => rw [fieldTokens, ih, List.map_cons]

/-- **Printed values are cut into their tokens**, however deep they are nested. -/
theorem lexes_prettyAt {room : Nat} {value : Json} (h : Readable room value) (depth : Nat) :
    Lexes (prettyAt depth value).toList (tokens value) := by
  induction h generalizing depth with
  | null => exact lexes_null
  | bool b => exact lexes_boolText b
  | integer h => exact lexes_integer h
  | string s => exact fun rest more _ hmore => .quote s hmore
  | @array room items h ih =>
    rw [prettyAt, tokens, prettyItems_eq_map, itemTokens_eq_map]
    exact lexes_block ⟨'[', rfl, rfl, fun _ => rfl⟩ ⟨']', rfl, rfl, fun _ => rfl⟩
      fun item hitem => ih item hitem (depth + 1)
  | @object room fields h ih =>
    rw [prettyAt, tokens, prettyFields_eq_map, fieldTokens_eq_map]
    refine lexes_block ⟨'\x7b', rfl, rfl, fun _ => rfl⟩ ⟨'\x7d', rfl, rfl, fun _ => rfl⟩
      fun field hfield => ?_
    intro rest more hrest hmore
    have hvalue := ih field hfield (depth + 1) rest more hrest hmore
    simp only [String.toList_append, List.append_assoc]
    exact .quote _ (.token rfl rfl (by simp) (.blank rfl hvalue))

end GroupScope.Json
