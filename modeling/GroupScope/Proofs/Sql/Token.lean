import GroupScope.Number.Numeral
/-!
# Tokens of a condition

The text of a condition is cut into tokens from left to right: brackets, commas, comparison signs,
keywords, column names between backticks, and numbers. A scan keeps what it has begun but not
finished, so scanning a text in two parts is scanning it at once:

    Scans p a s q  →  Scans q b t r  →  Scans p (a ++ b) (s ++ t) r
-/

namespace GroupScope.Sql

/-! ## §1. Tokens. -/

/-- A keyword of conditions. -/
inductive Word where
  | and
  | or
  | is
  | not
  | null
  | among
  deriving DecidableEq, Repr

/-- The keyword that letters spell. -/
def Word.ofChars? (letters : List Char) : Option Word :=
  if letters = ['A', 'N', 'D'] then some .and
  else if letters = ['O', 'R'] then some .or
  else if letters = ['I', 'S'] then some .is
  else if letters = ['N', 'O', 'T'] then some .not
  else if letters = ['N', 'U', 'L', 'L'] then some .null
  else if letters = ['I', 'N'] then some .among
  else none

/-- A piece of a condition. -/
inductive Token where
  | opening
  | closing
  | comma
  | equal
  | unequal
  | word (word : Word)
  | column (name : String)
  | number (value : Nat)
  deriving DecidableEq, Repr

/-! ## §2. Scanning. -/

/-- What a scan has begun. -/
inductive Pending where
  /-- Nothing. -/
  | nothing
  /-- An exclamation mark. -/
  | bang
  /-- A keyword, with its letters so far. -/
  | word (letters : List Char)
  /-- A number, with its value so far. -/
  | number (value : Nat)
  /-- A column name, with its characters so far. -/
  | column (name : List Char)
  deriving DecidableEq, Repr

namespace Pending

/-- The tokens of what has been begun, if it may end here. -/
def finish? : Pending → Option (List Token)
  | .nothing => some []
  | .bang => none
  | .word letters => (Word.ofChars? letters).map fun word => [.word word]
  | .number value => some [.number value]
  | .column _ => none

/-- What a character begins or is. -/
def start? (c : Char) : Option (List Token × Pending) :=
  if c = ' ' then some ([], .nothing)
  else if c = '(' then some ([.opening], .nothing)
  else if c = ')' then some ([.closing], .nothing)
  else if c = ',' then some ([.comma], .nothing)
  else if c = '=' then some ([.equal], .nothing)
  else if c = '!' then some ([], .bang)
  else if c = '`' then some ([], .column [])
  else if c.isDigit then some ([], .number (c.toNat - '0'.toNat))
  else if c.isUpper then some ([], .word [c])
  else none

/-- What a character makes of what has been begun, if it belongs to it. -/
def extend? (p : Pending) (c : Char) : Option (List Token × Pending) :=
  match p with
  | .nothing => none
  | .bang => if c = '=' then some ([.unequal], .nothing) else none
  | .word letters => if c.isUpper then some ([], .word (letters ++ [c])) else none
  | .number value =>
    if c.isDigit then some ([], .number (10 * value + (c.toNat - '0'.toNat))) else none
  | .column name =>
    if c = '`' then some ([.column (String.ofList name)], .nothing)
    else some ([], .column (name ++ [c]))

/-- One character: it belongs to what has been begun, or it ends that and begins something. -/
def step? (p : Pending) (c : Char) : Option (List Token × Pending) :=
  match p.extend? c with
  | some next => some next
  | none => do
    let done ← p.finish?
    let (now, p) ← start? c
    some (done ++ now, p)

/-- The tokens of a text, and what it leaves unfinished. -/
def scan? (p : Pending) : List Char → Option (List Token × Pending)
  | [] => some ([], p)
  | c :: rest => do
    let (now, p) ← p.step? c
    let (later, p) ← p.scan? rest
    some (now ++ later, p)

end Pending

/-- The tokens of a whole text. -/
def tokens? (text : String) : Option (List Token) := do
  let (tokens, p) ← Pending.nothing.scan? text.toList
  let last ← p.finish?
  some (tokens ++ last)

/-! ## §3. Scanning in parts. -/

/-- Scanning the text yields the tokens and leaves the rest unfinished. -/
def Scans (p : Pending) (text : List Char) (tokens : List Token) (q : Pending) : Prop :=
  p.scan? text = some (tokens, q)

theorem Scans.nil (p : Pending) : Scans p [] [] p := rfl

theorem Scans.cons {p q r : Pending} {c : Char} {rest : List Char} {now later : List Token}
    (hc : p.step? c = some (now, q)) (h : Scans q rest later r) :
    Scans p (c :: rest) (now ++ later) r := by
  unfold Scans at h ⊢
  rw [Pending.scan?, hc]
  show (q.scan? rest).bind _ = _
  rw [h]
  rfl

/-- **A text is scanned part by part.** -/
theorem Scans.append {p q r : Pending} {first second : List Char} {now later : List Token}
    (hf : Scans p first now q) (hs : Scans q second later r) :
    Scans p (first ++ second) (now ++ later) r := by
  -- What is pending after the first text is where the second one starts.
  induction first generalizing p now with
  | nil =>
    cases hf
    exact hs
  | cons c rest ih =>
    unfold Scans at hf
    rw [Pending.scan?] at hf
    obtain ⟨⟨t, p'⟩, hc, hf⟩ := Option.bind_eq_some_iff.mp hf
    obtain ⟨⟨u, q'⟩, hr, hf⟩ := Option.bind_eq_some_iff.mp hf
    cases hf
    rw [List.append_assoc]
    exact Scans.cons hc (ih hr)

/-- A text that is scanned from end to end is its tokens. -/
theorem tokens?_of_scans {text : String} {ts : List Token}
    (h : Scans .nothing text.toList ts .nothing) : tokens? text = some ts := by
  unfold Scans at h
  unfold tokens?
  rw [h]
  simp [Pending.finish?]

/-! ## §4. Names and numbers. -/

/-- The characters of a name go by until the closing backtick. -/
theorem scans_name (before : List Char) {name : List Char} (h : '`' ∉ name) :
    Scans (.column before) name [] (.column (before ++ name)) := by
  induction name generalizing before with
  | nil =>
    rw [List.append_nil]
    exact Scans.nil _
  | cons c rest ih =>
    simp only [List.mem_cons, not_or] at h
    have hc : (Pending.column before).step? c = some ([], .column (before ++ [c])) := by
      simp [Pending.step?, Pending.extend?, Ne.symm h.1]
    have hr := ih (before ++ [c]) h.2
    rw [List.append_assoc] at hr
    exact Scans.cons hc hr

/-- **A column name between backticks is one token.** -/
theorem scans_column {p : Pending} {name : String} (hp : p.step? '`' = some ([], .column []))
    (h : '`' ∉ name.toList) :
    Scans p ('`' :: name.toList ++ ['`']) [.column name] .nothing := by
  have hclose : Scans (.column name.toList) ['`'] [.column name] .nothing := by
    simp [Scans, Pending.scan?, Pending.step?, Pending.extend?]
  exact Scans.append (Scans.cons hp (scans_name [] h)) hclose

/-- The digits of a number go by until its end. -/
theorem scans_digits (value : Nat) {digits : List Char} (h : ∀ c ∈ digits, c.isDigit = true) :
    Scans (.number value) digits [] (.number (Nat.ofDigitChars 10 digits value)) := by
  -- Each digit changes the value so far, so the value has to vary.
  induction digits generalizing value with
  | nil => exact Scans.nil _
  | cons c rest ih =>
    have hc : (Pending.number value).step? c =
        some ([], .number (10 * value + (c.toNat - '0'.toNat))) := by
      simp [Pending.step?, Pending.extend?, h c (by simp)]
    rw [Nat.ofDigitChars_cons]
    exact Scans.cons hc (ih _ fun d hd => h d (List.mem_cons_of_mem c hd))

theorem start?_digit {c : Char} (h : c.isDigit = true) :
    Pending.start? c = some ([], .number (c.toNat - '0'.toNat)) := by
  have hne : ∀ d : Char, d.isDigit = false → c ≠ d := by
    rintro d hd rfl
    rw [h] at hd
    cases hd
  unfold Pending.start?
  rw [if_neg (hne ' ' rfl), if_neg (hne '(' rfl), if_neg (hne ')' rfl), if_neg (hne ',' rfl),
    if_neg (hne '=' rfl), if_neg (hne '!' rfl), if_neg (hne '`' rfl), if_pos h]

/-- **The decimal digits of a number are one token**, which whatever follows completes. -/
theorem scans_number (value : Nat) :
    Scans .nothing (Nat.repr value).toList [] (.number value) := by
  have hdigit : ∀ c ∈ Nat.toDigits 10 value, c.isDigit = true :=
    fun c hc => Nat.isDigit_of_mem_toDigits (by decide) (by decide) hc
  have hvalue : Nat.ofDigitChars 10 (Nat.toDigits 10 value) 0 = value :=
    Nat.ofDigitChars_ten_toDigits
  rw [Nat.toList_repr]
  cases hd : Nat.toDigits 10 value with
  | nil => exact absurd hd Nat.toDigits_ne_nil
  | cons c rest =>
    rw [hd] at hdigit hvalue
    have hc : Pending.nothing.step? c = some ([], .number (c.toNat - '0'.toNat)) := by
      simp [Pending.step?, Pending.extend?, Pending.finish?, start?_digit (hdigit c (by simp))]
    -- The first digit begins the number, and the others go on with it.
    have hr := scans_digits (c.toNat - '0'.toNat)
      fun d hd => hdigit d (List.mem_cons_of_mem c hd)
    rw [Nat.ofDigitChars_cons, Nat.mul_zero, Nat.zero_add] at hvalue
    rw [hvalue] at hr
    exact Scans.cons hc hr

end GroupScope.Sql
