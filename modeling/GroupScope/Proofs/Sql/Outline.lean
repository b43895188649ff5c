import Mathlib.Data.List.Chain
import GroupScope.Proofs.Sql.Grammar
/-!
# The outline of a condition's text

Brackets and backticks can be told from the characters of a text alone, without reading it. This
file says what they look like in any text that can be read as a condition:

    Condition.ofText? text = some c   →   quotedNames? text  =  the columns of c, in order
                                          the brackets of the text are balanced
                                          no bracket is closed right after it is opened

The scanner is opened once, by the cases of `Pending.Step`; the three facts about texts follow from
facts about the tokens that the grammar spells.
-/

namespace GroupScope.Sql

/-! ## §1. Brackets and backticks of a text. -/

/-- The depth of brackets after a text. Brackets between backticks do not count. There is no depth
if a bracket is closed that is not open, or if a backtick has no partner. -/
def depthAfter? (quoted : Bool) (depth : Nat) : List Char → Option Nat
  | [] => if quoted then none else some depth
  | c :: rest =>
    if c = '`' then depthAfter? (!quoted) depth rest
    else if quoted then depthAfter? quoted depth rest
    else if c = '(' then depthAfter? quoted (depth + 1) rest
    else if c = ')' then
      match depth with
      | 0 => none
      | depth + 1 => depthAfter? quoted depth rest
    else depthAfter? quoted depth rest

/-- Every bracket of the text has its partner in the text. -/
def Balanced (text : List Char) : Prop := depthAfter? false 0 text = some 0

/-- The text is one group: its first bracket is the partner of its last character. -/
def IsGroup (text : String) : Prop := ∃ inner, text = "(" ++ inner ++ ")" ∧ Balanced inner.toList

/-- The texts between a text's backticks, where the first and the second are partners, the third and
the fourth, and so on; `open?` is what follows a backtick whose partner is still to come. -/
def namesFrom? (open? : Option (List Char)) : List Char → Option (List String)
  | [] => if open?.isSome then none else some []
  | c :: rest =>
    match open? with
    | none => if c = '`' then namesFrom? (some []) rest else namesFrom? none rest
    | some name =>
      if c = '`' then (namesFrom? none rest).map (String.ofList name :: ·)
      else namesFrom? (some (name ++ [c])) rest

/-- The texts between the backticks of a text. -/
def quotedNames? (text : List Char) : Option (List String) := namesFrom? none text

/-! ## §2. What one character does. -/

/-- The token is no bracket and no column name. -/
def Token.IsPlain : Token → Prop
  | .opening | .closing | .column _ => False
  | _ => True

/-- The column name that a token is. -/
def Token.column? : Token → Option String
  | .column name => some name
  | _ => none

namespace Pending

/-- The characters of a column name that has been begun. -/
def name? : Pending → Option (List Char)
  | .column name => some name
  | _ => none

/-- What a character makes of what has been begun. -/
inductive Step : Pending → Char → List Token → Pending → Prop
  /-- A character of a column name. -/
  | inside (name : List Char) (c : Char) (h : c ≠ '`') :
      Step (.column name) c [] (.column (name ++ [c]))
  /-- The backtick that closes a column name. -/
  | unquote (name : List Char) :
      Step (.column name) '`' [.column (String.ofList name)] .nothing
  /-- The backtick that opens a column name. -/
  | quote {p : Pending} {done : List Token} (hp : p.name? = none) (h : p.finish? = some done) :
      Step p '`' done (.column [])
  /-- An opening bracket. -/
  | opening {p : Pending} {done : List Token} (hp : p.name? = none) (h : p.finish? = some done) :
      Step p '(' (done ++ [.opening]) .nothing
  /-- A closing bracket. -/
  | closing {p : Pending} {done : List Token} (hp : p.name? = none) (h : p.finish? = some done) :
      Step p ')' (done ++ [.closing]) .nothing
  /-- Any other character outside of column names. -/
  | plain {p q : Pending} {c : Char} {now : List Token} (hp : p.name? = none) (hq : q.name? = none)
      (hquote : c ≠ '`') (hopen : c ≠ '(') (hclose : c ≠ ')') (hnow : ∀ t ∈ now, t.IsPlain) :
      Step p c now q

theorem isPlain_of_finish? {p : Pending} {done : List Token} (h : p.finish? = some done) :
    ∀ t ∈ done, t.IsPlain := by
  intro t ht
  cases p with
  | nothing =>
    cases h
    cases ht
  | bang | column => cases h
  | word letters =>
    obtain ⟨word, -, rfl⟩ := Option.map_eq_some_iff.mp h
    rw [List.mem_singleton.mp ht]
    trivial
  | number value =>
    cases h
    rw [List.mem_singleton.mp ht]
    trivial

/-- Brackets and backticks apart, a character begins no column name and gives plain tokens only. -/
theorem plain_of_start? {q : Pending} {c : Char} {now : List Token}
    (h : start? c = some (now, q)) (hquote : c ≠ '`') (hopen : c ≠ '(') (hclose : c ≠ ')') :
    (∀ t ∈ now, t.IsPlain) ∧ q.name? = none := by
  unfold start? at h
  rw [if_neg hopen, if_neg hclose, if_neg hquote] at h
  repeat' split at h
  all_goals cases h
  all_goals simp [Token.IsPlain, name?]

/-- A character that begins something ends what was begun before. -/
theorem step_of_start? {p q : Pending} {c : Char} {done now : List Token} (hp : p.name? = none)
    (hdone : p.finish? = some done) (h : start? c = some (now, q)) : Step p c (done ++ now) q := by
  by_cases hquote : c = '`'
  · subst hquote
    cases h
    rw [List.append_nil]
    exact .quote hp hdone
  by_cases hopen : c = '('
  · subst hopen
    cases h
    exact .opening hp hdone
  by_cases hclose : c = ')'
  · subst hclose
    cases h
    exact .closing hp hdone
  obtain ⟨hnow, hq⟩ := plain_of_start? h hquote hopen hclose
  refine .plain hp hq hquote hopen hclose ?_
  intro t ht
  rcases List.mem_append.mp ht with ht | ht
  · exact isPlain_of_finish? hdone t ht
  · exact hnow t ht

theorem step_of_extend? {p q : Pending} {c : Char} {now : List Token}
    (h : p.extend? c = some (now, q)) : Step p c now q := by
  -- Only a column name goes on with a bracket or a backtick.
  cases p with
  | nothing => cases h
  | bang =>
    rw [extend?] at h
    split at h
    next heq =>
      cases h
      subst heq
      exact .plain rfl rfl (by decide) (by decide) (by decide) (by simp [Token.IsPlain])
    next => cases h
  | word letters =>
    rw [extend?] at h
    split at h
    next hupper =>
      cases h
      refine .plain rfl rfl ?_ ?_ ?_ (by simp) <;> (rintro rfl; revert hupper; decide)
    next => cases h
  | number value =>
    rw [extend?] at h
    split at h
    next hdigit =>
      cases h
      refine .plain rfl rfl ?_ ?_ ?_ (by simp) <;> (rintro rfl; revert hdigit; decide)
    next => cases h
  | column name =>
    rw [extend?] at h
    split at h
    next heq =>
      cases h
      subst heq
      exact .unquote name
    next hne =>
      cases h
      exact .inside name c hne

/-- **What the scanner does with one character.** -/
theorem step_of_step? {p q : Pending} {c : Char} {now : List Token}
    (h : p.step? c = some (now, q)) : Step p c now q := by
  unfold step? at h
  cases hextend : p.extend? c with
  | some next =>
    rw [hextend] at h
    cases h
    exact step_of_extend? hextend
  | none =>
    rw [hextend] at h
    obtain ⟨done, hdone, h⟩ := Option.bind_eq_some_iff.mp h
    obtain ⟨⟨begun, q'⟩, hstart, h⟩ := Option.bind_eq_some_iff.mp h
    cases h
    have hp : p.name? = none := by
      cases p with
      | column name => cases hdone
      | nothing | bang | word | number => rfl
    exact step_of_start? hp hdone hstart

end Pending

/-! ## §3. What the characters of a text have in common with its tokens. -/

/-- The depth of brackets after some tokens. -/
def tokensDepth? (depth : Nat) : List Token → Option Nat
  | [] => some depth
  | .opening :: rest => tokensDepth? (depth + 1) rest
  | .closing :: rest =>
    match depth with
    | 0 => none
    | depth + 1 => tokensDepth? depth rest
  | _ :: rest => tokensDepth? depth rest

/-- The column names among some tokens. -/
def tokensNames (ts : List Token) : List String := ts.filterMap Token.column?

theorem tokensDepth?_plain {ts : List Token} (h : ∀ t ∈ ts, t.IsPlain) (depth : Nat)
    (rest : List Token) : tokensDepth? depth (ts ++ rest) = tokensDepth? depth rest := by
  induction ts with
  | nil => rfl
  | cons t ts ih =>
    have ht : t.IsPlain := h t List.mem_cons_self
    have hts := ih fun u hu => h u (List.mem_cons_of_mem t hu)
    cases t with
    | opening | closing | column => exact absurd ht id
    | comma | equal | unequal | word | number => exact hts

theorem tokensNames_append (ts us : List Token) :
    tokensNames (ts ++ us) = tokensNames ts ++ tokensNames us := List.filterMap_append

theorem tokensNames_plain {ts : List Token} (h : ∀ t ∈ ts, t.IsPlain) (rest : List Token) :
    tokensNames (ts ++ rest) = tokensNames rest := by
  have hnone : tokensNames ts = [] := by
    unfold tokensNames
    rw [List.filterMap_eq_nil_iff]
    intro t ht
    have hplain := h t ht
    cases t with
    | opening | closing | column => exact absurd hplain id
    | comma | equal | unequal | word | number => rfl
  rw [tokensNames_append, hnone, List.nil_append]

namespace Scans

variable {p q : Pending} {text : List Char} {ts : List Token}

theorem cons_inv {c : Char} (h : Scans p (c :: text) ts q) :
    ∃ now later r, p.Step c now r ∧ Scans r text later q ∧ ts = now ++ later := by
  unfold Scans at h
  rw [Pending.scan?] at h
  obtain ⟨⟨now, r⟩, hc, h⟩ := Option.bind_eq_some_iff.mp h
  obtain ⟨⟨later, q'⟩, hrest, h⟩ := Option.bind_eq_some_iff.mp h
  cases h
  exact ⟨now, later, r, Pending.step_of_step? hc, hrest, rfl⟩

theorem append_inv {first second : List Char} (h : Scans p (first ++ second) ts q) :
    ∃ now later r, Scans p first now r ∧ Scans r second later q ∧ ts = now ++ later := by
  induction first generalizing p ts with
  | nil => exact ⟨[], ts, p, Scans.nil p, h, rfl⟩
  | cons c first ih =>
    unfold Scans at h
    rw [List.cons_append, Pending.scan?] at h
    obtain ⟨⟨now, r⟩, hc, h⟩ := Option.bind_eq_some_iff.mp h
    obtain ⟨⟨later, q'⟩, hrest, h⟩ := Option.bind_eq_some_iff.mp h
    cases h
    obtain ⟨mid, last, r', hfirst, hsecond, rfl⟩ := ih hrest
    refine ⟨now ++ mid, last, r', Scans.cons hc hfirst, hsecond, ?_⟩
    rw [List.append_assoc]

/-- **A text is as deep in brackets as its tokens**, unless it ends inside a column name. -/
theorem depthAfter?_eq (h : Scans p text ts q) (hq : q.name? = none) (depth : Nat) :
    depthAfter? p.name?.isSome depth text = tokensDepth? depth ts := by
  induction text generalizing p ts depth with
  | nil =>
    cases h
    rw [hq]
    rfl
  | cons c text ih =>
    obtain ⟨now, later, r, hstep, hrest, rfl⟩ := h.cons_inv
    have hlater := ih hrest
    cases hstep with
    | inside name c hc =>
      show depthAfter? true depth (c :: text) = tokensDepth? depth later
      unfold depthAfter?
      rw [if_neg hc, if_pos rfl]
      exact hlater depth
    | unquote name => exact hlater depth
    | quote hp hdone =>
      rw [tokensDepth?_plain (Pending.isPlain_of_finish? hdone), hp]
      exact hlater depth
    | opening hp hdone =>
      rw [List.append_assoc, tokensDepth?_plain (Pending.isPlain_of_finish? hdone), hp]
      exact hlater (depth + 1)
    | closing hp hdone =>
      rw [List.append_assoc, tokensDepth?_plain (Pending.isPlain_of_finish? hdone), hp]
      cases depth with
      | zero => rfl
      | succ depth => exact hlater depth
    | plain hp hr hquote hopen hclose hnow =>
      rw [tokensDepth?_plain hnow, ← hlater depth, hp, hr]
      show depthAfter? false depth (c :: text) = depthAfter? false depth text
      rw [depthAfter?.eq_def]
      simp only
      rw [if_neg hquote, if_neg (by decide), if_neg hopen, if_neg hclose]

/-- **The texts between backticks are the column names among the tokens.** -/
theorem namesFrom?_eq (h : Scans p text ts q) (hq : q.name? = none) :
    namesFrom? p.name? text = some (tokensNames ts) := by
  induction text generalizing p ts with
  | nil =>
    cases h
    rw [hq]
    rfl
  | cons c text ih =>
    obtain ⟨now, later, r, hstep, hrest, rfl⟩ := h.cons_inv
    have hlater := ih hrest
    cases hstep with
    | inside name c hc =>
      show namesFrom? (some name) (c :: text) = some (tokensNames later)
      rw [namesFrom?, if_neg hc]
      exact hlater
    | unquote name =>
      show namesFrom? (some name) ('`' :: text) = some (String.ofList name :: tokensNames later)
      have hafter : namesFrom? none text = some (tokensNames later) := hlater
      rw [namesFrom?, if_pos rfl, hafter]
      rfl
    | quote hp hdone =>
      rw [tokensNames_plain (Pending.isPlain_of_finish? hdone), hp, namesFrom?, if_pos rfl]
      exact hlater
    | opening hp hdone | closing hp hdone =>
      rw [List.append_assoc, tokensNames_plain (Pending.isPlain_of_finish? hdone), hp, namesFrom?,
        if_neg (by decide)]
      exact hlater
    | plain hp hr hquote hopen hclose hnow =>
      rw [hr] at hlater
      rw [tokensNames_plain hnow, hp, namesFrom?, if_neg hquote]
      exact hlater

/-- What is between an unfinished column name and its backtick is part of a column name. -/
theorem exists_column (h : Scans p text ts q) (hq : q.name? = none) {name : List Char}
    (hp : p.name? = some name) : ∃ rest, .column (String.ofList (name ++ rest)) ∈ ts := by
  induction text generalizing p ts name with
  | nil =>
    cases h
    rw [hq] at hp
    cases hp
  | cons c text ih =>
    obtain ⟨now, later, r, hstep, hrest, rfl⟩ := h.cons_inv
    cases hstep with
    | inside name' c hc =>
      cases hp
      obtain ⟨rest, hmem⟩ := ih hrest rfl
      rw [List.append_assoc] at hmem
      exact ⟨[c] ++ rest, hmem⟩
    | unquote name' =>
      cases hp
      refine ⟨[], ?_⟩
      rw [List.append_nil]
      exact List.mem_cons_self
    | quote hp' | opening hp' | closing hp' | plain hp' =>
      rw [hp'] at hp
      cases hp

/-- **Brackets side by side are tokens side by side**, unless they stand in a column name. -/
theorem empty_brackets (h : Scans p text ts q) (hq : q.name? = none)
    (hbrackets : ['(', ')'] <:+: text) :
    [.opening, .closing] <:+: ts ∨ ∃ name, .column name ∈ ts ∧ '(' ∈ name.toList := by
  obtain ⟨before, after, rfl⟩ := hbrackets
  induction before generalizing p ts with
  | nil =>
    obtain ⟨now, later, r, hstep, hrest, rfl⟩ := h.cons_inv
    cases hstep with
    | inside name c hc =>
      obtain ⟨rest, hmem⟩ := hrest.exists_column hq rfl
      refine .inr ⟨_, hmem, ?_⟩
      rw [String.toList_ofList]
      simp
    | @opening _ done hp hdone =>
      obtain ⟨now', later', r', hstep', -, rfl⟩ := hrest.cons_inv
      cases hstep' with
      | closing hp' hdone' =>
        cases hdone'
        exact .inl ⟨done, later', by simp⟩
      | plain hp' hr' hquote hopen hclose => exact absurd rfl hclose
    | plain hp hr hquote hopen => exact absurd rfl hopen
  | cons c before ih =>
    obtain ⟨now, later, r, -, hrest, rfl⟩ := h.cons_inv
    rcases ih hrest with hadjacent | ⟨name, hmem, hname⟩
    · exact .inl (hadjacent.trans (List.suffix_append now later).isInfix)
    · exact .inr ⟨name, List.mem_append_right now hmem, hname⟩

end Scans

/-! ## §4. What the grammar spells. -/

/-- The columns that a condition mentions, in order. -/
def Condition.columns : Condition → List String
  | .equals name _ | .differs name _ | .isNull name | .isNotNull name | .among name _
  | .notAmong name _ => [name]
  | .and first second | .or first second => first.columns ++ second.columns

theorem tokensDepth?_valuesTokens {values : List Nat} (h : values ≠ []) (depth : Nat) :
    tokensDepth? (depth + 1) (valuesTokens values) = some depth := by
  induction values with
  | nil => exact absurd rfl h
  | cons value values ih =>
    cases values with
    | nil => rfl
    | cons next values => exact ih (by simp)

theorem tokensNames_valuesTokens (values : List Nat) : tokensNames (valuesTokens values) = [] := by
  induction values with
  | nil => rfl
  | cons value values ih =>
    cases values with
    | nil => rfl
    | cons next values => exact ih

theorem tokensDepth?_append (ts us : List Token) (depth : Nat) :
    tokensDepth? depth (ts ++ us) = (tokensDepth? depth ts).bind (tokensDepth? · us) := by
  induction ts generalizing depth with
  | nil => rfl
  | cons t ts ih =>
    cases t with
    | opening => exact ih (depth + 1)
    | closing =>
      cases depth with
      | zero => rfl
      | succ depth => exact ih depth
    | comma | equal | unequal | word | column | number => exact ih depth

/-- **What is spelled leaves the depth of brackets as it was.** -/
theorem Spells.tokensDepth?_eq {level : Level} {ts : List Token} {c : Condition}
    (h : Spells level ts c) (depth : Nat) : tokensDepth? depth ts = some depth := by
  induction h generalizing depth with
  | test h =>
    cases h with
    | equals | differs | isNull | isNotNull => rfl
    | among name values hv => exact tokensDepth?_valuesTokens hv depth
    | notAmong name values hv => exact tokensDepth?_valuesTokens hv depth
  | @brackets ts c h ih =>
    show tokensDepth? (depth + 1) (ts ++ [.closing]) = some depth
    rw [tokensDepth?_append, ih]
    rfl
  | single h ih => exact ih depth
  | conjunction h ih => exact ih depth
  | and hc hd ihc ihd | or hc hd ihc ihd =>
    rw [tokensDepth?_append, ihc]
    exact ihd depth

/-- **The names that are spelled are the columns of the condition.** -/
theorem Spells.tokensNames_eq {level : Level} {ts : List Token} {c : Condition}
    (h : Spells level ts c) : tokensNames ts = c.columns := by
  induction h with
  | test h =>
    cases h with
    | equals | differs | isNull | isNotNull => rfl
    | among name values hv => exact congrArg (name :: ·) (tokensNames_valuesTokens values)
    | notAmong name values hv => exact congrArg (name :: ·) (tokensNames_valuesTokens values)
  | @brackets ts c h ih =>
    show tokensNames (ts ++ [.closing]) = c.columns
    rw [tokensNames_append, ih]
    exact List.append_nil _
  | single h ih => exact ih
  | conjunction h ih => exact ih
  | and hc hd ihc ihd | or hc hd ihc ihd =>
    rw [tokensNames_append, ihc]
    exact congrArg (_ ++ ·) ihd

/-- The second token does not close a bracket that the first one opens. -/
def Token.Apart (first second : Token) : Prop := ¬(first = .opening ∧ second = .closing)

/-- No bracket is closed right after it is opened, and none would be after any token in front or
before any token behind. -/
structure Tight (ts : List Token) : Prop where
  apart : ts.IsChain Token.Apart
  head : ∀ t ∈ ts.head?, t ≠ .closing
  last : ∀ t ∈ ts.getLast?, t ≠ .opening

namespace Tight

variable {ts us : List Token}

theorem singleton {t : Token} (hopen : t ≠ .opening) (hclose : t ≠ .closing) : Tight [t] where
  apart := List.isChain_singleton t
  head := by
    intro u hu
    cases hu
    exact hclose
  last := by
    intro u hu
    cases hu
    exact hopen

theorem append (hts : Tight ts) (hus : Tight us) (hne : ts ≠ []) (hne' : us ≠ []) :
    Tight (ts ++ us) where
  apart := by
    rw [List.isChain_append]
    refine ⟨hts.apart, hus.apart, ?_⟩
    intro t ht u _ hboth
    exact hts.last t ht hboth.1
  head := by
    rw [List.head?_append_of_ne_nil ts hne]
    exact hts.head
  last := by
    rw [List.getLast?_append_of_ne_nil ts hne']
    exact hus.last

/-- Any token but a closing bracket may stand in front. -/
theorem cons (h : Tight ts) (hne : ts ≠ []) {t : Token} (ht : t ≠ .closing) : Tight (t :: ts) where
  apart := by
    rw [List.isChain_cons]
    refine ⟨?_, h.apart⟩
    intro u hu hboth
    exact h.head u hu hboth.2
  head := by
    intro u hu
    cases hu
    exact ht
  last := by
    rw [show t :: ts = [t] ++ ts from rfl, List.getLast?_append_of_ne_nil [t] hne]
    exact h.last

/-- Any token but an opening bracket may stand behind. -/
theorem concat (h : Tight ts) (hne : ts ≠ []) {t : Token} (ht : t ≠ .opening) :
    Tight (ts ++ [t]) where
  apart := by
    rw [List.isChain_append]
    refine ⟨h.apart, List.isChain_singleton t, ?_⟩
    intro u hu v _ hboth
    exact h.last u hu hboth.1
  head := by
    rw [List.head?_append_of_ne_nil ts hne]
    exact h.head
  last := by
    intro u hu
    rw [List.getLast?_concat] at hu
    cases hu
    exact ht

end Tight

theorem valuesTokens_ne_nil (values : List Nat) : valuesTokens values ≠ [] := by
  unfold valuesTokens
  split <;> simp

theorem tight_valuesTokens {values : List Nat} (h : values ≠ []) : Tight (valuesTokens values) := by
  induction values with
  | nil => exact absurd rfl h
  | cons value values ih =>
    cases values with
    | nil =>
      have hvalue : Tight [.number value] := .singleton (by simp) (by simp)
      exact hvalue.concat (by simp) (by simp)
    | cons next values =>
      have htail := (ih (by simp)).cons (valuesTokens_ne_nil _) (t := .comma) (by simp)
      exact htail.cons (by simp) (by simp)

theorem Test.tight {ts : List Token} {c : Condition} (h : Test ts c) : Tight ts := by
  have hnull : Tight [.word .null] := .singleton (by simp) (by simp)
  cases h with
  | equals name value | differs name value =>
    have hvalue : Tight [.number value] := .singleton (by simp) (by simp)
    exact (hvalue.cons (by simp) (by simp)).cons (by simp) (by simp)
  | isNull name => exact (hnull.cons (by simp) (by simp)).cons (by simp) (by simp)
  | isNotNull name =>
    exact ((hnull.cons (by simp) (by simp)).cons (by simp) (by simp)).cons (by simp) (by simp)
  | among name values hv =>
    have hlist := (tight_valuesTokens hv).cons (valuesTokens_ne_nil _) (t := .opening) (by simp)
    exact (hlist.cons (by simp) (by simp)).cons (by simp) (by simp)
  | notAmong name values hv =>
    have hlist := (tight_valuesTokens hv).cons (valuesTokens_ne_nil _) (t := .opening) (by simp)
    exact ((hlist.cons (by simp) (by simp)).cons (by simp) (by simp)).cons (by simp) (by simp)

theorem Spells.ne_nil {level : Level} {ts : List Token} {c : Condition}
    (h : Spells level ts c) : ts ≠ [] := by
  induction h with
  | test h => cases h <;> simp
  | brackets => simp
  | single h ih => exact ih
  | conjunction h ih => exact ih
  | and | or => simp

/-- **No empty brackets are spelled.** -/
theorem Spells.tight {level : Level} {ts : List Token} {c : Condition} (h : Spells level ts c) :
    Tight ts := by
  induction h with
  | test h => exact h.tight
  | brackets h ih => exact (ih.cons h.ne_nil (by simp)).concat (by simp) (by simp)
  | single h ih => exact ih
  | conjunction h ih => exact ih
  | and hc hd ihc ihd | or hc hd ihc ihd =>
    exact ihc.append (ihd.cons hd.ne_nil (by simp)) hc.ne_nil (by simp)

/-! ## §5. Texts that can be read. -/

section

variable {text : String} {ts : List Token} {c : Condition}

theorem tokens?_inv (h : tokens? text = some ts) :
    ∃ before last q, Scans .nothing text.toList before q ∧ q.name? = none
      ∧ (∀ t ∈ last, t.IsPlain) ∧ ts = before ++ last := by
  obtain ⟨⟨before, q⟩, hscan, h⟩ := Option.bind_eq_some_iff.mp h
  obtain ⟨last, hlast, h⟩ := Option.bind_eq_some_iff.mp h
  cases h
  refine ⟨before, last, q, hscan, ?_, Pending.isPlain_of_finish? hlast, rfl⟩
  cases q with
  | column name => cases hlast
  | nothing | bang | word | number => rfl

/-- The tokens of a text in brackets are those of the text, in brackets. -/
theorem tokens?_brackets_inv {inner : String} (h : tokens? ("(" ++ inner ++ ")") = some ts) :
    ∃ us, tokens? inner = some us ∧ ts = .opening :: us ++ [.closing] := by
  obtain ⟨⟨before, q⟩, hscan, h⟩ := Option.bind_eq_some_iff.mp h
  obtain ⟨last, hlast, h⟩ := Option.bind_eq_some_iff.mp h
  cases h
  rw [String.toList_append, String.toList_append] at hscan
  have hscan' : Scans .nothing ('(' :: (inner.toList ++ [')'])) before q := hscan
  obtain ⟨now, later, r, hstep, hrest, rfl⟩ := hscan'.cons_inv
  cases hstep with
  | plain hp hr hquote hopen => exact absurd rfl hopen
  | opening hp hdone =>
    cases hdone
    obtain ⟨us, mid, r, hinner, hend, rfl⟩ := hrest.append_inv
    obtain ⟨now, later, r', hstep, hnil, rfl⟩ := hend.cons_inv
    cases hnil
    cases hstep with
    | inside name c hc => cases hlast
    | plain hp hr hquote hopen hclose => exact absurd rfl hclose
    | @closing _ done hp hdone =>
      cases hlast
      refine ⟨us ++ done, ?_, by simp⟩
      show (Pending.nothing.scan? inner.toList).bind _ = _
      rw [show Pending.nothing.scan? inner.toList = _ from hinner]
      show (r.finish?).bind _ = _
      rw [hdone]
      rfl

/-- **The brackets of a text are balanced** if its tokens spell something. -/
theorem balanced_of_tokens? (h : tokens? text = some ts) {level : Level}
    (hs : Spells level ts c) : Balanced text.toList := by
  obtain ⟨before, last, q, hscan, hq, hlast, rfl⟩ := tokens?_inv h
  have hdepth := hs.tokensDepth?_eq 0
  have hend : tokensDepth? 0 (before ++ last) = tokensDepth? 0 before := by
    rw [tokensDepth?_append]
    cases tokensDepth? 0 before with
    | none => rfl
    | some depth =>
      have h := tokensDepth?_plain hlast depth []
      rwa [List.append_nil] at h
  unfold Balanced
  rw [← hdepth, hend]
  exact hscan.depthAfter?_eq hq 0

/-- A text in brackets that spells a single is one group. -/
theorem isGroup_of_tokens? {inner : String} (h : tokens? ("(" ++ inner ++ ")") = some ts)
    (hs : Spells .single ts c) : IsGroup ("(" ++ inner ++ ")") := by
  obtain ⟨us, hus, hts⟩ := tokens?_brackets_inv h
  cases hs with
  | test htest =>
    subst hts
    cases htest
  | @brackets vs c hvs =>
    have heq : us = vs := by
      simpa using hts.symm
    subst heq
    exact ⟨inner, rfl, balanced_of_tokens? hus hvs⟩

/-- **Between the backticks of a text stand the columns of the condition.** -/
theorem quotedNames?_of_ofText? (h : Condition.ofText? text = some c) :
    quotedNames? text.toList = some c.columns := by
  obtain ⟨ts, hts, hc⟩ := Option.bind_eq_some_iff.mp h
  have hnames := (ofTokens?_eq_some_iff.mp hc).tokensNames_eq
  obtain ⟨before, last, q, hscan, hq, hlast, rfl⟩ := tokens?_inv hts
  have hplain : tokensNames last = [] := by
    have h := tokensNames_plain hlast []
    rw [List.append_nil] at h
    exact h
  rw [tokensNames_append, hplain, List.append_nil] at hnames
  rw [← hnames]
  exact hscan.namesFrom?_eq hq

/-- **No brackets of a text are empty**, if there are none in the names of its columns. -/
theorem not_empty_brackets_of_ofText? (h : Condition.ofText? text = some c)
    (hnames : ∀ name ∈ c.columns, '(' ∉ name.toList) : ¬['(', ')'] <:+: text.toList := by
  intro hbrackets
  obtain ⟨ts, hts, hc⟩ := Option.bind_eq_some_iff.mp h
  have hs := ofTokens?_eq_some_iff.mp hc
  obtain ⟨before, last, q, hscan, hq, hlast, rfl⟩ := tokens?_inv hts
  rcases hscan.empty_brackets hq hbrackets with hadjacent | ⟨name, hmem, hname⟩
  · have hinfix : [.opening, .closing] <:+: before ++ last :=
      hadjacent.trans (List.prefix_append before last).isInfix
    have hchain := hs.tight.apart.infix hinfix
    rw [List.isChain_cons_cons] at hchain
    exact hchain.1 ⟨rfl, rfl⟩
  · refine hnames name ?_ hname
    rw [← hs.tokensNames_eq]
    exact List.mem_filterMap.mpr ⟨.column name, List.mem_append_left last hmem, rfl⟩

end

end GroupScope.Sql
