import Mathlib.Data.List.Basic
import Mathlib.Data.List.Chain
import GroupScope.Proofs.Resolution.Pieces
/-!
# Cleaned texts and what becomes of them

Cleaning brings a text into a form that can be told by looking at it: it has no control characters,
and the only blanks in it are single spaces between other characters. The texts of that form are
those that cleaning leaves alone:

    clean s = s   ↔   IsClean s

What is neither blank nor a control character stays, in its order. An expression is resolved from
its cleaned text alone, and the items of a cleaned text are cleaned texts themselves. So whatever a
host hands over, no control character and no line break gets into what is reported as dropped. The
main statement is `cleaning_canonical`.
-/

namespace GroupScope

namespace Text

/-! ## §1. Clean texts. -/

/-- There are no control characters, and every blank is one space between two other characters. -/
structure IsClean (s : List Char) : Prop where
  not_control : ∀ c ∈ s, isControl c = false
  eq_space : ∀ c ∈ s, isBlank c = true → c = ' '
  first : ∀ c ∈ s.head?, isBlank c = false
  last : ∀ c ∈ s.getLast?, isBlank c = false
  /-- Of two neighbours, one is not blank. -/
  apart : s.IsChain fun c d => isBlank c = false ∨ isBlank d = false

theorem startsTight_iff {s : List Char} : StartsTight s ↔ ∀ c ∈ s.head?, isBlank c = false := by
  cases s <;> simp [StartsTight]

/-- What is left after the blanks at the end are gone does not end with a blank. -/
theorem last_trimEnd (s : List Char) : ∀ c ∈ (trimEnd s).getLast?, isBlank c = false := by
  induction s with
  | nil => simp [trimEnd]
  | cons d s ih =>
    rw [trimEnd]
    cases hs : trimEnd s with
    | nil => cases hd : isBlank d <;> simp [hd]
    | cons e kept =>
      rw [hs] at ih
      simpa using ih

/-- Squeezing leaves no two blanks next to each other. -/
theorem apart_squeeze (s : List Char) :
    (squeeze s).IsChain fun c d => isBlank c = false ∨ isBlank d = false := by
  induction s using gap_induction with
  | nil => exact .nil
  | blank c s hc ih => rwa [squeeze_cons_of_blank hc]
  | tight c s hc hs ih =>
    rw [squeeze_cons_of_startsTight hc hs, List.isChain_cons]
    exact ⟨fun d _ => .inl hc, ih⟩
  | gap c d s hc hd ih =>
    rw [squeeze_cons_of_blank hd] at ih
    rw [squeeze_cons_cons_of_blank hc hd]
    cases hrest : squeeze s with
    | nil => exact .singleton c
    | cons e kept =>
      -- The space stands between two characters that are not blank.
      have he : isBlank e = false := startsTight_squeeze s e kept hrest
      rw [hrest] at ih
      exact .cons_cons (.inl hc) (.cons_cons (.inr he) ih)

/-- **What was cleaned is clean.** -/
theorem isClean_clean (s : List Char) : IsClean (clean s) := by
  have hmem : ∀ c ∈ clean s, c = ' ' ∨ isControl c = false ∧ isBlank c = false := by
    intro c hc
    rcases mem_squeeze hc with rfl | ⟨hc, hblank⟩
    · exact .inl rfl
    · have hkept : isKept c = true := (List.mem_filter.mp hc).2
      exact .inr ⟨by simpa [isKept, hblank] using hkept, hblank⟩
  have hend : trimEnd (clean s) = clean s := trimEnd_eq_self_of_trim (trim_squeeze _)
  constructor
  case not_control =>
    intro c hc
    rcases hmem c hc with rfl | ⟨hcontrol, -⟩
    · decide
    · exact hcontrol
  case eq_space =>
    intro c hc hblank
    rcases hmem c hc with rfl | ⟨-, htight⟩
    · rfl
    · rw [htight] at hblank
      cases hblank
  case first => exact startsTight_iff.mp (startsTight_squeeze _)
  case last => exact hend ▸ last_trimEnd (clean s)
  case apart => exact apart_squeeze _

/-- Where the only blanks are single spaces with something behind them, squeezing does no more than
to skip a space in front. -/
theorem squeeze_eq_trimStart {s : List Char} (hspace : ∀ c ∈ s, isBlank c = true → c = ' ')
    (hlast : ∀ c ∈ s.getLast?, isBlank c = false)
    (hapart : s.IsChain fun c d => isBlank c = false ∨ isBlank d = false) :
    squeeze s = trimStart s := by
  induction s using gap_induction with
  | nil => rfl
  | blank c s hc ih =>
    rw [squeeze_cons_of_blank hc, trimStart_cons_of_blank hc]
    exact ih (fun d hd => hspace d (List.mem_cons_of_mem c hd))
      (fun d hd => hlast d (List.mem_getLast?_cons hd)) hapart.of_cons
  | tight c s hc hs ih =>
    have hrest : squeeze s = trimStart s :=
      ih (fun d hd => hspace d (List.mem_cons_of_mem c hd))
        (fun d hd => hlast d (List.mem_getLast?_cons hd)) hapart.of_cons
    rw [squeeze_cons_of_startsTight hc hs, hrest, trimStart_eq_self hs,
      trimStart_eq_self (startsTight_cons hc s)]
  | gap c d s hc hd ih =>
    have hrest : squeeze (d :: s) = trimStart (d :: s) :=
      ih (fun e he => hspace e (List.mem_cons_of_mem c he))
        (fun e he => hlast e (List.mem_getLast?_cons he)) hapart.of_cons
    obtain rfl : d = ' ' := hspace d (List.mem_cons_of_mem c List.mem_cons_self) hd
    rw [squeeze_cons_of_blank hd, trimStart_cons_of_blank hd] at hrest
    rw [squeeze_cons_cons_of_blank hc hd, hrest, trimStart_eq_self (startsTight_cons hc _)]
    -- Something that is not blank comes behind the space, so the space is kept and stays single.
    cases s with
    | nil => exact absurd (hlast ' ' rfl) (by decide)
    | cons e kept =>
      have he : isBlank e = false := by
        have hpair := (List.isChain_cons_cons.mp hapart.of_cons).1
        rw [hd] at hpair
        simpa using hpair
      rw [trimStart_eq_self (startsTight_cons he kept), spaced]

/-- **The clean texts are those that cleaning leaves alone.** -/
theorem clean_eq_self_iff {s : List Char} : clean s = s ↔ IsClean s := by
  constructor
  · intro h
    exact h ▸ isClean_clean s
  · intro h
    have hkept : ∀ c ∈ s, isKept c = true := fun c hc =>
      isKept_of_not_isControl (h.not_control c hc)
    rw [clean_eq_squeeze_of_isKept hkept, squeeze_eq_trimStart h.eq_space h.last h.apart,
      trimStart_eq_self (startsTight_iff.mpr h.first)]

/-- The characters after which a reader may begin a new line. -/
def lineBreaks : List Char :=
  ['\n', '\x0b', '\x0c', '\r', '\u0085', '\u2028', '\u2029']

/-- All of them are blank, and none is a space. -/
theorem IsClean.not_mem_lineBreaks {s : List Char} (h : IsClean s) {c : Char} (hc : c ∈ s) :
    c ∉ lineBreaks := by
  intro hbreak
  have hall : lineBreaks.all (fun d => isBlank d && d != ' ') = true := by decide
  have hblank := List.all_eq_true.mp hall c hbreak
  rw [Bool.and_eq_true, bne_iff_ne] at hblank
  exact hblank.2 (h.eq_space c hc hblank.1)

/-! ## §2. What cleaning keeps. -/

theorem filter_spaced (s : List Char) :
    (spaced s).filter (fun c => !isBlank c) = s.filter fun c => !isBlank c := by
  cases s with
  | nil => rfl
  | cons c rest => exact List.filter_cons_of_neg (by decide)

/-- Squeezing moves blanks only. -/
theorem filter_squeeze (s : List Char) :
    (squeeze s).filter (fun c => !isBlank c) = s.filter fun c => !isBlank c := by
  induction s using gap_induction with
  | nil => rfl
  | blank c s hc ih => rw [squeeze_cons_of_blank hc, ih, List.filter_cons_of_neg (by simp [hc])]
  | tight c s hc hs ih =>
    rw [squeeze_cons_of_startsTight hc hs]
    simp only [List.filter_cons, hc, ih]
  | gap c d s hc hd ih =>
    rw [squeeze_cons_of_blank hd] at ih
    rw [squeeze_cons_cons_of_blank hc hd, List.filter_cons, filter_spaced, ih]
    simp only [List.filter_cons, hc]

/-- **Cleaning keeps what is neither blank nor a control character**, in its order. -/
theorem filter_clean (s : List Char) :
    (clean s).filter (fun c => !isBlank c) = s.filter fun c => !isBlank c && !isControl c := by
  rw [clean_eq_squeeze, filter_squeeze, List.filter_filter]
  congr 1
  funext c
  unfold isKept
  cases isBlank c <;> rfl

end Text

/-! ## §3. Resolving texts. -/

section

variable {native : NativeLists} {context : Context} {settings : Settings}

/-- A keyword drops nothing. -/
theorem Keyword.dropped_of_resolve? {keyword : Keyword} {r : Resolution}
    (h : keyword.resolve? context native = some r) : r.dropped = [] := by
  unfold resolve? at h
  cases keyword with
  | this =>
    obtain ⟨id, -, rfl⟩ := Option.map_eq_some_iff.mp h
    rfl
  | my =>
    simp only at h
    split at h
    · injection h with h
      rw [← h]
    · cases h
  | zero =>
    injection h with h
    rw [← h]

theorem Expression.dropped_of_isShortcut {text : String}
    (h : IsShortcut (Text.clean text.toList) context) :
    ((Expression.text text).resolve context native).value.dropped = [] := by
  unfold resolve
  simp only
  cases hkeyword : keywordResolution? (Text.clean text.toList) context native with
  | none => exact absurd h (keywordResolution?_eq_none_iff.mp hkeyword)
  | some r =>
    obtain ⟨keyword, -, hr⟩ := Option.bind_eq_some_iff.mp hkeyword
    exact Keyword.dropped_of_resolve? hr

/-- **What a text drops** are cleaned pieces of it. -/
theorem exists_piece_of_mem_dropped {text token : String}
    (h : token ∈ (resolve (some (.text text)) native context settings).value.dropped) :
    ∃ piece ∈ Text.splitBy (· == ',') text.toList, token = String.ofList (Text.clean piece) := by
  by_cases hon : settings.groupsEnabled = true
  · by_cases hshortcut : IsShortcut (Text.clean text.toList) context
    · rw [resolve_of_groupsEnabled native hon, Expression.dropped_of_isShortcut hshortcut] at h
      cases h
    · obtain ⟨item, hitem, rfl⟩ :=
        (collects_resolve_text native hon hshortcut).exists_of_mem_dropped h
      rw [Item.ofText_clean] at hitem
      obtain ⟨cleaned, hcleaned, hitem⟩ := List.mem_filterMap.mp hitem
      obtain ⟨piece, hpiece, rfl⟩ := List.mem_map.mp hcleaned
      refine ⟨piece, hpiece, ?_⟩
      rw [Item.text_of_ofChars? hitem, Text.clean_eq_squeeze, Text.trim_squeeze]
  · unfold resolve at h
    simp only [hon] at h
    cases h

end

/-- **Cleaning is canonical.** A cleaned text has no control characters, and its only blanks are
single spaces between other characters; it has what the text has that is neither blank nor a control
character, in the same order. The texts of that form are those that cleaning leaves alone, so
cleaning twice is cleaning once. A text resolves as its cleaned text does. Whatever it drops is
clean as well, without control characters and line breaks. -/
theorem cleaning_canonical (text : String) :
    let cleaned := Text.clean text.toList
    Text.IsClean cleaned
      ∧ cleaned.filter (fun c => !Text.isBlank c) =
          text.toList.filter (fun c => !Text.isBlank c && !Text.isControl c)
      ∧ (∀ s : List Char, Text.clean s = s ↔ Text.IsClean s)
      ∧ Text.clean cleaned = cleaned
      ∧ ∀ (native : NativeLists) (context : Context) (settings : Settings),
          resolve (some (.text (String.ofList cleaned))) native context settings =
              resolve (some (.text text)) native context settings
            ∧ ∀ token ∈ (resolve (some (.text text)) native context settings).value.dropped,
                Text.IsClean token.toList
                  ∧ ∀ c ∈ token.toList, Text.isControl c = false ∧ c ∉ Text.lineBreaks := by
  intro cleaned
  have hclean : Text.IsClean cleaned := Text.isClean_clean text.toList
  refine ⟨hclean, Text.filter_clean text.toList, fun s => Text.clean_eq_self_iff,
    Text.clean_eq_self_iff.mpr hclean, ?_⟩
  intro native context settings
  refine ⟨resolve_clean text native context settings, ?_⟩
  intro token htoken
  obtain ⟨piece, -, rfl⟩ := exists_piece_of_mem_dropped htoken
  rw [String.toList_ofList]
  have hpiece : Text.IsClean (Text.clean piece) := Text.isClean_clean piece
  exact ⟨hpiece, fun c hc => ⟨hpiece.not_control c hc, hpiece.not_mem_lineBreaks hc⟩⟩

/-- A tab, an escape, a run of blanks and a line separator; the slug in it is dropped. -/
theorem cleaning_canonical_of_untidy_text :
    let directory : Directory := { groupOf := fun _ => .ok none, groupsOf := fun _ => .ok [] }
    let context : Context := { viewer := .anonymous, directory }
    let text := "\tno\x1b \none,\u2028 5 "
    String.ofList (Text.clean text.toList) = "no one, 5"
      ∧ "no one" ∈ (resolve (some (.text text)) {} context {}).value.dropped
      ∧ Text.IsClean "no one".toList := by
  intro directory context text
  have hdropped : "no one" ∈ (resolve (some (.text text)) {} context {}).value.dropped := by
    decide +kernel
  exact ⟨by decide +kernel, hdropped,
    ((cleaning_canonical text).2.2.2.2 {} context {}).2 "no one" hdropped |>.1⟩

end GroupScope
