import GroupScope.Text.Words
/-!
# Cutting, trimming and cleaning commute

A text may be cleaned as a whole and then cut at a separator, or cut first and then cleaned piece by
piece. Up to the blanks at the ends of the pieces, which nobody who reads a piece looks at, both
give the same:

    trim each piece of (clean s)  =  clean each piece of s

Cleaning removes control characters and then squeezes the blanks, so both steps are taken apart
here. A text without blanks and control characters is clean already.
-/

namespace GroupScope.Text

/-! ## §1. Cutting. -/

theorem splitBy_eq_splitOnP (isSeparator : Char → Bool) (s : List Char) :
    splitBy isSeparator s = s.splitOnP isSeparator := by
  induction s with
  | nil => rfl
  | cons c rest ih =>
    rw [splitBy, ih, List.splitOnP_cons_eq_if_modifyHead]
    cases hrest : rest.splitOnP isSeparator with
    | nil => exact absurd hrest (List.splitOnP_ne_nil isSeparator rest)
    | cons piece pieces => rfl

theorem splitBy_ne_nil (isSeparator : Char → Bool) (s : List Char) :
    splitBy isSeparator s ≠ [] := by
  rw [splitBy_eq_splitOnP]
  exact List.splitOnP_ne_nil isSeparator s

/-- A separator begins a new piece. -/
theorem splitBy_cons_of_pos {isSeparator : Char → Bool} {c : Char} (h : isSeparator c = true)
    (s : List Char) : splitBy isSeparator (c :: s) = [] :: splitBy isSeparator s := by
  rw [splitBy, if_pos h]

/-- Any other character goes to the piece that begins after it. -/
theorem splitBy_cons_of_neg {isSeparator : Char → Bool} {c : Char} (h : isSeparator c = false)
    {s : List Char} {piece : List Char} {pieces : List (List Char)}
    (hs : splitBy isSeparator s = piece :: pieces) :
    splitBy isSeparator (c :: s) = (c :: piece) :: pieces := by
  rw [splitBy, hs, h]
  rfl

/-- A text has a first piece. -/
theorem exists_splitBy_eq_cons (isSeparator : Char → Bool) (s : List Char) :
    ∃ piece pieces, splitBy isSeparator s = piece :: pieces :=
  List.exists_cons_of_ne_nil (splitBy_ne_nil isSeparator s)

theorem not_isSeparator_of_mem_splitBy {isSeparator : Char → Bool} {s piece : List Char}
    (h : piece ∈ splitBy isSeparator s) {c : Char} (hc : c ∈ piece) : isSeparator c = false := by
  induction s generalizing piece with
  | nil =>
    have hpiece : piece = [] := List.mem_singleton.mp h
    rw [hpiece] at hc
    cases hc
  | cons d s ih =>
    obtain ⟨first, others, hs⟩ := exists_splitBy_eq_cons isSeparator s
    rw [hs] at ih
    by_cases hd : isSeparator d = true
    · rw [splitBy_cons_of_pos hd, hs] at h
      rcases List.mem_cons.mp h with rfl | h
      · cases hc
      · exact ih h hc
    · rw [splitBy_cons_of_neg (by simpa using hd) hs] at h
      rcases List.mem_cons.mp h with rfl | h
      · rcases List.mem_cons.mp hc with rfl | hc
        · simpa using hd
        · exact ih List.mem_cons_self hc
      · exact ih (List.mem_cons_of_mem first h) hc

/-- **Joined pieces are cut apart again**, if no piece holds the separator. -/
theorem splitBy_join {separator : Char} {pieces : List (List Char)} (hne : pieces ≠ [])
    (h : ∀ piece ∈ pieces, separator ∉ piece) :
    splitBy (· == separator) (join [separator] pieces) = pieces := by
  rw [splitBy_eq_splitOnP]
  exact List.splitOn_intercalate separator h hne

/-- A text is cut at a separator into the pieces before it and the pieces after it. -/
theorem splitBy_append_cons {isSeparator : Char → Bool} {c : Char} (h : isSeparator c = true)
    (s t : List Char) :
    splitBy isSeparator (s ++ c :: t) = splitBy isSeparator s ++ splitBy isSeparator t := by
  rw [splitBy_eq_splitOnP, splitBy_eq_splitOnP, splitBy_eq_splitOnP]
  exact List.splitOnP_append_cons s t h

/-- Characters that are no separators may be removed before cutting or after. -/
theorem splitBy_filter {isSeparator keep : Char → Bool}
    (h : ∀ c, isSeparator c = true → keep c = true) (s : List Char) :
    splitBy isSeparator (s.filter keep) = (splitBy isSeparator s).map (List.filter keep) := by
  induction s with
  | nil => rfl
  | cons c rest ih =>
    obtain ⟨piece, pieces, hrest⟩ := exists_splitBy_eq_cons isSeparator rest
    rw [hrest] at ih
    by_cases hc : isSeparator c = true
    · rw [List.filter_cons_of_pos (h c hc), splitBy_cons_of_pos hc, splitBy_cons_of_pos hc, ih,
        hrest]
      rfl
    · have hc' : isSeparator c = false := by simpa using hc
      rw [splitBy_cons_of_neg hc' hrest]
      by_cases hk : keep c = true
      · rw [List.filter_cons_of_pos hk, splitBy_cons_of_neg hc' ih]
        simp [hk]
      · rw [List.filter_cons_of_neg hk, ih]
        simp [hk]

/-! ## §2. Trimming. -/

/-- The text does not begin with a blank. -/
def StartsTight (s : List Char) : Prop := ∀ c rest, s = c :: rest → isBlank c = false

theorem startsTight_cons {c : Char} (h : isBlank c = false) (s : List Char) :
    StartsTight (c :: s) := by
  rintro d rest hd
  injection hd with hd
  rw [← hd]
  exact h

theorem trimStart_cons_of_blank {c : Char} (h : isBlank c = true) (s : List Char) :
    trimStart (c :: s) = trimStart s :=
  List.dropWhile_cons_of_pos h

theorem trimStart_eq_self {s : List Char} (h : StartsTight s) : trimStart s = s := by
  cases s with
  | nil => rfl
  | cons c rest => exact List.dropWhile_cons_of_neg (by simp [h c rest rfl])

theorem exists_blank_of_not_startsTight {s : List Char} (h : ¬StartsTight s) :
    ∃ c rest, s = c :: rest ∧ isBlank c = true := by
  simpa [StartsTight] using h

theorem startsTight_trimStart (s : List Char) : StartsTight (trimStart s) := by
  induction s with
  | nil =>
    intro c rest h
    cases h
  | cons d s ih =>
    by_cases hd : isBlank d = true
    · rw [trimStart_cons_of_blank hd]
      exact ih
    · have hstart : StartsTight (d :: s) := startsTight_cons (by simpa using hd) s
      rw [trimStart_eq_self hstart]
      exact hstart

/-- Blanks in front are not looked at. -/
theorem trim_cons_of_blank {c : Char} (h : isBlank c = true) (s : List Char) :
    trim (c :: s) = trim s := by
  unfold trim
  rw [trimStart_cons_of_blank h]

theorem trim_eq_trimEnd {s : List Char} (h : StartsTight s) : trim s = trimEnd s := by
  rw [trim, trimStart_eq_self h]

/-- What comes before the last character that is not blank stays. -/
theorem trimEnd_cons_of_not_blank {c : Char} (h : isBlank c = false) (s : List Char) :
    trimEnd (c :: s) = c :: trimEnd s := by
  rw [trimEnd]
  split
  next hs => rw [hs, h]; rfl
  next hs => rw [hs]

theorem trim_cons_of_not_blank {c : Char} (h : isBlank c = false) (s : List Char) :
    trim (c :: s) = c :: trimEnd s := by
  rw [trim_eq_trimEnd (startsTight_cons h s), trimEnd_cons_of_not_blank h]

theorem trimEnd_trimEnd (s : List Char) : trimEnd (trimEnd s) = trimEnd s := by
  induction s with
  | nil => rfl
  | cons c rest ih =>
    cases hrest : trimEnd rest with
    | nil =>
      by_cases hc : isBlank c = true
      · simp [trimEnd, hrest, hc]
      · simp [trimEnd, hrest, hc]
    | cons d kept =>
      have hcons : trimEnd (c :: rest) = c :: d :: kept := by rw [trimEnd, hrest]
      rw [hrest] at ih
      rw [hcons, trimEnd, ih]

theorem startsTight_trimEnd {s : List Char} (h : StartsTight s) : StartsTight (trimEnd s) := by
  cases s with
  | nil => exact h
  | cons c rest =>
    have hc : isBlank c = false := h c rest rfl
    rw [trimEnd_cons_of_not_blank hc]
    exact startsTight_cons hc _

theorem startsTight_trim (s : List Char) : StartsTight (trim s) :=
  startsTight_trimEnd (startsTight_trimStart s)

/-- **Trimming is idempotent.** -/
theorem trim_trim (s : List Char) : trim (trim s) = trim s := by
  rw [trim_eq_trimEnd (startsTight_trim s)]
  exact trimEnd_trimEnd (trimStart s)

/-- A trimmed text has no blanks at its end. -/
theorem trimEnd_eq_self_of_trim {s : List Char} (h : trim s = s) : trimEnd s = s := by
  have htight : StartsTight s := h ▸ startsTight_trim s
  rw [← trim_eq_trimEnd htight, h]

/-- Blanks at the end are gone either way. -/
theorem trim_trimEnd (s : List Char) : trim (trimEnd s) = trim s := by
  induction s with
  | nil => rfl
  | cons c s ih =>
    by_cases hc : isBlank c = true
    · rw [trim_cons_of_blank hc, ← ih, trimEnd]
      split
      next hs => rw [hs, if_pos hc]
      next hs => rw [trim_cons_of_blank hc, hs]
    · have hc' : isBlank c = false := by simpa using hc
      rw [trimEnd_cons_of_not_blank hc', trim_cons_of_not_blank hc', trim_cons_of_not_blank hc',
        trimEnd_trimEnd]

/-- The first character stays if anything does. -/
theorem mem_trimEnd_cons {c : Char} {s : List Char} (h : trimEnd (c :: s) ≠ []) :
    c ∈ trimEnd (c :: s) := by
  rw [trimEnd] at h ⊢
  cases hs : trimEnd s with
  | nil =>
    rw [hs] at h
    by_cases hc : isBlank c = true
    · exact absurd (if_pos hc) h
    · simp [hc]
  | cons d kept => exact List.mem_cons_self

/-- A text without blanks has none to trim. -/
theorem trim_eq_self {s : List Char} (h : ∀ c ∈ s, isBlank c = false) : trim s = s := by
  have hend : ∀ t : List Char, (∀ c ∈ t, isBlank c = false) → trimEnd t = t := by
    intro t ht
    induction t with
    | nil => rfl
    | cons c rest ih =>
      rw [trimEnd_cons_of_not_blank (ht c List.mem_cons_self),
        ih fun d hd => ht d (List.mem_cons_of_mem c hd)]
  have htight : StartsTight s := by
    rintro c rest rfl
    exact h c List.mem_cons_self
  rw [trim_eq_trimEnd htight, hend s h]

/-! ## §3. Squeezing blanks. -/

/-- The words of a text, one space apart. -/
def squeeze (s : List Char) : List Char := join [' '] (words s)

/-- A space before a text that is not empty. -/
def spaced : List Char → List Char
  | [] => []
  | c :: rest => ' ' :: c :: rest

/-- A word is followed by a space just when another word follows. -/
theorem join_cons {word : List Char} {rest : List (List Char)} (h : ∀ w ∈ rest, w ≠ []) :
    join [' '] (word :: rest) = word ++ spaced (join [' '] rest) := by
  unfold join
  cases rest with
  | nil => simp [spaced]
  | cons next rest =>
    obtain ⟨c, w, hnext⟩ := List.exists_cons_of_ne_nil (h next List.mem_cons_self)
    have hjoined : ∃ more, [' '].intercalate (next :: rest) = c :: more := by
      rw [hnext]
      cases rest with
      | nil => exact ⟨w, by simp⟩
      | cons last rest => exact ⟨_, by rw [List.intercalate_cons_cons]; rfl⟩
    obtain ⟨more, hmore⟩ := hjoined
    rw [List.intercalate_cons_cons, hmore, spaced, List.append_assoc]
    rfl

theorem mem_spaced {s : List Char} {c : Char} (h : c ∈ spaced s) : c = ' ' ∨ c ∈ s := by
  cases s with
  | nil => cases h
  | cons d s => exact List.mem_cons.mp h

theorem words_cons_of_blank {c : Char} (h : isBlank c = true) (s : List Char) :
    words (c :: s) = words s := by
  unfold words
  rw [splitBy_cons_of_pos h]
  rfl

/-- A first piece that is not empty is the first word. -/
theorem squeeze_of_splitBy {s : List Char} {c : Char} {piece : List Char}
    {pieces : List (List Char)} (h : splitBy isBlank s = (c :: piece) :: pieces) :
    squeeze s =
      c :: (piece ++ spaced (join [' '] (pieces.filter fun piece => !piece.isEmpty))) := by
  have hwords : words s = (c :: piece) :: pieces.filter fun piece => !piece.isEmpty := by
    rw [words, h]
    rfl
  have hne : ∀ w ∈ pieces.filter (fun piece => !piece.isEmpty), w ≠ [] := by
    intro w hw
    have hkept := (List.mem_filter.mp hw).2
    simpa using hkept
  rw [squeeze, hwords, join_cons hne]
  rfl

theorem squeeze_cons_of_blank {c : Char} (h : isBlank c = true) (s : List Char) :
    squeeze (c :: s) = squeeze s := by
  rw [squeeze, words_cons_of_blank h, squeeze]

/-- A character that is not blank stays in front of one that is not blank either. -/
theorem squeeze_cons_of_startsTight {c : Char} (h : isBlank c = false) {s : List Char}
    (hs : StartsTight s) : squeeze (c :: s) = c :: squeeze s := by
  cases s with
  | nil => rw [squeeze_of_splitBy (splitBy_cons_of_neg h rfl)]; rfl
  | cons d s =>
    obtain ⟨piece, pieces, hpieces⟩ := exists_splitBy_eq_cons isBlank s
    have hrest : splitBy isBlank (d :: s) = (d :: piece) :: pieces :=
      splitBy_cons_of_neg (hs d s rfl) hpieces
    rw [squeeze_of_splitBy (splitBy_cons_of_neg h hrest), squeeze_of_splitBy hrest]
    rfl

/-- Blanks leave one space, if more of the text follows them. -/
theorem squeeze_cons_cons_of_blank {c d : Char} (hc : isBlank c = false) (hd : isBlank d = true)
    (s : List Char) : squeeze (c :: d :: s) = c :: spaced (squeeze s) := by
  have hrest : splitBy isBlank (d :: s) = [] :: splitBy isBlank s := splitBy_cons_of_pos hd s
  rw [squeeze_of_splitBy (splitBy_cons_of_neg hc hrest)]
  rfl

/-- Induction over what squeezing looks at: a blank in front, or another character, and behind it
either no blank or a gap. -/
@[elab_as_elim]
theorem gap_induction {motive : List Char → Prop} (nil : motive [])
    (blank : ∀ c s, isBlank c = true → motive s → motive (c :: s))
    (tight : ∀ c s, isBlank c = false → StartsTight s → motive s → motive (c :: s))
    (gap : ∀ c d s, isBlank c = false → isBlank d = true → motive (d :: s) → motive (c :: d :: s))
    (s : List Char) : motive s := by
  induction s with
  | nil => exact nil
  | cons c s ih =>
    cases hc : isBlank c with
    | true => exact blank c s hc ih
    | false =>
      by_cases hs : StartsTight s
      · exact tight c s hc hs ih
      · obtain ⟨d, rest, rfl, hd⟩ := exists_blank_of_not_startsTight hs
        exact gap c d rest hc hd ih

theorem startsTight_squeeze (s : List Char) : StartsTight (squeeze s) := by
  induction s with
  | nil =>
    intro c rest h
    cases h
  | cons c s ih =>
    cases hc : isBlank c with
    | true =>
      rw [squeeze_cons_of_blank hc]
      exact ih
    | false =>
      obtain ⟨piece, pieces, hpieces⟩ := exists_splitBy_eq_cons isBlank s
      rw [squeeze_of_splitBy (splitBy_cons_of_neg hc hpieces)]
      exact startsTight_cons hc _

theorem squeeze_eq_self {s : List Char} (h : ∀ c ∈ s, isBlank c = false) : squeeze s = s := by
  induction s with
  | nil => rfl
  | cons c s ih =>
    have hs : StartsTight s := by
      rintro d rest rfl
      exact h d (List.mem_cons_of_mem c List.mem_cons_self)
    rw [squeeze_cons_of_startsTight (h c List.mem_cons_self) hs,
      ih fun d hd => h d (List.mem_cons_of_mem c hd)]

/-- **Squeezing is idempotent.** -/
theorem squeeze_squeeze (s : List Char) : squeeze (squeeze s) = squeeze s := by
  induction s using gap_induction with
  | nil => rfl
  | blank c s hc ih => rw [squeeze_cons_of_blank hc, ih]
  | tight c s hc hs ih =>
    rw [squeeze_cons_of_startsTight hc hs, squeeze_cons_of_startsTight hc (startsTight_squeeze s),
      ih]
  | gap c d s hc hd ih =>
    rw [squeeze_cons_of_blank hd] at ih
    rw [squeeze_cons_cons_of_blank hc hd]
    cases hrest : squeeze s with
    | nil => exact squeeze_cons_of_startsTight hc fun _ _ h => nomatch h
    | cons e kept =>
      -- One space between words stays one space.
      rw [hrest] at ih
      rw [spaced, squeeze_cons_cons_of_blank hc (by decide), ih]
      rfl

/-- What is left by squeezing is a space, or not blank and from the text. -/
theorem mem_squeeze {s : List Char} {c : Char} (h : c ∈ squeeze s) :
    c = ' ' ∨ c ∈ s ∧ isBlank c = false := by
  induction s using gap_induction with
  | nil => cases h
  | blank d s hd ih =>
    rw [squeeze_cons_of_blank hd] at h
    exact (ih h).imp_right (.imp_left (List.mem_cons_of_mem d))
  | tight d s hd hs ih =>
    rw [squeeze_cons_of_startsTight hd hs] at h
    rcases List.mem_cons.mp h with rfl | hc
    · exact .inr ⟨List.mem_cons_self, hd⟩
    · exact (ih hc).imp_right (.imp_left (List.mem_cons_of_mem d))
  | gap d e s hd he ih =>
    rw [squeeze_cons_of_blank he] at ih
    rw [squeeze_cons_cons_of_blank hd he] at h
    rcases List.mem_cons.mp h with rfl | hc
    · exact .inr ⟨List.mem_cons_self, hd⟩
    · rcases mem_spaced hc with rfl | hc
      · exact .inl rfl
      · exact (ih hc).imp_right (.imp_left (List.mem_cons_of_mem d))

/-- Nothing is left by squeezing just when nothing is left by trimming. -/
theorem squeeze_eq_nil_iff {s : List Char} : squeeze s = [] ↔ trimEnd s = [] := by
  induction s with
  | nil => exact iff_of_true rfl rfl
  | cons c s ih =>
    cases hc : isBlank c with
    | true =>
      rw [squeeze_cons_of_blank hc, ih, trimEnd]
      cases trimEnd s <;> simp [hc]
    | false =>
      obtain ⟨piece, pieces, hpieces⟩ := exists_splitBy_eq_cons isBlank s
      rw [squeeze_of_splitBy (splitBy_cons_of_neg hc hpieces), trimEnd_cons_of_not_blank hc]
      exact iff_of_false (List.cons_ne_nil _ _) (List.cons_ne_nil _ _)

/-- **A squeezed text has no blanks at its ends.** -/
theorem trim_squeeze (s : List Char) : trim (squeeze s) = squeeze s := by
  rw [trim_eq_trimEnd (startsTight_squeeze s)]
  induction s using gap_induction with
  | nil => rfl
  | blank c s hc ih => rw [squeeze_cons_of_blank hc, ih]
  | tight c s hc hs ih =>
    rw [squeeze_cons_of_startsTight hc hs, trimEnd_cons_of_not_blank hc, ih]
  | gap c d s hc hd ih =>
    rw [squeeze_cons_of_blank hd] at ih
    rw [squeeze_cons_cons_of_blank hc hd, trimEnd_cons_of_not_blank hc]
    cases hrest : squeeze s with
    | nil => rfl
    | cons e kept =>
      rw [hrest] at ih
      rw [spaced, trimEnd, ih]

/-- **Squeezing does no more than trimming**, unless a blank is left inside of the text. -/
theorem squeeze_eq_trim_or (s : List Char) :
    squeeze s = trim s
      ∨ (∃ c ∈ squeeze s, isBlank c = true) ∧ ∃ c ∈ trim s, isBlank c = true := by
  induction s using gap_induction with
  | nil => exact .inl rfl
  | blank c s hc ih =>
    rw [squeeze_cons_of_blank hc, trim_cons_of_blank hc]
    exact ih
  | tight c s hc hs ih =>
    rw [squeeze_cons_of_startsTight hc hs, trim_cons_of_not_blank hc, ← trim_eq_trimEnd hs]
    rcases ih with heq | ⟨⟨d, hd, hblank⟩, e, he, hblank'⟩
    · exact .inl (congrArg (c :: ·) heq)
    · exact .inr
        ⟨⟨d, List.mem_cons_of_mem c hd, hblank⟩, e, List.mem_cons_of_mem c he, hblank'⟩
  | gap c d s hc hd ih =>
    rw [squeeze_cons_cons_of_blank hc hd, ← squeeze_cons_of_blank hd, trim_cons_of_not_blank hc]
    -- The blanks are inside of the text just when more of it follows them.
    by_cases hend : squeeze (d :: s) = []
    · rw [hend, squeeze_eq_nil_iff.mp hend]
      exact .inl rfl
    · obtain ⟨e, kept, hkept⟩ := List.exists_cons_of_ne_nil hend
      have hinside : d ∈ trimEnd (d :: s) :=
        mem_trimEnd_cons (mt squeeze_eq_nil_iff.mpr hend)
      refine .inr ⟨⟨' ', ?_, by decide⟩, d, List.mem_cons_of_mem c hinside, hd⟩
      rw [hkept]
      exact List.mem_cons_of_mem c List.mem_cons_self

/-! ## §4. Squeezing and cutting. -/

theorem startsTight_of_splitBy {isSeparator : Char → Bool} {s piece : List Char}
    {pieces : List (List Char)} (h : StartsTight s)
    (hs : splitBy isSeparator s = piece :: pieces) : StartsTight piece := by
  rintro d rest rfl
  cases s with
  | nil => cases hs
  | cons c s =>
    by_cases hc : isSeparator c = true
    · rw [splitBy_cons_of_pos hc] at hs
      cases hs
    · obtain ⟨first, others, hrest⟩ := exists_splitBy_eq_cons isSeparator s
      rw [splitBy_cons_of_neg (by simpa using hc) hrest] at hs
      injection hs with hfirst
      injection hfirst with hd
      rw [← hd]
      exact h c s rfl

/-- A space in front goes to the first piece. -/
theorem splitBy_spaced {isSeparator : Char → Bool} (h : isSeparator ' ' = false)
    {s piece : List Char} {pieces : List (List Char)}
    (hs : splitBy isSeparator s = piece :: pieces) :
    ∃ first, splitBy isSeparator (spaced s) = first :: pieces ∧ trim first = trim piece
      ∧ trimEnd first = spaced (trimEnd piece) := by
  cases s with
  | nil =>
    injection hs with hpiece hpieces
    subst hpiece hpieces
    exact ⟨[], rfl, rfl, rfl⟩
  | cons c s =>
    refine ⟨' ' :: piece, splitBy_cons_of_neg h hs, trim_cons_of_blank (by decide) piece, ?_⟩
    rw [trimEnd]
    cases trimEnd piece with
    | nil => rfl
    | cons d kept => rfl

section

variable {isSeparator : Char → Bool} (hblank : ∀ c, isSeparator c = true → isBlank c = false)

include hblank

theorem not_isSeparator_of_blank {c : Char} (h : isBlank c = true) : isSeparator c = false := by
  rw [Bool.eq_false_iff]
  intro hc
  rw [hblank c hc] at h
  cases h

/-- The pieces of a squeezed text, after one more character in front of it. -/
theorem splitBy_squeeze_cons {c : Char} (hc : isBlank c = false) {s piece piece' : List Char}
    {pieces pieces' : List (List Char)} (hs : splitBy isSeparator s = piece :: pieces)
    (hs' : splitBy isSeparator (squeeze s) = piece' :: pieces')
    (hpiece : trim piece' = squeeze piece) :
    ∃ tail first, squeeze (c :: s) = c :: tail ∧ splitBy isSeparator tail = first :: pieces'
      ∧ trim first = squeeze piece ∧ c :: trimEnd first = squeeze (c :: piece) := by
  have hend : trimEnd piece' = squeeze piece := by
    rw [← trim_eq_trimEnd (startsTight_of_splitBy (startsTight_squeeze s) hs'), hpiece]
  by_cases htight : StartsTight s
  · refine ⟨squeeze s, piece', squeeze_cons_of_startsTight hc htight, hs', hpiece, ?_⟩
    rw [hend, squeeze_cons_of_startsTight hc (startsTight_of_splitBy htight hs)]
  · -- A blank begins the text, and so it begins the first piece too.
    obtain ⟨d, rest, rfl, hd⟩ := exists_blank_of_not_startsTight htight
    obtain ⟨piece, others, hrest⟩ := exists_splitBy_eq_cons isSeparator rest
    rw [splitBy_cons_of_neg (not_isSeparator_of_blank hblank hd) hrest] at hs
    injection hs with hfirst
    subst hfirst
    have hspace : isSeparator ' ' = false := not_isSeparator_of_blank hblank (by decide)
    rw [squeeze_cons_of_blank hd] at hs' hpiece hend
    obtain ⟨first, htail, htrim, hfirst⟩ := splitBy_spaced hspace hs'
    refine ⟨spaced (squeeze rest), first, squeeze_cons_cons_of_blank hc hd rest, htail, ?_, ?_⟩
    · rw [htrim, hpiece, squeeze_cons_of_blank hd]
    · rw [hfirst, hend, squeeze_cons_cons_of_blank hc hd]

/-- **A squeezed text has the squeezed pieces of the text**, but for blanks at their ends. -/
theorem map_trim_splitBy_squeeze (s : List Char) :
    (splitBy isSeparator (squeeze s)).map trim = (splitBy isSeparator s).map squeeze := by
  induction s with
  | nil => rfl
  | cons c s ih =>
    obtain ⟨piece, pieces, hs⟩ := exists_splitBy_eq_cons isSeparator s
    obtain ⟨piece', pieces', hs'⟩ := exists_splitBy_eq_cons isSeparator (squeeze s)
    -- A blank in front is skipped, a separator opens a piece, and any other character goes to the
    -- first piece, where a space may follow it.
    rw [hs, hs', List.map_cons, List.map_cons] at ih
    injection ih with hpiece hpieces
    cases hc : isBlank c with
    | true =>
      rw [squeeze_cons_of_blank hc, hs',
        splitBy_cons_of_neg (not_isSeparator_of_blank hblank hc) hs, List.map_cons, List.map_cons,
        hpiece, hpieces, squeeze_cons_of_blank hc]
    | false =>
      obtain ⟨tail, first, hcons, htail, htrim, hend⟩ :=
        splitBy_squeeze_cons hblank hc hs hs' hpiece
      rw [hcons]
      by_cases hsep : isSeparator c = true
      · rw [splitBy_cons_of_pos hsep, splitBy_cons_of_pos hsep, htail, hs]
        simp only [List.map_cons, htrim, hpieces]
        rfl
      · have hne : isSeparator c = false := by simpa using hsep
        rw [splitBy_cons_of_neg hne htail, splitBy_cons_of_neg hne hs, List.map_cons,
          List.map_cons, trim_cons_of_not_blank hc, hend, hpieces]

end

/-! ## §5. Cleaning. -/

/-- The character is kept when control characters are removed. -/
def isKept (c : Char) : Bool := isBlank c || !isControl c

/-- A control character is kept just when it is blank, and any other character is kept. -/
theorem isKept_iff {c : Char} : isKept c = true ↔ (isControl c = true → isBlank c = true) := by
  unfold isKept
  cases isControl c <;> simp

theorem isKept_of_not_isControl {c : Char} (h : isControl c = false) : isKept c = true := by
  rw [isKept, h, Bool.not_false, Bool.or_true]

theorem clean_eq_squeeze (s : List Char) : clean s = squeeze (s.filter isKept) := rfl

/-- A text that has nothing to remove is only squeezed. -/
theorem clean_eq_squeeze_of_isKept {s : List Char} (h : ∀ c ∈ s, isKept c = true) :
    clean s = squeeze s := by
  rw [clean_eq_squeeze, List.filter_eq_self.mpr h]

/-- **Cleaning is idempotent.** -/
theorem clean_clean (s : List Char) : clean (clean s) = clean s := by
  have hkept : (squeeze (s.filter isKept)).filter isKept = squeeze (s.filter isKept) := by
    rw [List.filter_eq_self]
    intro c hc
    rcases mem_squeeze hc with rfl | ⟨hc, -⟩
    · decide
    · exact (List.mem_filter.mp hc).2
  rw [clean_eq_squeeze, clean_eq_squeeze, hkept, squeeze_squeeze]

/-- **A cleaned text has the cleaned pieces of the text**, but for blanks at their ends. -/
theorem map_trim_splitBy_clean {isSeparator : Char → Bool}
    (hblank : ∀ c, isSeparator c = true → isBlank c = false)
    (hcontrol : ∀ c, isSeparator c = true → isControl c = false) (s : List Char) :
    (splitBy isSeparator (clean s)).map trim = (splitBy isSeparator s).map clean := by
  have hkept : ∀ c, isSeparator c = true → isKept c = true :=
    fun c hc => isKept_of_not_isControl (hcontrol c hc)
  rw [clean_eq_squeeze, map_trim_splitBy_squeeze hblank, splitBy_filter hkept, List.map_map]
  rfl

/-- A text without blanks and control characters is clean. -/
theorem clean_eq_self {s : List Char} (hblank : ∀ c ∈ s, isBlank c = false)
    (hcontrol : ∀ c ∈ s, isControl c = false) : clean s = s := by
  have hkept : ∀ c ∈ s, isKept c = true := fun c hc => isKept_of_not_isControl (hcontrol c hc)
  rw [clean_eq_squeeze_of_isKept hkept, squeeze_eq_self hblank]

end GroupScope.Text
