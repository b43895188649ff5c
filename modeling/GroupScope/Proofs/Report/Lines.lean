import Mathlib.Data.List.Basic
import GroupScope.Proofs.Resolution.Shapes
import GroupScope.Report.Parameters
import GroupScope.Text.Quoted
/-!
# The lines of a table

A table of parameters has one line for its header and one for each key, as long as no cell brings a
line break of its own. What matters are the control characters of the cells:

    cell                                        its control characters
    a quoted text, a number, ids, a mark        none
    a list of items                             those of the items, as they were given

A text is quoted, but the items of a list are not. So the table has its eight lines unless there is
a line break in an item of a list, and then it has one more for each. The main statement is
`parameter_table_lines`.
-/

namespace GroupScope

/-! ## §1. Lines. -/

/-- The text consists of the lines: each stands before a line break and holds none itself. -/
structure ConsistsOf (text : String) (lines : List String) : Prop where
  text_eq : text = String.join (lines.map Report.line)
  single : ∀ line ∈ lines, '\n' ∉ line.toList

theorem toList_line (text : String) : (Report.line text).toList = text.toList ++ ['\n'] :=
  String.toList_append

theorem toList_join_lines (texts : List String) :
    (String.join (texts.map Report.line)).toList =
      texts.flatMap fun text => text.toList ++ ['\n'] := by
  rw [String.toList_join, List.flatMap_map]
  simp only [toList_line]

/-- Every text brings a line break besides those that are in it. -/
theorem count_join_lines (texts : List String) :
    (String.join (texts.map Report.line)).toList.count '\n' =
      texts.length + (texts.flatMap String.toList).count '\n' := by
  rw [toList_join_lines]
  induction texts with
  | nil => rfl
  | cons text texts ih =>
    rw [List.flatMap_cons, List.count_append, List.count_append, ih, List.flatMap_cons,
      List.count_append, List.length_cons, List.count_singleton_self]
    omega

theorem count_flatMap_eq_zero_iff {items : List α} {text : α → String} :
    (items.flatMap fun item => (text item).toList).count '\n' = 0 ↔
      ∀ item ∈ items, '\n' ∉ (text item).toList := by
  simp only [List.count_eq_zero, List.mem_flatMap, not_exists, not_and]

namespace ConsistsOf

variable {text other : String} {lines more : List String}

/-- Texts one after the other have the lines of both. -/
theorem append (h : ConsistsOf text lines) (hmore : ConsistsOf other more) :
    ConsistsOf (text ++ other) (lines ++ more) := by
  refine ⟨?_, ?_⟩
  · rw [h.text_eq, hmore.text_eq, List.map_append, String.join_append]
  · intro line hline
    rcases List.mem_append.mp hline with hline | hline
    · exact h.single line hline
    · exact hmore.single line hline

/-- There is one line for each line break. -/
theorem length_eq (h : ConsistsOf text lines) : lines.length = text.toList.count '\n' := by
  have hnone : (lines.flatMap String.toList).count '\n' = 0 :=
    count_flatMap_eq_zero_iff.mpr h.single
  rw [h.text_eq, count_join_lines, hnone, Nat.add_zero]

/-- Cut at its line breaks, the text falls into its lines, and nothing is left behind the last. -/
theorem splitBy_eq (h : ConsistsOf text lines) :
    Text.splitBy (· == '\n') text.toList = lines.map String.toList ++ [[]] := by
  have hsingle := h.single
  rw [h.text_eq, toList_join_lines]
  clear h
  induction lines with
  | nil => rfl
  | cons line lines ih =>
    have hline : Text.splitBy (· == '\n') line.toList = [line.toList] := by
      have hpiece := Text.splitBy_join (List.cons_ne_nil line.toList [])
        (by simpa using hsingle line List.mem_cons_self)
      rwa [Text.join, List.intercalate_singleton] at hpiece
    rw [List.flatMap_cons, List.append_assoc, List.singleton_append,
      Text.splitBy_append_cons (by decide), hline,
      ih fun l hl => hsingle l (List.mem_cons_of_mem line hl)]
    rfl

/-- **A text consists of its lines in one way only.** -/
theorem unique (h : ConsistsOf text lines) (hmore : ConsistsOf text more) : more = lines := by
  have hboth : more.map String.toList ++ [[]] = lines.map String.toList ++ [[]] :=
    hmore.splitBy_eq.symm.trans h.splitBy_eq
  have hmaps := List.append_cancel_right hboth
  exact List.map_injective_iff.mpr (fun _ _ => String.toList_injective) hmaps

end ConsistsOf

/-- A text before a line break falls into lines at the line breaks in it. -/
theorem exists_consistsOf_line (text : String) : ∃ lines, ConsistsOf (Report.line text) lines := by
  have hpieces (pieces : List (List Char)) (hne : pieces ≠ []) :
      ['\n'].intercalate pieces ++ ['\n'] = pieces.flatMap fun piece => piece ++ ['\n'] := by
    induction pieces with
    | nil => exact absurd rfl hne
    | cons piece pieces ih =>
      cases pieces with
      | nil => simp
      | cons next rest =>
        rw [List.intercalate_cons_cons, List.append_assoc, ih (List.cons_ne_nil next rest)]
        rfl
  refine ⟨(Text.splitBy (· == '\n') text.toList).map String.ofList, ?_, ?_⟩
  · refine String.toList_injective ?_
    rw [toList_line, toList_join_lines, List.flatMap_map]
    simp only [String.toList_ofList]
    rw [← hpieces _ (Text.splitBy_ne_nil _ _), Text.splitBy_eq_splitOnP]
    exact congrArg (· ++ ['\n']) (List.intercalate_splitOn '\n').symm
  · intro line hline
    obtain ⟨piece, hpiece, rfl⟩ := List.mem_map.mp hline
    rw [String.toList_ofList]
    intro hbreak
    exact absurd (Text.not_isSeparator_of_mem_splitBy hpiece hbreak) (by decide)

theorem exists_consistsOf_join (texts : List String) :
    ∃ lines, ConsistsOf (String.join (texts.map Report.line)) lines := by
  induction texts with
  | nil => exact ⟨[], rfl, by simp⟩
  | cons text texts ih =>
    obtain ⟨first, hfirst⟩ := exists_consistsOf_line text
    obtain ⟨rest, hrest⟩ := ih
    rw [List.map_cons, String.join_cons]
    exact ⟨first ++ rest, hfirst.append hrest⟩

/-! ## §2. The control characters of a text. -/

/-- The control characters of a text, in their order. -/
def controls (text : String) : List Char := text.toList.filter Text.isControl

theorem controls_eq_nil {text : String} (h : ∀ c ∈ text.toList, Text.isControl c = false) :
    controls text = [] := by
  unfold controls
  rw [List.filter_eq_nil_iff]
  intro c hc
  simp [h c hc]

@[simp] theorem controls_append (first second : String) :
    controls (first ++ second) = controls first ++ controls second := by
  unfold controls
  rw [String.toList_append, List.filter_append]

theorem controls_join_lines (texts : List String) :
    controls (String.join (texts.map Report.line)) =
      texts.flatMap fun text => controls text ++ ['\n'] := by
  unfold controls
  rw [toList_join_lines, List.filter_flatMap]
  simp only [List.filter_append]
  rfl

theorem controls_intercalate {separator : String} (h : controls separator = [])
    (texts : List String) :
    controls (String.intercalate separator texts) = texts.flatMap controls := by
  induction texts with
  | nil => rfl
  | cons text texts ih =>
    cases texts with
    | nil => simp
    | cons next rest =>
      rw [String.intercalate_cons_cons, controls_append, controls_append, h, ih, List.append_nil]
      rfl

/-- A line break is a control character. -/
theorem count_controls (text : String) : (controls text).count '\n' = text.toList.count '\n' :=
  List.count_filter (by decide)

@[simp] theorem controls_padRight (width : Nat) (text : String) :
    controls (Report.padRight width text) = controls text := by
  have hblanks (count : Nat) : controls (String.ofList (List.replicate count ' ')) = [] := by
    refine controls_eq_nil fun c hc => ?_
    rw [String.toList_ofList] at hc
    rw [List.eq_of_mem_replicate hc]
    decide
  unfold Report.padRight
  rw [controls_append, hblanks, List.append_nil]

/-- The hexadecimal digits are no control characters. -/
theorem Text.isControl_of_mem_toDigits {n : Nat} {c : Char} (h : c ∈ Nat.toDigits 16 n) :
    isControl c = false := by
  have hdigit : ∀ d < 16, isControl d.digitChar = false := by decide
  induction n using Nat.strongRecOn with
  | ind n ih =>
    rw [Nat.toDigits_eq_if (by decide)] at h
    split at h
    next hlt =>
      rw [List.mem_singleton.mp h]
      exact hdigit n hlt
    next hge =>
      rcases List.mem_append.mp h with h | h
      · exact ih (n / 16) (by omega) h
      · rw [List.mem_singleton.mp h]
        exact hdigit (n % 16) (Nat.mod_lt n (by decide))

theorem Text.isControl_of_mem_quotedChar {c d : Char} (h : d ∈ quotedChar c) :
    isControl d = false := by
  unfold quotedChar at h
  split at h
  case h_7 =>
    split at h
    next =>
      unfold codePointEscape at h
      simp only [List.mem_append, List.mem_cons, List.not_mem_nil, or_false] at h
      rcases h with ((rfl | rfl | rfl) | h) | rfl
      · decide
      · decide
      · decide
      · exact isControl_of_mem_toDigits h
      · decide
    next hshown =>
      rw [List.mem_singleton.mp h]
      -- A control character is not shown as it is.
      exact Bool.eq_false_iff.mpr fun h => hshown (isUnprintable_of_isControl h)
  all_goals
    simp only [List.mem_cons, List.not_mem_nil, or_false] at h
    rcases h with rfl | rfl <;> decide

/-- **Quoted text has no control characters.** -/
theorem controls_quoted (text : String) : controls (Text.quoted text) = [] := by
  refine controls_eq_nil fun c hc => ?_
  unfold Text.quoted at hc
  rw [String.toList_ofList, List.mem_cons, List.mem_append, List.mem_singleton] at hc
  rcases hc with rfl | hc | rfl
  · decide
  · obtain ⟨d, -, hc⟩ := List.mem_flatMap.mp hc
    exact Text.isControl_of_mem_quotedChar hc
  · decide

/-! ## §3. Tables of parameters. -/

/-- The items of the expression, if it is a list. -/
def Parameters.listedItems (p : Parameters) : List ListItem :=
  match p.group with
  | some (.expression (.list items)) => items
  | _ => []

namespace Report

/-- The keys of the table in the order of their lines. -/
def parameterKeys : List String :=
  ["group", "group_in", "group_notin", "group__in", "group__not_in", "group_is_none",
    "group_must_exist"]

/-- A line of the table: the key in a column of eighteen characters, a blank and the value. -/
def parameterRow (cell : String × String) : String := padRight 18 cell.1 ++ " " ++ cell.2

/-- The lines that the table is meant to have. -/
def parameterLines (p : Parameters) : List String :=
  (("Key", "Value") :: parameterRows p).map parameterRow

theorem map_fst_parameterRows (p : Parameters) :
    (parameterRows p).map Prod.fst = parameterKeys := rfl

theorem parametersTable_eq (p : Parameters) :
    parametersTable false p = String.join ((parameterLines p).map line) := by
  unfold parametersTable parameterLines
  rw [List.map_cons, List.map_cons, String.join_cons, List.map_map]
  rfl

theorem controls_repr (n : Nat) : controls (Nat.repr n) = [] :=
  controls_eq_nil fun _ hc => Text.isControl_of_isDigit (isDigit_of_mem_repr hc)

theorem controls_decimalText (value : Int64) : controls (decimalText value) = [] :=
  controls_eq_nil fun _ hc => isControl_of_mem_decimalText hc

theorem controls_idList (ids : List GroupId) : controls (idList ids) = [] := by
  unfold idList
  split
  next => rfl
  next =>
    rw [controls_intercalate rfl, List.flatMap_map, List.flatMap_eq_nil_iff]
    exact fun id _ => controls_repr id.toNat

theorem controls_optionalIdList (ids : Option (List GroupId)) :
    controls (optionalIdList ids) = [] := by
  cases ids with
  | none => rfl
  | some ids => exact controls_idList ids

theorem controls_boolText (b : Bool) : controls (Json.boolText b) = [] := by
  cases b <;> rfl

/-- **The cell of the expression** has the control characters of listed items, and no others. -/
theorem controls_groupCell (p : Parameters) :
    controls (groupCell p.group) = p.listedItems.flatMap fun item => controls item.itemText := by
  unfold Parameters.listedItems
  cases p.group with
  | none => rfl
  | some group =>
    cases group with
    | my => rfl
    | expression e =>
      cases e with
      | text s => exact controls_quoted s
      | integer value => exact controls_decimalText value
      | list items =>
        have hopen : controls "[" = [] := rfl
        have hclose : controls "]" = [] := rfl
        simp only [groupCell, controls_append, hopen, hclose, List.nil_append, List.append_nil]
        rw [controls_intercalate rfl, List.flatMap_map]

/-- The control characters of a line are those of its value. -/
theorem controls_parameterRow {cell : String × String} (h : controls cell.1 = []) :
    controls (parameterRow cell) = controls cell.2 := by
  unfold parameterRow
  rw [controls_append, controls_append, controls_padRight, h]
  rfl

/-- **The control characters of the table** are its eight line breaks, and behind the first those of
listed items. -/
theorem controls_parametersTable (p : Parameters) :
    controls (parametersTable false p) =
      '\n' :: (p.listedItems.flatMap fun item => controls item.itemText) ++
        List.replicate 7 '\n' := by
  have hkeys : ∀ key ∈ "Key" :: parameterKeys, controls key = [] := by decide
  have hcells : ∀ cell ∈ ("Key", "Value") :: parameterRows p, controls cell.1 = [] := by
    intro cell hcell
    exact hkeys cell.1 (List.mem_map_of_mem (f := Prod.fst) hcell)
  calc controls (parametersTable false p)
      = (("Key", "Value") :: parameterRows p).flatMap fun cell => controls cell.2 ++ ['\n'] := by
        rw [parametersTable_eq, controls_join_lines, parameterLines, List.flatMap_map]
        refine List.flatMap_congr fun cell hcell => ?_
        rw [controls_parameterRow (hcells cell hcell)]
    _ = '\n' :: controls (groupCell p.group) ++ List.replicate 7 '\n' := by
        have hvalue : controls "Value" = [] := rfl
        simp [parameterRows, hvalue, controls_optionalIdList, controls_boolText]
    _ = _ := by rw [controls_groupCell]

theorem count_parametersTable (p : Parameters) :
    (parametersTable false p).toList.count '\n' =
      8 + (p.listedItems.flatMap fun item => item.itemText.toList).count '\n' := by
  have hitems : (p.listedItems.flatMap fun item => controls item.itemText).count '\n' =
      (p.listedItems.flatMap fun item => item.itemText.toList).count '\n' := by
    unfold controls
    rw [← List.filter_flatMap, List.count_filter (by decide)]
  rw [← count_controls, controls_parametersTable, List.cons_append, List.count_cons_self,
    List.count_append, List.count_replicate_self, hitems]
  omega

end Report

/-- **When a table of parameters has its lines.** It is meant to have eight: the header, and one for
each key in a fixed order, with keys that fill their column. It falls into lines in one way only, of
which there are eight and one for each line break in a listed item. They are the lines it is meant
to have just when no listed item has a line break. All other control characters in it are those of
listed items. -/
theorem parameter_table_lines (p : Parameters) :
    let table := Report.parametersTable false p
    (∃ lines, ConsistsOf table lines
        ∧ (∀ others, ConsistsOf table others → others = lines)
        ∧ lines.length = 8 + (p.listedItems.flatMap fun item => item.itemText.toList).count '\n'
        ∧ (lines = Report.parameterLines p ↔ ∀ item ∈ p.listedItems, '\n' ∉ item.itemText.toList))
      ∧ (Report.parameterLines p).length = 8
      ∧ (Report.parameterRows p).map Prod.fst = Report.parameterKeys
      ∧ (∀ key ∈ "Key" :: Report.parameterKeys, (Report.padRight 18 key).length = 18)
      ∧ table.toList.filter Text.isControl =
          '\n' :: (p.listedItems.flatMap fun item => item.itemText.toList.filter Text.isControl) ++
            List.replicate 7 '\n' := by
  intro table
  have htable : table = String.join ((Report.parameterLines p).map Report.line) :=
    Report.parametersTable_eq p
  obtain ⟨lines, hlines⟩ : ∃ lines, ConsistsOf table lines :=
    htable ▸ exists_consistsOf_join (Report.parameterLines p)
  have hrows : (Report.parameterLines p).length = 8 := rfl
  have hcount := Report.count_parametersTable p
  have hlength := hlines.length_eq.trans hcount
  refine ⟨⟨lines, hlines, fun others h => hlines.unique h, hlength, ?_⟩, hrows,
    Report.map_fst_parameterRows p, by decide, Report.controls_parametersTable p⟩
  -- The lines that are meant hold no line breaks but those of the items.
  have hbreaks : ((Report.parameterLines p).flatMap String.toList).count '\n' =
      (p.listedItems.flatMap fun item => item.itemText.toList).count '\n' := by
    rw [Report.parametersTable_eq, count_join_lines] at hcount
    omega
  calc lines = Report.parameterLines p
      ↔ ∀ row ∈ Report.parameterLines p, '\n' ∉ row.toList :=
        ⟨fun h => h ▸ hlines.single, fun h => ConsistsOf.unique ⟨htable, h⟩ hlines⟩
    _ ↔ ((Report.parameterLines p).flatMap String.toList).count '\n' = 0 :=
        count_flatMap_eq_zero_iff.symm
    _ ↔ ∀ item ∈ p.listedItems, '\n' ∉ item.itemText.toList := by
        rw [hbreaks, count_flatMap_eq_zero_iff]

/-- A text with a line break and an escape takes one line. -/
theorem parameter_table_lines_of_quoted_text :
    let p : Parameters := { group := some (.expression (.text "a\nb\x1b")), included := some [5, 9] }
    ConsistsOf (Report.parametersTable false p) (Report.parameterLines p)
      ∧ (Report.parameterLines p).take 3 =
          ["Key                Value",
            "group              \"a\\nb\\u\x7b1b\x7d\"",
            "group_in           5, 9"] := by
  intro p
  have hnone : ∀ item ∈ p.listedItems, '\n' ∉ item.itemText.toList := by
    intro item hitem
    cases hitem
  obtain ⟨⟨lines, hlines, -, -, hiff⟩, -⟩ := parameter_table_lines p
  rw [hiff.mpr hnone] at hlines
  exact ⟨hlines, by decide +kernel⟩

/-- An item with a line break takes two lines. -/
theorem parameter_table_broken_by_listed_item :
    let p : Parameters := { group := some (.expression (.list [.text "a\nb"])) }
    ¬∃ lines, ConsistsOf (Report.parametersTable false p) lines ∧ lines.length = 8 := by
  rintro p ⟨lines, hlines, hlength⟩
  have hitem : (p.listedItems.flatMap fun item => item.itemText.toList).count '\n' = 1 := rfl
  rw [hlines.length_eq, Report.count_parametersTable, hitem] at hlength
  cases hlength

end GroupScope
