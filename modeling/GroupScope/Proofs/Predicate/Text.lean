import GroupScope.Predicate.Clause
import GroupScope.Proofs.Sql.Grammar
/-!
# What the text of a fragment spells

A fragment is written as a text in brackets of its own. Here that text is cut into tokens and read
by the grammar of conditions:

    tokens? (p.clause columns)  =  p.tokens columns        spells  p.condition columns

Because each fragment is one bracketed single, joining fragments by `AND` joins their conditions,
and no alternative inside a fragment can escape from it.
-/

namespace GroupScope

open Sql

/-! ## §1. Names and ids. -/

theorem not_mem_of_isIdentifier {name : String} (h : isIdentifier name = true) {c : Char}
    (hc : isIdentifierChar c = false) : c ∉ name.toList := by
  intro hm
  simp only [isIdentifier, Bool.and_eq_true, List.all_eq_true] at h
  have htrue := h.2 c hm
  rw [hc] at htrue
  cases htrue

theorem scans_quotedColumn {name : String} (h : isIdentifier name = true) :
    Scans .nothing (quotedColumn name).toList [.column name] .nothing := by
  have hs := scans_column (p := .nothing) rfl (not_mem_of_isIdentifier h (c := '`') rfl)
  unfold quotedColumn
  rw [String.toList_append, String.toList_append]
  exact hs

/-- The numbers of ids. -/
def idValues (ids : List GroupId) : List Nat := ids.map UInt64.toNat

/-- Ids and the bracket that closes them are a list of values. -/
theorem scans_idsText (ids : List GroupId) {rest : List Char} {later : List Token} {q : Pending}
    (h : Scans .nothing rest later q) :
    Scans .nothing ((idsText ids).toList ++ ')' :: rest) (valuesTokens (idValues ids) ++ later)
      q := by
  -- The last id is followed by the bracket, every other one by a comma.
  induction ids with
  | nil =>
    have hclose : Scans .nothing [')'] [.closing] .nothing := rfl
    exact hclose.append h
  | cons id ids ih =>
    have hid := scans_number id.toNat
    cases ids with
    | nil =>
      have hclose : Scans (.number id.toNat) [')'] [.number id.toNat, .closing] .nothing := rfl
      exact hid.append (hclose.append h)
    | cons next ids =>
      have hcomma : Scans (.number id.toNat) [','] [.number id.toNat, .comma] .nothing := rfl
      have htext : idsText (id :: next :: ids) =
          Nat.repr id.toNat ++ "," ++ idsText (next :: ids) := by
        unfold idsText
        rw [List.map_cons, List.map_cons, String.intercalate_cons_cons]
        rfl
      rw [htext, String.toList_append, String.toList_append, List.append_assoc]
      exact (hid.append hcomma).append ih

theorem scans_memberText {name : String} (h : isIdentifier name = true) (ids : List GroupId) :
    Scans .nothing (memberText (quotedColumn name) ids).toList
      (.column name :: .word .among :: .opening :: valuesTokens (idValues ids)) .nothing := by
  have hin : Scans .nothing " IN (".toList [.word .among, .opening] .nothing := rfl
  have hids := scans_idsText ids (Scans.nil .nothing)
  rw [List.append_nil] at hids
  unfold memberText
  simp only [String.toList_append]
  rw [List.append_assoc]
  exact ((scans_quotedColumn h).append hin).append hids

/-! ## §2. Fragments. -/

namespace Predicate

/-- The item belongs to no group: the column is missing or zero. -/
def groupless (column : String) : Condition := .or (.isNull column) (.equals column 0)

/-- The condition of a fragment. -/
def condition (columns : Columns) : Predicate → Condition
  | .noGroup => .or (.equals columns.group 0) (.isNull columns.group)
  | .hasGroup => .and (.isNotNull columns.group) (.differs columns.group 0)
  | .inGroups ids => .among columns.group (idValues ids)
  | .notInGroups ids => .notAmong columns.group (idValues ids)
  | .visible memberOf =>
    let mine := .and (.equals columns.privacy 1) (groupless columns.group)
    .or (.equals columns.privacy 0) <|
      if memberOf.isEmpty then mine
      else .or mine
        (.and (.equals columns.privacy 1) (.among columns.group (idValues memberOf)))

/-- The tokens of a private item without a group. -/
def grouplessTokens (columns : Columns) : List Token :=
  [.opening, .column columns.privacy, .equal, .number 1, .word .and,
    .opening, .column columns.group, .word .is, .word .null, .word .or,
    .column columns.group, .equal, .number 0, .closing, .closing]

/-- The tokens of a fragment. -/
def tokens (columns : Columns) : Predicate → List Token
  | .noGroup =>
    [.opening, .column columns.group, .equal, .number 0, .word .or,
      .column columns.group, .word .is, .word .null, .closing]
  | .hasGroup =>
    [.opening, .column columns.group, .word .is, .word .not, .word .null, .word .and,
      .column columns.group, .unequal, .number 0, .closing]
  | .inGroups ids =>
    .opening :: .column columns.group :: .word .among :: .opening :: valuesTokens (idValues ids) ++
      [.closing]
  | .notInGroups ids =>
    .opening :: .column columns.group :: .word .not :: .word .among :: .opening ::
      valuesTokens (idValues ids) ++ [.closing]
  | .visible memberOf =>
    .opening :: .column columns.privacy :: .equal :: .number 0 :: .word .or ::
      grouplessTokens columns ++
      if memberOf.isEmpty then [.closing]
      else
        .word .or :: .opening :: .column columns.privacy :: .equal :: .number 1 :: .word .and ::
          .column columns.group :: .word .among :: .opening ::
            valuesTokens (idValues memberOf) ++ [.closing, .closing]

/-- **The tokens of a fragment's text.** -/
theorem scans_clause {columns : Columns} (hg : isIdentifier columns.group = true)
    (hp : isIdentifier columns.privacy = true) (p : Predicate) :
    Scans .nothing (p.clause columns).toList (p.tokens columns) .nothing := by
  have hgroup := scans_quotedColumn hg
  have hprivacy := scans_quotedColumn hp
  have hopen : Scans .nothing "( ".toList [.opening] .nothing := rfl
  have hclose : Scans .nothing " )".toList [.closing] .nothing := rfl
  cases p with
  | noGroup =>
    have hzero : Scans .nothing " = 0 OR ".toList [.equal, .number 0, .word .or] .nothing := rfl
    have hnull : Scans .nothing " IS NULL )".toList [.word .is, .word .null, .closing] .nothing :=
      rfl
    simp only [clause, String.toList_append]
    exact (((hopen.append hgroup).append hzero).append hgroup).append hnull
  | hasGroup =>
    have hnull : Scans .nothing " IS NOT NULL AND ".toList
        [.word .is, .word .not, .word .null, .word .and] .nothing := rfl
    have hzero : Scans .nothing " != 0 )".toList [.unequal, .number 0, .closing] .nothing := rfl
    simp only [clause, String.toList_append]
    exact (((hopen.append hgroup).append hnull).append hgroup).append hzero
  | inGroups ids =>
    simp only [clause, String.toList_append]
    exact (hopen.append (scans_memberText hg ids)).append hclose
  | notInGroups ids =>
    have hin : Scans .nothing " NOT IN (".toList [.word .not, .word .among, .opening] .nothing :=
      rfl
    simp only [clause, String.toList_append]
    rw [List.append_assoc]
    exact ((hopen.append hgroup).append hin).append (scans_idsText ids hclose)
  | visible memberOf =>
    have hzero : Scans .nothing "=0 OR (".toList [.equal, .number 0, .word .or, .opening] .nothing :=
      rfl
    have hone : Scans .nothing "=1 AND (".toList
        [.equal, .number 1, .word .and, .opening] .nothing := rfl
    have hnull : Scans .nothing " IS NULL OR ".toList [.word .is, .word .null, .word .or] .nothing :=
      rfl
    have hend : Scans .nothing " = 0))".toList [.equal, .number 0, .closing, .closing] .nothing :=
      rfl
    have halways := ((((((hprivacy.append hzero).append hprivacy).append hone).append hgroup).append
      hnull).append hgroup).append hend
    have hbegin : Scans .nothing "(".toList [.opening] .nothing := rfl
    -- Both forms begin alike; a viewer with groups has a third alternative.
    unfold clause tokens
    cases memberOf with
    | nil =>
      have hfinish : Scans .nothing ")".toList [.closing] .nothing := rfl
      simp only [List.isEmpty_nil, if_true, String.toList_append]
      exact (hbegin.append halways).append hfinish
    | cons id ids =>
      have hmine : Scans .nothing " OR (".toList [.word .or, .opening] .nothing := rfl
      have hand : Scans .nothing "=1 AND ".toList [.equal, .number 1, .word .and] .nothing := rfl
      have hfinish : Scans .nothing "))".toList [.closing, .closing] .nothing := rfl
      have hmember := scans_memberText hg (id :: ids)
      simp only [List.isEmpty_cons, Bool.false_eq_true, if_false, String.toList_append]
      exact ((((hbegin.append halways).append hmine).append hprivacy).append hand).append
        hmember |>.append hfinish

/-! ## §3. What the tokens spell. -/

/-- A list of groups to be in or out of is not empty. -/
def WellFormed : Predicate → Prop
  | .inGroups ids => ids ≠ []
  | .notInGroups ids => ids ≠ []
  | .noGroup | .hasGroup | .visible _ => True

/-- **Each fragment is one single in brackets**, and spells its condition. -/
theorem spells_tokens {p : Predicate} (h : p.WellFormed) (columns : Columns) :
    Spells .single (p.tokens columns) (p.condition columns) := by
  have hnull := Spells.single (.test (.isNull columns.group))
  have hzero := Spells.single (.test (.equals columns.group 0))
  cases p with
  | noGroup => exact .brackets (.or hzero (.conjunction hnull))
  | hasGroup =>
    have hdiffers := Spells.single (.test (.differs columns.group 0))
    exact .brackets (.conjunction (.and (.test (.isNotNull columns.group)) hdiffers))
  | inGroups ids =>
    have hids : idValues ids ≠ [] := by simpa [idValues, WellFormed] using h
    exact .brackets (.conjunction (.single (.test (.among columns.group _ hids))))
  | notInGroups ids =>
    have hids : idValues ids ≠ [] := by simpa [idValues, WellFormed] using h
    exact .brackets (.conjunction (.single (.test (.notAmong columns.group _ hids))))
  | visible memberOf =>
    have hpublic := Spells.single (.test (.equals columns.privacy 0))
    have hprivate := Spells.test (.equals columns.privacy 1)
    have hmine := Spells.single (.brackets (.conjunction
      (.and hprivate (.single (.brackets (.or hnull (.conjunction hzero)))))))
    cases memberOf with
    | nil => exact .brackets (.or hpublic (.conjunction hmine))
    | cons id ids =>
      have hids : idValues (id :: ids) ≠ [] := by simp [idValues]
      have hmember := Spells.single (.brackets (.conjunction
        (.and hprivate (.single (.test (.among columns.group _ hids))))))
      have hs := Spells.brackets (.or hpublic (.or hmine (.conjunction hmember)))
      simpa [tokens, grouplessTokens, condition, groupless] using hs

end Predicate

/-! ## §4. Fragments joined. -/

/-- The conditions of fragments, joined. -/
def conjunction (columns : Columns) (p : Predicate) : List Predicate → Condition
  | [] => p.condition columns
  | q :: ps => .and (p.condition columns) (conjunction columns q ps)

/-- The tokens of fragments, joined. -/
def conjunctionTokens (columns : Columns) (p : Predicate) : List Predicate → List Token
  | [] => p.tokens columns
  | q :: ps => p.tokens columns ++ .word .and :: conjunctionTokens columns q ps

/-- The text of fragments, joined. -/
def conjunctionText (columns : Columns) (ps : List Predicate) : String :=
  String.intercalate " AND " (ps.map (·.clause columns))

theorem scans_conjunctionText {columns : Columns} (hg : isIdentifier columns.group = true)
    (hp : isIdentifier columns.privacy = true) (p : Predicate) (ps : List Predicate) :
    Scans .nothing (conjunctionText columns (p :: ps)).toList (conjunctionTokens columns p ps)
      .nothing := by
  induction ps generalizing p with
  | nil =>
    have htext : conjunctionText columns [p] = p.clause columns := by
      simp [conjunctionText]
    rw [htext]
    exact p.scans_clause hg hp
  | cons q ps ih =>
    have hand : Scans .nothing " AND ".toList [.word .and] .nothing := rfl
    have htext : conjunctionText columns (p :: q :: ps) =
        p.clause columns ++ " AND " ++ conjunctionText columns (q :: ps) := by
      simp only [conjunctionText, List.map_cons, String.intercalate_cons_cons]
    have htokens : conjunctionTokens columns p (q :: ps) =
        p.tokens columns ++ [.word .and] ++ conjunctionTokens columns q ps := by
      simp [conjunctionTokens]
    rw [htext, htokens, String.toList_append, String.toList_append]
    exact ((p.scans_clause hg hp).append hand).append (ih q)

theorem spells_conjunctionTokens {p : Predicate} {ps : List Predicate}
    (h : ∀ q ∈ p :: ps, q.WellFormed) (columns : Columns) :
    Spells .conjunction (conjunctionTokens columns p ps) (conjunction columns p ps) := by
  induction ps generalizing p with
  | nil => exact .single (Predicate.spells_tokens (h p (by simp)) columns)
  | cons q ps ih =>
    exact .and (Predicate.spells_tokens (h p (by simp)) columns)
      (ih fun r hr => h r (List.mem_cons_of_mem p hr))

/-- **A joined text is read as the joined conditions.** -/
theorem ofText?_conjunctionText {columns : Columns} (hc : columns.check = .ok ()) {p : Predicate}
    {ps : List Predicate} (h : ∀ q ∈ p :: ps, q.WellFormed) :
    Condition.ofText? (conjunctionText columns (p :: ps)) = some (conjunction columns p ps) := by
  obtain ⟨hg, hp⟩ := Columns.check_eq_ok_iff.mp hc
  rw [Condition.ofText?, tokens?_of_scans (scans_conjunctionText hg hp p ps)]
  exact ofTokens?_eq_some_iff.mpr (.conjunction (spells_conjunctionTokens h columns))

theorem holds_conjunction (columns : Columns) (row : Row) (p : Predicate) (ps : List Predicate) :
    (conjunction columns p ps).Holds row ↔ ∀ q ∈ p :: ps, (q.condition columns).Holds row := by
  induction ps generalizing p with
  | nil => simp [conjunction]
  | cons q ps ih =>
    rw [conjunction, Condition.holds_and, ih]
    simp

end GroupScope
