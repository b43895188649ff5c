import GroupScope.Proofs.Number.Digits
import GroupScope.Proofs.Request.NativeList
/-!
# Three ways to write a native list

A native list may be given as numbers, as the texts of these numbers, or as one text with commas:

    [5, 7]        ["5", "7"]        "5,7"

The two forms made of text are always read alike, since one text is nothing but the list of its
pieces. Numbers are read like their texts as long as a signed word holds them. A greater number is
kept until the list is compiled, and left out there, while its text has become zero by then, and
zero is compiled: it stands for items without a group.

The main statement is `encodings_agree_iff`.
-/

namespace GroupScope

open NativeLists (Role)

/-! ## §1. Texts and their pieces. -/

namespace IdList

theorem ofJson?_array {entries : List Json} {ids : List GroupId}
    (h : entriesOfJson entries = .ok ids) : ofJson? (.array entries) = .ok (some ids) := by
  show (entriesOfJson entries).map some = .ok (some ids)
  rw [h]
  rfl

theorem entriesOfJson_texts (texts : List String) :
    entriesOfJson (texts.map .string) = .ok (texts.map fun text => idOfChars text.toList) := by
  induction texts with
  | nil => rfl
  | cons text texts ih =>
    rw [List.map_cons, entriesOfJson, ih]
    rfl

/-- The pieces of a text as a list of texts. -/
def texts (text : String) : List Json :=
  (pieces text.toList).map fun piece => .string (String.ofList piece)

/-- **A text is read like the list of its pieces.** -/
theorem ofJson?_string (text : String) :
    ofJson? (.string text) = ofJson? (.array (texts text)) := by
  have hentries : texts text = ((pieces text.toList).map String.ofList).map .string :=
    List.map_map.symm
  have hids : (pieces text.toList).map idOfChars =
      ((pieces text.toList).map String.ofList).map fun piece => idOfChars piece.toList := by
    simp
  rw [hentries, ofJson?_array (entriesOfJson_texts _), ← hids]
  rfl

/-- Pieces that are not blank and hold no comma are found again in the text they are joined to. -/
theorem pieces_join {parts : List (List Char)}
    (h : ∀ part ∈ parts, ',' ∉ part ∧ Text.trim part ≠ []) :
    pieces (Text.join [','] parts) = parts := by
  unfold pieces
  by_cases hne : parts = []
  · rw [hne]
    rfl
  · rw [Text.splitBy_join hne fun part hpart => (h part hpart).1, List.filter_eq_self]
    intro part hpart
    simpa using (h part hpart).2

/-! ## §2. Ids as texts. -/

/-- The texts of ids, joined with commas, fall into the texts of the ids. -/
theorem texts_idsText (ids : List GroupId) :
    texts (idsText ids) = ids.map fun id => .string (toString id.toNat) := by
  have hchars : (idsText ids).toList =
      Text.join [','] (ids.map fun id => (Nat.repr id.toNat).toList) := by
    unfold idsText Text.join
    rw [String.toList_intercalate, List.map_map]
    rfl
  have hpart : ∀ part ∈ ids.map fun id => (Nat.repr id.toNat).toList,
      ',' ∉ part ∧ Text.trim part ≠ [] := by
    intro part hpart
    obtain ⟨id, -, rfl⟩ := List.mem_map.mp hpart
    constructor
    · intro hcomma
      exact absurd (isDigit_of_mem_repr hcomma) (by decide)
    · -- Digits are not blank, so nothing of them is trimmed.
      rw [Text.trim_eq_self fun c hc => Text.isBlank_of_isDigit (isDigit_of_mem_repr hc),
        Nat.toList_repr]
      exact Nat.toDigits_ne_nil
  unfold texts
  rw [hchars, pieces_join hpart, List.map_map]
  exact List.map_congr_left fun id _ => congrArg Json.string String.ofList_toList

/-- The id that is read from the text of an id. -/
def throughText (id : GroupId) : GroupId := if id.isStorable = true then id else 0

theorem ofJson?_texts (ids : List GroupId) :
    ofJson? (.array (ids.map fun id => .string (toString id.toNat))) =
      .ok (some (ids.map throughText)) := by
  have hread : entriesOfJson (ids.map fun id => .string (toString id.toNat)) =
      .ok (ids.map throughText) := by
    induction ids with
    | nil => rfl
    | cons id ids ih =>
      have hid : idOfChars (toString id.toNat).toList = throughText id := idOfChars_repr id
      rw [List.map_cons, entriesOfJson, ih, entryOfJson, hid]
      rfl
  exact ofJson?_array hread

theorem isStorable_throughText (id : GroupId) : (throughText id).isStorable = true := by
  unfold throughText
  split
  next h => exact h
  next => decide

/-- **Reading ids from their texts loses nothing** just when all of them are storable. -/
theorem storable_eq_throughText_iff {ids : List GroupId} :
    storable ids = storable (ids.map throughText) ↔ ∀ id ∈ ids, id.toNat ≤ GroupId.maxStored := by
  have hall : storable (ids.map throughText) = ids.map throughText := by
    unfold storable
    rw [List.filter_eq_self]
    intro id hid
    obtain ⟨old, -, rfl⟩ := List.mem_map.mp hid
    exact isStorable_throughText old
  rw [hall, ← storable_eq_self_iff]
  constructor
  · -- Every text leaves an id, so a list with as many storable ids has no others.
    intro h
    have hlength : (storable ids).length = ids.length := by
      rw [h, List.length_map]
    exact List.filter_sublist.eq_of_length hlength
  · intro h
    have hstorable : ∀ id ∈ ids, id.isStorable = true := List.filter_eq_self.mp h
    have hsame : ids.map throughText = ids.map fun id => id :=
      List.map_congr_left fun id hid => if_pos (hstorable id hid)
    rw [h, hsame, List.map_id']

end IdList

/-! ## §3. The three forms. -/

/-- **The forms of a native list.** For either list, whatever stands beside it in the request and
was in the parameters before, the list of texts and the joined text yield the same fragments, or the
same error. The list of numbers yields them as well just when all ids are storable or the list does
not count. -/
theorem encodings_agree_iff (role : Role) (ids : List GroupId) (existing : Json)
    (fields : List (String × Json)) (context viewing : Context) (settings : Settings) :
    let fragments := fun value =>
      fragmentsOfJson existing (role.attributes fields value) context viewing settings
    let numbers := Json.ids ids
    let texts := Json.array (ids.map fun id => .string (toString id.toNat))
    let joined := Json.string (String.intercalate "," (ids.map fun id => toString id.toNat))
    fragments joined = fragments texts
      ∧ (fragments numbers = fragments texts ↔
          (∀ id ∈ ids, id.toNat ≤ GroupId.maxStored) ∨
            ¬role.Counts existing (role.attributes fields numbers) context viewing settings) := by
  intro fragments numbers texts joined
  constructor
  · apply fragmentsOfJson_congr
    show IdList.ofJson? (.string (idsText ids)) = IdList.ofJson? texts
    rw [IdList.ofJson?_string, IdList.texts_idsText]
  · rw [← IdList.storable_eq_throughText_iff]
    exact fragmentsOfJson_eq_iff (IdList.ofJson?_ids ids) (IdList.ofJson?_texts ids) ..

/-- An id that no signed word holds is left out as a number, and as a text it wants items without a
group as well. -/
theorem oversized_id_unlike_its_text :
    let context : Context :=
      { viewer := .anonymous
        directory := { groupOf := fun _ => .ok none, groupsOf := fun _ => .ok [] } }
    let fragments := fun value =>
      fragmentsOfJson (.object []) (Role.included.attributes [] value) context context {}
    let ids : List GroupId := [9223372036854775808, 5]
    let numbers := Json.ids ids
    let texts := Json.array (ids.map fun id => .string (toString id.toNat))
    fragments numbers = .ok { group := some (.inGroups [5]) }
      ∧ fragments texts = .ok { group := some (.inGroups [0, 5]) }
      ∧ fragments numbers ≠ fragments texts := by
  intro context fragments ids numbers texts
  have hread : ∀ {value : Json} {ids : List GroupId}, IdList.ofJson? value = .ok (some ids) →
      let request : Request := { native := { included := some ids } }
      fragments value =
        .ok ((Parameters.normalize {} request context {}).value.compile context).value := by
    intro value ids hvalue request
    have hrequest : Request.ofJson (Role.included.attributes [] value) = .ok request := by
      rw [Request.ofJson_attributes, hvalue]
      rfl
    exact fragmentsOfJson_of_ok rfl hrequest
  have hnumbers : fragments numbers = .ok { group := some (.inGroups [5]) } := by
    rw [hread (IdList.ofJson?_ids ids)]
    rfl
  have htexts : fragments texts = .ok { group := some (.inGroups [0, 5]) } := by
    rw [hread (IdList.ofJson?_texts ids)]
    rfl
  refine ⟨hnumbers, htexts, ?_⟩
  rw [hnumbers, htexts]
  intro h
  injection h with h
  exact absurd h (by decide)

end GroupScope
