import GroupScope.Proofs.Json.Lexing
/-!
# Reading what was printed

A printed value is read back, up to the order of the fields: those of every object come back sorted
by name, and of two fields with one name the later one comes back.

    read value.pretty = some value.canonical

The reader keeps the containers that are still open on a stack. The tokens of a value do to it what
handing over the whole value does (`builds_tokens`): whatever is open stays open, and gets the value
as its next item or field.
-/

namespace GroupScope

/-! ## §1. Values by name. -/

theorem Keyed.lookup_foldl_insert (fields : List (String × α)) (done : Keyed α) (name : String) :
    (fields.foldl (fun done field => done.insert field.1 field.2) done).lookup name =
      (fields.reverse.lookup name).or (done.lookup name) := by
  induction fields generalizing done with
  | nil => rfl
  | cons field fields ih =>
    obtain ⟨here, value⟩ := field
    rw [List.foldl_cons, ih, lookup_insert, List.reverse_cons, List.lookup_append, lookup_entry]
    by_cases h : name = here <;> cases fields.reverse.lookup name <;> simp [h]

/-- The last value of a name counts. -/
theorem Keyed.lookup_ofList (fields : List (String × α)) (name : String) :
    (ofList fields).lookup name = fields.reverse.lookup name := by
  show (fields.foldl _ empty).lookup name = _
  rw [lookup_foldl_insert]
  exact Option.or_none

/-- Of different names it makes no difference which value is the last one. -/
theorem lookup_reverse {fields : List (String × α)} (h : (fields.map Prod.fst).Nodup)
    (name : String) : fields.reverse.lookup name = fields.lookup name := by
  induction fields with
  | nil => rfl
  | cons field fields ih =>
    obtain ⟨here, value⟩ := field
    obtain ⟨hhere, hfields⟩ := List.nodup_cons.mp h
    rw [List.reverse_cons, List.lookup_append, ih hfields, lookup_entry, lookup_entry]
    by_cases heq : name = here
    · subst heq
      have hnone : fields.lookup name = none := by
        rw [List.lookup_eq_none_iff]
        intro other hother
        have hmem : other.1 ∈ fields.map Prod.fst := List.mem_map_of_mem hother
        have hne : name ≠ other.1 := fun heq => hhere (heq ▸ hmem)
        simpa using hne
      simp [hnone]
    · simp [heq]

/-- A value under a name behind all others is put at the end. -/
theorem insertByName_of_forall_lt {name : String} {value : α} {entries : List (String × α)}
    (h : ∀ entry ∈ entries, entry.1 < name) :
    insertByName name value entries = entries ++ [(name, value)] := by
  induction entries with
  | nil => rfl
  | cons entry entries ih =>
    obtain ⟨other, held⟩ := entry
    have hother : other < name := h (other, held) List.mem_cons_self
    have hne : name ≠ other := by
      rintro rfl
      exact String.lt_irrefl name hother
    rw [insertByName, if_neg (String.lt_asymm hother), if_neg hne,
      ih fun entry hentry => h entry (List.mem_cons_of_mem _ hentry)]
    rfl

/-- **What is sorted stays as it is.** -/
theorem Keyed.entries_ofList {fields : List (String × α)} (h : SortedByName fields) :
    (ofList fields).entries = fields := by
  -- What is inserted so far is smaller than all that is still to come.
  have hgeneral : ∀ (fields : List (String × α)) (done : Keyed α),
      SortedByName (done.entries ++ fields) →
      (fields.foldl (fun done field => done.insert field.1 field.2) done).entries =
        done.entries ++ fields := by
    intro fields
    induction fields with
    | nil => intro done _; simp
    | cons field fields ih =>
      intro done hsorted
      have hlast : (done.insert field.1 field.2).entries = done.entries ++ [field] :=
        insertByName_of_forall_lt fun entry hentry =>
          (List.pairwise_append.mp hsorted).2.2 entry hentry field List.mem_cons_self
      rw [List.foldl_cons, ih _ (by rw [hlast]; simpa using hsorted), hlast]
      simp
  exact hgeneral fields empty h

namespace Json

/-! ## §2. The value that is read back. -/

mutual

/-- The value with the fields of every object sorted by name. -/
def canonical : Json → Json
  | .null => .null
  | .bool b => .bool b
  | .number n => .number n
  | .string s => .string s
  | .array items => .array (canonicalItems items)
  | .object fields => .object (Keyed.ofList (canonicalFields fields)).entries

/-- The items, each with its fields sorted. -/
def canonicalItems : List Json → List Json
  | [] => []
  | item :: rest => canonical item :: canonicalItems rest

/-- The fields in the same order, each value with its fields sorted. -/
def canonicalFields : List (String × Json) → List (String × Json)
  | [] => []
  | (name, value) :: rest => (name, canonical value) :: canonicalFields rest

end

theorem canonicalItems_eq_map (items : List Json) : canonicalItems items = items.map canonical := by
  induction items with
  | nil => rfl
  | cons item items ih => rw [canonicalItems, ih, List.map_cons]

theorem canonicalFields_eq_map (fields : List (String × Json)) :
    canonicalFields fields = fields.map fun field => (field.1, field.2.canonical) := by
  induction fields with
  | nil => rfl
  | cons field fields ih => rw [canonicalFields, ih, List.map_cons]

/-- The value of a field; nothing if there is no such field. -/
def field? (value : Json) (name : String) : Option Json :=
  match value with
  | .object fields => fields.lookup name
  | _ => none

/-- Fields with different names are read back as they are. -/
theorem field?_canonical {fields : List (String × Json)} (h : (fields.map Prod.fst).Nodup)
    (name : String) :
    (canonical (.object fields)).field? name = (fields.lookup name).map canonical := by
  have hlookup : ∀ fields : List (String × Json),
      (fields.map fun field => (field.1, field.2.canonical)).lookup name =
        (fields.lookup name).map canonical := by
    intro fields
    induction fields with
    | nil => rfl
    | cons field fields ih =>
      rw [List.map_cons, lookup_entry, ih, lookup_entry]
      split <;> rfl
  have hnames : ((fields.map fun field => (field.1, field.2.canonical)).map Prod.fst).Nodup := by
    rwa [List.map_map]
  rw [canonical, canonicalFields_eq_map, field?]
  show (Keyed.ofList _).lookup name = _
  rw [Keyed.lookup_ofList, lookup_reverse hnames, hlookup]

/-- Items that hold no objects are read back as they are. -/
theorem canonical_map (encode : α → Json) (items : List α)
    (h : ∀ item, (encode item).canonical = encode item) :
    canonical (.array (items.map encode)) = .array (items.map encode) := by
  rw [canonical, canonicalItems_eq_map, List.map_map]
  congr 1
  exact List.map_congr_left fun item _ => h item

theorem canonical_ids (ids : List GroupId) : canonical (.ids ids) = .ids ids :=
  canonical_map Json.id ids fun _ => rfl

/-! ## §3. Tokens on the stack. -/

/-- A value may come next. -/
def Reading.Awaits (r : Reading) : Prop := r.expects = .value ∨ r.expects = .firstItem

theorem Reading.step_scalar {r : Reading} (h : r.Awaits) (value : Json) :
    r.step (.scalar value) = some (r.accept value) := by
  rcases h with h | h <;> simp [step, h]

theorem Reading.step_string {r : Reading} (h : r.Awaits) (s : String) :
    r.step (.string s) = some (r.accept (.string s)) := by
  rcases h with h | h <;> simp [step, h]

theorem Reading.step_open {r : Reading} (h : r.Awaits) (hroom : r.stack.length < maxDepth) :
    r.step .openArray = some ⟨.array [] :: r.stack, .firstItem, r.result⟩ ∧
      r.step .openObject = some ⟨.object [] "" :: r.stack, .firstField, r.result⟩ := by
  rcases h with h | h <;> simp [step, h, enter, hroom]

/-- What is read goes to what is open, whatever was expected. -/
theorem Reading.accept_mk (r : Reading) (expects : Expectation) (value : Json) :
    (⟨r.stack, expects, r.result⟩ : Reading).accept value = r.accept value := by
  unfold accept
  split <;> simp_all

/-- The tokens do what handing over the value does, where there is room for it. -/
def Builds (room : Nat) (tokens : List Token) (value : Json) : Prop :=
  ∀ r : Reading, r.Awaits → r.stack.length + room ≤ maxDepth →
    tokens.foldlM Reading.step r = some (r.accept value)

/-- Items are put into the innermost array one after the other. -/
theorem foldlM_items {room : Nat} {tokens : α → List Token} {value : α → Json} {items : List α}
    (hitems : ∀ item ∈ items, Builds room (tokens item) (value item)) (hne : items ≠ [])
    {stack : List Frame} (hroom : stack.length + (room + 1) ≤ maxDepth) {r : Reading}
    {done : List Json} (hstack : r.stack = .array done :: stack) (hr : r.Awaits) :
    ([Token.comma].intercalate (items.map tokens)).foldlM Reading.step r =
      some ⟨.array ((items.map value).reverse ++ done) :: stack, .next, r.result⟩ := by
  induction items generalizing r done with
  | nil => exact absurd rfl hne
  | cons item items ih =>
    have hlength : r.stack.length + room ≤ maxDepth := by
      rw [hstack, List.length_cons]
      omega
    have hitem : (tokens item).foldlM Reading.step r =
        some ⟨.array (value item :: done) :: stack, .next, r.result⟩ := by
      rw [hitems item List.mem_cons_self r hr hlength]
      simp [Reading.accept, hstack]
    cases items with
    | nil => simpa using hitem
    | cons next items =>
      have hrest := ih (fun item hitem => hitems item (List.mem_cons_of_mem _ hitem)) (by simp)
        (r := ⟨.array (value item :: done) :: stack, .value, r.result⟩) rfl (.inl rfl)
      simp only [List.map_cons, List.intercalate_cons_cons, List.foldlM_append, hitem,
        Option.bind_eq_bind, Option.bind_some] at hrest ⊢
      simpa [Reading.step, Reading.inArray] using hrest

/-- Fields are inserted into the innermost object one after the other. -/
theorem foldlM_fields {room : Nat} {fields : List (String × Json)}
    (hfields : ∀ field ∈ fields, Builds room (tokens field.2) field.2.canonical)
    (hne : fields ≠ []) {stack : List Frame} (hroom : stack.length + (room + 1) ≤ maxDepth)
    {r : Reading} {done : Keyed Json} (hstack : r.stack = .object done.entries "" :: stack)
    (hr : r.expects = .firstField ∨ r.expects = .field) :
    ([Token.comma].intercalate (fieldTokens fields)).foldlM Reading.step r =
      some ⟨.object ((canonicalFields fields).foldl
        (fun done field => done.insert field.1 field.2) done).entries "" :: stack, .next,
        r.result⟩ := by
  induction fields generalizing r done with
  | nil => exact absurd rfl hne
  | cons field fields ih =>
    obtain ⟨name, value⟩ := field
    have hname : r.step (.string name) =
        some ⟨.object done.entries name :: stack, .colon, r.result⟩ := by
      rcases hr with hr | hr <;> simp [Reading.step, hr, Reading.named, hstack]
    have hvalue := hfields (name, value) List.mem_cons_self
      ⟨.object done.entries name :: stack, .value, r.result⟩ (.inl rfl)
      (by rw [List.length_cons]; omega)
    have hfield : (.string name :: .colon :: tokens value : List Token).foldlM Reading.step r =
        some ⟨.object (done.insert name value.canonical).entries "" :: stack, .next, r.result⟩ := by
      simp only [List.foldlM_cons, hname, Option.bind_eq_bind, Option.bind_some]
      exact hvalue
    cases fields with
    | nil => simpa [fieldTokens, canonicalFields] using hfield
    | cons next fields =>
      have hrest := ih (fun field hfield => hfields field (List.mem_cons_of_mem _ hfield))
        (by simp)
        (r := ⟨.object (done.insert name value.canonical).entries "" :: stack, .field, r.result⟩)
        rfl (.inr rfl)
      simp only [fieldTokens, canonicalFields, List.foldl_cons, List.intercalate_cons_cons,
        List.foldlM_append, hfield, Option.bind_eq_bind, Option.bind_some] at hrest ⊢
      simpa [Reading.step, Reading.inArray] using hrest

/-- **The tokens of a value build the value.** -/
theorem builds_tokens {room : Nat} {value : Json} (h : Readable room value) :
    Builds room (tokens value) value.canonical := by
  -- A container takes one place on the stack while its values are read with one place less.
  induction h with
  | null | bool | integer =>
    intro r hr _
    simp [tokens, Reading.step_scalar hr, canonical, integer]
  | string s =>
    intro r hr _
    simp [tokens, Reading.step_string hr, canonical]
  | @array room items h ih =>
    intro r hr hroom
    have hopen := (Reading.step_open hr (by omega)).1
    rw [tokens, canonical, itemTokens_eq_map, canonicalItems_eq_map, List.foldlM_cons, hopen]
    simp only [Option.bind_eq_bind, Option.bind_some, List.foldlM_append, List.foldlM_cons,
      List.foldlM_nil]
    by_cases hne : items = []
    · subst hne
      simp [Reading.step, Reading.leave, Reading.accept_mk]
    · have hitems := foldlM_items ih hne hroom
        (r := ⟨.array [] :: r.stack, .firstItem, r.result⟩) rfl (.inr rfl)
      rw [hitems]
      simp [Reading.step, Reading.inArray, Reading.leave, Reading.accept_mk]
  | @object room fields h ih =>
    intro r hr hroom
    have hopen := (Reading.step_open hr (by omega)).2
    rw [tokens, canonical, List.foldlM_cons, hopen]
    simp only [Option.bind_eq_bind, Option.bind_some, List.foldlM_append, List.foldlM_cons,
      List.foldlM_nil]
    by_cases hne : fields = []
    · subst hne
      simp [fieldTokens, canonicalFields, Reading.step, Reading.leave, Reading.accept_mk,
        Keyed.ofList, Keyed.empty]
    · have hstart : Reading.stack ⟨.object [] "" :: r.stack, .firstField, r.result⟩ =
          .object Keyed.empty.entries "" :: r.stack := rfl
      rw [foldlM_fields ih hne hroom hstart (.inl rfl)]
      simp [Reading.step, Reading.inObject, Reading.leave, Reading.accept_mk, Keyed.ofList]

/-! ## §4. Whole texts. -/

/-- Blanks behind a value are skipped. -/
theorem read_append {value : Json} (h : Readable maxDepth value) (blanks : List Char)
    (hdelimited : Delimited blanks) (hblanks : Tokens blanks []) :
    read (value.pretty ++ String.ofList blanks) = some value.canonical := by
  have htokens := (lexes_prettyAt h 0 blanks [] hdelimited hblanks).readTokens (Nat.le_refl _)
  have hbuild := builds_tokens h ⟨[], .value, .null⟩ (.inl rfl) (by simp)
  unfold read
  rw [String.toList_append, String.toList_ofList]
  rw [List.append_nil] at htokens
  simp only [pretty, htokens, hbuild, Option.bind_eq_bind, Option.bind_some]
  rfl

/-- **Printed values are read back.** -/
theorem read_pretty {value : Json} (h : Readable maxDepth value) :
    read value.pretty = some value.canonical := by
  simpa using read_append h [] (by simp [Delimited]) .nil

/-- A line end behind a value makes no difference. -/
theorem read_pretty_newline {value : Json} (h : Readable maxDepth value) :
    read (value.pretty ++ "\n") = some value.canonical :=
  read_append h ['\n'] (by simp [Delimited]) (.blank rfl .nil)

end Json

end GroupScope
