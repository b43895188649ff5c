import GroupScope.Files
/-!
# What stands at a path

A path is a list of names to look up, each at a location that the names before it decide:

    path          looked up
    a/../b        a in the start      .. in a      b in the start

Something stands at the path if each of these locations is a directory and something stands where
the last name leads. That is a matter of the tree alone. Whether it is found there is another
question, since a right that is missing or a length can bar the way. The two together decide:

    found    if and only if    it stands there and nothing bars the way

The main statement is `open?_eq_ok_iff`.
-/

namespace GroupScope

namespace Files

variable {files earlier later : Files} {here place : Location} {name : List Char}
  {names : List (List Char)} {path : String} {node : FileNode}

/-! ## §1. Paths in the tree. -/

/-- The names to look up, each with the location where it is looked up. -/
def lookups (here : Location) : List (List Char) → List (Location × List Char)
  | [] => []
  | name :: rest => (here, name) :: lookups (here.step name) rest

/-- The names of a path, each with the location where it is looked up. -/
def pathLookups (files : Files) (path : String) : List (Location × List Char) :=
  lookups (files.start path) (pathNames path)

/-- Where the names of a path lead. -/
def target (files : Files) (path : String) : Location :=
  (pathNames path).foldl Location.step (files.start path)

/-- What stands at the path in the tree. Nothing stands at the empty path. -/
def stands? (files : Files) (path : String) : Option FileNode :=
  if path.toList ≠ [] ∧ (files.pathLookups path).all fun entry => files.isDirectory entry.1 then
    files.node? (files.target path)
  else none

/-- The program may not look the name up at the location, or the name is too long. Only an empty
name needs no right. -/
def refuses (files : Files) (place : Location) (name : List Char) : Bool :=
  (!name.isEmpty && (files.node? place).any fun node => !node.access.reads)
    || maxNameSize < nameSize name

/-- The path cannot be followed whatever stands there: a name on it is refused, or it is too long,
or it contains the character that ends paths. -/
def bars (files : Files) (path : String) : Bool :=
  path.toList.contains '\x00' || maxPathSize < path.utf8ByteSize
    || (files.pathLookups path).any fun entry => files.refuses entry.1 entry.2

/-- The node is a file that may be read, and its text passes the test. -/
def passes (test : String → Bool) : FileNode → Bool
  | .directory _ => false
  | .file content access => access.reads && (String.fromUTF8? content).any test

/-- The path can be followed, and at its end stands a file that passes the test. -/
def usable (files : Files) (path : String) (test : String → Bool) : Bool :=
  !files.bars path && (files.stands? path).any (passes test)

/-! ## §2. Following names. -/

theorem isDirectory_eq_true_iff :
    files.isDirectory place = true ↔ ∃ access, files.node? place = some (.directory access) := by
  unfold isDirectory
  cases files.node? place with
  | none => simp
  | some node => cases node <;> simp [FileNode.isDirectory]

theorem isSome_nameFault? (access : Access) (name : List Char) :
    (nameFault? access name).isSome =
      (!name.isEmpty && !access.reads || maxNameSize < nameSize name) := by
  unfold nameFault?
  by_cases hlong : maxNameSize < nameSize name <;> cases name <;> cases access.reads <;>
    simp [hlong]

/-- A name leads on if it is looked up in a directory and not refused there. -/
theorem follow_cons_eq_ok_iff :
    files.follow here (name :: names) = .ok place ↔
      files.isDirectory here = true ∧ files.refuses here name = false
        ∧ files.follow (here.step name) names = .ok place := by
  rw [follow]
  unfold isDirectory refuses
  cases files.node? here with
  | none => simp
  | some node =>
    cases node with
    | file content access => simp [FileNode.isDirectory]
    | directory access =>
      simp only [Option.any_some, FileNode.isDirectory, FileNode.access, true_and,
        ← isSome_nameFault?]
      cases nameFault? access name <;> simp

/-- **Names are followed** if each is looked up in a directory and none is refused there. Where they
lead is found without looking at the store. -/
theorem follow_eq_ok_iff :
    files.follow here names = .ok place ↔
      (∀ entry ∈ lookups here names,
          files.isDirectory entry.1 = true ∧ files.refuses entry.1 entry.2 = false)
        ∧ names.foldl Location.step here = place := by
  induction names generalizing here with
  | nil => simp [follow, lookups]
  | cons name rest ih =>
    rw [follow_cons_eq_ok_iff, ih, lookups, List.forall_mem_cons, List.foldl_cons]
    simp only [and_assoc]

/-- Only what stands where names are looked up counts. -/
theorem follow_congr
    (h : ∀ entry ∈ lookups here names, later.node? entry.1 = earlier.node? entry.1) :
    later.follow here names = earlier.follow here names := by
  induction names generalizing here with
  | nil => rfl
  | cons name rest ih =>
    rw [lookups, List.forall_mem_cons] at h
    rw [follow, follow, h.1, ih h.2]

/-! ## §3. Following paths. -/

theorem pathFault?_eq_none_iff :
    pathFault? path = none ↔
      path.toList ≠ [] ∧ path.toList.contains '\x00' = false ∧ path.utf8ByteSize ≤ maxPathSize := by
  unfold pathFault?
  cases path.toList.contains '\x00' with
  | true => simp
  | false =>
    by_cases hempty : path.toList = []
    · simp [hempty]
    · by_cases hlong : maxPathSize < path.utf8ByteSize
      · simp [hempty, hlong, Nat.not_le.mpr hlong]
      · simp [hempty, hlong, Nat.le_of_not_lt hlong]

theorem locate_eq_ok_iff :
    files.locate path = .ok place ↔
      pathFault? path = none ∧ files.follow (files.start path) (pathNames path) = .ok place := by
  unfold locate
  cases pathFault? path <;> simp

/-- A path leads to its target or nowhere. -/
theorem eq_target_of_locate (h : files.locate path = .ok place) : place = files.target path :=
  (follow_eq_ok_iff.mp (locate_eq_ok_iff.mp h).2).2.symm

theorem stands?_eq_some_iff :
    files.stands? path = some node ↔
      path.toList ≠ [] ∧ (∀ entry ∈ files.pathLookups path, files.isDirectory entry.1 = true)
        ∧ files.node? (files.target path) = some node := by
  unfold stands?
  simp only [List.all_eq_true]
  split
  · next hstands => exact ⟨fun hnode => ⟨hstands.1, hstands.2, hnode⟩, fun h => h.2.2⟩
  · next hstands => exact ⟨nofun, fun h => absurd ⟨h.1, h.2.1⟩ hstands⟩

theorem bars_eq_false_iff :
    files.bars path = false ↔
      path.toList.contains '\x00' = false ∧ path.utf8ByteSize ≤ maxPathSize
        ∧ ∀ entry ∈ files.pathLookups path, files.refuses entry.1 entry.2 = false := by
  unfold bars
  rw [Bool.or_eq_false_iff, Bool.or_eq_false_iff, decide_eq_false_iff_not, Nat.not_lt,
    List.any_eq_false, and_assoc]
  simp only [Bool.not_eq_true]

/-- **Found is what stands there, if nothing bars the way.** -/
theorem open?_eq_ok_iff :
    files.open? path = .ok node ↔ files.stands? path = some node ∧ files.bars path = false := by
  have hopen : files.open? path = .ok node ↔
      files.locate path = .ok (files.target path) ∧
        files.node? (files.target path) = some node := by
    unfold open?
    cases hlocate : files.locate path with
    | error fault => simp
    | ok place =>
      obtain rfl := eq_target_of_locate hlocate
      simp only [true_and]
      cases files.node? (files.target path) <;> simp
  rw [hopen, locate_eq_ok_iff, pathFault?_eq_none_iff, follow_eq_ok_iff, stands?_eq_some_iff,
    bars_eq_false_iff]
  unfold pathLookups target
  constructor
  · rintro ⟨⟨⟨hne, hends, hsize⟩, hentries, -⟩, hnode⟩
    exact ⟨⟨hne, fun entry hentry => (hentries entry hentry).1, hnode⟩, hends, hsize,
      fun entry hentry => (hentries entry hentry).2⟩
  · rintro ⟨⟨hne, hdirectories, hnode⟩, hends, hsize, hallowed⟩
    exact ⟨⟨⟨hne, hends, hsize⟩,
      fun entry hentry => ⟨hdirectories entry hentry, hallowed entry hentry⟩, rfl⟩, hnode⟩

/-- To ask whether a path exists is to ask two questions at once. -/
theorem contains_eq (files : Files) (path : String) :
    files.contains path = ((files.stands? path).isSome && !files.bars path) := by
  rw [Bool.eq_iff_iff, Bool.and_eq_true, Bool.not_eq_true', Option.isSome_iff_exists]
  have hcontains : files.contains path = true ↔ ∃ node, files.open? path = .ok node := by
    unfold contains
    cases files.open? path <;> simp
  simp only [hcontains, open?_eq_ok_iff, exists_and_right]

theorem any_textIn (test : String → Bool) (node : FileNode) :
    (textIn node).toOption.any test = passes test node := by
  cases node with
  | directory access => cases access <;> rfl
  | file content access =>
    unfold textIn passes FileNode.access
    simp only
    cases access.reads with
    | false => rfl
    | true => cases String.fromUTF8? content <;> rfl

/-- **A text is read and passes a test if what stands at the path is usable.** -/
theorem any_readText (files : Files) (path : String) (test : String → Bool) :
    (files.readText path).toOption.any test = files.usable path test := by
  unfold readText usable
  cases hopen : files.open? path with
  | ok node =>
    obtain ⟨hstands, hbars⟩ := open?_eq_ok_iff.mp hopen
    rw [hstands, hbars, Option.any_some, Bool.not_false, Bool.true_and]
    exact any_textIn test node
  | error fault =>
    -- Otherwise what stands there would have been found.
    cases hbars : files.bars path with
    | true => rfl
    | false =>
      cases hstands : files.stands? path with
      | none => rfl
      | some node =>
        rw [open?_eq_ok_iff.mpr ⟨hstands, hbars⟩] at hopen
        cases hopen

/-! ## §4. Long paths. -/

/-- The path with `./` in front of it a number of times. -/
def prolong (path : String) : Nat → String
  | 0 => path
  | n + 1 => "./" ++ prolong path n

theorem utf8ByteSize_prolong (path : String) (n : Nat) :
    (prolong path n).utf8ByteSize = 2 * n + path.utf8ByteSize := by
  induction n with
  | zero => simp [prolong]
  | succ n ih =>
    have hstep : "./".utf8ByteSize = 2 := rfl
    rw [prolong, String.utf8ByteSize_append, ih, hstep]
    omega

theorem isAbsolute_dot_slash (path : String) : isAbsolute ("./" ++ path) = false := by
  unfold isAbsolute
  rw [String.toList_append]
  rfl

/-- In a working directory that is there, `./` leads nowhere else. -/
theorem stands?_dot_slash (hhere : files.isDirectory files.workingDirectory = true)
    (hpath : path.toList ≠ []) (hrelative : isAbsolute path = false) :
    files.stands? ("./" ++ path) = files.stands? path := by
  have hchars : ("./" ++ path).toList = '.' :: '/' :: path.toList := by
    rw [String.toList_append]
    rfl
  have hnames : pathNames ("./" ++ path) = ['.'] :: pathNames path := by
    unfold pathNames
    rw [hchars]
    simp [Text.splitBy]
  have hstart : files.start ("./" ++ path) = files.workingDirectory := by
    unfold start
    rw [isAbsolute_dot_slash]
    rfl
  have hstart' : files.start path = files.workingDirectory := by
    unfold start
    rw [hrelative]
    rfl
  have hstay : files.workingDirectory.step ['.'] = files.workingDirectory := by
    simp [Location.step]
  unfold stands? pathLookups target
  rw [hchars, hnames, hstart, hstart', lookups, List.all_cons, hhere, List.foldl_cons, hstay]
  simp only [ne_eq, reduceCtorEq, hpath, not_false_eq_true, true_and, Bool.true_and]

theorem stands?_prolong (hhere : files.isDirectory files.workingDirectory = true)
    (hpath : path.toList ≠ []) (hrelative : isAbsolute path = false) (n : Nat) :
    files.stands? (prolong path n) = files.stands? path := by
  have hkept : ∀ n, (prolong path n).toList ≠ [] ∧ isAbsolute (prolong path n) = false := by
    intro n
    cases n with
    | zero => exact ⟨hpath, hrelative⟩
    | succ n =>
      refine ⟨?_, isAbsolute_dot_slash _⟩
      rw [prolong, String.toList_append]
      nofun
  induction n with
  | zero => rfl
  | succ n ih => rw [prolong, stands?_dot_slash hhere (hkept n).1 (hkept n).2, ih]

theorem bars_of_tooLong (h : maxPathSize < path.utf8ByteSize) : files.bars path = true := by
  unfold bars
  rw [decide_eq_true h, Bool.or_true, Bool.true_or]

end Files

end GroupScope
