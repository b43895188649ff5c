import GroupScope.Proofs.Files.Standing
import Mathlib.Data.List.Induction
import Mathlib.Logic.Relation
/-!
# What writing does to a store

Before a file is written, the directories above it are made. That changes a store in two ways only,
and neither takes a directory away:

    making a directory     where nothing stood, in a directory
    writing a file         where no directory stands, at the target of the path

A path that leads to its target when the directories above are made may have led nowhere before,
although something stood at the target all the time: with `..` in it, it can pass a directory that
was missing. In a store in which everything stands in a directory, this takes a `..`; at a path
without one the file stood before, which is `Rooted.stands?_of_grown`.
-/

namespace GroupScope

/-! ## §1. Locations. -/

namespace Location

/-- A name stays, goes up or goes down. -/
theorem step_cases (here : Location) (name : List Char) :
    here.step name = here ∨ (name = ['.', '.'] ∧ here.step name = here.parent) ∨
      here.step name = here.child name := by
  unfold step
  split
  · exact .inl rfl
  · split
    · exact .inr (.inl ⟨‹_›, rfl⟩)
    · exact .inr (.inr rfl)

theorem parent_child (here : Location) (name : List Char) : (here.child name).parent = here :=
  congrArg Location.mk List.dropLast_concat

/-- Without `..` the names lead further and further inside. -/
theorem foldl_step_of_not_mem {names : List (List Char)} (h : ['.', '.'] ∉ names)
    (here : Location) : ∃ inside, names.foldl step here = ⟨here.names ++ inside⟩ := by
  induction names generalizing here with
  | nil => exact ⟨[], by simp⟩
  | cons name rest ih =>
    obtain ⟨hname, hrest⟩ := not_or.mp fun hor => h (List.mem_cons.mpr hor)
    obtain ⟨inside, hinside⟩ := ih hrest (here.step name)
    rw [List.foldl_cons, hinside]
    rcases here.step_cases name with hstay | ⟨hup, -⟩ | hdown
    · exact ⟨inside, by rw [hstay]⟩
    · exact absurd hup.symm hname
    · exact ⟨name :: inside, by rw [hdown]; simp [child]⟩

end Location

namespace Files

variable {files earlier later : Files} {here place other : Location} {names : List (List Char)}
  {path : String} {content : ByteArray}

/-! ## §2. Contents. -/

/-- The bytes of the file at a location, if a file stands there. -/
def content? (files : Files) (place : Location) : Option ByteArray :=
  match files.node? place with
  | some (.file content _) => some content
  | _ => none

theorem exists_node?_of_content? (h : files.content? place = some content) :
    ∃ access, files.node? place = some (.file content access) := by
  unfold content? at h
  split at h
  · next access hnode =>
    injection h with h
    subst h
    exact ⟨access, hnode⟩
  · cases h

theorem content?_congr (h : later.node? place = earlier.node? place) :
    later.content? place = earlier.content? place := by
  unfold content?
  rw [h]

theorem isDirectory_congr (h : later.node? place = earlier.node? place) :
    later.isDirectory place = earlier.isDirectory place := by
  unfold isDirectory
  rw [h]

/-- A file is no directory. -/
theorem isDirectory_of_content? (h : files.content? place = some content) :
    files.isDirectory place = false := by
  obtain ⟨access, hnode⟩ := exists_node?_of_content? h
  unfold isDirectory
  rw [hnode]
  rfl

theorem isSome_node?_of_content? (h : files.content? place = some content) :
    (files.node? place).isSome = true := by
  obtain ⟨access, hnode⟩ := exists_node?_of_content? h
  rw [hnode]
  rfl

theorem isSome_node?_of_isDirectory (h : files.isDirectory place = true) :
    (files.node? place).isSome = true := by
  obtain ⟨access, hnode⟩ := isDirectory_eq_true_iff.mp h
  rw [hnode]
  rfl

/-! ## §3. One change. -/

theorem node?_put_self {node : FileNode} : (files.put place node).node? place = some node := by
  rw [node?_put, if_pos rfl]

theorem node?_put_of_ne {node : FileNode} (h : other ≠ place) :
    (files.put place node).node? other = files.node? other := by
  rw [node?_put, if_neg h]

theorem start_put {node : FileNode} : (files.put place node).start path = files.start path := rfl

/-- A change where no directory stands leaves the directories as they are. -/
theorem node?_put_of_isDirectory {node : FileNode} (h : files.isDirectory place = false)
    (hother : files.isDirectory other = true) :
    (files.put place node).node? other = files.node? other := by
  refine node?_put_of_ne fun heq => ?_
  rw [heq, h] at hother
  cases hother

theorem isDirectory_put {node : FileNode} (h : files.isDirectory place = false)
    (hother : files.isDirectory other = true) : (files.put place node).isDirectory other = true :=
  (isDirectory_congr (node?_put_of_isDirectory h hother)).trans hother

/-- A change where no directory stands closes no way. -/
theorem follow_put {node : FileNode} {target : Location} (h : files.isDirectory place = false)
    (hfollow : files.follow here names = .ok target) :
    (files.put place node).follow here names = .ok target := by
  have hsame : (files.put place node).follow here names = files.follow here names :=
    follow_congr fun entry hentry =>
      node?_put_of_isDirectory h ((follow_eq_ok_iff.mp hfollow).1 entry hentry).1
  rw [hsame, hfollow]

/-- A directory was made where nothing stood, in another directory. -/
def MakesDirectory (earlier later : Files) : Prop :=
  ∃ place, earlier.node? place = none ∧ earlier.isDirectory place.parent = true
    ∧ later = earlier.put place .directory

/-- Directories were made, and nothing else happened. -/
abbrev MakesDirectories : Files → Files → Prop := Relation.ReflTransGen MakesDirectory

theorem MakesDirectory.node?_eq (h : MakesDirectory earlier later)
    (hother : (earlier.node? other).isSome = true) : later.node? other = earlier.node? other := by
  obtain ⟨place, hfree, -, rfl⟩ := h
  refine node?_put_of_ne fun heq => ?_
  rw [heq, hfree] at hother
  cases hother

theorem MakesDirectory.content?_eq (h : MakesDirectory earlier later) :
    later.content? other = earlier.content? other := by
  obtain ⟨place, hfree, -, rfl⟩ := h
  by_cases hother : other = place
  · subst hother
    unfold content?
    rw [node?_put_self, hfree]
  · exact content?_congr (node?_put_of_ne hother)

/-- **Making directories leaves every node as it is.** -/
theorem MakesDirectories.node?_eq (h : MakesDirectories earlier later)
    (hother : (earlier.node? other).isSome = true) : later.node? other = earlier.node? other := by
  induction h with
  | refl => rfl
  | tail _ hlast ih => rw [hlast.node?_eq (by rwa [ih]), ih]

/-- **Making directories leaves every file as it is**, and makes none. -/
theorem MakesDirectories.content?_eq (h : MakesDirectories earlier later) :
    later.content? other = earlier.content? other := by
  induction h with
  | refl => rfl
  | tail _ hlast ih => exact hlast.content?_eq.trans ih

theorem MakesDirectories.start_eq (h : MakesDirectories earlier later) :
    later.start path = earlier.start path := by
  induction h with
  | refl => rfl
  | tail _ hlast ih =>
    obtain ⟨place, -, -, rfl⟩ := hlast
    exact start_put.trans ih

theorem MakesDirectories.target_eq (h : MakesDirectories earlier later) :
    later.target path = earlier.target path := by
  unfold target
  rw [h.start_eq]

/-- **What stands at a path is found if it can be reached later**, when more directories are there:
the names of the path pass through none of those. -/
theorem MakesDirectories.contains_of_stands (h : MakesDirectories earlier later)
    (hstands : (earlier.stands? path).isSome = true) (hlocate : later.locate path = .ok place) :
    earlier.contains path = true := by
  obtain ⟨node, hnode⟩ := Option.isSome_iff_exists.mp hstands
  obtain ⟨-, hdirectories, -⟩ := stands?_eq_some_iff.mp hnode
  obtain ⟨hfault, hfollow⟩ := locate_eq_ok_iff.mp hlocate
  have hsame : later.follow (earlier.start path) (pathNames path) =
      earlier.follow (earlier.start path) (pathNames path) :=
    follow_congr fun entry hentry =>
      h.node?_eq (isSome_node?_of_isDirectory (hdirectories entry hentry))
  rw [h.start_eq, hsame] at hfollow
  obtain ⟨hentries, -⟩ := follow_eq_ok_iff.mp hfollow
  obtain ⟨-, hends, hsize⟩ := pathFault?_eq_none_iff.mp hfault
  rw [contains_eq, hstands,
    bars_eq_false_iff.mpr ⟨hends, hsize, fun entry hentry => (hentries entry hentry).2⟩]
  rfl

/-! ## §4. Stores in which everything stands in a directory. -/

/-- Whatever stands somewhere stands in a directory. -/
def Rooted (files : Files) : Prop :=
  ∀ place, (files.node? place).isSome = true → files.isDirectory place.parent = true

/-- A store with nothing but its root. -/
theorem rooted_empty : ({} : Files).Rooted := by
  intro place hplace
  by_cases hroot : place = .root
  · subst hroot
    rfl
  · have hbeq : (place == Location.root) = false := beq_false_of_ne hroot
    unfold node? at hplace
    simp [List.lookup_cons, hbeq] at hplace

namespace Rooted

/-- What is put into a directory leaves the store in order, unless it takes the place of one. -/
theorem put {node : FileNode} (h : files.Rooted)
    (hparent : files.isDirectory place.parent = true) (hfree : files.isDirectory place = false) :
    (files.put place node).Rooted := by
  intro other hother
  -- A directory that was there is still there, so it is enough to look at the store before.
  refine isDirectory_put hfree ?_
  by_cases heq : other = place
  · rw [heq, hparent]
  · rw [node?_put_of_ne heq] at hother
    exact h other hother

theorem makeDirectories (h : earlier.Rooted) (hmade : MakesDirectories earlier later) :
    later.Rooted := by
  induction hmade with
  | refl => exact h
  | tail _ hlast ih =>
    obtain ⟨place, hfree, hparent, rfl⟩ := hlast
    refine ih.put hparent ?_
    unfold isDirectory
    rw [hfree]
    rfl

/-- Everything above a node is a directory. -/
theorem isDirectory_above {above inside : List (List Char)} (h : files.Rooted)
    (hplace : (files.node? ⟨above ++ inside⟩).isSome = true) (hinside : inside ≠ []) :
    files.isDirectory ⟨above⟩ = true := by
  induction inside using List.reverseRecOn with
  | nil => exact absurd rfl hinside
  | append_singleton rest name ih =>
    have hparent := h _ hplace
    rw [← List.append_assoc] at hparent
    change files.isDirectory (Location.child ⟨above ++ rest⟩ name).parent = true at hparent
    rw [Location.parent_child] at hparent
    cases rest with
    | nil => simpa using hparent
    | cons first others =>
      exact ih (isSome_node?_of_isDirectory hparent) (List.cons_ne_nil _ _)

/-- **Making directories opens no way to a file**, as long as the names do not go up: where they are
looked up afterwards, there were directories before. -/
theorem isDirectory_of_grown (h : earlier.Rooted) (hnames : ['.', '.'] ∉ names)
    (hplace : earlier.content? place = some content)
    (hlater : later.content? place = earlier.content? place)
    (hfollow : later.follow here names = .ok place) :
    ∀ entry ∈ lookups here names, earlier.isDirectory entry.1 = true := by
  induction names generalizing here with
  | nil => nofun
  | cons name rest ih =>
    obtain ⟨hhere, -, hrest⟩ := follow_cons_eq_ok_iff.mp hfollow
    refine List.forall_mem_cons.mpr ⟨?_, ih (List.not_mem_of_not_mem_cons hnames) hrest⟩
    -- What is passed on the way lies above the file, since the file itself cannot be passed.
    obtain ⟨inside, hinside⟩ := Location.foldl_step_of_not_mem hnames here
    rw [(follow_eq_ok_iff.mp hfollow).2] at hinside
    have hne : inside ≠ [] := by
      rintro rfl
      have hsame : place = here := by simpa using hinside
      rw [← hsame, isDirectory_of_content? (hlater.trans hplace)] at hhere
      cases hhere
    refine h.isDirectory_above ?_ hne
    rw [← hinside]
    exact isSome_node?_of_content? hplace

/-- A file that a path without `..` leads to when directories were made stands at the path. -/
theorem stands?_of_grown (h : earlier.Rooted) (hnames : ['.', '.'] ∉ pathNames path)
    (hmade : MakesDirectories earlier later)
    (hcontent : earlier.content? (earlier.target path) = some content)
    (hlocate : later.locate path = .ok (earlier.target path)) :
    (earlier.stands? path).isSome = true := by
  obtain ⟨hfault, hfollow⟩ := locate_eq_ok_iff.mp hlocate
  rw [hmade.start_eq] at hfollow
  obtain ⟨access, hnode⟩ := exists_node?_of_content? hcontent
  have hstands : earlier.stands? path = some (.file content access) :=
    stands?_eq_some_iff.mpr ⟨(pathFault?_eq_none_iff.mp hfault).1,
      h.isDirectory_of_grown hnames hcontent hmade.content?_eq hfollow, hnode⟩
  rw [hstands]
  rfl

end Rooted

/-! ## §5. The operations. -/

theorem isDirectory_of_admits (h : files.admits place = true) : files.isDirectory place = true := by
  unfold admits at h
  unfold isDirectory
  cases hnode : files.node? place with
  | none => simp [hnode] at h
  | some node =>
    rw [hnode, Option.any_some, Bool.and_eq_true] at h
    exact h.1

theorem makeDirectory_makes {made : Files} (h : files.makeDirectory here names = .ok made) :
    MakesDirectory files made := by
  unfold makeDirectory at h
  split at h
  · cases h
  · split at h
    · cases h
    · next place hfollow =>
      split at h
      · cases h
      · next hfree =>
        split at h
        · next hadmits =>
          injection h with h
          exact ⟨place, hfree, isDirectory_of_admits hadmits, h.symm⟩
        · cases h

theorem ensureDirectory_makes (files : Files) (here : Location) (names : List (List Char)) :
    MakesDirectories files (files.ensureDirectory here names).files := by
  unfold ensureDirectory
  split
  · exact .single (makeDirectory_makes ‹_›)
  · split <;> exact .refl

theorem ensureDirectories_makes (files : Files) (here : Location) (inside : List (List Char)) :
    MakesDirectories files (files.ensureDirectories here inside).files := by
  induction inside with
  | nil => exact .refl
  | cons name above ih =>
    rw [ensureDirectories]
    split
    · exact ih
    · simp only
      split
      · split
        · exact ih
        · -- Once those above are there, the directory itself is tried again.
          exact ih.trans (ensureDirectory_makes ..)
      · exact ensureDirectory_makes ..

/-- Whether or not the directories above the end of a path could all be made, nothing else was. -/
theorem ensureParent_makes (files : Files) (path : String) :
    MakesDirectories files (files.ensureParent path).files :=
  ensureDirectories_makes ..

/-- A file is written where no directory stands, but in one. -/
theorem isDirectory_of_writeFault? (h : files.writeFault? place = none) :
    files.isDirectory place = false
      ∧ (files.Rooted → files.isDirectory place.parent = true) := by
  unfold writeFault? at h
  unfold isDirectory
  cases hnode : files.node? place with
  | none =>
    simp only [hnode, ite_eq_left_iff, Bool.not_eq_true, reduceCtorEq, imp_false,
      Bool.not_eq_false] at h
    exact ⟨rfl, fun _ => isDirectory_of_admits h⟩
  | some node =>
    cases node with
    | directory access => simp [hnode] at h
    | file content access =>
      exact ⟨rfl, fun hrooted => hrooted place (by rw [hnode]; rfl)⟩

theorem locate_of_writable (h : files.writable path = .ok place) :
    files.locate path = .ok place ∧ files.writeFault? place = none := by
  unfold writable at h
  split at h
  · cases h
  · next hfault =>
    split at h
    · -- A path that ends in a slash is no path of a file.
      split at h <;> cases h
    · split at h
      · cases h
      · next hfollow =>
        split at h
        · cases h
        · next hwrite =>
          injection h with h
          subst h
          exact ⟨locate_eq_ok_iff.mpr ⟨hfault, hfollow⟩, hwrite⟩

/-- A file that cannot be written leaves the store as it is. -/
theorem files_write_of_fault {fault : FileFault}
    (h : (files.write path content).fault = some fault) :
    (files.write path content).files = files := by
  unfold write at h ⊢
  cases hplace : files.writable path with
  | error fault => rfl
  | ok place =>
    rw [hplace] at h
    cases h

/-- A file is written at the target of its path, which the path leads to, if nothing keeps it from
being written there. -/
theorem files_write (h : (files.write path content).fault = none) :
    files.locate path = .ok (files.target path) ∧ files.writeFault? (files.target path) = none
      ∧ (files.write path content).files = files.put (files.target path) (.file content) := by
  unfold write at h ⊢
  cases hplace : files.writable path with
  | error fault =>
    rw [hplace] at h
    cases h
  | ok place =>
    obtain ⟨hlocate, hwrite⟩ := locate_of_writable hplace
    obtain rfl := eq_target_of_locate hlocate
    exact ⟨hlocate, hwrite, rfl⟩

theorem open?_of_locate {node : FileNode} (h : files.locate path = .ok place)
    (hnode : files.node? place = some node) : files.open? path = .ok node := by
  unfold open?
  simp only [h, hnode]

/-- A file that can be read is read as the text whose bytes it has. -/
theorem textIn_file {text : String} {access : Access} (haccess : access.reads = true) :
    textIn (.file text.toUTF8 access) = .ok text := by
  have htext : String.fromUTF8? text.toUTF8 = some text := by
    unfold String.fromUTF8?
    exact dif_pos text.isValidUTF8
  unfold textIn
  simp only [FileNode.access, haccess, Bool.not_true, Bool.false_eq_true, if_false, htext]

end Files

end GroupScope
