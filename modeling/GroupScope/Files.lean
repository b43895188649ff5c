import GroupScope.Text.Words
/-!
# Files

A store of files and directories, as a program sees it that reads and writes files by path. A path
is followed from directory to directory: an empty name and `.` stay, `..` goes up, any other name
goes down. Everything on the way must be a directory in which the program may look names up; what
stands at the end is up to the operation. Absolute paths start at the root and all others in the
working directory.

What the program may do with a node is one of three: nothing, reading, or reading and writing. To
read a directory is to look names up in it, and to write it is to make entries in it. What stands at
a path is asked without a right to the node itself.

The store leaves out:

* rights in other combinations, such as a file that may be written but not read, and a directory
  whose names may be looked up but not listed;
* symbolic links, and nodes that are neither directories nor files;
* faults of the device. In particular a file is written as a whole or not at all, so nothing is said
  of a fault that happens when the old content is gone and the new one is not there yet;
* changes that another program makes at the same time.
-/

namespace GroupScope

/-- A place in the store: a chain of names below the root. -/
structure Location where
  /-- The names from the outside in. -/
  names : List (List Char)
  deriving DecidableEq, Repr

namespace Location

/-- Where absolute paths start. -/
def root : Location := ⟨[]⟩

/-- The location of an entry in the directory. -/
def child (here : Location) (name : List Char) : Location := ⟨here.names ++ [name]⟩

/-- The location that the entry is in; the root is in itself. -/
def parent (here : Location) : Location := ⟨here.names.dropLast⟩

/-- The location that a name leads to. -/
def step (here : Location) (name : List Char) : Location :=
  if name = [] ∨ name = ['.'] then here
  else if name = ['.', '.'] then here.parent
  else here.child name

/-- The path of a location. -/
def path (here : Location) : String :=
  "/" ++ String.intercalate "/" (here.names.map String.ofList)

end Location

/-- What the program may do with a node. -/
inductive Access where
  /-- Nothing. -/
  | none
  /-- Read a file; look up names in a directory. -/
  | read
  /-- Write a file; make entries in a directory. What may be written may be read. -/
  | write
  deriving DecidableEq, Repr

/-- The node may be read. -/
def Access.reads : Access → Bool
  | none => false
  | read | write => true

/-- The node may be written. -/
def Access.writes : Access → Bool
  | none | read => false
  | write => true

/-- What stands at a location. -/
inductive FileNode where
  /-- A directory. -/
  | directory (access : Access := .write)
  /-- A file with its bytes. -/
  | file (content : ByteArray) (access : Access := .write)

namespace FileNode

/-- The node is a directory. -/
def isDirectory : FileNode → Bool
  | directory _ => true
  | file _ _ => false

/-- What the program may do with the node. -/
def access : FileNode → Access
  | directory access | file _ access => access

end FileNode

/-- Why an operation on files failed. -/
inductive FileFault where
  /-- Nothing stands there. -/
  | missing
  /-- The program may not do this. -/
  | denied
  /-- Something stands there already. -/
  | present
  /-- A file stands where the path needs a directory. -/
  | notDirectory
  /-- A directory stands where a file is needed. -/
  | isDirectory
  /-- A name or the whole path is longer than the store admits. -/
  | tooLong
  /-- The path contains the character that ends paths. -/
  | endsEarly
  /-- The bytes of the file are no text. -/
  | notText
  deriving DecidableEq, Repr

/-- The fault in words. -/
def FileFault.message : FileFault → String
  | .missing => "No such file or directory (os error 2)"
  | .denied => "Permission denied (os error 13)"
  | .present => "File exists (os error 17)"
  | .notDirectory => "Not a directory (os error 20)"
  | .isDirectory => "Is a directory (os error 21)"
  | .tooLong => "File name too long (os error 36)"
  | .endsEarly => "file name contained an unexpected NUL byte"
  | .notText => "stream did not contain valid UTF-8"

/-- A store of files. Of several entries for one location the first one counts. -/
structure Files where
  /-- What was put where, the latest entry first. -/
  entries : List (Location × FileNode) := [(.root, .directory)]
  /-- Where relative paths start. -/
  workingDirectory : Location := .root

namespace Files

/-! ## Looking -/

/-- What stands at a location. -/
def node? (files : Files) (place : Location) : Option FileNode := files.entries.lookup place

/-- A directory stands at a location. -/
def isDirectory (files : Files) (place : Location) : Bool :=
  (files.node? place).any FileNode.isDirectory

/-- The most bytes that a name may have. -/
def maxNameSize : Nat := 255

/-- The most bytes that a path may have. -/
def maxPathSize : Nat := 4095

/-- The number of bytes of a name. -/
def nameSize (name : List Char) : Nat := (String.ofList name).utf8ByteSize

/-- Why a name cannot be looked up in a directory. An empty name needs no right. -/
def nameFault? (access : Access) (name : List Char) : Option FileFault :=
  if name ≠ [] ∧ !access.reads then some .denied
  else if maxNameSize < nameSize name then some .tooLong
  else none

/-- Follows names from a location. Every name must be looked up in a directory. -/
def follow (files : Files) (here : Location) : List (List Char) → Except FileFault Location
  | [] => .ok here
  | name :: rest =>
    match files.node? here with
    | none => .error .missing
    | some (.file _ _) => .error .notDirectory
    | some (.directory access) =>
      match nameFault? access name with
      | some fault => .error fault
      | none => files.follow (here.step name) rest

/-- The names in a path, with an empty one wherever a slash has no name before it or behind it. -/
def pathNames (path : String) : List (List Char) := Text.splitBy (· == '/') path.toList

/-- The path starts at the root. -/
def isAbsolute (path : String) : Bool := path.toList.head? == some '/'

/-- Where a path starts. -/
def start (files : Files) (path : String) : Location :=
  if isAbsolute path then .root else files.workingDirectory

/-- Why a path cannot be followed, whatever the store holds. -/
def pathFault? (path : String) : Option FileFault :=
  if path.toList.contains '\x00' then some .endsEarly
  else if path.toList = [] then some .missing
  else if maxPathSize < path.utf8ByteSize then some .tooLong
  else none

/-- The location that a path leads to, whether or not something stands there. -/
def locate (files : Files) (path : String) : Except FileFault Location :=
  match pathFault? path with
  | some fault => .error fault
  | none => files.follow (files.start path) (pathNames path)

/-- What stands at the end of a path. -/
def open? (files : Files) (path : String) : Except FileFault FileNode :=
  match files.locate path with
  | .error fault => .error fault
  | .ok place =>
    match files.node? place with
    | none => .error .missing
    | some node => .ok node

/-- Something is found at the end of the path. Whatever keeps it from being found, the answer is
no. -/
def contains (files : Files) (path : String) : Bool :=
  match files.open? path with
  | .ok _ => true
  | .error _ => false

/-- The text in a node. -/
def textIn (node : FileNode) : Except FileFault String :=
  if !node.access.reads then .error .denied
  else
    match node with
    | .directory _ => .error .isDirectory
    | .file content _ =>
      match String.fromUTF8? content with
      | none => .error .notText
      | some text => .ok text

/-- The text of a file. -/
def readText (files : Files) (path : String) : Except FileFault String :=
  match files.open? path with
  | .error fault => .error fault
  | .ok node => textIn node

/-! ## Changing -/

/-- The store with another node at a location. -/
def put (files : Files) (place : Location) (node : FileNode) : Files :=
  { files with entries := (place, node) :: files.entries }

/-- What was put somewhere is found there. -/
theorem node?_put (files : Files) (place other : Location) (node : FileNode) :
    (files.put place node).node? other =
      if other = place then some node else files.node? other := by
  unfold node? put
  rw [List.lookup_cons]
  by_cases h : other = place
  · simp [h]
  · have hbeq : (other == place) = false := beq_false_of_ne h
    simp [h, hbeq]

/-- The program may make entries in the directory at a location. -/
def admits (files : Files) (place : Location) : Bool :=
  (files.node? place).any fun node => node.isDirectory && node.access.writes

/-- The path with these names. -/
def pathOf (names : List (List Char)) : String :=
  String.intercalate "/" (names.map String.ofList)

/-- Makes a directory at the end of a path that is given by its names. The directory above it must
be there and admit another entry. -/
def makeDirectory (files : Files) (start : Location) (names : List (List Char)) :
    Except FileFault Files :=
  match pathFault? (pathOf names) with
  | some fault => .error fault
  | none =>
    match files.follow start names with
    | .error fault => .error fault
    | .ok place =>
      match files.node? place with
      | some _ => .error .present
      | none =>
        if files.admits place.parent then .ok (files.put place .directory) else .error .denied

/-- A directory is found at the end of the path with these names. -/
def isDirectoryAt (files : Files) (start : Location) (names : List (List Char)) : Bool :=
  match files.follow start names with
  | .error _ => false
  | .ok place => files.isDirectory place

/-- The outcome of changing the store: what is there now, and what went wrong. Directories made
before a fault stay. -/
structure Change where
  /-- The store afterwards. -/
  files : Files
  /-- What went wrong, if anything did. -/
  fault : Option FileFault := none

/-- Makes one directory; one that is there already is as good. -/
def ensureDirectory (files : Files) (start : Location) (names : List (List Char)) : Change :=
  match files.makeDirectory start names with
  | .ok made => { files := made }
  | .error fault =>
    if fault = .present ∧ files.isDirectoryAt start names then { files }
    else { files, fault := some fault }

/-- The name does not lead anywhere else. -/
def isStay (name : List Char) : Bool := name = [] ∨ name = ['.']

/-- Makes a directory and those above it that are missing. The names run from the inside out; those
that stay where they are do not count as directories, but they lengthen the path. Only `.` at the
start of a path counts. -/
def ensureDirectories (files : Files) (start : Location) : (inside : List (List Char)) → Change
  | [] => { files }
  | name :: above =>
    if isStay name ∧ (name = [] ∨ above ≠ []) then files.ensureDirectories start above
    else
      let attempt := files.ensureDirectory start (name :: above).reverse
      -- Only a missing directory above is worth another attempt.
      if attempt.fault = some .missing then
        let outer := files.ensureDirectories start above
        match outer.fault with
        | some _ => outer
        | none => outer.files.ensureDirectory start (name :: above).reverse
      else attempt

/-- The names of the directory that the end of a path stands in, from the inside out. -/
def namesAbove (path : String) : List (List Char) :=
  ((pathNames path).reverse.dropWhile isStay).drop 1

/-- Makes the directory that the end of a path stands in, and those above it that are missing. -/
def ensureParent (files : Files) (path : String) : Change :=
  files.ensureDirectories (files.start path) (namesAbove path)

/-- The path ends in a slash, so it can only lead to a directory. -/
def endsInSlash (path : String) : Bool := path.toList.getLast? == some '/'

/-- The names in a path without the empty ones behind its last slashes. -/
def namesToTarget (path : String) : List (List Char) :=
  ((pathNames path).reverse.dropWhile List.isEmpty).reverse

/-- Why no file can be written at a location. -/
def writeFault? (files : Files) (place : Location) : Option FileFault :=
  match files.node? place with
  | some (.directory _) => some .isDirectory
  | some (.file _ access) => if access.writes then none else some .denied
  | none => if files.admits place.parent then none else some .denied

/-- The location where a file with this path can be written: another file stands there, or
nothing. A path that ends in a slash is refused as soon as names can be looked up in the directory
above. -/
def writable (files : Files) (path : String) : Except FileFault Location :=
  match pathFault? path with
  | some fault => .error fault
  | none =>
    if endsInSlash path then
      match files.follow (files.start path) ((namesToTarget path).dropLast ++ [['.']]) with
      | .error fault => .error fault
      | .ok _ => .error .isDirectory
    else
      match files.follow (files.start path) (pathNames path) with
      | .error fault => .error fault
      | .ok place =>
        match files.writeFault? place with
        | some fault => .error fault
        | none => .ok place

/-- Writes a file. -/
def write (files : Files) (path : String) (content : ByteArray) : Change :=
  match files.writable path with
  | .error fault => { files, fault := some fault }
  | .ok place => { files := files.put place (.file content) }

/-- What was put into the store since it was an earlier one, in order. -/
def changesSince (files earlier : Files) : List (Location × FileNode) :=
  (files.entries.take (files.entries.length - earlier.entries.length)).reverse

end Files

end GroupScope
