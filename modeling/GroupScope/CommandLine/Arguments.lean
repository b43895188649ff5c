import GroupScope.CommandLine.Command
import GroupScope.Text.Words
/-!
# Reading arguments

Arguments are read from left to right, one level of commands after the other. A level has flags,
options with a value, and subcommands; the name of a subcommand opens the level below, and all that
follows belongs there. An option's value may be attached (`--viewer=3`, `-g5`) or be the next
argument. A value is looked at only when the next thing is read, so of two faults the one that is
told is not always the one further left:

    normalize --viewer x --bogus      the argument is unknown
    normalize --viewer x --json       the value is no number

After `--` nothing is an option any more. When the arguments end, the innermost level is checked
first.
-/

namespace GroupScope.CommandLine

/-- Why there is nothing to run. -/
inductive UsageStop where
  /-- Two arguments exclude each other, or one is given twice. -/
  | conflict
  | unknownSubcommand
  /-- A value is missing, empty or not among those that are possible. -/
  | badValue
  | missingArgument
  /-- A flag is given a value. -/
  | surplusValue
  | unknownArgument
  /-- A value is no id or no fragment name. -/
  | unreadableValue
  | help
  | version
  deriving DecidableEq, Repr

/-- The exit code: asking for help or the version is no failure. -/
def UsageStop.exitCode : UsageStop → Nat
  | .help | .version => 0
  | _ => 2

/-! ## What can be written at each level -/

/-- A level of commands. -/
inductive Level where
  | top
  | normalize
  | compile
  | explain
  | config
  | configShow
  | configPath
  | configInit
  | completions
  | help
  deriving DecidableEq, Repr

/-- The subcommands of a level by name. -/
def Level.subcommands : Level → List (String × Level)
  | .top =>
    [("normalize", .normalize), ("n", .normalize), ("compile", .compile), ("c", .compile),
      ("explain", .explain), ("x", .explain), ("config", .config), ("completions", .completions),
      ("help", .help)]
  | .config =>
    [("show", .configShow), ("path", .configPath), ("init", .configInit), ("help", .help)]
  | _ => []

/-- The subcommand of a level that has a name. -/
def Level.subcommand? (level : Level) (name : String) : Option Level :=
  level.subcommands.lookup name

/-- The level works on a request. -/
def Level.takesRequest : Level → Bool
  | .normalize | .compile | .explain => true
  | _ => false

/-- An argument without a value. -/
inductive Flag where
  | verbose
  | quiet
  | json
  | noColor
  | force
  | help
  | version
  deriving DecidableEq, Repr

/-- A place for a value. -/
inductive Slot where
  | expression
  | included
  | excluded
  | parameters
  | directory
  | viewer
  | page
  | without
  /-- The shell of a completion script, which is not an option but an argument by itself. -/
  | shell
  deriving DecidableEq, Repr

/-- The value may start with a hyphen even when it is the next argument. -/
def Slot.takesHyphens : Slot → Bool
  | .expression => true
  | _ => false

/-- What a name with hyphens stands for. -/
inductive Switch where
  | flag (flag : Flag)
  | slot (slot : Slot)
  deriving DecidableEq, Repr

/-- The long names at every level. -/
def commonLongNames : List (String × Switch) :=
  [("verbose", .flag .verbose), ("quiet", .flag .quiet), ("json", .flag .json),
    ("no-color", .flag .noColor), ("help", .flag .help), ("version", .flag .version)]

/-- The long names where a request is worked on. -/
def requestLongNames : List (String × Switch) :=
  [("group", .slot .expression), ("group-in", .slot .included), ("group-not-in", .slot .excluded),
    ("params", .slot .parameters), ("directory", .slot .directory), ("viewer", .slot .viewer),
    ("current-group", .slot .page)]

/-- The long names of a level. -/
def Level.longNames (level : Level) : List (String × Switch) :=
  commonLongNames ++
    (if level.takesRequest then requestLongNames else []) ++
    (if level = .compile then [("without", .slot .without)] else []) ++
    (if level = .configInit then [("force", .flag .force)] else [])

/-- The short names at every level. -/
def commonShortNames : List (Char × Switch) :=
  [('v', .flag .verbose), ('q', .flag .quiet), ('h', .flag .help), ('V', .flag .version)]

/-- The short names where a request is worked on. -/
def requestShortNames : List (Char × Switch) :=
  [('g', .slot .expression), ('d', .slot .directory)]

/-- The short names of a level. -/
def Level.shortNames (level : Level) : List (Char × Switch) :=
  commonShortNames ++ if level.takesRequest then requestShortNames else []

/-! ## Values -/

/-- The values that were read at one level. -/
structure Values where
  /-- Those that belong to a request. -/
  request : RequestOptions := {}
  /-- The fragments to leave out, in order. -/
  without : List PredicateName := []
  /-- The shell. -/
  shell : Option Shell := none
  deriving DecidableEq, Repr

/-- An id in decimal digits, perhaps after a plus sign. -/
def readId (value : String) : Except UsageStop UInt64 :=
  let digits : List Char :=
    match value.toList with
    | '+' :: rest => rest
    | text => text
  let number := digits.foldl (fun sum c => 10 * sum + (c.toNat - '0'.toNat)) 0
  if digits ≠ [] ∧ digits.all Char.isDigit ∧ number < pow2 64 then .ok (UInt64.ofNat number)
  else .error .unreadableValue

/-- The name of a fragment. -/
def readName (value : String) : Except UsageStop PredicateName :=
  match PredicateName.ofText? value with
  | some name => .ok name
  | none => .error .unreadableValue

/-- The path of a file, which is not empty. -/
def readPath (value : String) : Except UsageStop String :=
  if value.toList = [] then .error .badValue else .ok value

/-- The shells by name. -/
def Shell.names : List (String × Shell) :=
  [("bash", .bash), ("zsh", .zsh), ("fish", .fish), ("powershell", .powershell)]

/-- The name of a shell. -/
def readShell (value : String) : Except UsageStop Shell :=
  match Shell.names.lookup value with
  | some shell => .ok shell
  | none => .error .badValue

/-- Fills a place for one value. -/
def fill (old : Option α) (new : Except UsageStop α) : Except UsageStop (Option α) :=
  match old with
  | some _ => .error .conflict
  | none => new.map some

/-- The values with one more, read as its place asks for. Only fragments can be named repeatedly. -/
def Values.store (values : Values) (value : String) : Slot → Except UsageStop Values
  | .expression => do
    let expression ← fill values.request.expression (.ok value)
    pure { values with request := { values.request with expression } }
  | .included => do
    let included ← fill values.request.included (.ok value)
    pure { values with request := { values.request with included } }
  | .excluded => do
    let excluded ← fill values.request.excluded (.ok value)
    pure { values with request := { values.request with excluded } }
  | .parameters => do
    let parameters ← fill values.request.parameters (.ok value)
    pure { values with request := { values.request with parameters } }
  | .directory => do
    let directory ← fill values.request.directory (readPath value)
    pure { values with request := { values.request with directory } }
  | .viewer => do
    let viewer ← fill values.request.viewer (readId value)
    pure { values with request := { values.request with viewer } }
  | .page => do
    let page ← fill values.request.page (readId value)
    pure { values with request := { values.request with page } }
  | .without => do
    let name ← readName value
    pure { values with without := values.without ++ [name] }
  | .shell => do
    let shell ← fill values.shell (readShell value)
    pure { values with shell }

/-! ## One argument after the other -/

/-- An option whose value is still to come, or has come and was not looked at yet. -/
structure Pending where
  /-- The place of the value. -/
  slot : Slot
  /-- The value. -/
  value : Option String := none
  deriving DecidableEq, Repr

/-- How far the arguments of a level have been read. -/
structure Progress where
  /-- The level. -/
  level : Level := .top
  /-- The flags of the levels around it, from the inside out. -/
  outer : List (List Flag) := []
  /-- The flags of this level. -/
  flags : List Flag := []
  /-- The values of this level. -/
  values : Values := {}
  /-- The value that is settled next. -/
  pending : Option Pending := none
  /-- Nothing is an option any more. -/
  trailing : Bool := false
  deriving DecidableEq, Repr

namespace Progress

/-- The place that the next argument goes to as it is. -/
def awaited (p : Progress) : Option Slot :=
  if p.trailing then none
  else
    match p.pending with
    | some ⟨slot, none⟩ => some slot
    | _ => none

/-- The next argument goes to a place where values may start with a hyphen. -/
def awaitsHyphens (p : Progress) : Bool := p.awaited.any Slot.takesHyphens

/-- Looks at the pending value. -/
def settle (p : Progress) : Except UsageStop Progress :=
  match p.pending with
  | none => .ok p
  | some ⟨_, none⟩ => .error .badValue
  | some ⟨slot, some value⟩ => do
    let values ← p.values.store value slot
    pure { p with values, pending := none }

/-- Takes a flag. Help and version end the reading. -/
def takeFlag (p : Progress) (flag : Flag) : Except UsageStop Progress := do
  let p ← p.settle
  match flag with
  | .help => .error .help
  | .version => .error .version
  | flag => if flag ∈ p.flags then .error .conflict else .ok { p with flags := flag :: p.flags }

/-- Takes an option together with its value. -/
def takeValue (p : Progress) (slot : Slot) (value : List Char) : Except UsageStop Progress := do
  let p ← p.settle
  let values ← p.values.store (String.ofList value) slot
  pure { p with values }

/-- Takes an option whose value is the next argument. -/
def await (p : Progress) (slot : Slot) : Except UsageStop Progress := do
  let p ← p.settle
  pure { p with pending := some { slot } }

/-- Takes the text behind two hyphens: a long name, perhaps with a value behind `=`. -/
def takeLong (p : Progress) (text : List Char) : Except UsageStop Progress :=
  let name := String.ofList (text.takeWhile (· != '='))
  match p.level.longNames.lookup name, text.dropWhile (· != '=') with
  | none, _ => .error .unknownArgument
  | some (.flag flag), [] => p.takeFlag flag
  | some (.flag _), _ => .error .surplusValue
  | some (.slot slot), [] => p.await slot
  | some (.slot slot), _ :: value => p.takeValue slot value

/-- Takes the text behind one hyphen: short names, where all that follows an option is its value. -/
def takeShort (p : Progress) : List Char → Except UsageStop Progress
  | [] => .ok p
  | c :: rest =>
    match p.level.shortNames.lookup c, rest with
    | none, _ => .error .unknownArgument
    | some (.flag flag), rest => do
      let p ← p.takeFlag flag
      p.takeShort rest
    | some (.slot slot), [] => p.await slot
    | some (.slot slot), '=' :: value => p.takeValue slot value
    | some (.slot slot), value => p.takeValue slot value

/-- What an argument that fits nowhere is. -/
def surplus (p : Progress) (argument : String) : UsageStop :=
  if p.level.subcommands.isEmpty then .unknownArgument
  else if p.trailing ∧ (p.level.subcommand? argument).isSome then .unknownArgument
  else .unknownSubcommand

/-- The argument by itself that the level still has a place for. -/
def openSlot? (p : Progress) : Option Slot :=
  let taken := p.values.shell.isSome || p.pending.any fun pending => pending.slot == .shell
  if p.level = .completions ∧ !taken then some .shell else none

/-- Takes an argument by itself. -/
def takePlain (p : Progress) (argument : String) : Except UsageStop Progress :=
  match p.openSlot? with
  | none => .error (p.surplus argument)
  | some slot => do
    let p ← p.settle
    pure { p with pending := some { slot, value := some argument } }

/-- Takes an argument as a value if one is awaited, and by itself otherwise. -/
def takeOther (p : Progress) (argument : String) : Except UsageStop Progress :=
  match p.awaited with
  | some slot => .ok { p with pending := some { slot, value := some argument } }
  | none => p.takePlain argument

/-- Takes an argument that is no subcommand. -/
def take (p : Progress) (argument : String) : Except UsageStop Progress :=
  if p.trailing then p.takePlain argument
  else if p.awaitsHyphens then p.takeOther argument
  else
    -- A single hyphen is a text like any other.
    match argument.toList with
    | ['-', '-'] => .ok { p with trailing := true }
    | '-' :: '-' :: text => p.takeLong text
    | ['-'] => p.takeOther argument
    | '-' :: text => p.takeShort text
    | _ => p.takeOther argument

/-- The subcommand that an argument opens. -/
def opened? (p : Progress) (argument : String) : Option Level :=
  if p.trailing ∨ p.awaited.isSome then none else p.level.subcommand? argument

/-- Help on the subcommand that is reached by following names from a level. -/
def helpOn (level : Level) : List String → UsageStop
  | [] => .help
  | name :: rest =>
    match level.subcommand? name with
    | some below => helpOn below rest
    | none => .unknownSubcommand

/-- Reads all arguments. -/
def readAll (p : Progress) : List String → Except UsageStop Progress
  | [] => .ok p
  | argument :: rest =>
    match p.opened? argument with
    -- All that follows the word for help is a chain of subcommands.
    | some .help => .error (helpOn p.level rest)
    | some level => ({ level, outer := p.flags :: p.outer } : Progress).readAll rest
    | none => do
      let p ← p.take argument
      p.readAll rest

/-! ## At the end -/

/-- Takes the directory file of the environment where none was given. -/
def applyDefault (p : Progress) (directoryFile : Option String) : Except UsageStop Progress :=
  match p.values.request.directory, directoryFile with
  | none, some path => if p.level.takesRequest then p.takeValue .directory path.toList else .ok p
  | _, _ => .ok p

/-- The flags of one level go together. -/
def compatible (flags : List Flag) : Bool := !(flags.contains .verbose && flags.contains .quiet)

/-- The command that was asked for. -/
def command (p : Progress) : Except UsageStop Command :=
  match p.level with
  | .top | .help => .ok (.answer .welcome)
  | .normalize => .ok (.answer (.normalize p.values.request))
  | .compile => .ok (.answer (.compile p.values.request p.values.without))
  | .explain => .ok (.answer (.explain p.values.request))
  | .config | .configShow => .ok (.answer .settings)
  | .configPath => .ok (.answer .settingsPath)
  | .configInit => .ok (.writeSettings (p.flags.contains .force))
  | .completions =>
    match p.values.shell with
    | none => .error .missingArgument
    | some shell => .ok (.answer (.completions shell))

/-- A flag was given at some level. -/
def isSet (p : Progress) (flag : Flag) : Bool :=
  (p.flags :: p.outer).any fun flags => flags.contains flag

/-- What was asked for. The level that was read last is checked first. -/
def finish (p : Progress) (directoryFile : Option String) : Except UsageStop Invocation := do
  let p ← p.settle
  let p ← p.applyDefault directoryFile
  if !compatible p.flags then .error .conflict
  let command ← p.command
  if !p.outer.all compatible then .error .conflict
  pure
    { verbose := p.isSet .verbose
      quiet := p.isSet .quiet
      json := p.isSet .json
      noColor := p.isSet .noColor
      command }

end Progress

/-- Reads the arguments of a run. The directory file is the one of the environment. -/
def Invocation.ofArguments (directoryFile : Option String) (arguments : List String) :
    Except UsageStop Invocation := do
  let p ← Progress.readAll {} arguments
  p.finish directoryFile

end GroupScope.CommandLine
