import GroupScope.CommandLine.Completion
/-!
# Help and complaints

What is shown instead of running a command: help, the version, or why the arguments cannot be used.
-/

namespace GroupScope.CommandLine

/-- The version of the program. -/
def programVersion : String := "gf 0.1.0"

/-- The help text: the subcommands and the options of every level. -/
def helpText : String :=
  let row (level : Level) : String :=
    "  " ++ String.intercalate ", " (level.subcommands.map Prod.fst) ++ "\n"
  "Resolve group filter expressions into search parameters and predicates\n\n" ++
    "Usage: gf [OPTIONS] [COMMAND]\n\n" ++
    "Commands:\n" ++ row .top ++
    "Commands of config:\n" ++ row .config ++
    "Words:\n  " ++ String.intercalate " " completionWords ++ "\n"

/-- Why the arguments cannot be used. -/
def UsageStop.reason : UsageStop → String
  | .conflict => "two of the arguments cannot be used together"
  | .unknownSubcommand => "unrecognized subcommand"
  | .badValue => "a value is missing or not possible here"
  | .missingArgument => "a required argument is missing"
  | .surplusValue => "a flag takes no value"
  | .unknownArgument => "unexpected argument"
  | .unreadableValue => "a value cannot be read"
  | .help => "help was asked for"
  | .version => "the version was asked for"

/-- What is shown instead of running a command. -/
def UsageStop.text : UsageStop → String
  | .help => helpText
  | .version => programVersion ++ "\n"
  | stop => "error: " ++ stop.reason ++ "\n\nFor more information, try '--help'.\n"

end GroupScope.CommandLine
