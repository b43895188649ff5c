import GroupScope.CommandLine.Arguments
/-!
# Completion scripts

Short scripts that make a shell complete the words of the command line: the names of all subcommands
and all long options.
-/

namespace GroupScope.CommandLine

/-- The levels below the top that have names of their own. -/
def namedLevels : List Level :=
  [.normalize, .compile, .explain, .config, .configShow, .configPath, .configInit, .completions]

/-- The words that can be completed, each once. -/
def completionWords : List String :=
  let subcommands := (Level.top :: namedLevels).flatMap fun level => level.subcommands.map Prod.fst
  let options := (Level.top :: namedLevels).flatMap fun level =>
    level.longNames.map fun (name, _) => "--" ++ name
  (subcommands ++ options).eraseDups

/-- The script that a shell reads. -/
def completionScript (shell : Shell) : String :=
  let words := String.intercalate " " completionWords
  match shell with
  | .bash => "complete -W \"" ++ words ++ "\" gf\n"
  | .zsh => "#compdef gf\ncompadd -- " ++ words ++ "\n"
  | .fish => "complete -c gf -f -a \"" ++ words ++ "\"\n"
  | .powershell =>
    "Register-ArgumentCompleter -Native -CommandName gf -ScriptBlock \x7b\n" ++
      "    param($word)\n" ++
      "    \"" ++ words ++ "\".Split(' ') | Where-Object \x7b $_ -like \"$word*\" \x7d\n" ++
      "\x7d\n"

end GroupScope.CommandLine
