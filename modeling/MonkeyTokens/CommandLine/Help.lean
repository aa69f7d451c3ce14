import MonkeyTokens.CommandLine.Message

namespace MonkeyTokens.CommandLine.Help

/-!
# Help and version

The texts that a user gets who asks about the program instead of running it.
-/

/-- The column at which the description of an option begins. -/
def indentation : Nat := 26

/-- A text whose later lines begin at the column of descriptions. -/
def indented (text : String) : String :=
  String.ofList
    (text.toList.flatMap fun character =>
      if character = '\n' then
        '\n' :: List.replicate indentation ' '
      else
        [character])

/-- The note on the variable that may give a flag, with its value if it is set. -/
def variableNote
    (environment : Environment)
    (flag : Flag) :
    String :=
  match flag.variableName? with
  | none =>
      ""
  | some name =>
      " [env: " ++ name ++ "=" ++
        indented ((environment.get? name).getD "") ++ "]"

/-- What a flag does. -/
def description : Flag → String
  | .interactive =>
      "Start the REPL after tokenizing a file or -e source"
  | .strict =>
      "Fail on the first illegal character instead of printing ILLEGAL"
  | .dashIdentifiers =>
      "Let `-` continue an identifier (`foo-bar` is one identifier)"
  | .verbose =>
      "Enable verbose logging"
  | .noColor =>
      "Disable color output in logs"
  | .help =>
      "Print help"
  | .version =>
      "Print version"

/-- The names of an option and of its value, filled up with blanks to the column of descriptions. -/
def names
    (letter : Option Char)
    (long value : String) :
    String :=
  let short :=
    match letter with
    | some letter => "  " ++ Style.literal.set ("-" ++ letter.toString) ++ ", "
    | none => "      "
  let used := 8 + long.length + value.length
  short ++ Style.literal.set ("--" ++ long) ++ value ++
    String.ofList (List.replicate (indentation - used) ' ')

/-- The line of a flag. -/
def line
    (environment : Environment)
    (flag : Flag) :
    String :=
  names flag.letter? flag.longName "" ++ description flag ++
    variableNote environment flag ++ "\n"

/-- The help text; it shows what the environment holds. -/
def text (environment : Environment) : String :=
  "Tokenize Monkey source code\n\n" ++
    Style.heading.set "Usage:" ++ " " ++ Style.literal.set "monkey" ++
    " [OPTIONS] [FILE]\n\n" ++
    Style.heading.set "Arguments:" ++ "\n" ++
    "  [FILE]  Source file to tokenize\n\n" ++
    Style.heading.set "Options:" ++ "\n" ++
    names (some 'e') "eval" " <SOURCE>" ++
    "Tokenize source given on the command line\n" ++
    String.join (Flag.all.map (line environment))

/-- The name of the program and its version. -/
def version : String :=
  "monkey 0.1.0\n"

end MonkeyTokens.CommandLine.Help
