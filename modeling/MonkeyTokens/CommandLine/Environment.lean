import MonkeyTokens.CommandLine.Argument

namespace MonkeyTokens.CommandLine

/-!
# Variables of the environment

Four flags may be given by a variable instead of a word of the command line, and
one variable describes the filter of the log.  Others name the terminal and say
whether messages keep their styles where no terminal is.
-/

/-- The variables that are set, with their values. -/
abbrev Environment := List (String × String)

namespace Environment

/-- The value of a variable, if it is set. -/
def get?
    (environment : Environment)
    (name : String) :
    Option String :=
  environment.lookup name

/-- The variable that holds the filter of the log. -/
def logVariable : String :=
  "RUST_LOG"

/-- The text that describes the filter of the log. -/
def logFilter? (environment : Environment) : Option String :=
  environment.get? logVariable

/-- The variable that names the terminal. -/
def terminalVariable : String :=
  "TERM"

/-- The names of terminals on which lines cannot be edited, in lower case. -/
def dumbTerminals : List String :=
  ["dumb", "cons25", "emacs"]

/-- The terminal is one on which lines cannot be edited; letter case does not count. -/
def dumbTerminal (environment : Environment) : Bool :=
  match environment.get? terminalVariable with
  | none => false
  | some name => dumbTerminals.contains name.toLower

/-- The variable that keeps styles where they would be left out. -/
def forceVariable : String :=
  "CLICOLOR_FORCE"

/-- The variable that leaves styles out whatever else is set. -/
def refuseVariable : String :=
  "NO_COLOR"

/-- A variable is set, and not to the empty text. -/
def sets
    (environment : Environment)
    (name : String) :
    Bool :=
  (environment.get? name).any fun value => !value.isEmpty

/-- Messages keep their styles although no terminal shows them. -/
def keepsStyles (environment : Environment) : Bool :=
  environment.sets forceVariable && !environment.sets refuseVariable

end Environment

namespace Flag

/-- The variable that may give a flag. -/
def variableName? : Flag → Option String
  | .strict => some "MONKEY_STRICT"
  | .dashIdentifiers => some "MONKEY_DASH_IDENTIFIERS"
  | .verbose => some "MONKEY_VERBOSE"
  | .noColor => some "MONKEY_NO_COLOR"
  | _ => none

/-- The value of the variable that may give a flag. -/
def value?
    (flag : Flag)
    (environment : Environment) :
    Option String :=
  flag.variableName?.bind environment.get?

/-- Whether the environment gives a flag; its variable may say only `true` or `false`. -/
def given
    (flag : Flag)
    (environment : Environment) :
    Except UsageError Bool :=
  match flag.value? environment with
  | none =>
      .ok false
  | some "true" =>
      .ok true
  | some "false" =>
      .ok false
  | some "" =>
      .error (.missingValue (.flag flag))
  | some value =>
      .error (.invalidValue value flag)

end Flag

namespace Environment

/-- The variables that matter to a run. -/
def names : List String :=
  Flag.all.filterMap Flag.variableName? ++
    [logVariable, terminalVariable, forceVariable, refuseVariable]

end Environment

end MonkeyTokens.CommandLine
