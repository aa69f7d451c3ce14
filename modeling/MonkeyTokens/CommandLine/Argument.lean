namespace MonkeyTokens.CommandLine

/-!
# Arguments of the command line

A command line may hold flags, a text to be read and the path of a file.  Some
flags may be set by the environment as well.
-/

/-- A choice that is either made or not. -/
inductive Flag where
  | interactive
  | strict
  | dashIdentifiers
  | verbose
  | noColor
  | help
  | version
  deriving Repr, DecidableEq

namespace Flag

/-- All flags, in the order in which help lists them. -/
def all : List Flag :=
  [.interactive, .strict, .dashIdentifiers, .verbose, .noColor, .help, .version]

/-- The name of a flag after two dashes. -/
def longName : Flag → String
  | .interactive => "interactive"
  | .strict => "strict"
  | .dashIdentifiers => "dash-identifiers"
  | .verbose => "verbose"
  | .noColor => "no-color"
  | .help => "help"
  | .version => "version"

/-- The letter of a flag after one dash. -/
def letter? : Flag → Option Char
  | .interactive => some 'i'
  | .strict => none
  | .dashIdentifiers => none
  | .verbose => some 'v'
  | .noColor => none
  | .help => some 'h'
  | .version => some 'V'

/-- The flag with a given long name; names are not abbreviated. -/
def ofLongName? (name : String) : Option Flag :=
  all.find? fun flag => flag.longName == name

/-- The flag with a given letter. -/
def ofLetter? (letter : Char) : Option Flag :=
  all.find? fun flag => flag.letter? == some letter

end Flag

/-- Whatever a command line may hold. -/
inductive Argument where
  | file
  | eval
  | flag : Flag → Argument
  deriving Repr, DecidableEq

namespace Argument

/-- The argument as messages show it. -/
def shown : Argument → String
  | .file => "[FILE]"
  | .eval => "--eval <SOURCE>"
  | .flag given => "--" ++ given.longName

end Argument

/-- Why a command line is refused. -/
inductive UsageError where
  | unexpectedArgument : String → UsageError
  | unexpectedValue : String → Flag → UsageError
  | missingValue : Argument → UsageError
  | invalidValue : String → Flag → UsageError
  | repeated : Argument → UsageError
  | conflict : Argument → Argument → UsageError
  deriving Repr, DecidableEq

end MonkeyTokens.CommandLine
