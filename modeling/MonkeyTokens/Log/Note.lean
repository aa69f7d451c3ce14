import MonkeyTokens.Cursor

namespace MonkeyTokens.Log

/-!
# Notes of a run

While it works, a run notes what it does.  Every note has a level and a target,
which names the part of the program that made it, a message and named values.
-/

/-- How urgent a note is, most urgent first. -/
inductive Level where
  | error
  | warn
  | info
  | debug
  | trace
  deriving Repr, DecidableEq

namespace Level

/-- Levels in number: the less urgent, the higher. -/
def rank : Level → Nat
  | .error => 1
  | .warn => 2
  | .info => 3
  | .debug => 4
  | .trace => 5

/-- The level as it stands at the start of a line. -/
def label : Level → String
  | .error => "ERROR"
  | .warn => " WARN"
  | .info => " INFO"
  | .debug => "DEBUG"
  | .trace => "TRACE"

/-- The terminal colour of a level. -/
def colour : Level → String
  | .error => "31"
  | .warn => "33"
  | .info => "32"
  | .debug => "34"
  | .trace => "35"

end Level

/-- Something that a run notes. -/
inductive Note where
  | starting : Options → Note
  | readingFile : String → Note
  | token : Placed → Note
  | awaitingLine (dumbTerminal : Bool)
  | inputEnded
  deriving Repr, DecidableEq

namespace Note

/-- Tokens are noted at the finest level, all else one level above. -/
def level : Note → Level
  | .token _ => .trace
  | _ => .debug

/-- The part of the program that makes a note. -/
def target : Note → String
  | .starting _ => "monkey"
  | .readingFile _ => "monkey"
  | .token _ => "monkey_lexer::lexer"
  | .awaitingLine _ => "rustyline"
  | .inputEnded => "monkey::repl"

/-- What a note says. -/
def message : Note → String
  | .starting _ => "starting"
  | .readingFile _ => "reading source file"
  | .token _ => "token"
  | .awaitingLine true => "unsupported terminal"
  | .awaitingLine false => "stdin is not a tty"
  | .inputEnded => "end of input"

/-- The named values of a note. -/
def fields : Note → List (String × String)
  | .starting options =>
      [("options", options.debug)]
  | .readingFile path =>
      [("path", path)]
  | .token placed =>
      [("kind", placed.token.kind.label),
        ("literal", placed.token.literal),
        ("offset", toString placed.offset)]
  | .awaitingLine _ =>
      []
  | .inputEnded =>
      []

/-- The names that are kept with a note and not shown: where in the program it was made. -/
def hiddenNames : Note → List String
  | .awaitingLine _ =>
      ["log.target", "log.module_path", "log.file", "log.line"]
  | _ =>
      []

/-- All names under which a note holds something, its message included. -/
def names (note : Note) : List String :=
  "message" :: note.fields.map Prod.fst ++ note.hiddenNames

end Note

end MonkeyTokens.Log
