import MonkeyTokens.CommandLine.Environment
import MonkeyTokens.Text.Plain

namespace MonkeyTokens.CommandLine

/-!
# Messages about the command line

What a user is told whose command line is refused: a line that names the words
and the arguments at fault.

Messages and help are set in styles for a terminal.  Where no terminal shows
them all terminal control is left out at the end, together with what the user's
own words bring along.
-/

/-- How a part of a message is set. -/
inductive Style where
  | heading
  | literal
  | fault
  | refused
  deriving Repr, DecidableEq

namespace Style

/-- What begins a style. -/
def opening : Style → String
  | .heading => "\x1b[1m\x1b[4m"
  | .literal => "\x1b[1m"
  | .fault => "\x1b[1m\x1b[31m"
  | .refused => "\x1b[33m"

/-- A text in a style. -/
def set
    (style : Style)
    (text : String) :
    String :=
  style.opening ++ text ++ "\x1b[0m"

/-- A text as it is written where no terminal shows it. -/
def written
    (environment : Environment)
    (styled : String) :
    String :=
  if environment.keepsStyles then
    styled
  else
    Text.Plain.text styled

end Style

/-- A word or an argument in quotes. -/
def quoted (shown : String) : String :=
  "'" ++ shown ++ "'"

namespace UsageError

/-- A word or an argument at fault. -/
def blamed (shown : String) : String :=
  quoted (Style.refused.set shown)

/-- The refusal in words. -/
def message : UsageError → String
  | .unexpectedArgument word =>
      "unexpected argument " ++ blamed word ++ " found"
  | .unexpectedValue value flag =>
      "unexpected value " ++ blamed value ++ " for " ++
        quoted (Style.literal.set (Argument.flag flag).shown) ++
        " found; no more were expected"
  | .missingValue argument =>
      "a value is required for " ++ blamed argument.shown ++
        " but none was supplied"
  | .invalidValue value flag =>
      "invalid value " ++ blamed value ++ " for " ++
        quoted (Style.literal.set (Argument.flag flag).shown)
  | .repeated argument =>
      "the argument " ++ blamed argument.shown ++
        " cannot be used multiple times"
  | .conflict first second =>
      "the argument " ++ blamed first.shown ++ " cannot be used with " ++
        blamed second.shown

/-- The line that reports the refusal. -/
def line (error : UsageError) : String :=
  Style.fault.set "error:" ++ " " ++ error.message ++ "\n"

end UsageError

end MonkeyTokens.CommandLine
