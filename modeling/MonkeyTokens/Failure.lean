import MonkeyTokens.Reading
import MonkeyTokens.SystemError

namespace MonkeyTokens

/-!
# Failures of a run

A run fails because a file or a line of input cannot be read, because one of its
parts cannot be set up, or because strict reading met an illegal character.
Each failure keeps its cause, and the wording is added when it is shown.
-/

/-- Why bytes could not be read as text. -/
inductive InputFault where
  | system : Int → InputFault
  | notUnicode
  | other : String → InputFault
  deriving Repr, DecidableEq

namespace InputFault

/-- The fault in words; an error of the system also shows its number. -/
def message : InputFault → String
  | .system number =>
      SystemError.text number ++ " (os error " ++ toString number ++ ")"
  | .notUnicode =>
      "stream did not contain valid UTF-8"
  | .other text =>
      text

end InputFault

/-- Why no line was obtained from the input. -/
inductive LineFault where
  | endOfInput
  | interrupted
  | input : InputFault → LineFault
  deriving Repr, DecidableEq

namespace LineFault

/-- The fault in words. -/
def message : LineFault → String
  | .endOfInput => "EOF"
  | .interrupted => "Interrupted"
  | .input fault => fault.message

end LineFault

/-- Why a run ended with an error. -/
inductive Failure where
  | fileUnread : String → InputFault → Failure
  | editorMissing : LineFault → Failure
  | lineUnread : LineFault → Failure
  | logMissing : String → Failure
  | illegal : IllegalCharacter → Failure
  deriving Repr, DecidableEq

namespace Failure

/-- The failure in words; an illegal character is reported as it is. -/
def message : Failure → String
  | .fileUnread path fault =>
      "Failed to read " ++ path ++ ": " ++ fault.message
  | .editorMissing fault =>
      "Failed to create editor: " ++ fault.message
  | .lineUnread fault =>
      "Readline error: " ++ fault.message
  | .logMissing text =>
      "Failed to initialize logging: " ++ text
  | .illegal fault =>
      fault.message

/-- The underlying fault, where a failure passes one on. -/
def cause? : Failure → Option String
  | .fileUnread _ fault => some fault.message
  | .lineUnread fault => some fault.message
  | .editorMissing _ => none
  | .logMissing _ => none
  | .illegal _ => none

end Failure

end MonkeyTokens
