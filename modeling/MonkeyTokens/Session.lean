import MonkeyTokens.Listing
import MonkeyTokens.Log.Filter
import MonkeyTokens.Output
import MonkeyTokens.Text.Line
import MonkeyTokens.Text.Ranges

namespace MonkeyTokens

/-!
# Sessions

A session greets its user and answers the lines of its input one by one with the
tokens they hold.  It ends when a line asks for it, when the input ends, or when
a line has no text.  Where reading is strict, a line with an illegal character is
answered with an error, and the session goes on.
-/

/-- How lines are read, how the log is kept, and whether every line is prompted for. -/
structure Session where
  options : Options
  log : Log.Settings
  dumbTerminal : Bool := false
  deriving Repr, DecidableEq

/-- What a line of a session asks for. -/
inductive Reply where
  | stop
  | silence
  | answer : Reading → Reply
  deriving Repr, DecidableEq

/-- What a session does after a line: go on with an output, or end. -/
inductive Turn where
  | on : Output → Turn
  | over : Ending → Turn
  deriving Repr, DecidableEq

/-- The outputs of a session, line by line, and how it ended. -/
structure Transcript where
  outputs : List Output
  ending : Ending
  deriving Repr, DecidableEq

namespace Transcript

/-- Put an output in front of a transcript. -/
def cons
    (output : Output)
    (transcript : Transcript) :
    Transcript :=
  { transcript with outputs := output :: transcript.outputs }

end Transcript

namespace Session

/-- The line that greets the user. -/
def banner : Output where
  stdout := "Welcome to the Monkey Language\n"

/-- What asks for a line on a dumb terminal. -/
def prompt : String :=
  "> "

/-- What is written before a line is read. -/
def awaiting (session : Session) : Output where
  stdout := if session.dumbTerminal then prompt else ""
  stderr := session.log.write [.awaitingLine session.dumbTerminal]

/-- The words that end a session, alone on a line. -/
def farewells : List (List Char) :=
  ["exit".toList, "quit".toList]

/--
What a line asks for.  The line without white space around it decides whether the
session stops or stays silent; it is the whole line that is read.
-/
def reply
    (session : Session)
    (line : String) :
    Reply :=
  let trimmed := Text.WhiteSpace.trim line.toList
  if farewells.contains trimmed then
    .stop
  else if trimmed = [] then
    .silence
  else
    .answer (session.options.read line)

/-- The log of a reading: a note for every token that was read. -/
def logOf
    (session : Session)
    (reading : Reading) :
    Output where
  stderr := session.log.write (reading.tokens.map .token)

/-- The output of a reading: its log, and then the listing or the error. -/
def outputOf
    (session : Session)
    (reading : Reading) :
    Output :=
  session.logOf reading ++
    match reading.result with
    | .ok tokens =>
        { stdout := Listing.render tokens }
    | .error fault =>
        Output.error (Failure.illegal fault).message

/-- Take in one line of the input. -/
def turn
    (session : Session)
    (line : Text.Line) :
    Turn :=
  match line.text with
  | .error .notUnicode =>
      .over (.failed (.lineUnread (.input .notUnicode)))
  | .error .brokenCharacter =>
      .over .aborted
  | .ok text =>
      match session.reply text with
      | .stop =>
          .over .finished
      | .silence =>
          .on {}
      | .answer reading =>
          .on (session.outputOf reading)

/-- What is written when the input ends before a line has ended the session. -/
def closing (session : Session) : Output where
  stderr := session.log.write [.inputEnded]

/-- Ask for lines of the input and answer them until one of them ends the session. -/
def answers (session : Session) : List Text.Line → Transcript
  | [] =>
      { outputs := [session.awaiting, session.closing]
        ending := .finished }
  | line :: later =>
      match session.turn line with
      | .on output =>
          (session.answers later).cons (session.awaiting ++ output)
      | .over ending =>
          { outputs := [session.awaiting], ending }

/-- A whole session on some input. -/
def transcript
    (session : Session)
    (input : List UInt8) :
    Transcript :=
  (session.answers (Text.Line.split input)).cons banner

/-- The outcome of a whole session. -/
def outcome
    (session : Session)
    (input : List UInt8) :
    Outcome :=
  let transcript := session.transcript input
  .ofEnding (Output.join transcript.outputs) transcript.ending

end Session

end MonkeyTokens
