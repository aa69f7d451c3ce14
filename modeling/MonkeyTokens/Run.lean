import MonkeyTokens.CommandLine.Arguments
import MonkeyTokens.CommandLine.Help
import MonkeyTokens.CommandLine.Message
import MonkeyTokens.Session

namespace MonkeyTokens

/-!
# Runs of the program

A run reads its command line, then its source, if it was given one, and lists the
tokens.  It becomes a session when there is no source or when it was asked to.
An error before that leaves nothing on the output channel.
-/

/-- Everything that a run depends on. -/
structure Invocation where
  words : List String
  environment : CommandLine.Environment
  fileAt : String → Except InputFault (List UInt8)
  input : List UInt8

/-- How a run goes on after its source has been dealt with. -/
inductive Continuation where
  | over : Ending → Continuation
  | session
  deriving Repr, DecidableEq

/-- What a run has written when its source has been dealt with, and how it goes on. -/
structure Opening where
  output : Output
  continuation : Continuation
  deriving Repr, DecidableEq

namespace CommandLine.Arguments

/-- The session that the arguments ask for: how lines are read and how the log is kept. -/
def session
    (arguments : Arguments)
    (environment : Environment) :
    Session where
  options := arguments.options
  log :=
    { filter := .choose environment.logFilter? arguments.verbose
      coloured := !arguments.noColor }
  dumbTerminal := environment.dumbTerminal

/-- The text of a source; a file has to be there and has to be UTF-8. -/
def sourceText
    (fileAt : String → Except InputFault (List UInt8)) :
    Source → Except Failure String
  | .text text =>
      .ok text
  | .file path =>
      match fileAt path with
      | .error fault =>
          .error (.fileUnread path fault)
      | .ok bytes =>
          match Text.ofUtf8? bytes with
          | none => .error (.fileUnread path .notUnicode)
          | some text => .ok text

/-- The notes that a run makes before it reads its source. -/
def firstNotes (arguments : Arguments) : List Log.Note :=
  .starting arguments.options ::
    match arguments.source with
    | some (.file path) => [.readingFile path]
    | _ => []

/-- List the tokens of the source, if there is one. -/
def opening
    (arguments : Arguments)
    (session : Session)
    (fileAt : String → Except InputFault (List UInt8)) :
    Opening :=
  let noted : Output :=
    { stderr := session.log.write arguments.firstNotes }
  match arguments.source with
  | none =>
      { output := noted, continuation := .session }
  | some source =>
      match sourceText fileAt source with
      | .error failure =>
          { output := noted, continuation := .over (.failed failure) }
      | .ok text =>
          let reading := session.options.read text
          match reading.result with
          | .error fault =>
              { output := noted ++ session.logOf reading
                continuation := .over (.failed (.illegal fault)) }
          | .ok _ =>
              { output := noted ++ session.outputOf reading
                continuation :=
                  if arguments.interactive then
                    .session
                  else
                    .over .finished }

end CommandLine.Arguments

/--
The arguments of a run, or the outcome at once where the command line asks about
the program or is refused, or where the filter of the log breaks off.
-/
def CommandLine.start
    (environment : Environment)
    (words : List String) :
    Except Outcome Arguments :=
  match read environment words with
  | .help =>
      .error
        { exit := 0
          output := { stdout := Style.written environment (Help.text environment) } }
  | .version =>
      .error { exit := 0, output := { stdout := Help.version } }
  | .refused error =>
      .error
        { exit := 2
          output := { stderr := Style.written environment error.line } }
  | .accepted arguments =>
      if Log.Filter.isBroken environment.logFilter? then
        .error (.ofEnding {} .aborted)
      else
        .ok arguments

namespace Invocation

/-- The outcome of a run whose command line was accepted. -/
def proceed
    (invocation : Invocation)
    (arguments : CommandLine.Arguments) :
    Outcome :=
  let session := arguments.session invocation.environment
  let opening := arguments.opening session invocation.fileAt
  match opening.continuation with
  | .over ending =>
      .ofEnding opening.output ending
  | .session =>
      (session.outcome invocation.input).after opening.output

/-- The outcome of a run. -/
def run (invocation : Invocation) : Outcome :=
  match CommandLine.start invocation.environment invocation.words with
  | .error outcome =>
      outcome
  | .ok arguments =>
      invocation.proceed arguments

end Invocation

end MonkeyTokens
