import MonkeyTokens.Run

namespace MonkeyTokens.Program

/-!
# The program

The program gathers what a run depends on, lets the run decide, and writes what
it decides.  The lines of a session are taken from the input one at a time and
answered at once.
-/

/-- The number of an error; some layers of the system hand it on negated. -/
def systemFault (code : UInt32) : InputFault :=
  .system code.toInt32.toInt.natAbs

/-- The fault that an error of the system stands for. -/
def faultOf : IO.Error → InputFault
  | .noFileOrDirectory _ code _ => systemFault code
  | .permissionDenied _ code _ => systemFault code
  | .inappropriateType _ code _ => systemFault code
  | .invalidArgument _ code _ => systemFault code
  | .resourceExhausted _ code _ => systemFault code
  | .noSuchThing _ code _ => systemFault code
  | .hardwareFault code _ => systemFault code
  | .otherError code _ => systemFault code
  | error => .other error.toString

/-- The variables of the environment that matter to a run. -/
def environment : IO CommandLine.Environment :=
  CommandLine.Environment.names.filterMapM fun name => do
    let value ← IO.getEnv name
    return value.map fun text => (name, text)

/-- The bytes of a file, or what keeps them from being read. -/
def fileAt (path : String) : IO (Except InputFault (List UInt8)) := do
  match ← (IO.FS.readBinFile path).toBaseIO with
  | .ok bytes => return .ok bytes.toList
  | .error error => return .error (faultOf error)

/-- Write an output to both channels. -/
def write (output : Output) : IO Unit := do
  let stdout ← IO.getStdout
  stdout.putStr output.stdout
  stdout.flush
  let stderr ← IO.getStderr
  stderr.putStr output.stderr
  stderr.flush

/-- The next line of the input, if there is one. -/
partial def nextLine
    (input : IO.FS.Stream)
    (bytes : Array UInt8) :
    IO (Option Text.Line) := do
  match (← input.read 1).toList with
  | [] =>
      if bytes.isEmpty then
        return none
      else
        return some { bytes := bytes.toList, ended := false }
  | byte :: _ =>
      if byte = Text.Line.feed then
        return some { bytes := bytes.toList, ended := true }
      else
        nextLine input (bytes.push byte)

/-- Ask for lines and answer them until the session ends. -/
partial def converse
    (session : Session)
    (input : IO.FS.Stream) :
    IO Ending := do
  write session.awaiting
  match ← (nextLine input #[]).toBaseIO with
  | .error error =>
      return .failed (.lineUnread (.input (faultOf error)))
  | .ok none =>
      write session.closing
      return .finished
  | .ok (some line) =>
      match session.turn line with
      | .on output =>
          write output
          converse session input
      | .over ending =>
          return ending

/-- Run on from an accepted command line to the end. -/
def proceed
    (environment : CommandLine.Environment)
    (arguments : CommandLine.Arguments) :
    IO Ending := do
  let found ←
    match arguments.source with
    | some (.file path) => fileAt path
    | _ => pure (.ok [])
  let session := arguments.session environment
  let opening := arguments.opening session fun _ => found
  write opening.output
  match opening.continuation with
  | .over ending =>
      return ending
  | .session =>
      write Session.banner
      converse session (← IO.getStdin)

end MonkeyTokens.Program

open MonkeyTokens in
/-- Run the program on the words of its command line. -/
def main (words : List String) : IO UInt32 := do
  let environment ← Program.environment
  let outcome ←
    match CommandLine.start environment words with
    | .error outcome =>
        pure outcome
    | .ok arguments =>
        Outcome.ofEnding {} <$> Program.proceed environment arguments
  Program.write outcome.output
  return outcome.exit.toUInt32
