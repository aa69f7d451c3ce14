import MonkeyTokens.CommandLine.Environment
import MonkeyTokens.Cursor

namespace MonkeyTokens.CommandLine

/-!
# Reading a command line

Words are taken one by one.  A value is settled only when the next argument
begins, when a flag acts or when the words end; then it is refused if it is
missing or repeated.  A word that is no argument at all is refused at once, even
while an earlier value waits.  Help and version act as soon as they are settled.
-/

/-- Where the text of a run comes from. -/
inductive Source where
  | text : String → Source
  | file : String → Source
  deriving Repr, DecidableEq

/-- The arguments of a run; without a source it is a session from the start. -/
structure Arguments where
  source : Option Source := none
  interactive : Bool := false
  options : Options := {}
  verbose : Bool := false
  noColor : Bool := false
  deriving Repr, DecidableEq

/-- What a command line amounts to. -/
inductive Verdict where
  | help
  | version
  | refused : UsageError → Verdict
  | accepted : Arguments → Verdict
  deriving Repr, DecidableEq

/-- An argument with its value, as a command line gives it. -/
inductive Given where
  | eval : String → Given
  | file : String → Given
  | flag : Flag → Given
  deriving Repr, DecidableEq

namespace Given

/-- The argument without its value. -/
def argument : Given → Argument
  | .eval _ => .eval
  | .file _ => .file
  | .flag given => .flag given

end Given

/-- An argument that is not settled yet. -/
inductive Pending where
  | evalAwaited
  | ready : Given → Pending
  deriving Repr, DecidableEq

/-- How far the reading of a command line has come. -/
structure Progress where
  settled : List Given := []
  pending : Option Pending := none
  fileSeen : Bool := false
  optionsEnded : Bool := false
  deriving Repr, DecidableEq

namespace Progress

/-- Refuse the command line. -/
def refuse
    {α : Type}
    (error : UsageError) :
    Except Verdict α :=
  .error (.refused error)

/-- Whether an argument has been settled. -/
def holds
    (progress : Progress)
    (argument : Argument) :
    Bool :=
  progress.settled.any fun given => given.argument == argument

/-- Settle an argument, unless it has been settled before. -/
def record
    (progress : Progress)
    (given : Given) :
    Except Verdict Progress :=
  if progress.holds given.argument then
    refuse (.repeated given.argument)
  else
    .ok { progress with settled := progress.settled ++ [given] }

/-- Settle the argument that waits, if one does; the path of a file may not be empty. -/
def settle (progress : Progress) : Except Verdict Progress :=
  match progress.pending with
  | none =>
      .ok progress
  | some .evalAwaited =>
      refuse (.missingValue .eval)
  | some (.ready (.file "")) =>
      refuse (.missingValue .file)
  | some (.ready given) =>
      { progress with pending := none }.record given

/-- Take an argument that is complete and waits for nothing. -/
def takeAtOnce
    (progress : Progress)
    (given : Given) :
    Except Verdict Progress := do
  let settled ← progress.settle
  settled.record given

/-- Take a flag; help and version act. -/
def takeFlag
    (progress : Progress)
    (flag : Flag) :
    Except Verdict Progress := do
  let taken ← progress.takeAtOnce (.flag flag)
  match flag with
  | .help => .error .help
  | .version => .error .version
  | _ => .ok taken

/-- Take the text option without a value, which the next word may bring. -/
def awaitEval (progress : Progress) : Except Verdict Progress := do
  let settled ← progress.settle
  .ok { settled with pending := some .evalAwaited }

/-- Take the path of a file; there may be only one. -/
def takeFile
    (progress : Progress)
    (path : String) :
    Except Verdict Progress :=
  if progress.fileSeen then
    refuse (.unexpectedArgument path)
  else do
    let settled ← progress.settle
    .ok
      { settled with
        pending := some (.ready (.file path))
        fileSeen := true }

/-- Take the option after two dashes; an equals sign attaches a value to its name. -/
def takeLong
    (progress : Progress)
    (written : List Char) :
    Except Verdict Progress :=
  let name := String.ofList (written.takeWhile (· != '='))
  let value :=
    (written.dropWhile (· != '=')).tail?.map String.ofList
  if name = "eval" then
    match value with
    | some source => progress.takeAtOnce (.eval source)
    | none => progress.awaitEval
  else
    match Flag.ofLongName? name, value with
    | some flag, none => progress.takeFlag flag
    | some flag, some value => refuse (.unexpectedValue value flag)
    | none, _ => refuse (.unexpectedArgument ("--" ++ name))

/--
Take the options after one dash, letter by letter.  The rest of the word after
the letter of the text option is its value, less one equals sign.
-/
def takeLetters
    (progress : Progress) :
    List Char → Except Verdict Progress
  | [] =>
      .ok progress
  | 'e' :: [] =>
      progress.awaitEval
  | 'e' :: '=' :: source =>
      progress.takeAtOnce (.eval (String.ofList source))
  | 'e' :: source =>
      progress.takeAtOnce (.eval (String.ofList source))
  | letter :: later =>
      match Flag.ofLetter? letter with
      | some flag => do
          let taken ← progress.takeFlag flag
          taken.takeLetters later
      | none =>
          refuse (.unexpectedArgument ("-" ++ letter.toString))

/-- Take the next word of the command line. -/
def takeWord
    (progress : Progress)
    (word : String) :
    Except Verdict Progress :=
  if progress.optionsEnded then
    progress.takeFile word
  else
    match word.toList with
    | ['-', '-'] =>
        .ok { progress with optionsEnded := true }
    | '-' :: '-' :: written =>
        progress.takeLong written
    | '-' :: letter :: later =>
        progress.takeLetters (letter :: later)
    | _ =>
        match progress.pending with
        | some .evalAwaited =>
            .ok { progress with pending := some (.ready (.eval word)) }
        | _ =>
            progress.takeFile word

/-- A flag is set by a word of the command line or else by the environment. -/
def flagSet
    (progress : Progress)
    (environment : Environment)
    (flag : Flag) :
    Except Verdict Bool :=
  if progress.holds (.flag flag) then
    .ok true
  else
    (flag.given environment).mapError .refused

/-- The source among the settled arguments; a text and a file exclude each other. -/
def source (progress : Progress) : Except Verdict (Option Source) :=
  let sources :=
    progress.settled.filterMap fun given =>
      match given with
      | .eval source => some (Source.text source, Argument.eval)
      | .file path => some (Source.file path, Argument.file)
      | .flag _ => none
  match sources with
  | (_, first) :: (_, second) :: _ => refuse (.conflict first second)
  | [(source, _)] => .ok (some source)
  | [] => .ok none

/-- The arguments of a run once all words have been taken. -/
def finish
    (progress : Progress)
    (environment : Environment) :
    Except Verdict Arguments := do
  let settled ← progress.settle
  let strict ← settled.flagSet environment .strict
  let dashInWords ← settled.flagSet environment .dashIdentifiers
  let verbose ← settled.flagSet environment .verbose
  let noColor ← settled.flagSet environment .noColor
  let source ← settled.source
  .ok
    { source
      interactive := settled.holds (.flag .interactive)
      options := { dialect := { dashInWords }, strict }
      verbose
      noColor }

end Progress

/-- Read the words of a command line in an environment. -/
def read
    (environment : Environment)
    (words : List String) :
    Verdict :=
  match words.foldlM Progress.takeWord {} >>= (·.finish environment) with
  | .ok arguments => .accepted arguments
  | .error verdict => verdict

end MonkeyTokens.CommandLine
