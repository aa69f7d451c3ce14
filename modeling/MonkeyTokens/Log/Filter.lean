import MonkeyTokens.Log.Directive

namespace MonkeyTokens.Log

/-!
# Which notes are written, and how

A filter is a list of directives.  About a note the most specific of those decides
that cover it, and where none does the note is not written.

Each note that the filter admits takes one line, which is coloured for a terminal
or plain.  The time stamp in front of a line depends on nothing that a run reads,
and it is left out.
-/

/-- The directives that are in force; of equally specific ones the last counts. -/
abbrev Filter := List Directive

namespace Filter

/-- The directive that decides when one more is looked at. -/
def better
    (best : Option Directive)
    (directive : Directive) :
    Option Directive :=
  if best.all directive.supersedes then
    some directive
  else
    best

/-- The directive that decides about a note. -/
def deciding?
    (filter : Filter)
    (note : Note) :
    Option Directive :=
  (filter.filter fun directive => directive.covers note).foldl better none

/-- A note is written if its level lies within the threshold for it. -/
def admits
    (filter : Filter)
    (note : Note) :
    Bool :=
  match filter.deciding? note with
  | some { threshold := some lowest, .. } =>
      note.level.rank ≤ lowest.rank
  | _ =>
      false

/-- One threshold for everything. -/
def everywhere (threshold : Threshold) : Filter :=
  [{ threshold }]

/--
The filter that a text describes: parts between commas, errors only if there are none.
The first part that is refused settles why the text describes none.
-/
def ofText (text : String) : Except Refusal Filter :=
  match (text.splitOn ",").filter (fun part => !part.isEmpty) with
  | [] =>
      .ok (everywhere (some .error))
  | parts =>
      (parts.mapM fun part => Directive.ofPart part.toList).map List.flatten

/-- The filter of a run: the text of the environment if it describes one, else the default. -/
def choose
    (text : Option String)
    (verbose : Bool) :
    Filter :=
  match text.map ofText with
  | some (.ok filter) =>
      filter
  | _ =>
      everywhere (some (if verbose then .debug else .warn))

/-- The text of the environment cannot be read because a cut falls inside a character. -/
def isBroken (text : Option String) : Bool :=
  text.any fun written =>
    match ofText written with
    | .error .brokenCharacter => true
    | _ => false

end Filter

/-- Where and how notes are written. -/
structure Settings where
  filter : Filter
  coloured : Bool
  deriving Repr, DecidableEq

namespace Settings

/-- A text in one terminal style. -/
def styled
    (settings : Settings)
    (style text : String) :
    String :=
  if settings.coloured then
    "\x1b[" ++ style ++ "m" ++ text ++ "\x1b[0m"
  else
    text

/-- A named value, after a blank. -/
def field
    (settings : Settings)
    (named : String × String) :
    String :=
  " " ++ settings.styled "3" named.1 ++ settings.styled "2" "=" ++ named.2

/-- The line of a note behind its time stamp: level, message and named values. -/
def line
    (settings : Settings)
    (note : Note) :
    String :=
  settings.styled note.level.colour note.level.label ++ " " ++
    note.message ++ String.join (note.fields.map settings.field) ++ "\n"

/-- The lines of those notes that the filter admits, in order. -/
def write
    (settings : Settings)
    (notes : List Note) :
    String :=
  String.join ((notes.filter settings.filter.admits).map settings.line)

end Settings

end MonkeyTokens.Log
