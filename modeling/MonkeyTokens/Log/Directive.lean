import MonkeyTokens.Log.Note
import MonkeyTokens.Text.Alphanumeric
import MonkeyTokens.Text.Bytes
import MonkeyTokens.Text.Pattern
import MonkeyTokens.Text.Ranges

namespace MonkeyTokens.Log

/-!
# Directives

A directive says how far down the levels the notes are written that it covers.
It may cover the notes of all targets that begin with its text, and of those only
the notes that hold something under a name.

In writing a directive is a level, or a target and a level with an equals sign
between them.  The target or the level may be left out.  Before the equals sign
brackets may stand: with a name in braces they narrow the directive to the notes
that hold something under that name, and with anything else they speak of spans,
which a run does not have.  A value may follow the name, and the directive is
refused unless that value is a number or a pattern.

White space in front of a directive shifts the places that its words are cut out at.
If it is no ASCII white space a cut may fall inside a character, and then nothing
can be cut.
-/

/-- How far down notes are written; without a level none are. -/
abbrev Threshold := Option Level

/-- A threshold for the notes of some targets. -/
structure Directive where
  target : String := ""
  name? : Option String := none
  threshold : Threshold
  deriving Repr, DecidableEq

/-- Which notes of its targets a directive is written for. -/
inductive Scope where
  | all
  | holding : String → Scope
  | spans
  deriving Repr, DecidableEq

/-- A directive as it is written; without a level there was no equals sign. -/
structure Clause where
  target : String
  scope : Scope
  level? : Option String
  deriving Repr, DecidableEq

/-- Why a part of a filter's text gives no directives. -/
inductive Refusal where
  | malformed
  | brokenCharacter
  deriving Repr, DecidableEq

namespace Threshold

/-- The words for thresholds; each may also be given by its place, counted from zero. -/
def words : List (String × Threshold) :=
  [("off", none), ("error", some .error), ("warn", some .warn),
    ("info", some .info), ("debug", some .debug), ("trace", some .trace)]

/-- The number that decimal digits write, a plus sign in front of them or not. -/
def number? (word : List Char) : Option Nat :=
  let digits :=
    match word with
    | '+' :: digits => digits
    | digits => digits
  if digits ≠ [] ∧ digits.all Char.isDigit then
    some (Nat.ofDigitChars 10 digits 0)
  else
    none

/-- The threshold that a word or a number stands for; letter case does not count. -/
def ofWord? (word : String) : Option Threshold :=
  match number? word.toList with
  | some number => words[number]?.map Prod.snd
  | none => words.lookup word.toLower

end Threshold

namespace Clause

/-- A character that may stand in a target. -/
def isTargetPart (character : Char) : Bool :=
  character != '=' && character != '['

/-- A clause begins with a bracket, a letter, a number or one of three marks. -/
def begins : List Char → Bool
  | [] =>
      false
  | first :: _ =>
      first ∈ ['[', '-', ':', '_'] || Text.Alphanumeric.holds first

/--
What a part of a filter's text holds at the place of a word, which is given by the
clause from the word on and from behind it on.  Places are counted in bytes, and
the clause begins behind the white space in front of the part, so without such
space it is the word itself.  The last word goes on to the end of the part.
-/
def textAt (part word rest : List Char) : Except Refusal (List Char) :=
  let clause := part.dropWhile Text.WhiteSpace.holds
  let cut :=
    (Text.dropBytes? part
        (Text.byteSize clause - Text.byteSize word)).bind fun text =>
      if rest = [] then
        some text
      else
        Text.takeBytes? text (Text.byteSize word - Text.byteSize rest)
  match cut with
  | some text => .ok text
  | none => .error .brokenCharacter

/-- A value that a clause may ask for: a number or a pattern. -/
def isValue (written : List Char) : Bool :=
  Text.Decimal.holds written || Text.Pattern.holds written

/-- The scope that a name in braces gives a clause; a name with a value speaks of spans. -/
def named (written : List Char) : Except Refusal Scope :=
  match written.dropWhile (· != '=') with
  | _ :: value =>
      if isValue (value.takeWhile (· != '=')) then
        .ok .spans
      else
        .error .malformed
  | [] =>
      if written = [] then
        .error .malformed
      else
        .ok (.holding (String.ofList written))

/-- What brackets in a part say, and what follows them; the first bracket has been read. -/
def bracketed
    (part written : List Char) :
    Except Refusal (Scope × List Char) := do
  let behindSpan :=
    written.dropWhile fun character => character != ']' && character != '{'
  match behindSpan with
  | ']' :: rest => do
      let _ ← textAt part written behindSpan
      return (.spans, rest)
  | '{' :: braced => do
      let span ← textAt part written behindSpan
      match braced.dropWhile (· != '}') with
      | '}' :: behindName => do
          let name ← textAt part braced ('}' :: behindName)
          let scope ← named name
          match behindName with
          | ']' :: rest =>
              return (if span = [] then scope else .spans, rest)
          | _ =>
              throw .malformed
      | _ =>
          throw .malformed
  | _ =>
      throw .malformed

/-- The level at the end of a clause in a part; white space may stand in its place. -/
def ending
    (part : List Char) :
    List Char → Except Refusal (Option String)
  | '=' :: level => do
      let word ← textAt part level []
      return some (String.ofList word)
  | rest =>
      if rest.all Text.WhiteSpace.holds then
        .ok none
      else
        .error .malformed

/-- Read the clause in a part of a filter's text. -/
def read (part : List Char) : Except Refusal Clause := do
  let written := part.dropWhile Text.WhiteSpace.holds
  if !begins written then
    throw .malformed
  let behindTarget := written.dropWhile isTargetPart
  let target ← textAt part written behindTarget
  let (scope, rest) ←
    match behindTarget with
    | '[' :: inner => bracketed part inner
    | rest => pure (.all, rest)
  let level? ← ending part rest
  return { target := String.ofList target, scope, level? }

/-- The threshold of a clause; the finest one if no level is written. -/
def threshold? (clause : Clause) : Option Threshold :=
  match clause.level? with
  | none => some (some .trace)
  | some "" => some (some .trace)
  | some word => Threshold.ofWord? word

/-- The directives of a clause; a lone word that stands for a threshold is no target. -/
def directives? (clause : Clause) : Option (List Directive) := do
  let threshold ← clause.threshold?
  match clause.scope with
  | .spans =>
      some []
  | .holding name =>
      some [{ target := clause.target, name? := some name, threshold }]
  | .all =>
      match clause.level?, Threshold.ofWord? clause.target with
      | none, some threshold => some [{ threshold }]
      | _, _ => some [{ target := clause.target, threshold }]

end Clause

namespace Directive

/-- The directives of one part of a filter's text, unless it is refused. -/
def ofPart (part : List Char) : Except Refusal (List Directive) := do
  let clause ← Clause.read part
  match clause.directives? with
  | some directives => return directives
  | none => throw .malformed

/-- The directive covers a note. -/
def covers
    (directive : Directive)
    (note : Note) :
    Bool :=
  directive.target.toList.isPrefixOf note.target.toList &&
    directive.name?.all fun name => note.names.contains name

/--
A directive that covers the same notes may be put in the place of another if its
target is longer, or as long and it asks for a name that is not smaller.
-/
def supersedes
    (later earlier : Directive) :
    Bool :=
  if later.target.utf8ByteSize = earlier.target.utf8ByteSize then
    match earlier.name?, later.name? with
    | none, _ => true
    | some _, none => false
    | some first, some second => first ≤ second
  else
    earlier.target.utf8ByteSize < later.target.utf8ByteSize

end Directive

end MonkeyTokens.Log
