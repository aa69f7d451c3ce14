import MonkeyTokens.Token

namespace MonkeyTokens

/-!
# Readings

A reading is the record of turning a text into tokens: what was read, in order
and with offsets, and the error that ended it early, if one did.

Strict reading stops at the first character that belongs to no token.  The error
keeps that character, its offset and its place in the whole text.  A place is a
line and a column, both counted from one; only a line feed begins a new line, and
every character of a line is one column wide.
-/

namespace Text

/-- A line and a column within it, both counted from one. -/
structure Place where
  line : Nat
  column : Nat
  deriving Repr, DecidableEq

namespace Place

/-- The part of a text after its last line feed. -/
def lastLine (text : List Char) : List Char :=
  (text.reverse.takeWhile (· != '\n')).reverse

/-- The offset at which the last line of a text starts. -/
def lastLineStart (text : List Char) : Nat :=
  text.length - (lastLine text).length

/-- The place of an offset in a text. -/
def ofOffset
    (text : List Char)
    (offset : Nat) :
    Place :=
  let before := text.take offset
  { line := before.count '\n' + 1
    column := offset - lastLineStart before + 1 }

end Place

end Text

/-- A character that no token may hold, with its position. -/
structure IllegalCharacter where
  character : Char
  offset : Nat
  place : Text.Place
  deriving Repr, DecidableEq

namespace IllegalCharacter

/-- The character at an offset of a text is illegal. -/
def within
    (text : List Char)
    (offset : Nat)
    (character : Char) :
    IllegalCharacter :=
  { character, offset, place := Text.Place.ofOffset text offset }

/-- The error as a sentence for the user. -/
def message (fault : IllegalCharacter) : String :=
  "Illegal character " ++ Text.Quoted.character fault.character ++
    " at line " ++ toString fault.place.line ++
    ", column " ++ toString fault.place.column

/-- The error as a record with all its fields. -/
def debug (fault : IllegalCharacter) : String :=
  "IllegalCharacter \x7b ch: " ++ Text.Quoted.character fault.character ++
    ", offset: " ++ toString fault.offset ++
    ", line: " ++ toString fault.place.line ++
    ", column: " ++ toString fault.place.column ++ " \x7d"

end IllegalCharacter

/-- A token and the offset at which it starts. -/
structure Placed where
  offset : Nat
  token : Token
  deriving Repr, DecidableEq

/--
The tokens of a text in the order in which they were read, the illegal one that
ended the reading included, and the error in that case.
-/
structure Reading where
  tokens : List Placed
  fault : Option IllegalCharacter
  deriving Repr, DecidableEq

namespace Reading

/-- Put a token in front of a reading. -/
def cons
    (placed : Placed)
    (reading : Reading) :
    Reading :=
  { reading with tokens := placed :: reading.tokens }

/-- The tokens of a completed reading, or the error that ended it. -/
def result (reading : Reading) : Except IllegalCharacter (List Token) :=
  match reading.fault with
  | none =>
      .ok (reading.tokens.map Placed.token)
  | some fault =>
      .error fault

end Reading

end MonkeyTokens
