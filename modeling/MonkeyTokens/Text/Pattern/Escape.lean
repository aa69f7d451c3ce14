import MonkeyTokens.Text.Pattern.Switches
import MonkeyTokens.Text.Ranges

namespace MonkeyTokens.Text.Pattern

/-!
# Escapes and white space of patterns

Where white space does not count it may stand between the parts of a pattern, also
between the digits of an escape, and with it comments, which begin with a number
sign and end with the line.
-/

/-- A text without the white space and the comments in front. -/
def skipBlanks
    (inComment : Bool) :
    List Char → List Char
  | [] =>
      []
  | character :: rest =>
      if inComment then
        skipBlanks (character != '\n') rest
      else if WhiteSpace.holds character then
        skipBlanks false rest
      else if character = '#' then
        skipBlanks true rest
      else
        character :: rest

/-- A text without what does not count in front of it. -/
def skip
    (spaced : Bool)
    (text : List Char) :
    List Char :=
  if spaced then skipBlanks false text else text

namespace Escape

/-- The characters that have a meaning of their own and lose it behind a backslash. -/
def marks : List Char :=
  "\\.+*?()|[]\x7b\x7d^$#&-~".toList

/-- A character stands for itself behind a backslash: an ASCII one that is no letter, digit or angle. -/
def isPlain (character : Char) : Bool :=
  marks.contains character ||
    (character ≤ '\x7f' && !character.isAlphanum && character != '<' &&
      character != '>')

/-- The control characters that a letter stands for. -/
def control? : Char → Option Char
  | 'a' => some '\x07'
  | 'f' => some '\x0c'
  | 'n' => some '\n'
  | 'r' => some '\r'
  | 't' => some '\t'
  | 'v' => some '\x0b'
  | _ => none

/-- The value of a hexadecimal digit. -/
def hexDigit? (digit : Char) : Option Nat :=
  if digit.isDigit then
    some (digit.toNat - '0'.toNat)
  else if 'a' ≤ digit ∧ digit ≤ 'f' then
    some (digit.toNat - 'a'.toNat + 10)
  else if 'A' ≤ digit ∧ digit ≤ 'F' then
    some (digit.toNat - 'A'.toNat + 10)
  else
    none

/-- The value of some hexadecimal digits, and what follows them. -/
def hexValue?
    (spaced : Bool)
    (digits value : Nat)
    (text : List Char) :
    Option (Nat × List Char) :=
  match digits with
  | 0 =>
      some (value, text)
  | digits + 1 =>
      match skip spaced text with
      | [] =>
          none
      | digit :: rest =>
          (hexDigit? digit).bind fun next =>
            hexValue? spaced digits (16 * value + next) rest

/-- The character that some hexadecimal digits number, and what follows them. -/
def numbered?
    (spaced : Bool)
    (digits : Nat)
    (asByte : Bool)
    (text : List Char) :
    Option (Atom × List Char) := do
  let (value, rest) ← hexValue? spaced digits 0 text
  if value.isValidChar then
    some (.character (Char.ofNat value) asByte, rest)
  else
    none

/-- What is written behind a backslash, and what follows it. -/
def read?
    (spaced : Bool) :
    List Char → Option (Atom × List Char)
  | [] =>
      none
  | 'x' :: rest =>
      numbered? spaced 2 true rest
  | 'u' :: rest =>
      numbered? spaced 4 false rest
  | 'U' :: rest =>
      numbered? spaced 8 false rest
  | letter :: rest =>
      if letter ∈ ['d', 's', 'w'] then
        some (.named false, rest)
      else if letter ∈ ['D', 'S', 'W'] then
        some (.named true, rest)
      else if letter ∈ ['A', 'z'] then
        some (.bound false, rest)
      else if letter ∈ ['b', 'B', '<', '>'] then
        some (.bound true, rest)
      else if isPlain letter then
        some (.character letter false, rest)
      else
        (control? letter).map fun character => (.character character false, rest)

end Escape

end MonkeyTokens.Text.Pattern
