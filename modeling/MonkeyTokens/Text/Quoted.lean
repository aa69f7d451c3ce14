import MonkeyTokens.Text.Unprintable

namespace MonkeyTokens.Text.Quoted

/-!
# Quoted characters and strings

A quoted text stands between two equal delimiters.  Inside, a backslash begins
an escape: the delimiter and the backslash follow it as themselves, four control
characters have a letter of their own, and every other unprintable character is
given by its number in braces.  Which characters are unprintable is a parameter,
for the form of an escape does not depend on it.
-/

/-- The lower-case hexadecimal digits of a number, without leading zeros. -/
def hexDigits (number : Nat) : List Char :=
  Nat.toDigits 16 number

/-- The letter that stands for a control character after a backslash. -/
def controlLetter? : Char → Option Char
  | '\x00' => some '0'
  | '\t' => some 't'
  | '\n' => some 'n'
  | '\r' => some 'r'
  | _ => none

/-- An escape by number. -/
def numbered
    (character : Char) :
    List Char :=
  ['\\', 'u', '{'] ++ hexDigits character.toNat ++ ['}']

/-- The written form of one character between two delimiters. -/
def escape
    (unprintable : Char → Bool)
    (delimiter character : Char) :
    List Char :=
  match controlLetter? character with
  | some letter => ['\\', letter]
  | none =>
      if character = '\\' ∨ character = delimiter then
        ['\\', character]
      else if unprintable character then
        numbered character
      else
        [character]

/-- The written form of a text, with its delimiters. -/
def encode
    (unprintable : Char → Bool)
    (delimiter : Char)
    (text : List Char) :
    List Char :=
  delimiter :: text.flatMap (escape unprintable delimiter) ++ [delimiter]

/-- A string in double quotes. -/
def string
    (unprintable : Char → Bool)
    (text : String) :
    String :=
  String.ofList (encode unprintable '"' text.toList)

/-- A single character in single quotes. -/
def character
    (single : Char) :
    String :=
  String.ofList (encode Unprintable.holds '\'' [single])

end MonkeyTokens.Text.Quoted
