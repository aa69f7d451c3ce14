namespace MonkeyTokens.Text.Pattern

/-!
# Switches of patterns

Letters in a pattern switch how the rest of its group is read, or a group of its
own.  The switches also settle what a pattern may ask for.  What it matches has to
be UTF-8, and nothing is known of Unicode but the code points: while Unicode is on
no class of characters is known by name and no character in another letter case,
and while it is off only ASCII can be listed.
-/

/-- How a pattern is read: letter case does not count, Unicode counts, white space does not. -/
structure Switches where
  caseless : Bool := false
  unicode : Bool := true
  spaced : Bool := false
  deriving Repr, DecidableEq

/-- What a pattern asks of one place in a text. -/
inductive Atom where
  | character (written : Char) (asByte : Bool)
  | anything
  | named (negated : Bool)
  | listed (negated : Bool)
  | bound (ofWord : Bool)
  deriving Repr, DecidableEq

namespace Switches

/-- The letters that switch something; the dash turns those off that follow it. -/
def letters : List Char :=
  ['i', 'm', 's', 'U', 'u', 'R', 'x', '-']

/-- The state of one switch behind some letters. -/
def state
    (written : List Char)
    (letter : Char)
    (before : Bool) :
    Bool :=
  if letter ∈ written.takeWhile (· != '-') then
    true
  else if letter ∈ written then
    false
  else
    before

/-- The switches behind some letters; no letter may be repeated, and the dash may not be the last. -/
def change?
    (switches : Switches)
    (written : List Char) :
    Option Switches :=
  if written.eraseDups = written ∧ written.all letters.contains ∧
      written.getLast? ≠ some '-' then
    some
      { caseless := state written 'i' switches.caseless
        unicode := state written 'u' switches.unicode
        spaced := state written 'x' switches.spaced }
  else
    none

/-- An atom may stand by itself. -/
def allows
    (switches : Switches) :
    Atom → Bool
  | .character written asByte =>
      if switches.unicode then
        !switches.caseless
      else
        !asByte || written ≤ '\x7f'
  | .anything =>
      switches.unicode
  | .named negated =>
      !switches.unicode && !negated
  | .listed _ =>
      false
  | .bound ofWord =>
      !switches.unicode || !ofWord

/-- An atom may stand in brackets. -/
def allowsListed
    (switches : Switches) :
    Atom → Bool
  | .character written _ =>
      if switches.unicode then !switches.caseless else written ≤ '\x7f'
  | .anything =>
      false
  | .named negated =>
      !switches.unicode && !negated
  | .listed negated =>
      if switches.unicode then !switches.caseless else !negated
  | .bound _ =>
      false

end Switches

end MonkeyTokens.Text.Pattern
