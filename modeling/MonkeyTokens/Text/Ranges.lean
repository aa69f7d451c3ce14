namespace MonkeyTokens.Text

/-!
# Ranges of code points and white space

A property of characters is written down as an ascending list of ranges, each
with its first and its last code point.

White space is the Unicode property of that name.  It is wider than the spacing
between tokens, which is ASCII only, and it decides what a line of a session says
when the space around it is set aside.
-/

/-- Code points in ascending, disjoint ranges with both ends included. -/
abbrev Ranges := List (Nat × Nat)

namespace Ranges

/-- A code point lies in one of the ranges; the search stops at the first range above it. -/
def contains : Ranges → Nat → Bool
  | [], _ => false
  | (first, last) :: later, point =>
      if point < first then
        false
      else if point ≤ last then
        true
      else
        contains later point

/-- A character lies in one of the ranges. -/
def containsChar
    (ranges : Ranges)
    (character : Char) :
    Bool :=
  ranges.contains character.toNat

end Ranges

namespace WhiteSpace

/-- The code points with the property. -/
def ranges : Ranges :=
  [(0x9, 0xD), (0x20, 0x20), (0x85, 0x85), (0xA0, 0xA0), (0x1680, 0x1680),
    (0x2000, 0x200A), (0x2028, 0x2029), (0x202F, 0x202F), (0x205F, 0x205F),
    (0x3000, 0x3000)]

/-- A character is white space. -/
def holds (character : Char) : Bool :=
  ranges.containsChar character

/-- A text without the white space at both its ends. -/
def trim (text : List Char) : List Char :=
  ((text.dropWhile holds).reverse.dropWhile holds).reverse

/-- White space at the end of a text is trimmed with what stands before it. -/
theorem trim_append_of_holds
    {character : Char}
    (white : holds character = true)
    (text : List Char) :
    trim (text ++ [character]) = trim text := by
  unfold trim
  rw [List.dropWhile_append]
  split
  · rename_i blank
    rw [List.isEmpty_iff.mp blank]
    simp [white]
  · simp [white]

end WhiteSpace

end MonkeyTokens.Text
