namespace MonkeyTokens.Text.Pattern

/-!
# Nesting of patterns

Every group, repetition and pair of brackets lies one level above what it holds,
and so does every sequence of two items or more and every choice between two
branches or more.  How deep a pattern may be nested is limited, so the depth is kept of
whatever has been read.
-/

/-- The depth of several parts together; a part alone stays as deep as it is. -/
def together : List Nat → Nat
  | [] => 0
  | [depth] => depth
  | depths => depths.foldl max 0 + 1

/-- A group as far as it has been read: the items of its last branch, and the branches before. -/
structure Sequence where
  items : List (Option Nat) := []
  branches : List Nat := []
  deriving Repr, DecidableEq

namespace Sequence

/-- Add an item; a change of the switches has no depth and cannot be repeated. -/
def push
    (sequence : Sequence)
    (item : Option Nat) :
    Sequence :=
  { sequence with items := item :: sequence.items }

/-- Repeat the last item, if there is one to repeat. -/
def repeat? (sequence : Sequence) : Option Sequence :=
  match sequence.items with
  | some depth :: earlier =>
      some { sequence with items := some (depth + 1) :: earlier }
  | _ =>
      none

/-- The depth of the last branch. -/
def branchDepth (sequence : Sequence) : Nat :=
  together (sequence.items.map fun item => item.getD 0)

/-- End the last branch and begin another. -/
def branch (sequence : Sequence) : Sequence where
  branches := sequence.branchDepth :: sequence.branches

/-- The depth of the sequence. -/
def depth (sequence : Sequence) : Nat :=
  together (sequence.branchDepth :: sequence.branches)

end Sequence

/-- Brackets as far as they have been read: what stands before the last operator, and what after it. -/
structure Brackets where
  starting : Bool := true
  left? : Option Nat := none
  items : List Nat := []
  deriving Repr, DecidableEq

namespace Brackets

/-- Add an item. -/
def push
    (brackets : Brackets)
    (depth : Nat) :
    Brackets :=
  { brackets with items := depth :: brackets.items }

/-- The depth of what has been read between the brackets. -/
def setDepth (brackets : Brackets) : Nat :=
  match brackets.left? with
  | none => together brackets.items
  | some left => together [left, together brackets.items]

/-- Go on after an operator. -/
def operate (brackets : Brackets) : Brackets where
  starting := false
  left? := some brackets.setDepth

/-- The depth of the brackets. -/
def depth (brackets : Brackets) : Nat :=
  brackets.setDepth + 1

end Brackets

end MonkeyTokens.Text.Pattern
