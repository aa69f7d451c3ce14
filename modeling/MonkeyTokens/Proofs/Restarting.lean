import MonkeyTokens.Proofs.Joining
import MonkeyTokens.Proofs.Strictness

namespace MonkeyTokens

/-!
# Reading on from the middle of a text

What a cursor still gives depends on its position and on nothing that it has read
before.  A cursor that starts with the text behind that position takes the same steps,
so it gives the same tokens, and strict reading ends the same way.  Only the offsets
differ by the position, and the place of an error is one in the whole text.
-/

/-- An error of what stands behind a part of a text, as an error of the whole text. -/
def IllegalCharacter.shift
    (source : List Char)
    (distance : Nat)
    (fault : IllegalCharacter) :
    IllegalCharacter :=
  within source (fault.offset + distance) fault.character

/-- A reading of what stands behind a part of a text, as a reading of the whole text. -/
def Reading.shift
    (source : List Char)
    (distance : Nat)
    (reading : Reading) :
    Reading where
  tokens := reading.tokens.map (Placed.shift distance)
  fault := reading.fault.map (IllegalCharacter.shift source distance)

/-- Only the error of a reading tells where its text stands. -/
theorem Reading.result_shift
    (source : List Char)
    (distance : Nat)
    (reading : Reading) :
    (reading.shift source distance).result =
      reading.result.mapError (IllegalCharacter.shift source distance) := by
  obtain ⟨tokens, fault⟩ := reading
  cases fault with
  | none =>
      simp [shift, result, Except.mapError, Placed.shift]
  | some fault =>
      rfl

namespace Cursor

/-- A cursor has the same text left to read as another one, a distance further on. -/
structure Ahead
    (distance : Nat)
    (cursor behind : Cursor) :
    Prop where
  dialect_eq : cursor.dialect = behind.dialect
  rest_eq : cursor.rest = behind.rest
  position_eq : cursor.position = behind.position + distance

variable {dialect : Dialect} {cursor behind : Cursor} {distance : Nat}

namespace Ahead

/-- A cursor of a text is ahead of one that starts with what is left of the text. -/
theorem ofText
    {source : List Char}
    (stands : cursor.Stands dialect source) :
    cursor.Ahead cursor.position
      (Cursor.ofText dialect
        (String.ofList (source.drop cursor.position))) where
  dialect_eq := stands.dialect_eq
  rest_eq := by
    rw [Cursor.ofText, String.toList_ofList]
    exact stands.rest_eq
  position_eq := (Nat.zero_add _).symm

/-- Both cursors pass a piece of the text, and the distance between them stays. -/
theorem past
    (ahead : cursor.Ahead distance behind)
    (piece : Piece dialect)
    (after : List Char) :
    (cursor.past piece after).Ahead distance (behind.past piece after) where
  dialect_eq := ahead.dialect_eq
  rest_eq := rfl
  position_eq := by
    simp only [Cursor.past, ahead.position_eq]
    omega

theorem placed
    (ahead : cursor.Ahead distance behind)
    (piece : Piece dialect) :
    piece.placed cursor.position =
      (piece.placed behind.position).shift distance := by
  simp only [Piece.placed, Placed.shift, ahead.position_eq, Placed.mk.injEq,
    and_true]
  omega

/-- The cursor gives the tokens of the one behind it, moved by the distance. -/
theorem drain
    (ahead : cursor.Ahead distance behind) :
    cursor.drain.1 = behind.drain.1.map (Placed.shift distance) := by
  obtain ⟨layout, shape, separated⟩ :=
    Layout.exists_separated behind.dialect behind.rest
  rw [drain_of_separated separated ahead.dialect_eq
      (ahead.rest_eq.trans shape.symm),
    drain_of_separated separated rfl shape.symm, ahead.position_eq,
    Layout.placedFrom_add]

/-- Strict reading ends where it ends behind, with the error placed in the source of the cursor. -/
theorem strictly
    {cursor behind : Cursor}
    (ahead : cursor.Ahead distance behind) :
    cursor.strictly = behind.strictly.shift cursor.source distance := by
  rcases behind.advance_cases with
      ⟨spaced, -⟩ | ⟨piece, after, shape, ends, -⟩
  · have spacedToo : IsGap cursor.rest := by
      rw [ahead.rest_eq]
      exact spaced
    rw [strictly_of_gap spacedToo, strictly_of_gap spaced, ahead.drain]
    rfl
  have same := ahead.dialect_eq
  have shapeToo : cursor.rest = piece.text ++ after :=
    ahead.rest_eq.trans shape
  by_cases illegal : piece.lexeme.kind = .illegal
  · obtain ⟨character, stray⟩ := Lexeme.kind_eq_illegal_iff.mp illegal
    rw [strictly_of_stray same shapeToo stray,
      strictly_of_stray rfl shape stray, ahead.placed]
    rfl
  · rw [strictly_of_legal same shapeToo ends illegal,
      strictly_of_legal rfl shape ends illegal,
      (ahead.past piece after).strictly, ahead.placed]
    rfl
termination_by behind.rest.length
decreasing_by exact length_rest_past_lt shape

end Ahead

end Cursor

/--
Whatever calls have led a cursor to its position, it reads on as one that starts with
the text behind that position: it gives the same tokens, and strict reading notes the
same tokens and fails with the same character.  All offsets are increased by the
position, and the line and the column of an error are those in the whole text.
-/
theorem reading_depends_on_position_alone
    (dialect : Dialect)
    (text : String)
    (calls : List Call) :
    let cursor := (Cursor.ofText dialect text).afterAll calls
    let fresh :=
      Cursor.ofText dialect
        (String.ofList (text.toList.drop cursor.position))
    cursor.position ≤ text.toList.length ∧
    cursor.drain.1 =
      fresh.drain.1.map (Placed.shift cursor.position) ∧
    cursor.strictly.tokens =
      fresh.strictly.tokens.map (Placed.shift cursor.position) ∧
    cursor.strictly.result =
      match fresh.strictly.result with
      | .ok tokens => .ok tokens
      | .error fault =>
          .error
            { character := fault.character
              offset := fault.offset + cursor.position
              place :=
                Text.Place.ofOffset text.toList
                  (fault.offset + cursor.position) } := by
  intro cursor fresh
  have stands : cursor.Stands dialect text.toList :=
    (Cursor.Stands.ofText dialect text).afterAll calls
  have ahead : cursor.Ahead cursor.position fresh :=
    Cursor.Ahead.ofText stands
  refine ⟨stands.position_le, ahead.drain, ?_, ?_⟩
  · rw [ahead.strictly]
    rfl
  · rw [ahead.strictly, Reading.result_shift, stands.source_eq]
    cases fresh.strictly.result <;> rfl

end MonkeyTokens
