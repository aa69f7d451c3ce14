import Mathlib.Data.List.TakeWhile
import MonkeyTokens.Proofs.Layout

namespace MonkeyTokens

/-!
# Reading what was written

A step of a cursor passes one piece of a layout, or the gap at the end of the
text.  A cursor in front of the text of a layout without fusing neighbours
therefore gives the tokens of the layout.  A text and its tokens determine the
layout, and so no other layout of the same text can give them.
-/

namespace Cursor

variable {dialect : Dialect} {cursor : Cursor}

/-- The cursor behind a piece of its text. -/
def past
    (cursor : Cursor)
    (piece : Piece dialect)
    (after : List Char) :
    Cursor :=
  { cursor with
    rest := after
    position := cursor.position + piece.text.length
    start := cursor.position + piece.gap.length }

/-- The cursor at the end of its text, with the closing token given. -/
def atEnd (cursor : Cursor) : Cursor :=
  { cursor with
    rest := []
    position := cursor.position + cursor.rest.length
    start := cursor.position + cursor.rest.length }

/-- In front of nothing but spacing an advance comes to the end of the text. -/
theorem advance_of_gap
    (spaced : IsGap cursor.rest) :
    cursor.advance = (none, cursor.atEnd) := by
  have taken : cursor.rest.takeWhile isSpacing = cursor.rest :=
    List.takeWhile_eq_self_iff.mpr spaced
  have dropped : cursor.rest.dropWhile isSpacing = [] :=
    List.dropWhile_eq_nil_iff.mpr spaced
  simp [advance, taken, dropped, atEnd]

/-- A step passes the piece in front of the cursor if its lexeme ends there. -/
theorem advance_of_piece
    {piece : Piece dialect}
    {after : List Char}
    (same : cursor.dialect = dialect)
    (shape : cursor.rest = piece.text ++ after)
    (ends : dialect.EndsBefore piece.lexeme after) :
    cursor.advance = (some piece.lexeme, cursor.past piece after) := by
  obtain ⟨head, tail, spelled⟩ :=
    List.exists_cons_of_ne_nil
      (Dialect.spelling_ne_nil_of_admits piece.admitted)
  have solid : isSpacing head = false :=
    Dialect.isSpacing_of_admits piece.admitted head
      (by simp [spelled])
  obtain ⟨taken, dropped⟩ :
      cursor.rest.takeWhile isSpacing = piece.gap ∧
        cursor.rest.dropWhile isSpacing =
          piece.lexeme.spelling ++ after := by
    rw [shape, Piece.text, List.append_assoc]
    exact Dialect.takeWhile_dropWhile_of_class piece.spaced
      (by simp [spelled, solid])
  have read :
      dialect.lexemeAt head (tail ++ after) = (piece.lexeme, after) :=
    Dialect.lexemeAt_eq piece.admitted ends (by rw [spelled]; rfl)
  unfold advance
  simp only [taken, dropped, spelled, List.cons_append, same, read]
  simp [past, Piece.text, spelled, same, Nat.add_assoc]

theorem length_rest_past_lt
    {piece : Piece dialect}
    {after : List Char}
    (shape : cursor.rest = piece.text ++ after) :
    (cursor.past piece after).rest.length < cursor.rest.length := by
  rw [shape, List.length_append]
  exact Nat.lt_add_of_pos_left piece.length_text_pos

/-- A step passes one piece of the text or the gap at its end. -/
theorem advance_cases (cursor : Cursor) :
    (IsGap cursor.rest ∧ cursor.advance = (none, cursor.atEnd)) ∨
      ∃ (piece : Piece cursor.dialect) (after : List Char),
        cursor.rest = piece.text ++ after ∧
          cursor.dialect.EndsBefore piece.lexeme after ∧
          cursor.advance =
            (some piece.lexeme, cursor.past piece after) := by
  rcases Layout.gap_or_piece cursor.dialect cursor.rest with
      spaced | ⟨piece, after, shape, ends⟩
  · exact .inl ⟨spaced, advance_of_gap spaced⟩
  · exact .inr
      ⟨piece, after, shape, ends, advance_of_piece rfl shape ends⟩

/-- In a gap nothing is left but the closing token. -/
theorem drain_of_gap
    (spaced : IsGap cursor.rest) :
    cursor.drain =
      ([{ offset := cursor.position + cursor.rest.length,
          token := .endOfInput }], cursor.atEnd) := by
  have given : cursor.nextToken = (.endOfInput, cursor.atEnd) := by
    rw [nextToken, advance_of_gap spaced]
  rw [drain_eq_nextToken, given]
  rfl

/-- In front of a piece the token of the piece comes first. -/
theorem drain_of_piece
    {piece : Piece dialect}
    {after : List Char}
    (same : cursor.dialect = dialect)
    (shape : cursor.rest = piece.text ++ after)
    (ends : dialect.EndsBefore piece.lexeme after) :
    cursor.drain =
      (piece.placed cursor.position ::
          (cursor.past piece after).drain.1,
        (cursor.past piece after).drain.2) := by
  have given :
      cursor.nextToken = (piece.lexeme.token, cursor.past piece after) := by
    rw [nextToken, advance_of_piece same shape ends]
  rw [drain_eq_nextToken, given]
  simp only [Lexeme.isEnd_token, Bool.false_eq_true, ↓reduceIte]
  rfl

/-- A cursor in front of a separated layout gives the tokens of the layout. -/
theorem drain_of_separated
    {layout : Layout dialect}
    (separated : layout.Separated)
    (same : cursor.dialect = dialect)
    (shape : cursor.rest = layout.text) :
    cursor.drain.1 = layout.placedFrom cursor.position := by
  induction layout generalizing cursor with
  | ending gap spaced =>
      obtain rfl : cursor.rest = gap := shape
      rw [drain_of_gap spaced]
      rfl
  | cons piece later inductionHypothesis =>
      obtain ⟨follows, separatedLater⟩ := separated
      have ends :=
        (Layout.endsBefore_text_iff piece.lexeme later).mpr follows
      rw [drain_of_piece same shape ends]
      simp only [Layout.placedFrom, List.cons.injEq, true_and]
      exact inductionHypothesis separatedLater same rfl

/-- What a cursor gives depends on its position and the text behind it alone. -/
theorem drain_congr
    {first second : Cursor}
    (sameDialect : first.dialect = second.dialect)
    (sameRest : first.rest = second.rest)
    (samePosition : first.position = second.position) :
    first.drain.1 = second.drain.1 := by
  obtain ⟨layout, shape, separated⟩ :=
    Layout.exists_separated second.dialect second.rest
  rw [drain_of_separated separated sameDialect (sameRest.trans shape.symm),
    drain_of_separated separated rfl shape.symm, samePosition]

/-- The tokens that a cursor gives are those of a layout of what is left to read. -/
theorem exists_layout (cursor : Cursor) :
    ∃ layout : Layout cursor.dialect,
      layout.text = cursor.rest ∧
        cursor.drain.1 = layout.placedFrom cursor.position := by
  obtain ⟨layout, shape, separated⟩ :=
    Layout.exists_separated cursor.dialect cursor.rest
  exact ⟨layout, shape, drain_of_separated separated rfl shape.symm⟩

end Cursor

namespace Layout

variable {dialect : Dialect}

/--
The text of a layout gives the tokens that were written into it, each where it was
written, exactly if no empty gap stands between two neighbours that fuse.  Every text
has a separated layout, and its tokens leave it no other one.
-/
theorem drain_text_iff_separated (layout : Layout dialect) :
    (Cursor.ofText dialect (String.ofList layout.text)).drain.1 =
        layout.placedFrom 0 ↔
      layout.Separated := by
  have shape :
      (Cursor.ofText dialect (String.ofList layout.text)).rest =
        layout.text :=
    String.toList_ofList
  constructor
  · intro written
    obtain ⟨other, sameText, separated⟩ :=
      exists_separated dialect layout.text
    have read :=
      Cursor.drain_of_separated separated rfl
        (shape.trans sameText.symm)
    obtain rfl : other = layout :=
      eq_of_placedFrom sameText (read.symm.trans written)
    exact separated
  · intro separated
    exact Cursor.drain_of_separated separated rfl shape

end Layout

end MonkeyTokens
