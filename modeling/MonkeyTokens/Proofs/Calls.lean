import MonkeyTokens.Proofs.RoundTrip

namespace MonkeyTokens

/-!
# Cursors that calls lead to

Both interfaces move a cursor by the same step, so every cursor that any calls
lead to stands between two parts of its text.  Asking `nextToken` again and again
gives what `drain` gives, and so does asking `next?` until it has given the
closing token.
-/

/-- The interfaces that move a cursor. -/
inductive Call where
  | nextToken
  | next
  deriving Repr, DecidableEq

namespace Cursor

variable {dialect : Dialect} {source : List Char} {cursor : Cursor}

/-- The cursor after one call. -/
def after
    (cursor : Cursor) :
    Call → Cursor
  | .nextToken => cursor.nextToken.2
  | .next => cursor.next?.2

/-- The cursor after some calls, in order. -/
def afterAll
    (cursor : Cursor)
    (calls : List Call) :
    Cursor :=
  calls.foldl after cursor

theorem nextToken_snd (cursor : Cursor) :
    cursor.nextToken.2 = cursor.advance.2 := by
  unfold nextToken
  split <;> simp_all

/-- A cursor stands at a position of a source, with the rest of it to read. -/
structure Stands
    (dialect : Dialect)
    (source : List Char)
    (cursor : Cursor) :
    Prop where
  dialect_eq : cursor.dialect = dialect
  source_eq : cursor.source = source
  position_le : cursor.position ≤ source.length
  rest_eq : cursor.rest = source.drop cursor.position
  start_le : cursor.start ≤ cursor.position
  rest_nil : cursor.finished = true → cursor.rest = []

namespace Stands

theorem ofText
    (dialect : Dialect)
    (text : String) :
    (Cursor.ofText dialect text).Stands dialect text.toList where
  dialect_eq := rfl
  source_eq := rfl
  position_le := Nat.zero_le _
  rest_eq := rfl
  start_le := Nat.le_refl 0
  rest_nil := by
    intro finished
    cases finished

/-- What is read and what is left make up the source. -/
theorem position_add_length
    (stands : cursor.Stands dialect source) :
    cursor.position + cursor.rest.length = source.length := by
  have bound := stands.position_le
  rw [stands.rest_eq, List.length_drop]
  omega

/-- A cursor at the end of its text stands there, whether the closing token was given or not. -/
theorem atEnd
    (stands : cursor.Stands dialect source)
    (finished : Bool) :
    ({ cursor.atEnd with finished } : Cursor).Stands dialect source where
  dialect_eq := stands.dialect_eq
  source_eq := stands.source_eq
  position_le := Nat.le_of_eq stands.position_add_length
  rest_eq := by
    simp [Cursor.atEnd, stands.position_add_length]
  start_le := Nat.le_refl _
  rest_nil _ := rfl

/-- A cursor that is moved past a piece stands behind it. -/
theorem past
    {piece : Piece dialect}
    {after : List Char}
    (stands : cursor.Stands dialect source)
    (shape : cursor.rest = piece.text ++ after) :
    (cursor.past piece after).Stands dialect source where
  dialect_eq := stands.dialect_eq
  source_eq := stands.source_eq
  position_le := by
    have total := stands.position_add_length
    rw [shape, List.length_append] at total
    simp only [Cursor.past]
    omega
  rest_eq := by
    have dropped := congrArg (List.drop piece.text.length) shape
    rw [stands.rest_eq, List.drop_drop, List.drop_left] at dropped
    exact dropped.symm
  start_le := by
    simp [Cursor.past, Piece.text]
  rest_nil finished := by
    have nothing := stands.rest_nil finished
    have shorter := piece.length_text_pos
    rw [nothing] at shape
    have empty := congrArg List.length shape
    simp only [List.length_nil, List.length_append] at empty
    omega

/-- An advance stays in the source. -/
theorem advance
    (stands : cursor.Stands dialect source) :
    cursor.advance.2.Stands dialect source := by
  obtain rfl := stands.dialect_eq
  rcases cursor.advance_cases with
      ⟨-, stopped⟩ | ⟨piece, after, shape, -, found⟩
  · rw [stopped]
    exact stands.atEnd cursor.finished
  · rw [found]
    exact stands.past shape

/-- No call leaves the source. -/
theorem after
    (stands : cursor.Stands dialect source)
    (call : Call) :
    (cursor.after call).Stands dialect source := by
  cases call with
  | nextToken =>
      simpa [Cursor.after, nextToken_snd] using stands.advance
  | next =>
      obtain rfl := stands.dialect_eq
      cases finished : cursor.finished with
      | true =>
          simpa [Cursor.after, next?, finished] using stands
      | false =>
          rcases cursor.advance_cases with
              ⟨-, stopped⟩ | ⟨piece, after, shape, -, found⟩
          · simpa [Cursor.after, next?, finished, stopped] using
              stands.atEnd true
          · simpa [Cursor.after, next?, finished, found] using
              stands.past shape

/-- Any calls keep a cursor at its source. -/
theorem afterAll
    (stands : cursor.Stands dialect source)
    (calls : List Call) :
    (cursor.afterAll calls).Stands dialect source := by
  induction calls generalizing cursor with
  | nil =>
      exact stands
  | cons call later inductionHypothesis =>
      exact inductionHypothesis (stands.after call)

end Stands

/-- Wherever a cursor stands, one closing token is the last that it gives, at the end of the source. -/
theorem drain_closed
    (stands : cursor.Stands dialect source) :
    ∃ earlier,
      cursor.drain.1 =
        earlier ++ [{ offset := source.length, token := .endOfInput }] ∧
      ∀ placed ∈ earlier, placed.token.kind ≠ .endOfInput := by
  obtain ⟨layout, shape, read⟩ := cursor.exists_layout
  rw [read, ← stands.position_add_length, ← shape]
  exact layout.placedFrom_eq cursor.position

/-- Where nothing follows, nothing is left. -/
theorem remaining_of_stopped
    {after : Cursor}
    (stopped : cursor.next? = (none, after)) :
    cursor.remaining = ([], after) := by
  rw [remaining]
  split <;> rename_i given <;> rw [stopped] at given <;> cases given
  rfl

theorem remaining_of_finished
    (finished : cursor.finished = true) :
    cursor.remaining = ([], cursor) :=
  remaining_of_stopped (by simp [next?, finished])

/-- What is left is the next token and what is left behind it. -/
theorem remaining_of_next?
    {token : Token}
    {after : Cursor}
    (given : cursor.next? = (some token, after)) :
    cursor.remaining =
      ({ offset := after.start, token } :: after.remaining.1,
        after.remaining.2) := by
  rw [remaining]
  split <;> rename_i other <;> rw [given] at other <;> cases other
  rfl

/-- The iterator gives what reading through the closing token gives, but gives it only once. -/
theorem remaining_eq_drain (cursor : Cursor) :
    cursor.remaining.1 =
      if cursor.finished then [] else cursor.drain.1 := by
  cases finished : cursor.finished with
  | true =>
      simp [remaining_of_finished finished]
  | false =>
      rcases cursor.advance_cases with
          ⟨spaced, stopped⟩ | ⟨piece, after, shape, ends, found⟩
      · have given :
            cursor.next? =
              (some .endOfInput,
                { cursor.atEnd with finished := true }) := by
          simp [next?, finished, stopped]
        rw [remaining_of_next? given, remaining_of_finished rfl,
          drain_of_gap spaced]
        rfl
      · have given :
            cursor.next? =
              (some piece.lexeme.token, cursor.past piece after) := by
          simp [next?, finished, found]
        have later := remaining_eq_drain (cursor.past piece after)
        have unfinished : (cursor.past piece after).finished = false :=
          finished
        simp only [unfinished, Bool.false_eq_true, ↓reduceIte] at later
        rw [remaining_of_next? given, drain_of_piece rfl shape ends,
          later]
        rfl
termination_by cursor.rest.length
decreasing_by
  exact length_rest_past_lt shape

end Cursor

end MonkeyTokens
