import MonkeyTokens.Lexeme
import MonkeyTokens.Reading

namespace MonkeyTokens

/-!
# Reading a text token by token

A cursor stands between the part of a text that has been read and the part that
has not.  Two interfaces move it.  `nextToken` always gives a token and, at the
end, gives the closing token again and again.  `next?` gives the closing token
once and nothing after it.  They share the position, but only `next?` remembers
that it has given the closing token.

Whole readings are built on these steps: `remaining` and its partial forms on
`next?`, `drain` and `strictly` on the step below `nextToken`.
-/

/-- A position in a text, with the start of the token read last. -/
structure Cursor where
  dialect : Dialect
  source : List Char
  rest : List Char
  position : Nat
  start : Nat
  finished : Bool
  deriving Repr, DecidableEq

namespace Cursor

/-- The cursor at the start of a text. -/
def ofText
    (dialect : Dialect)
    (text : String) :
    Cursor where
  dialect := dialect
  source := text.toList
  rest := text.toList
  position := 0
  start := 0
  finished := false

/-- The offset of the token given last, zero before the first one. -/
def offset (cursor : Cursor) : Nat :=
  cursor.start

/-- Step over spacing and then over one lexeme, if one is left. -/
def advance (cursor : Cursor) : Option Lexeme × Cursor :=
  let start :=
    cursor.position + (cursor.rest.takeWhile isSpacing).length
  match cursor.rest.dropWhile isSpacing with
  | [] =>
      (none, { cursor with rest := [], position := start, start := start })
  | head :: rest =>
      let (lexeme, after) := cursor.dialect.lexemeAt head rest
      (some lexeme,
        { cursor with
          rest := after
          position := start + lexeme.spelling.length
          start := start })

/-- The next token; at the end of the text it is the closing token, however often it is asked for. -/
def nextToken (cursor : Cursor) : Token × Cursor :=
  match cursor.advance with
  | (none, after) =>
      (.endOfInput, after)
  | (some lexeme, after) =>
      (lexeme.token, after)

/-- The next token up to the first closing token, and nothing from there on. -/
def next? (cursor : Cursor) : Option Token × Cursor :=
  if cursor.finished then
    (none, cursor)
  else
    match cursor.advance with
    | (none, after) =>
        (some .endOfInput, { after with finished := true })
    | (some lexeme, after) =>
        (some lexeme.token, after)

/-- A step that finds a lexeme leaves less text to read. -/
theorem length_rest_lt_of_advance
    {cursor after : Cursor}
    {lexeme : Lexeme}
    (found : cursor.advance = (some lexeme, after)) :
    after.rest.length < cursor.rest.length := by
  unfold advance at found
  simp only at found
  split at found
  · simp at found
  · rename_i head rest shape
    simp only [Prod.mk.injEq] at found
    rw [← found.2]
    have shorter := cursor.dialect.length_lexemeAt_lt head rest
    have dropped :=
      (List.dropWhile_sublist isSpacing (l := cursor.rest)).length_le
    rw [shape] at dropped
    exact Nat.lt_of_lt_of_le shorter dropped

/-- A step says nothing about whether the closing token has been given. -/
theorem finished_advance (cursor : Cursor) :
    cursor.advance.2.finished = cursor.finished := by
  unfold advance
  simp only
  split <;> rfl

/-- A bound on the tokens that `next?` still gives. -/
def tokensLeft (cursor : Cursor) : Nat :=
  if cursor.finished then 0 else cursor.rest.length + 1

/-- Every token that `next?` gives lowers the bound on those to come. -/
theorem tokensLeft_lt_of_next?
    {cursor after : Cursor}
    {token : Token}
    (given : cursor.next? = (some token, after)) :
    after.tokensLeft < cursor.tokensLeft := by
  unfold next? at given
  split at given
  · simp at given
  · rename_i unfinished
    split at given
    · simp only [Prod.mk.injEq] at given
      rw [← given.2]
      simp [tokensLeft, unfinished]
    · rename_i lexeme next found
      simp only [Prod.mk.injEq] at given
      rw [← given.2]
      have shorter := length_rest_lt_of_advance found
      have unchanged : next.finished = cursor.finished := by
        simpa [found] using finished_advance cursor
      simpa [tokensLeft, unchanged, unfinished] using shorter

/-- The bounds that are promised on the tokens to come: none from either side. -/
def sizeHint (_ : Cursor) : Nat × Option Nat :=
  (0, none)

/-- All tokens that `next?` still gives, each with its offset. -/
def remaining (cursor : Cursor) : List Placed × Cursor :=
  match _ : cursor.next? with
  | (none, after) =>
      ([], after)
  | (some token, after) =>
      let (later, last) := remaining after
      ({ offset := after.start, token } :: later, last)
termination_by cursor.tokensLeft
decreasing_by exact tokensLeft_lt_of_next? ‹_›

/-- Drop some tokens of `next?` and give the one after them, if there are that many. -/
def nth : Nat → Cursor → Option Token × Cursor
  | 0, cursor =>
      cursor.next?
  | dropped + 1, cursor =>
      match cursor.next? with
      | (none, after) =>
          (none, after)
      | (some _, after) =>
          nth dropped after

/-- At most so many tokens of `next?`; the cursor moves no further than the last one. -/
def take : Nat → Cursor → List Token × Cursor
  | 0, cursor =>
      ([], cursor)
  | limit + 1, cursor =>
      match cursor.next? with
      | (none, after) =>
          ([], after)
      | (some token, after) =>
          let (later, last) := take limit after
          (token :: later, last)

/-- The first token of `next?` that is not to be skipped. -/
def skipWhile
    (skipped : Token → Bool)
    (cursor : Cursor) :
    Option Token × Cursor :=
  match _ : cursor.next? with
  | (none, after) =>
      (none, after)
  | (some token, after) =>
      if skipped token then
        skipWhile skipped after
      else
        (some token, after)
termination_by cursor.tokensLeft
decreasing_by exact tokensLeft_lt_of_next? ‹_›

/-- A token that is not the closing one leaves less text to read. -/
theorem length_rest_lt_of_nextToken
    {cursor after : Cursor}
    {token : Token}
    (given : cursor.nextToken = (token, after))
    (unended : ¬ token.isEnd) :
    after.rest.length < cursor.rest.length := by
  unfold nextToken at given
  split at given
  · cases given
    exact (unended rfl).elim
  · rename_i lexeme next found
    cases given
    exact length_rest_lt_of_advance found

/-- All tokens of `nextToken` through the first closing token, each with its offset. -/
def drain (cursor : Cursor) : List Placed × Cursor :=
  match _ : cursor.nextToken with
  | (token, after) =>
      if _ : token.isEnd then
        ([{ offset := after.start, token }], after)
      else
        let (later, last) := drain after
        ({ offset := after.start, token } :: later, last)
termination_by cursor.rest.length
decreasing_by exact length_rest_lt_of_nextToken ‹_› ‹_›

/-- Reading through the closing token is asking for one token after another. -/
theorem drain_eq_nextToken (cursor : Cursor) :
    cursor.drain =
      if cursor.nextToken.1.isEnd then
        ([{ offset := cursor.nextToken.2.start
            token := cursor.nextToken.1 }], cursor.nextToken.2)
      else
        ({ offset := cursor.nextToken.2.start
           token := cursor.nextToken.1 } ::
            cursor.nextToken.2.drain.1,
          cursor.nextToken.2.drain.2) := by
  rw [drain]
  split
  rename_i token after given
  rw [given]
  cases token.isEnd <;> simp

/--
Read as `drain` does, but stop at the first stray character, which is an error at
its place in the whole text.
-/
def strictly (cursor : Cursor) : Reading :=
  match _ : cursor.advance with
  | (none, after) =>
      { tokens := [{ offset := after.start, token := .endOfInput }]
        fault := none }
  | (some (.stray character), after) =>
      { tokens :=
          [{ offset := after.start, token := (Lexeme.stray character).token }]
        fault :=
          some
            (IllegalCharacter.within cursor.source after.start character) }
  | (some lexeme, after) =>
      (strictly after).cons { offset := after.start, token := lexeme.token }
termination_by cursor.rest.length
decreasing_by exact length_rest_lt_of_advance ‹_›

end Cursor

/-- All tokens of a text without dashes in words. -/
def tokenize (text : String) : List Token :=
  (Cursor.ofText {} text).remaining.1.map Placed.token

/-- All tokens of a text without dashes in words, unless it holds an illegal character. -/
def tokenizeStrict (text : String) : Except IllegalCharacter (List Token) :=
  (Cursor.ofText {} text).strictly.result

/-- The dialect of a text and the treatment of its illegal characters. -/
structure Options where
  dialect : Dialect := {}
  strict : Bool := false
  deriving Repr, DecidableEq

namespace Options

/-- Read a whole text as the options say. -/
def read
    (options : Options)
    (text : String) :
    Reading :=
  let cursor := Cursor.ofText options.dialect text
  if options.strict then
    cursor.strictly
  else
    { tokens := cursor.remaining.1, fault := none }

/-- The options as a record with all their fields. -/
def debug (options : Options) : String :=
  "Options \x7b config: LexerConfig \x7b dash_in_identifiers: " ++
    toString options.dialect.dashInWords ++ " \x7d, strict: " ++
    toString options.strict ++ " \x7d"

end Options

end MonkeyTokens
