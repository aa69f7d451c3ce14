import MonkeyTokens.Cursor
import MonkeyTokens.Proofs.Calls

namespace MonkeyTokens

/-!
# Strict and lenient reading

Strict reading gives the tokens of lenient reading as long as none of them is
illegal.  At the first illegal token it stops with an error that names the character
at the offset of the token and its place in the whole text.  This holds wherever the
cursor stands, also at the end of its text and behind a closing token.
-/

/-- The first token of a character that belongs to no token. -/
def firstIllegal? (tokens : List Placed) : Option Placed :=
  tokens.find? fun placed => placed.token.kind == .illegal

/-- What strict reading makes of the tokens that lenient reading gives. -/
inductive ReadsStrictly (source : List Char) : List Placed → Reading → Prop where
  /-- Without an illegal token all tokens are read. -/
  | completed
      {tokens : List Placed}
      (legal : firstIllegal? tokens = none) :
      ReadsStrictly source tokens { tokens, fault := none }
  /-- The first illegal token is the last that is read, and its character is the fault. -/
  | stopped
      (earlier later : List Placed)
      (placed : Placed)
      (character : Char)
      (legal : firstIllegal? earlier = none)
      (illegal : placed.token.kind = .illegal)
      (found : source[placed.offset]? = some character) :
      ReadsStrictly source (earlier ++ placed :: later)
        { tokens := earlier ++ [placed]
          fault :=
            some (IllegalCharacter.within source placed.offset character) }

/-- The result of strict reading follows from the tokens of lenient reading and their source. -/
structure Agreement
    (source : List Char)
    (lenient : List Placed)
    (strict : Except IllegalCharacter (List Token)) :
    Prop where
  /-- Strict reading succeeds if there is no illegal token, with the same tokens. -/
  accepts :
    ∀ tokens,
      strict = .ok tokens ↔
        (∀ placed ∈ lenient, placed.token.kind ≠ .illegal) ∧
          tokens = lenient.map Placed.token
  /-- Strict reading fails at the first illegal token, with its character and place. -/
  refuses :
    ∀ fault,
      strict = .error fault ↔
        ∃ placed character,
          firstIllegal? lenient = some placed ∧
            source[placed.offset]? = some character ∧
            fault =
              { character
                offset := placed.offset
                place := Text.Place.ofOffset source placed.offset }

/-- There is no first illegal token exactly if none is illegal. -/
theorem firstIllegal?_eq_none_iff {tokens : List Placed} :
    firstIllegal? tokens = none ↔
      ∀ placed ∈ tokens, placed.token.kind ≠ .illegal := by
  simp [firstIllegal?, List.find?_eq_none]

theorem firstIllegal?_append_cons
    {earlier : List Placed}
    {placed : Placed}
    (legal : firstIllegal? earlier = none)
    (illegal : placed.token.kind = .illegal)
    (later : List Placed) :
    firstIllegal? (earlier ++ placed :: later) = some placed := by
  unfold firstIllegal? at legal ⊢
  simp [List.find?_append, legal, illegal]

namespace ReadsStrictly

variable {source : List Char}

/-- A legal token in front is read and changes nothing else. -/
theorem cons
    {tokens : List Placed}
    {reading : Reading}
    {placed : Placed}
    (reads : ReadsStrictly source tokens reading)
    (legal : placed.token.kind ≠ .illegal) :
    ReadsStrictly source (placed :: tokens) (reading.cons placed) := by
  have kept {others : List Placed}
      (without : firstIllegal? others = none) :
      firstIllegal? (placed :: others) = none := by
    rw [firstIllegal?_eq_none_iff] at without ⊢
    simpa [legal] using without
  cases reads with
  | completed without =>
      exact .completed (kept without)
  | stopped earlier later first character without illegal found =>
      exact .stopped (placed :: earlier) later first character
        (kept without) illegal found

/-- The result of a strict reading agrees with the tokens that it was made of. -/
theorem agreement
    {lenient : List Placed}
    {reading : Reading}
    (reads : ReadsStrictly source lenient reading) :
    Agreement source lenient reading.result := by
  cases reads with
  | completed legal =>
      constructor
      · intro tokens
        simp only [Reading.result, Except.ok.injEq]
        rw [← firstIllegal?_eq_none_iff]
        simp [legal, eq_comm]
      · intro fault
        simp [Reading.result, legal]
  | stopped earlier later placed character legal illegal found =>
      have first := firstIllegal?_append_cons legal illegal later
      constructor
      · intro tokens
        simp only [Reading.result, reduceCtorEq, false_iff]
        rintro ⟨allLegal, -⟩
        exact allLegal placed (by simp) illegal
      · intro fault
        simp only [Reading.result, Except.error.injEq, first,
          Option.some.injEq]
        constructor
        · rintro rfl
          exact ⟨placed, character, rfl, found, rfl⟩
        · rintro ⟨other, named, rfl, foundToo, rfl⟩
          obtain rfl : character = named := by
            simpa [found] using foundToo
          rfl

end ReadsStrictly

namespace Cursor

variable {dialect : Dialect} {cursor : Cursor}

/-- In front of nothing but spacing a strict reading finds the closing token. -/
theorem strictly_of_gap
    (spaced : IsGap cursor.rest) :
    cursor.strictly = { tokens := cursor.drain.1, fault := none } := by
  rw [strictly, drain_of_gap spaced]
  split <;> rename_i taken <;> rw [advance_of_gap spaced] at taken <;>
    cases taken
  rfl

/-- A strict reading stops at a stray character. -/
theorem strictly_of_stray
    {piece : Piece dialect}
    {after : List Char}
    {character : Char}
    (same : cursor.dialect = dialect)
    (shape : cursor.rest = piece.text ++ after)
    (stray : piece.lexeme = .stray character) :
    cursor.strictly =
      { tokens := [piece.placed cursor.position]
        fault :=
          some
            (IllegalCharacter.within cursor.source
              (piece.placed cursor.position).offset character) } := by
  have ends : dialect.EndsBefore piece.lexeme after := by
    rw [stray]
    intro _ _
    rfl
  have found := advance_of_piece same shape ends
  rw [stray] at found
  rw [strictly]
  split
  · rename_i next stopped
    rw [found] at stopped
    cases stopped
  · rename_i next strayed
    rw [found] at strayed
    cases strayed
    simp [Piece.placed, past, stray]
  · rename_i next legal taken
    rw [found] at taken
    cases taken
    exact (legal character rfl).elim

/-- A strict reading goes on behind any other lexeme. -/
theorem strictly_of_legal
    {piece : Piece dialect}
    {after : List Char}
    (same : cursor.dialect = dialect)
    (shape : cursor.rest = piece.text ++ after)
    (ends : dialect.EndsBefore piece.lexeme after)
    (legal : piece.lexeme.kind ≠ .illegal) :
    cursor.strictly =
      (cursor.past piece after).strictly.cons
        (piece.placed cursor.position) := by
  have found := advance_of_piece same shape ends
  rw [strictly]
  split
  · rename_i next stopped
    rw [found] at stopped
    cases stopped
  · rename_i character next strayed
    rw [found] at strayed
    have stray := Option.some.inj (Prod.mk.inj strayed).1
    exact
      (legal (Lexeme.kind_eq_illegal_iff.mpr ⟨character, stray⟩)).elim
  · rename_i next _ taken
    rw [found] at taken
    cases taken
    rfl

/-- The character of a fault is found in the whole source, at the offset of its token. -/
theorem Stands.getElem?_of_stray
    {source : List Char}
    {piece : Piece dialect}
    {after : List Char}
    {character : Char}
    (stands : cursor.Stands dialect source)
    (shape : cursor.rest = piece.text ++ after)
    (stray : piece.lexeme = .stray character) :
    source[(piece.placed cursor.position).offset]? = some character := by
  rw [stands.rest_eq] at shape
  have placed := congrArg (·[piece.gap.length]?) shape
  simpa [Piece.placed, Piece.text, stray, Lexeme.spelling] using placed

/-- Strict reading makes of a text what it should make of the tokens of lenient reading. -/
theorem readsStrictly_drain
    {dialect : Dialect}
    {source : List Char}
    {cursor : Cursor}
    (stands : cursor.Stands dialect source) :
    ReadsStrictly source cursor.drain.1 cursor.strictly := by
  obtain rfl := stands.dialect_eq
  rcases cursor.advance_cases with
      ⟨spaced, -⟩ | ⟨piece, after, shape, ends, -⟩
  · rw [strictly_of_gap spaced, drain_of_gap spaced]
    exact .completed rfl
  rw [drain_of_piece rfl shape ends]
  by_cases legal : piece.lexeme.kind = .illegal
  · obtain ⟨character, stray⟩ := Lexeme.kind_eq_illegal_iff.mp legal
    rw [strictly_of_stray rfl shape stray, stands.source_eq]
    exact .stopped [] _ _ character rfl legal
      (stands.getElem?_of_stray shape stray)
  · rw [strictly_of_legal rfl shape ends legal]
    exact (readsStrictly_drain (stands.past shape)).cons legal
termination_by cursor.rest.length
decreasing_by
  exact length_rest_past_lt shape

theorem remaining_ofText
    (dialect : Dialect)
    (text : String) :
    (ofText dialect text).remaining.1 =
      (ofText dialect text).drain.1 :=
  remaining_eq_drain (ofText dialect text)

end Cursor

/--
Strict reading agrees with lenient reading from every cursor that any calls lead
to, and so do the whole readings built on the two.  What a cursor still gives ends
with one closing token, also if it has given that token before.
-/
theorem strict_agrees_with_lenient
    (dialect : Dialect)
    (text : String) :
    (∀ calls : List Call,
      let cursor := (Cursor.ofText dialect text).afterAll calls
      (∃ earlier,
        cursor.drain.1 =
          earlier ++
            [{ offset := text.toList.length, token := .endOfInput }] ∧
        ∀ placed ∈ earlier, placed.token.kind ≠ .endOfInput) ∧
      Agreement text.toList cursor.drain.1 cursor.strictly.result) ∧
    (tokenizeStrict text = .ok (tokenize text) ↔
      ∀ token ∈ tokenize text, token.kind ≠ .illegal) ∧
    (Options.read { dialect, strict := false } text).fault = none ∧
    Agreement text.toList
      (Options.read { dialect, strict := false } text).tokens
      (Options.read { dialect, strict := true } text).result := by
  refine ⟨?_, ?_, rfl, ?_⟩
  · intro calls
    have stands := (Cursor.Stands.ofText dialect text).afterAll calls
    exact ⟨Cursor.drain_closed stands,
      (Cursor.readsStrictly_drain stands).agreement⟩
  · have agreement :=
      (Cursor.readsStrictly_drain (Cursor.Stands.ofText {} text)).agreement
    simp only [tokenizeStrict, tokenize, Cursor.remaining_ofText,
      agreement.accepts, and_true, List.forall_mem_map]
  · have agreement :=
      (Cursor.readsStrictly_drain
        (Cursor.Stands.ofText dialect text)).agreement
    simpa [Options.read, Cursor.remaining_ofText] using agreement

end MonkeyTokens
