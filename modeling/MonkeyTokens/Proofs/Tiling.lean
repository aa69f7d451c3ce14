import MonkeyTokens.Proofs.RoundTrip

namespace MonkeyTokens

/-!
# Tokens tile their text

Every character of a text is spacing or lies in exactly one token, and a token
holds exactly the characters that it covers.  Nothing is lost, read twice or made
up: the text can be restored from its spacing and its tokens, but for the strays,
whose tokens are empty.
-/

/-- The number of characters that a token takes up in its text. -/
def Token.width (token : Token) : Nat :=
  match token.kind with
  | .illegal => 1
  | .endOfInput => 0
  | _ => token.literal.length

/-- A position of the text lies within a placed token. -/
def Placed.Covers
    (placed : Placed)
    (position : Nat) :
    Prop :=
  placed.offset ≤ position ∧
    position < placed.offset + placed.token.width

/--
The legal spellings of a kind.  A word is spelled alike whether it is reserved or
not, and looking it up gives its kind.
-/
def Dialect.SpellsKind
    (dialect : Dialect)
    (letters : List Char) :
    Kind → Prop
  | .mark sign => letters = sign.spelling
  | .integer =>
      letters ≠ [] ∧ ∀ character ∈ letters, character.isDigit = true
  | .identifier =>
      dialect.isWord letters = true ∧
        Kind.ofWord (String.ofList letters) = .identifier
  | .keyword reserved =>
      dialect.isWord letters = true ∧
        Kind.ofWord (String.ofList letters) = .keyword reserved
  | .illegal => False
  | .endOfInput => False

/-- The tokens of a source, with their offsets, account for each of its characters. -/
structure Tiling
    (dialect : Dialect)
    (source : List Char)
    (tokens : List Placed) :
    Prop where
  /-- One closing token stands at the end of the source, behind all others. -/
  closed :
    ∃ earlier,
      tokens =
        earlier ++ [{ offset := source.length, token := .endOfInput }] ∧
      ∀ placed ∈ earlier, placed.token.kind ≠ .endOfInput
  /-- Tokens stand in the order of their offsets and do not overlap. -/
  ordered :
    tokens.Pairwise fun first second =>
      first.offset < second.offset ∧
        first.offset + first.token.width ≤ second.offset
  /-- Spacing is what lies between the tokens, and all that lies there. -/
  spaced :
    ∀ position character, source[position]? = some character →
      (isSpacing character = true ↔
        ∀ placed ∈ tokens, ¬ placed.Covers position)
  /-- A token holds the characters that it covers, which are legal for its kind. -/
  spelled :
    ∀ placed ∈ tokens,
      placed.token.kind ≠ .illegal →
      placed.token.kind ≠ .endOfInput →
      1 ≤ placed.token.width ∧
        (source.drop placed.offset).take placed.token.width =
          placed.token.literal.toList ∧
        dialect.SpellsKind placed.token.literal.toList
          placed.token.kind
  /-- An illegal token is empty and stands at a character that begins no other token. -/
  stray :
    ∀ placed ∈ tokens,
      placed.token.kind = .illegal →
      placed.token.literal = "" ∧
        ∃ character,
          source[placed.offset]? = some character ∧
            dialect.Admits (.stray character)

namespace Lexeme

theorem width_token (lexeme : Lexeme) :
    lexeme.token.width = lexeme.spelling.length := by
  cases lexeme with
  | word letters =>
      rcases Kind.ofWord_cases (String.ofList letters) with
          named | ⟨reserved, named⟩ <;>
        simp [token, Token.width, kind, named, literal]
  | _ =>
      simp [token, Token.width, kind, literal, spelling]

/-- A mark, word or number leaves its spelling in its token, and it is legal for the kind. -/
theorem spellsKind_token
    {dialect : Dialect}
    {lexeme : Lexeme}
    (admitted : dialect.Admits lexeme)
    (legal : lexeme.kind ≠ .illegal) :
    lexeme.literal.toList = lexeme.spelling ∧
      dialect.SpellsKind lexeme.spelling lexeme.kind := by
  cases lexeme with
  | mark sign =>
      simp [literal, kind, Dialect.SpellsKind, spelling]
  | word letters =>
      rcases Kind.ofWord_cases (String.ofList letters) with
          named | ⟨reserved, named⟩ <;>
        simp only [literal, String.toList_ofList, kind, named,
          Dialect.SpellsKind, spelling, and_true, true_and] <;>
        exact admitted
  | number digits =>
      simp only [literal, String.toList_ofList, true_and, kind,
        Dialect.SpellsKind, spelling]
      simpa [Dialect.Admits, Dialect.Spells, Text.Decimal.isDigits] using
        admitted
  | stray character =>
      exact (legal rfl).elim

end Lexeme

namespace Piece

variable {dialect : Dialect}

/-- The token of a piece covers what the piece has behind its gap. -/
theorem covers_iff
    {start position : Nat}
    {piece : Piece dialect} :
    (piece.placed start).Covers (start + position) ↔
      piece.gap.length ≤ position ∧ position < piece.text.length := by
  simp only [Placed.Covers, placed, Lexeme.width_token, text,
    List.length_append]
  omega

/-- The lexeme of a piece covers all of it but the spacing in front. -/
theorem isSpacing_iff_not_covered
    (start : Nat)
    {position : Nat}
    {piece : Piece dialect}
    {character : Char}
    (found : piece.text[position]? = some character) :
    isSpacing character = true ↔
      ¬ (piece.placed start).Covers (start + position) := by
  have inside : position < piece.text.length :=
    (List.getElem?_eq_some_iff.mp found).1
  rw [covers_iff]
  rw [text] at found
  by_cases inGap : position < piece.gap.length
  · rw [List.getElem?_append_left inGap] at found
    simp only [piece.spaced character (List.mem_of_getElem? found),
      true_iff]
    omega
  · rw [List.getElem?_append_right (by omega)] at found
    have solid :=
      Dialect.isSpacing_of_admits piece.admitted character
        (List.mem_of_getElem? found)
    simp only [solid, Bool.false_eq_true, false_iff]
    omega

end Piece

namespace Layout

variable {dialect : Dialect}

theorem le_offset
    (start : Nat)
    (layout : Layout dialect) :
    ∀ placed ∈ layout.placedFrom start, start ≤ placed.offset := by
  induction layout generalizing start with
  | ending gap spaced =>
      simp [placedFrom]
  | cons piece later inductionHypothesis =>
      intro placed member
      rcases List.mem_cons.mp member with rfl | inLater
      · exact Nat.le_add_right start piece.gap.length
      · exact Nat.le_trans (Nat.le_add_right start piece.text.length)
          (inductionHypothesis (start + piece.text.length) placed inLater)

/-- The tokens of a layout stand one behind the other. -/
theorem ordered_placedFrom
    (start : Nat)
    (layout : Layout dialect) :
    (layout.placedFrom start).Pairwise fun first second =>
      first.offset < second.offset ∧
        first.offset + first.token.width ≤ second.offset := by
  induction layout generalizing start with
  | ending gap spaced =>
      exact List.pairwise_singleton _ _
  | cons piece later inductionHypothesis =>
      refine List.pairwise_cons.mpr
        ⟨?_, inductionHypothesis (start + piece.text.length)⟩
      intro placed inLater
      have behind :=
        le_offset (start + piece.text.length) later placed inLater
      have spelled := piece.length_spelling_pos
      simp only [Piece.placed, Lexeme.width_token]
      simp only [Piece.text, List.length_append] at behind
      omega

/-- A character of the text is spacing exactly if no token covers it. -/
theorem isSpacing_iff_not_covered
    (start : Nat)
    {position : Nat}
    {layout : Layout dialect}
    {character : Char}
    (found : layout.text[position]? = some character) :
    isSpacing character = true ↔
      ∀ placed ∈ layout.placedFrom start,
        ¬ placed.Covers (start + position) := by
  induction layout generalizing start position with
  | ending gap spaced =>
      simp only [spaced character (List.mem_of_getElem? found), true_iff]
      intro placed member
      obtain rfl := List.mem_singleton.mp member
      simp [Placed.Covers, Token.width, Token.endOfInput]
  | cons piece later inductionHypothesis =>
      simp only [text] at found
      simp only [placedFrom, List.forall_mem_cons]
      by_cases inPiece : position < piece.text.length
      · rw [List.getElem?_append_left inPiece] at found
        rw [piece.isSpacing_iff_not_covered start found]
        have uncovered :
            ∀ placed ∈ later.placedFrom (start + piece.text.length),
              ¬ placed.Covers (start + position) := by
          intro placed inLater covered
          have behind :=
            le_offset (start + piece.text.length) later placed inLater
          have reached := covered.1
          omega
        exact ⟨fun apart => ⟨apart, uncovered⟩, And.left⟩
      · rw [List.getElem?_append_right (by omega)] at found
        have passed : ¬ (piece.placed start).Covers (start + position) := by
          rw [Piece.covers_iff]
          omega
        have shifted :
            start + piece.text.length +
                (position - piece.text.length) =
              start + position := by
          omega
        rw [inductionHypothesis (start + piece.text.length) found,
          shifted]
        exact ⟨fun apart => ⟨passed, apart⟩, And.right⟩

/-- Each token of a layout closes the text or is that of a piece of it. -/
theorem mem_placedFrom
    {start : Nat}
    {layout : Layout dialect}
    {placed : Placed}
    (member : placed ∈ layout.placedFrom start) :
    placed.token = .endOfInput ∨
      ∃ (before : List Char) (piece : Piece dialect) (after : List Char),
        layout.text = before ++ piece.text ++ after ∧
          placed = piece.placed (start + before.length) := by
  induction layout generalizing start with
  | ending gap spaced =>
      obtain rfl := List.mem_singleton.mp member
      exact .inl rfl
  | cons piece later inductionHypothesis =>
      rcases List.mem_cons.mp member with rfl | inLater
      · exact .inr ⟨[], piece, later.text, rfl, rfl⟩
      · rcases inductionHypothesis inLater with
            closing | ⟨before, found, after, shape, rfl⟩
        · exact .inl closing
        · refine .inr ⟨piece.text ++ before, found, after, ?_, ?_⟩
          · simp [text, shape]
          · simp [Nat.add_assoc]

/-- The tokens of a layout tile its text. -/
theorem tiling_placedFrom (layout : Layout dialect) :
    Tiling dialect layout.text (layout.placedFrom 0) where
  closed := by
    simpa using layout.placedFrom_eq 0
  ordered :=
    layout.ordered_placedFrom 0
  spaced position character found := by
    simpa using isSpacing_iff_not_covered 0 found
  spelled := by
    intro placed member legal unended
    rcases mem_placedFrom member with
        closing | ⟨before, piece, after, shape, rfl⟩
    · exact (unended (by rw [closing]; rfl)).elim
    · obtain ⟨literal, spells⟩ :=
        Lexeme.spellsKind_token piece.admitted legal
      simp only [Piece.placed, Lexeme.width_token]
      simp only [Lexeme.token, literal]
      refine ⟨piece.length_spelling_pos, ?_, spells⟩
      have dropped :
          layout.text.drop (before ++ piece.gap).length =
            piece.lexeme.spelling ++ after := by
        rw [shape, Piece.text, List.append_assoc, List.append_assoc,
          ← List.append_assoc, List.drop_left]
      rw [Nat.zero_add, ← List.length_append, dropped, List.take_left]
  stray := by
    intro placed member illegal
    rcases mem_placedFrom member with
        closing | ⟨before, piece, after, shape, rfl⟩
    · rw [closing] at illegal
      cases illegal
    · obtain ⟨character, stray⟩ :=
        Lexeme.kind_eq_illegal_iff.mp illegal
      have admitted := piece.admitted
      rw [stray] at admitted
      refine ⟨by simp [Piece.placed, stray, Lexeme.token, Lexeme.literal],
        character, ?_, admitted⟩
      simp [shape, Piece.placed, Piece.text, stray, Lexeme.spelling]

end Layout

/--
The tokens that a fresh cursor gives through the first closing token tile the text:
they are in order, spacing is exactly what lies between them, and each holds the
characters it covers, spelled as its kind demands.
-/
theorem Cursor.drain_tiles
    (dialect : Dialect)
    (text : String) :
    Tiling dialect text.toList (ofText dialect text).drain.1 := by
  obtain ⟨layout, shape, separated⟩ :=
    Layout.exists_separated dialect text.toList
  have read :
      (ofText dialect text).drain.1 = layout.placedFrom 0 :=
    drain_of_separated separated rfl shape.symm
  rw [read, ← shape]
  exact layout.tiling_placedFrom

end MonkeyTokens
