import MonkeyTokens.Proofs.Calls
import MonkeyTokens.Proofs.Tiling

namespace MonkeyTokens

/-!
# Lexemes found in a text

Reading a text finds lexemes at offsets.  Every character that is no spacing lies in
one of them, and no two overlap.  What stands right in front of a lexeme is spacing
or the end of another lexeme, which the one behind it does not continue.  So what is
found around a character follows from the characters beside it.
-/

/-- Reading a text finds a lexeme at an offset, and finds it whole. -/
structure Dialect.Finds
    (dialect : Dialect)
    (text : String)
    (offset : Nat)
    (lexeme : Lexeme) :
    Prop where
  given :
    { offset, token := lexeme.token } ∈ (Cursor.ofText dialect text).drain.1
  admitted : dialect.Admits lexeme
  stands : lexeme.spelling <+: text.toList.drop offset
  /-- What stands behind the lexeme does not continue it. -/
  ends :
    dialect.EndsBefore lexeme
      (text.toList.drop (offset + lexeme.spelling.length))

/-- What stands at an offset of a text has its characters there. -/
theorem getElem?_of_stands
    {source letters : List Char}
    {offset index : Nat}
    {character : Char}
    (stands : letters <+: source.drop offset)
    (held : letters[index]? = some character) :
    source[offset + index]? = some character := by
  obtain ⟨rest, shape⟩ := stands
  have inside := (List.getElem?_eq_some_iff.mp held).1
  rw [← List.getElem?_drop, ← shape, List.getElem?_append_left inside, held]

theorem index_eq_zero_of_length
    {letters : List Char}
    {index : Nat}
    {character : Char}
    (held : letters[index]? = some character)
    (single : letters.length = 1) :
    index = 0 := by
  have inside := (List.getElem?_eq_some_iff.mp held).1
  omega

namespace Cursor

/-- The tokens of a text stand one behind the other. -/
theorem ordered_drain
    (dialect : Dialect)
    (text : String) :
    (ofText dialect text).drain.1.Pairwise fun first second =>
      first.offset < second.offset ∧
        first.offset + first.token.width ≤ second.offset := by
  obtain ⟨layout, -, read⟩ := (ofText dialect text).exists_layout
  rw [read]
  exact layout.ordered_placedFrom _

/-- Of two tokens of a text one ends before the other starts, unless they are the same. -/
theorem eq_or_apart
    {dialect : Dialect}
    {text : String}
    {first second : Placed}
    (firstMember : first ∈ (ofText dialect text).drain.1)
    (secondMember : second ∈ (ofText dialect text).drain.1) :
    first = second ∨
      first.offset + first.token.width ≤ second.offset ∨
      second.offset + second.token.width ≤ first.offset := by
  have ordered :=
    List.pairwise_iff_getElem.mp (ordered_drain dialect text)
  obtain ⟨index, inside, rfl⟩ := List.getElem_of_mem firstMember
  obtain ⟨other, otherInside, rfl⟩ := List.getElem_of_mem secondMember
  rcases Nat.lt_trichotomy index other with earlier | rfl | later
  · exact .inr (.inl (ordered index other inside otherInside earlier).2)
  · exact .inl rfl
  · exact .inr (.inr (ordered other index otherInside inside later).2)

/-- A token that a cursor gives closes its source or is that of a lexeme read to its end. -/
theorem exists_lexeme_of_mem_drain
    {dialect : Dialect}
    {source : List Char}
    {cursor : Cursor}
    {placed : Placed}
    (stands : cursor.Stands dialect source)
    (member : placed ∈ cursor.drain.1) :
    placed = { offset := source.length, token := .endOfInput } ∨
      ∃ lexeme, placed.token = lexeme.token ∧ dialect.Admits lexeme ∧
        lexeme.spelling <+: source.drop placed.offset ∧
        dialect.EndsBefore lexeme
          (source.drop (placed.offset + lexeme.spelling.length)) := by
  obtain rfl := stands.dialect_eq
  rcases cursor.advance_cases with
      ⟨spaced, -⟩ | ⟨piece, after, shape, ends, -⟩
  · rw [drain_of_gap spaced, stands.position_add_length] at member
    exact .inl (List.mem_singleton.mp member)
  · rw [drain_of_piece rfl shape ends] at member
    rcases List.mem_cons.mp member with rfl | inLater
    · have ahead :
          source.drop cursor.position =
            piece.gap ++ (piece.lexeme.spelling ++ after) := by
        rw [← stands.rest_eq, shape, Piece.text, List.append_assoc]
      have atLexeme :
          source.drop (cursor.position + piece.gap.length) =
            piece.lexeme.spelling ++ after := by
        rw [← List.drop_drop, ahead, List.drop_left]
      refine .inr ⟨piece.lexeme, rfl, piece.admitted, ?_, ?_⟩
      · exact ⟨after, atLexeme.symm⟩
      · rw [Piece.placed, ← List.drop_drop, atLexeme, List.drop_left]
        exact ends
    · exact exists_lexeme_of_mem_drain (stands.past shape) inLater
termination_by cursor.rest.length
decreasing_by exact length_rest_past_lt shape

end Cursor

namespace Dialect

variable {dialect : Dialect} {text : String}

/-- A token closes the text or is that of a lexeme found at its offset. -/
theorem closing_or_finds
    {placed : Placed}
    (member : placed ∈ (Cursor.ofText dialect text).drain.1) :
    placed = { offset := text.toList.length, token := .endOfInput } ∨
      ∃ lexeme, dialect.Finds text placed.offset lexeme ∧
        placed.token = lexeme.token := by
  rcases Cursor.exists_lexeme_of_mem_drain
      (Cursor.Stands.ofText dialect text) member with
      closing | ⟨lexeme, same, admitted, stands, ends⟩
  · exact .inl closing
  · refine .inr ⟨lexeme, ⟨?_, admitted, stands, ends⟩, same⟩
    rw [← same]
    exact member

/-- Every token but the closing one is that of a lexeme found at its offset. -/
theorem exists_finds_of_mem
    {placed : Placed}
    (member : placed ∈ (Cursor.ofText dialect text).drain.1)
    (unended : placed.token.kind ≠ .endOfInput) :
    ∃ lexeme, dialect.Finds text placed.offset lexeme ∧
      placed.token = lexeme.token := by
  rcases closing_or_finds member with rfl | found
  · exact (unended rfl).elim
  · exact found

/-- Every character that is no spacing lies in a lexeme. -/
theorem exists_finds_of_solid
    (dialect : Dialect)
    {position : Nat}
    {character : Char}
    (held : text.toList[position]? = some character)
    (solid : isSpacing character = false) :
    ∃ offset index lexeme, position = offset + index ∧
      lexeme.spelling[index]? = some character ∧
      dialect.Finds text offset lexeme := by
  obtain ⟨layout, shape, read⟩ := (Cursor.ofText dialect text).exists_layout
  have uncovered :=
    layout.isSpacing_iff_not_covered 0
      (by rw [shape]; exact held : layout.text[position]? = some character)
  simp only [solid, Bool.false_eq_true, false_iff, not_forall, not_not,
    Nat.zero_add] at uncovered
  obtain ⟨placed, inLayout, reached, within⟩ := uncovered
  have member : placed ∈ (Cursor.ofText dialect text).drain.1 := by
    rw [read]
    exact inLayout
  have unended : placed.token.kind ≠ .endOfInput := by
    intro ended
    simp only [Token.width, ended] at within
    omega
  obtain ⟨lexeme, found, same⟩ := exists_finds_of_mem member unended
  rw [same, Lexeme.width_token] at within
  obtain ⟨index, rfl⟩ := Nat.exists_eq_add_of_le reached
  refine ⟨placed.offset, index, lexeme, rfl, ?_, found⟩
  obtain ⟨rest, shape⟩ := found.stands
  rw [← List.getElem?_drop, ← shape,
    List.getElem?_append_left (by omega)] at held
  exact held

namespace Finds

variable {offset : Nat} {lexeme : Lexeme}

/-- The characters of a lexeme are those of the text from its offset on. -/
theorem getElem?_of_spelling
    (found : dialect.Finds text offset lexeme)
    {index : Nat}
    {character : Char}
    (spelled : lexeme.spelling[index]? = some character) :
    text.toList[offset + index]? = some character :=
  getElem?_of_stands found.stands spelled

/-- From its offset on the text is the lexeme and what stands behind it. -/
theorem drop_offset
    (found : dialect.Finds text offset lexeme) :
    text.toList.drop offset =
      lexeme.spelling ++
        text.toList.drop (offset + lexeme.spelling.length) := by
  rw [← List.drop_drop, List.prefix_iff_eq_append.mp found.stands]

/-- The character right behind a lexeme does not continue it. -/
theorem not_continued
    (found : dialect.Finds text offset lexeme)
    {character : Char}
    (behind :
      text.toList[offset + lexeme.spelling.length]? = some character) :
    dialect.continues lexeme character = false := by
  apply found.ends
  rw [List.head?_drop]
  exact behind

/-- Of two lexemes one ends before the other starts, unless they are the same. -/
theorem apart
    {otherOffset : Nat}
    {other : Lexeme}
    (found : dialect.Finds text offset lexeme)
    (otherFound : dialect.Finds text otherOffset other) :
    (offset = otherOffset ∧ lexeme = other) ∨
      offset + lexeme.spelling.length ≤ otherOffset ∨
      otherOffset + other.spelling.length ≤ offset := by
  rcases Cursor.eq_or_apart found.given otherFound.given with
      same | ends | ends
  · obtain ⟨rfl, sameToken⟩ := Placed.mk.inj same
    obtain ⟨rest, shape⟩ := found.stands
    obtain ⟨otherRest, otherShape⟩ := otherFound.stands
    exact .inl
      ⟨rfl, Lexeme.eq_of_token sameToken (shape.trans otherShape.symm)⟩
  · rw [Lexeme.width_token] at ends
    exact .inr (.inl ends)
  · rw [Lexeme.width_token] at ends
    exact .inr (.inr ends)

theorem length_spelling_pos
    (found : dialect.Finds text offset lexeme) :
    0 < lexeme.spelling.length :=
  List.length_pos_iff.mpr (spelling_ne_nil_of_admits found.admitted)

/-- Lexemes that are found do not overlap. -/
theorem end_le_of_lt
    {otherOffset : Nat}
    {other : Lexeme}
    (found : dialect.Finds text offset lexeme)
    (otherFound : dialect.Finds text otherOffset other)
    (behind : offset < otherOffset) :
    offset + lexeme.spelling.length ≤ otherOffset := by
  have otherPresent := otherFound.length_spelling_pos
  rcases found.apart otherFound with ⟨same, -⟩ | ends | ends
  · omega
  · exact ends
  · omega

/-- At one offset one lexeme is found. -/
theorem lexeme_eq
    {other : Lexeme}
    (found : dialect.Finds text offset lexeme)
    (otherFound : dialect.Finds text offset other) :
    lexeme = other := by
  have present := found.length_spelling_pos
  have otherPresent := otherFound.length_spelling_pos
  rcases found.apart otherFound with ⟨-, same⟩ | ends | ends
  · exact same
  · omega
  · omega

/-- Unless it is spacing, the character in front of a lexeme is the last one of another. -/
theorem exists_neighbour
    (found : dialect.Finds text offset lexeme)
    {before : Nat}
    {character : Char}
    (adjacent : before + 1 = offset)
    (held : text.toList[before]? = some character)
    (solid : isSpacing character = false) :
    ∃ start neighbour, dialect.Finds text start neighbour ∧
      start + neighbour.spelling.length = offset ∧
      character ∈ neighbour.spelling ∧
      ∀ first ∈ lexeme.spelling.head?,
        dialect.continues neighbour first = false := by
  obtain ⟨start, index, neighbour, rfl, spelled, beside⟩ :=
    dialect.exists_finds_of_solid held solid
  have inside := (List.getElem?_eq_some_iff.mp spelled).1
  have touches : start + neighbour.spelling.length = offset := by
    have present := found.length_spelling_pos
    rcases beside.apart found with ⟨same, -⟩ | ends | ends <;> omega
  refine ⟨start, neighbour, beside, touches,
    List.mem_of_getElem? spelled, ?_⟩
  intro first head
  rw [Option.mem_def, List.head?_eq_getElem?] at head
  apply beside.not_continued
  rw [touches]
  exact found.getElem?_of_spelling head

end Finds

/-! ## The lexemes that hold a character -/

/-- The class that the characters of a lexeme belong to. -/
def holds (dialect : Dialect) : Lexeme → Char → Bool
  | .mark _, character => (Mark.ofChar? character).isSome
  | .word _, character => dialect.isWordPart character
  | .number _, character => character.isDigit
  | .stray _, character => isStray character

/-- All characters of a lexeme belong to its class. -/
theorem holds_of_mem_spelling
    {lexeme : Lexeme}
    (admitted : dialect.Admits lexeme) :
    ∀ character ∈ lexeme.spelling,
      dialect.holds lexeme character = true := by
  intro character member
  cases lexeme with
  | mark sign =>
      rcases Mark.mem_spelling member with ⟨short, found⟩ | rfl
      · simp [holds, found]
      · rfl
  | word letters =>
      exact isWordPart_of_isWord admitted character member
  | number digits =>
      obtain ⟨first, later, rfl, digit, inLater⟩ :=
        isDigits_iff.mp admitted
      rcases List.mem_cons.mp member with rfl | among
      · exact digit
      · exact inLater character among
  | stray other =>
      obtain rfl : character = other := by
        simpa [Lexeme.spelling] using member
      exact admits_stray_iff.mp admitted

section Holding

variable {lexeme : Lexeme} {character : Char}

/-- Letters stand in words alone. -/
theorem exists_word_of_isWordStart
    (admitted : dialect.Admits lexeme)
    (member : character ∈ lexeme.spelling)
    (begins : isWordStart character = true) :
    ∃ letters, lexeme = .word letters := by
  have held := holds_of_mem_spelling admitted character member
  cases lexeme with
  | word letters =>
      exact ⟨letters, rfl⟩
  | mark sign =>
      simp [holds, (classes_of_begins (.inl begins)).1] at held
  | number digits =>
      simp [holds, isDigit_of_isWordStart begins] at held
  | stray other =>
      simp [holds, isStray, begins] at held

/-- Digits stand in numbers alone. -/
theorem exists_number_of_isDigit
    (admitted : dialect.Admits lexeme)
    (member : character ∈ lexeme.spelling)
    (digit : character.isDigit = true) :
    ∃ digits, lexeme = .number digits := by
  have held := holds_of_mem_spelling admitted character member
  cases lexeme with
  | number digits =>
      exact ⟨digits, rfl⟩
  | mark sign =>
      simp [holds, (classes_of_begins (.inr digit)).1] at held
  | word letters =>
      have different :=
        ne_of_ofChar?_eq_none (classes_of_begins (.inr digit)).1
      simp [holds, isWordPart, isWordStart_of_isDigit digit,
        different] at held
  | stray other =>
      simp [holds, isStray, digit] at held

/-- A character that is a mark stands in marks, and a dash may stand in words. -/
theorem exists_mark_or_word_of_ofChar?
    {sign : Mark}
    (admitted : dialect.Admits lexeme)
    (member : character ∈ lexeme.spelling)
    (found : Mark.ofChar? character = some sign) :
    (∃ other, lexeme = .mark other) ∨
      character = '-' ∧ dialect.dashInWords = true ∧
        ∃ letters, lexeme = .word letters := by
  have held := holds_of_mem_spelling admitted character member
  have classes := Mark.classes_of_ofChar? found
  cases lexeme with
  | mark other =>
      exact .inl ⟨other, rfl⟩
  | word letters =>
      obtain ⟨dashes, rfl⟩ :
          dialect.dashInWords = true ∧ character = '-' := by
        simpa [holds, isWordPart, classes] using held
      exact .inr ⟨rfl, dashes, letters, rfl⟩
  | number digits =>
      simp [holds, classes] at held
  | stray other =>
      simp [holds, isStray, found] at held

/-- A stray stands in no lexeme but its own. -/
theorem eq_stray_of_isStray
    (admitted : dialect.Admits lexeme)
    (member : character ∈ lexeme.spelling)
    (stray : isStray character = true) :
    lexeme = .stray character := by
  have held := holds_of_mem_spelling admitted character member
  simp only [isStray, Bool.and_eq_true, Bool.not_eq_true',
    Option.isNone_iff_eq_none] at stray
  obtain ⟨⟨⟨-, missing⟩, noLetter⟩, noDigit⟩ := stray
  cases lexeme with
  | stray other =>
      obtain rfl : character = other := by
        simpa [Lexeme.spelling] using member
      rfl
  | mark sign =>
      simp [holds, missing] at held
  | word letters =>
      simp [holds, isWordPart, noLetter,
        ne_of_ofChar?_eq_none missing] at held
  | number digits =>
      simp [holds, noDigit] at held

end Holding

/-! ## The tokens that are given -/

/-- A token of some kind and literal is given at an offset of a text. -/
def Gives
    (dialect : Dialect)
    (text : String)
    (offset : Nat)
    (kind : Kind)
    (literal : String) :
    Prop :=
  { offset, token := { kind, literal } } ∈
    (Cursor.ofText dialect text).drain.1

variable {offset : Nat} {kind : Kind} {literal : String}

/-- Unless it closes the text, a token that is given is the one of a lexeme found there. -/
theorem gives_iff
    (earlier : kind ≠ .endOfInput ∨ offset < text.toList.length) :
    dialect.Gives text offset kind literal ↔
      ∃ lexeme, dialect.Finds text offset lexeme ∧
        lexeme.token = { kind, literal } := by
  constructor
  · intro given
    rcases closing_or_finds given with closing | ⟨lexeme, found, same⟩
    · obtain ⟨rfl, sameToken⟩ := Placed.mk.inj closing
      obtain ⟨rfl, -⟩ := Token.mk.inj sameToken
      rcases earlier with different | before
      · exact (different rfl).elim
      · exact (Nat.lt_irrefl _ before).elim
    · exact ⟨lexeme, found, same.symm⟩
  · rintro ⟨lexeme, found, same⟩
    rw [Gives, ← same]
    exact found.given

theorem gives_integer_iff :
    dialect.Gives text offset .integer literal ↔
      dialect.Finds text offset (.number literal.toList) := by
  rw [gives_iff (.inl (by simp))]
  constructor
  · rintro ⟨lexeme, found, same⟩
    obtain ⟨sameKind, rfl⟩ := Token.mk.inj same
    obtain ⟨digits, rfl⟩ := Lexeme.kind_eq_integer_iff.mp sameKind
    simpa [Lexeme.literal, Lexeme.spelling] using found
  · intro found
    exact ⟨_, found,
      by simp [Lexeme.token, Lexeme.kind, Lexeme.literal, Lexeme.spelling]⟩

theorem gives_mark_iff {sign : Mark} :
    dialect.Gives text offset (.mark sign) literal ↔
      literal = String.ofList sign.spelling ∧
        dialect.Finds text offset (.mark sign) := by
  rw [gives_iff (.inl (by simp))]
  constructor
  · rintro ⟨lexeme, found, same⟩
    obtain ⟨sameKind, rfl⟩ := Token.mk.inj same
    obtain rfl := Lexeme.kind_eq_mark_iff.mp sameKind
    exact ⟨rfl, found⟩
  · rintro ⟨rfl, found⟩
    exact ⟨_, found, rfl⟩

end Dialect

end MonkeyTokens
