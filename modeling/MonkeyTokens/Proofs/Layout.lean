import MonkeyTokens.Cursor
import MonkeyTokens.Proofs.Spelling

namespace MonkeyTokens

/-!
# Layouts

A layout writes lexemes one after another, with spacing between them where there
is any.  It has a text, and it says which tokens that text should give and where.
Every text is the text of a layout in which no two lexemes fuse, and reading gives
the tokens of that layout.  So a text gives the tokens that were written into it
exactly if no two neighbours fuse.
-/

/-- Spacing and nothing else; it may be empty. -/
def IsGap (gap : List Char) : Prop :=
  ∀ character ∈ gap, isSpacing character = true

theorem IsGap.nil : IsGap [] :=
  List.forall_mem_nil _

theorem IsGap.append
    {first second : List Char}
    (firstSpaced : IsGap first)
    (secondSpaced : IsGap second) :
    IsGap (first ++ second) :=
  List.forall_mem_append.mpr ⟨firstSpaced, secondSpaced⟩

/-- A lexeme of a dialect with the gap in front of it. -/
structure Piece (dialect : Dialect) where
  gap : List Char
  lexeme : Lexeme
  spaced : IsGap gap
  admitted : dialect.Admits lexeme

namespace Piece

variable {dialect : Dialect}

/-- The gap and the spelling of the lexeme. -/
def text (piece : Piece dialect) : List Char :=
  piece.gap ++ piece.lexeme.spelling

/-- The token of a piece whose gap starts at an offset. -/
def placed
    (start : Nat)
    (piece : Piece dialect) :
    Placed where
  offset := start + piece.gap.length
  token := piece.lexeme.token

/-- The lexeme of a piece has at least one character. -/
theorem length_spelling_pos (piece : Piece dialect) :
    0 < piece.lexeme.spelling.length :=
  List.length_pos_iff.mpr
    (Dialect.spelling_ne_nil_of_admits piece.admitted)

/-- No piece is empty. -/
theorem length_text_pos (piece : Piece dialect) :
    0 < piece.text.length := by
  rw [text, List.length_append]
  exact Nat.add_pos_right _ piece.length_spelling_pos

end Piece

/-- Lexemes with the gaps in front of them, and the gap at the end of the text. -/
inductive Layout (dialect : Dialect) where
  | ending (gap : List Char) (spaced : IsGap gap) : Layout dialect
  | cons (piece : Piece dialect) (later : Layout dialect) : Layout dialect

namespace Dialect

/--
Two lexemes fuse if without a gap the second would be read, at least in part, as
more of the first: two words, two numbers, a word and a dash where dashes continue
words, and an assignment or exclamation mark and a mark that begins with an equals
sign.
-/
def fuses (dialect : Dialect) : Lexeme → Lexeme → Bool
  | .word _, .word _ => true
  | .word _, .mark sign => dialect.dashInWords && sign == .minus
  | .number _, .number _ => true
  | .mark first, .mark second =>
      first.isOpen && (second == .assign || second == .equal)
  | _, _ => false

end Dialect

namespace Layout

variable {dialect : Dialect}

/-- The text that a layout writes. -/
def text : Layout dialect → List Char
  | .ending gap _ => gap
  | .cons piece later => piece.text ++ later.text

/-- The tokens that a layout writes, for a text that begins at an offset. -/
def placedFrom (start : Nat) : Layout dialect → List Placed
  | .ending gap _ =>
      [{ offset := start + gap.length, token := .endOfInput }]
  | .cons piece later =>
      piece.placed start :: later.placedFrom (start + piece.text.length)

/-- A layout may follow a lexeme: it keeps a distance or its first lexeme does not fuse. -/
def Follows (lexeme : Lexeme) : Layout dialect → Prop
  | .ending _ _ => True
  | .cons next _ =>
      next.gap = [] → dialect.fuses lexeme next.lexeme = false

/-- No empty gap stands between two neighbours that fuse. -/
def Separated : Layout dialect → Prop
  | .ending _ _ => True
  | .cons piece later => later.Follows piece.lexeme ∧ later.Separated

end Layout

namespace Dialect

variable {dialect : Dialect}

/-- Equals signs and dashes are operators on their own. -/
theorem ne_of_ofChar?_eq_none
    {character : Char}
    (missing : Mark.ofChar? character = none) :
    character ≠ '=' ∧ character ≠ '-' := by
  constructor <;>
    · rintro rfl
      cases missing

/-- The next lexeme continues the one before it exactly if the two fuse. -/
theorem continues_eq_fuses
    (first : Lexeme)
    {second : Lexeme}
    {character : Char}
    (admitted : dialect.Admits second)
    (head : second.spelling.head? = some character) :
    dialect.continues first character = dialect.fuses first second := by
  cases second with
  | mark sign =>
      cases first <;> cases sign <;>
        simp only [Lexeme.spelling, Mark.spelling, List.head?_cons,
          Option.some.injEq] at head <;>
        subst head <;>
        simp [continues, fuses, isWordPart, isWordStart]
  | word letters =>
      obtain ⟨begin, later, rfl, begins, -⟩ := isWord_iff.mp admitted
      obtain rfl : begin = character := by
        simpa [Lexeme.spelling] using head
      have noDigit := isDigit_of_isWordStart begins
      have different :=
        ne_of_ofChar?_eq_none (classes_of_begins (.inl begins)).1
      cases first <;>
        simp [continues, fuses, isWordPart, begins, noDigit, different]
  | number digits =>
      obtain ⟨begin, later, rfl, digit, -⟩ := isDigits_iff.mp admitted
      obtain rfl : begin = character := by
        simpa [Lexeme.spelling] using head
      have noLetter := isWordStart_of_isDigit digit
      have different :=
        ne_of_ofChar?_eq_none (classes_of_begins (.inr digit)).1
      cases first <;>
        simp [continues, fuses, isWordPart, digit, noLetter, different]
  | stray other =>
      obtain rfl : other = character := by
        simpa [Lexeme.spelling] using head
      have stray := admits_stray_iff.mp admitted
      simp only [isStray, Bool.and_eq_true, Bool.not_eq_true',
        Option.isNone_iff_eq_none] at stray
      have different := ne_of_ofChar?_eq_none stray.1.1.2
      cases first <;>
        simp [continues, fuses, isWordPart, stray, different]

end Dialect

namespace Layout

variable {dialect : Dialect}

/-- A lexeme ends before the text of a layout exactly if the layout may follow it. -/
theorem endsBefore_text_iff
    (lexeme : Lexeme)
    (layout : Layout dialect) :
    dialect.EndsBefore lexeme layout.text ↔ layout.Follows lexeme := by
  cases layout with
  | ending gap spaced =>
      refine ⟨fun _ => trivial, ?_⟩
      intro _ character first
      exact Dialect.continues_of_isSpacing lexeme
        (spaced character (List.mem_of_head? first))
  | cons next later =>
      rcases next with ⟨gap, second, spaced, admitted⟩
      cases gap with
      | cons blank blanks =>
          constructor
          · intro _ touching
            cases touching
          · intro _ character first
            obtain rfl : blank = character := by
              simpa [text, Piece.text] using first
            exact Dialect.continues_of_isSpacing lexeme
              (spaced blank (by simp))
      | nil =>
          obtain ⟨head, tail, spelled⟩ :=
            List.exists_cons_of_ne_nil
              (Dialect.spelling_ne_nil_of_admits admitted)
          have continued :=
            Dialect.continues_eq_fuses lexeme admitted
              (by rw [spelled]; rfl : _ = some head)
          simp [Dialect.EndsBefore, text, Piece.text, Follows, spelled,
            continued]

/-- Every text is a gap or begins with a lexeme that is read to its end. -/
theorem gap_or_piece
    (dialect : Dialect)
    (text : List Char) :
    IsGap text ∨
      ∃ (piece : Piece dialect) (after : List Char),
        text = piece.text ++ after ∧
          dialect.EndsBefore piece.lexeme after := by
  have whole :=
    List.takeWhile_append_dropWhile (p := isSpacing) (l := text)
  have blank : IsGap (text.takeWhile isSpacing) :=
    List.all_eq_true.mp List.all_takeWhile
  cases shape : text.dropWhile isSpacing with
  | nil =>
      left
      rw [shape, List.append_nil] at whole
      rwa [whole] at blank
  | cons head rest =>
      right
      have solid : isSpacing head = false :=
        Dialect.class_of_head?_dropWhile head (by rw [shape]; rfl)
      obtain ⟨admitted, ends⟩ :=
        dialect.admits_lexemeAt solid rest
      refine
        ⟨⟨text.takeWhile isSpacing, (dialect.lexemeAt head rest).1,
          blank, admitted⟩, (dialect.lexemeAt head rest).2, ?_, ends⟩
      rw [Piece.text, List.append_assoc,
        dialect.spelling_append_lexemeAt, ← shape, whole]

/--
Every text is written by a layout in which no neighbours fuse: each lexeme is read to
its end, so the layout of the rest may follow it.
-/
theorem exists_separated
    (dialect : Dialect)
    (text : List Char) :
    ∃ layout : Layout dialect,
      layout.text = text ∧ layout.Separated := by
  rcases gap_or_piece dialect text with
      spaced | ⟨piece, after, rfl, ends⟩
  · exact ⟨.ending text spaced, rfl, trivial⟩
  · obtain ⟨later, rfl, separated⟩ := exists_separated dialect after
    exact ⟨.cons piece later, rfl,
      (endsBefore_text_iff piece.lexeme later).mp ends, separated⟩
termination_by text.length
decreasing_by
  rename_i shape
  rw [shape, List.length_append]
  have := piece.length_text_pos
  omega

/-- The closing token starts at the end of the text. -/
theorem placedFrom_eq
    (start : Nat)
    (layout : Layout dialect) :
    ∃ earlier,
      layout.placedFrom start =
        earlier ++
          [{ offset := start + layout.text.length, token := .endOfInput }] ∧
      ∀ placed ∈ earlier, placed.token.kind ≠ .endOfInput := by
  induction layout generalizing start with
  | ending gap spaced =>
      exact ⟨[], rfl, by simp⟩
  | cons piece later inductionHypothesis =>
      obtain ⟨earlier, shape, unended⟩ :=
        inductionHypothesis (start + piece.text.length)
      refine ⟨piece.placed start :: earlier, ?_, ?_⟩
      · simp [placedFrom, shape, text, Nat.add_assoc]
      · intro placed member
        rcases List.mem_cons.mp member with rfl | inEarlier
        · exact piece.lexeme.kind_ne_endOfInput
        · exact unended placed inEarlier

/--
A text and the tokens placed in it determine the layout that wrote them, since equal
offsets make the gaps equally long.
-/
theorem eq_of_placedFrom
    {start : Nat}
    {first second : Layout dialect}
    (sameText : first.text = second.text)
    (samePlaced : first.placedFrom start = second.placedFrom start) :
    first = second := by
  induction first generalizing start second with
  | ending gap spaced =>
      cases second with
      | ending other otherSpaced =>
          obtain rfl : gap = other := sameText
          rfl
      | cons piece later =>
          simp only [placedFrom, List.cons.injEq, Piece.placed,
            Placed.mk.injEq] at samePlaced
          have ended := congrArg Token.kind samePlaced.1.2
          exact (piece.lexeme.kind_ne_endOfInput ended.symm).elim
  | cons piece later inductionHypothesis =>
      cases second with
      | ending gap spaced =>
          simp only [placedFrom, List.cons.injEq, Piece.placed,
            Placed.mk.injEq] at samePlaced
          have ended := congrArg Token.kind samePlaced.1.2
          exact (piece.lexeme.kind_ne_endOfInput ended).elim
      | cons other others =>
          simp only [placedFrom, List.cons.injEq, Piece.placed,
            Placed.mk.injEq] at samePlaced
          obtain ⟨⟨sameOffset, sameToken⟩, sameLater⟩ := samePlaced
          simp only [text, Piece.text, List.append_assoc] at sameText
          obtain ⟨sameGap, sameTail⟩ :=
            List.append_inj sameText (by omega)
          have sameLexeme := Lexeme.eq_of_token sameToken sameTail
          obtain rfl : piece = other := by
            cases piece
            cases other
            cases sameGap
            cases sameLexeme
            rfl
          rw [inductionHypothesis (List.append_cancel_left sameTail)
            sameLater]

end Layout

end MonkeyTokens
