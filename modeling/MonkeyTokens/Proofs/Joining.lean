import MonkeyTokens.Proofs.Calls

namespace MonkeyTokens

/-!
# Texts joined by spacing

Spacing between two texts ends whatever was begun in the first and is skipped in
front of the second.  So the tokens of the whole are the tokens of the first
without the closing one, and then those of the second, moved to where it starts.
-/

/-- A token moved to a later offset. -/
def Placed.shift
    (distance : Nat)
    (placed : Placed) :
    Placed :=
  { placed with offset := placed.offset + distance }

namespace Layout

variable {dialect : Dialect}

/-- A layout with more spacing in front of it. -/
def indent
    (gap : List Char)
    (spaced : IsGap gap) :
    Layout dialect → Layout dialect
  | .ending last lastSpaced =>
      .ending (gap ++ last) (spaced.append lastSpaced)
  | .cons piece later =>
      .cons
        { piece with
          gap := gap ++ piece.gap
          spaced := spaced.append piece.spaced }
        later

/-- Two layouts with spacing between them. -/
def join
    (gap : List Char)
    (spaced : IsGap gap) :
    Layout dialect → Layout dialect → Layout dialect
  | .ending last lastSpaced, second =>
      second.indent (last ++ gap) (lastSpaced.append spaced)
  | .cons piece later, second =>
      .cons piece (later.join gap spaced second)

variable {gap : List Char} {spaced : IsGap gap}

theorem text_indent (layout : Layout dialect) :
    (layout.indent gap spaced).text = gap ++ layout.text := by
  cases layout <;> simp [indent, text, Piece.text]

/-- Indentation moves all lexemes by its length. -/
theorem placedFrom_indent
    (start : Nat)
    (layout : Layout dialect) :
    (layout.indent gap spaced).placedFrom start =
      layout.placedFrom (start + gap.length) := by
  cases layout <;>
    simp [indent, placedFrom, Piece.placed, Piece.text, Nat.add_assoc]

/-- Indentation keeps lexemes apart. -/
theorem separated_indent
    {layout : Layout dialect}
    (separated : layout.Separated) :
    (layout.indent gap spaced).Separated := by
  cases layout with
  | ending last lastSpaced =>
      trivial
  | cons piece later =>
      exact separated

/-- Behind spacing anything can follow a lexeme. -/
theorem follows_indent
    (present : gap ≠ [])
    (lexeme : Lexeme)
    (layout : Layout dialect) :
    (layout.indent gap spaced).Follows lexeme := by
  cases layout with
  | ending last lastSpaced =>
      trivial
  | cons piece later =>
      intro touching
      exact (present (List.append_eq_nil_iff.mp touching).1).elim

/-- The text of joined layouts is that of the parts with the gap between them. -/
theorem text_join (first second : Layout dialect) :
    (first.join gap spaced second).text =
      first.text ++ gap ++ second.text := by
  induction first with
  | ending last lastSpaced =>
      simp [join, text_indent, text]
  | cons piece later inductionHypothesis =>
      simp [join, text, inductionHypothesis]

/-- Joining drops the closing token of the first layout. -/
theorem placedFrom_join
    (start : Nat)
    (first second : Layout dialect) :
    (first.join gap spaced second).placedFrom start =
      (first.placedFrom start).dropLast ++
        second.placedFrom (start + first.text.length + gap.length) := by
  induction first generalizing start with
  | ending last lastSpaced =>
      simp [join, placedFrom_indent, placedFrom, text, Nat.add_assoc]
  | cons piece later inductionHypothesis =>
      have present : later.placedFrom (start + piece.text.length) ≠ [] := by
        cases later <;> simp [placedFrom]
      simp [join, placedFrom, inductionHypothesis, text,
        List.dropLast_cons_of_ne_nil present, Nat.add_assoc]

/-- Spacing keeps the lexemes on its two sides from fusing. -/
theorem separated_join
    {first second : Layout dialect}
    (present : gap ≠ [])
    (firstSeparated : first.Separated)
    (secondSeparated : second.Separated) :
    (first.join gap spaced second).Separated := by
  induction first with
  | ending last lastSpaced =>
      exact separated_indent secondSeparated
  | cons piece later inductionHypothesis =>
      obtain ⟨follows, laterSeparated⟩ := firstSeparated
      refine ⟨?_, inductionHypothesis laterSeparated⟩
      cases later with
      | ending last lastSpaced =>
          refine follows_indent ?_ piece.lexeme second
          simp [present]
      | cons next others =>
          exact follows

/-- The tokens of a layout that starts later are moved and otherwise the same. -/
theorem placedFrom_add
    (start distance : Nat)
    (layout : Layout dialect) :
    layout.placedFrom (start + distance) =
      (layout.placedFrom start).map (Placed.shift distance) := by
  induction layout generalizing start with
  | ending last lastSpaced =>
      simp [placedFrom, Placed.shift, Nat.add_right_comm]
  | cons piece later inductionHypothesis =>
      simp only [placedFrom, List.map_cons, ← inductionHypothesis]
      simp [Placed.shift, Piece.placed, Nat.add_right_comm]

end Layout

/-- A cursor in front of some spacing gives what the cursor behind it gives. -/
theorem Cursor.drain_of_indent
    {cursor behind : Cursor}
    {gap : List Char}
    (spaced : IsGap gap)
    (sameDialect : cursor.dialect = behind.dialect)
    (shape : cursor.rest = gap ++ behind.rest)
    (position : behind.position = cursor.position + gap.length) :
    cursor.drain.1 = behind.drain.1 := by
  obtain ⟨layout, text, separated⟩ :=
    Layout.exists_separated behind.dialect behind.rest
  have whole : cursor.rest = (layout.indent gap spaced).text := by
    rw [shape, Layout.text_indent, text]
  rw [drain_of_separated (Layout.separated_indent separated) sameDialect
      whole,
    drain_of_separated separated rfl text.symm,
    Layout.placedFrom_indent, position]

/--
Reading two texts with spacing between them gives the tokens of the first without
the closing one, and the tokens of the second where they stand in the whole.
-/
theorem Cursor.drain_join
    (dialect : Dialect)
    (first gap second : String)
    (present : gap ≠ "")
    (spaced : IsGap gap.toList) :
    (ofText dialect (first ++ gap ++ second)).drain.1 =
      (ofText dialect first).drain.1.dropLast ++
        (ofText dialect second).drain.1.map
          (Placed.shift (first.length + gap.length)) := by
  obtain ⟨left, leftText, leftSeparated⟩ :=
    Layout.exists_separated dialect first.toList
  obtain ⟨right, rightText, rightSeparated⟩ :=
    Layout.exists_separated dialect second.toList
  have separated :
      (left.join gap.toList spaced right).Separated :=
    Layout.separated_join (by simpa using present)
      leftSeparated rightSeparated
  have whole :
      (ofText dialect (first ++ gap ++ second)).rest =
        (left.join gap.toList spaced right).text := by
    simp [ofText, Layout.text_join, leftText, rightText]
  rw [drain_of_separated separated rfl whole,
    drain_of_separated leftSeparated rfl leftText.symm,
    drain_of_separated rightSeparated rfl rightText.symm]
  simp only [ofText, Layout.placedFrom_join, leftText,
    ← Layout.placedFrom_add, String.length_toList, Nat.add_assoc]

/-- The six spacing characters. -/
def spacings : List Char :=
  [' ', '\t', '\n', '\x0b', '\x0c', '\r']

theorem isSpacing_iff_mem_spacings {character : Char} :
    isSpacing character = true ↔ character ∈ spacings := by
  simp [isSpacing, spacings, or_assoc]

theorem isSpacing_of_mem_spacings
    {character : Char}
    (member : character ∈ spacings) :
    isSpacing character = true :=
  isSpacing_iff_mem_spacings.mpr member

/-- A text of listed characters alone is a gap. -/
theorem isGap_of_mem_spacings
    {gap : List Char}
    (members : ∀ blank ∈ gap, blank ∈ spacings) :
    IsGap gap := by
  intro blank member
  exact isSpacing_of_mem_spacings (members blank member)

/-- All tokens of a text, without their offsets. -/
def Dialect.tokens
    (dialect : Dialect)
    (text : String) :
    List Token :=
  (Cursor.ofText dialect text).drain.1.map Placed.token

namespace Dialect

variable {gap : String}

/-- The empty text has the closing token alone. -/
theorem tokens_nil (dialect : Dialect) :
    dialect.tokens "" = [.endOfInput] := by
  have spaced : IsGap (Cursor.ofText dialect "").rest := by
    simpa [Cursor.ofText] using IsGap.nil
  rw [tokens, Cursor.drain_of_gap spaced]
  rfl

/-- The last token of a text is the closing one. -/
theorem dropLast_tokens_append_end
    (dialect : Dialect)
    (text : String) :
    (dialect.tokens text).dropLast ++ [.endOfInput] =
      dialect.tokens text := by
  obtain ⟨earlier, shape, -⟩ :=
    Cursor.drain_closed (Cursor.Stands.ofText dialect text)
  simp [tokens, shape]

theorem tokens_ne_nil
    (dialect : Dialect)
    (text : String) :
    dialect.tokens text ≠ [] := by
  rw [← dropLast_tokens_append_end]
  exact List.concat_ne_nil _ _

/-- What spacing joins does not depend on the spacing. -/
theorem tokens_join
    (dialect : Dialect)
    (present : gap ≠ "")
    (spaced : IsGap gap.toList)
    (first second : String) :
    dialect.tokens (first ++ gap ++ second) =
      (dialect.tokens first).dropLast ++ dialect.tokens second := by
  simp only [tokens, Cursor.drain_join dialect first gap second present spaced,
    List.map_append, List.map_map, List.map_dropLast]
  rfl

/-- Spacing in front of a text gives no token. -/
theorem tokens_indent
    (dialect : Dialect)
    (spaced : IsGap gap.toList)
    (text : String) :
    dialect.tokens (gap ++ text) = dialect.tokens text := by
  by_cases present : gap = ""
  · simp [present]
  · have joined := dialect.tokens_join present spaced "" text
    rw [tokens_nil, String.empty_append] at joined
    exact joined

/-- Spacing behind a text gives no token. -/
theorem tokens_trail
    (dialect : Dialect)
    (spaced : IsGap gap.toList)
    (text : String) :
    dialect.tokens (text ++ gap) = dialect.tokens text := by
  by_cases present : gap = ""
  · simp [present]
  · have joined := dialect.tokens_join present spaced text ""
    rw [tokens_nil, String.append_empty] at joined
    exact joined.trans (dialect.dropLast_tokens_append_end text)

end Dialect

/--
A spacing character between two texts separates them wherever it stands: the whole
gives the tokens of the first without its closing token, and then those of the
second at their new offsets.  So it is no matter which spacing stands between two
tokens, or how much of it, nor whether any stands at the ends of a text.
-/
theorem spacing_separates (dialect : Dialect) :
    (∀ (first second : String), ∀ blank ∈ spacings, ∃ earlier,
      (Cursor.ofText dialect first).drain.1 =
          earlier ++ [{ offset := first.length, token := .endOfInput }] ∧
        (∀ placed ∈ earlier, placed.token.kind ≠ .endOfInput) ∧
        (Cursor.ofText dialect (first ++ blank.toString ++ second)).drain.1 =
          earlier ++
            (Cursor.ofText dialect second).drain.1.map
              (Placed.shift (first.length + 1))) ∧
    (∀ first gap other second : String,
      gap ≠ "" → (∀ blank ∈ gap.toList, blank ∈ spacings) →
      other ≠ "" → (∀ blank ∈ other.toList, blank ∈ spacings) →
        dialect.tokens (first ++ gap ++ second) =
          dialect.tokens (first ++ other ++ second)) ∧
    ∀ gap text : String, (∀ blank ∈ gap.toList, blank ∈ spacings) →
      dialect.tokens (gap ++ text) = dialect.tokens text ∧
        dialect.tokens (text ++ gap) = dialect.tokens text := by
  have isGap
      {gap : String}
      (members : ∀ blank ∈ gap.toList, blank ∈ spacings) :
      IsGap gap.toList := by
    intro blank member
    exact isSpacing_of_mem_spacings (members blank member)
  refine ⟨?_, ?_, ?_⟩
  · intro first second blank spacing
    obtain ⟨earlier, shape, unended⟩ :=
      Cursor.drain_closed (Cursor.Stands.ofText dialect first)
    refine ⟨earlier, shape, unended, ?_⟩
    have spaced : ∀ inside ∈ blank.toString.toList, inside ∈ spacings := by
      simpa using spacing
    rw [Cursor.drain_join dialect first blank.toString second (by simp)
      (isGap spaced), shape, List.dropLast_concat]
    simp
  · intro first gap other second present spaced presentToo spacedToo
    rw [dialect.tokens_join present (isGap spaced),
      dialect.tokens_join presentToo (isGap spacedToo)]
  · intro gap text spaced
    exact ⟨dialect.tokens_indent (isGap spaced) text,
      dialect.tokens_trail (isGap spaced) text⟩

theorem spacing_separates_lookahead :
    ('\x0b' ∈ spacings ∧
      ∃ earlier,
        (Cursor.ofText {} "a!").drain.1 =
            earlier ++ [{ offset := 2, token := .endOfInput }] ∧
          (∀ placed ∈ earlier, placed.token.kind ≠ .endOfInput) ∧
          (Cursor.ofText {} ("a!" ++ "\x0b" ++ "=\x00")).drain.1 =
            earlier ++
              (Cursor.ofText {} "=\x00").drain.1.map (Placed.shift 3)) ∧
    ("\r\n" ≠ "" ∧ (∀ blank ∈ "\r\n".toList, blank ∈ spacings) ∧
      " " ≠ "" ∧ (∀ blank ∈ " ".toList, blank ∈ spacings) ∧
      Dialect.tokens {} ("a!" ++ "\r\n" ++ "=\x00") =
        Dialect.tokens {} ("a!" ++ " " ++ "=\x00")) ∧
    (∀ blank ∈ "\t\x0c".toList, blank ∈ spacings) ∧
      Dialect.tokens {} ("\t\x0c" ++ "=\x00") = Dialect.tokens {} "=\x00" ∧
      Dialect.tokens {} ("=\x00" ++ "\t\x0c") = Dialect.tokens {} "=\x00" := by
  have line : ∀ blank ∈ "\r\n".toList, blank ∈ spacings := by
    simp [spacings]
  have space : ∀ blank ∈ " ".toList, blank ∈ spacings := by
    simp [spacings]
  have around : ∀ blank ∈ "\t\x0c".toList, blank ∈ spacings := by
    simp [spacings]
  obtain ⟨separates, replaced, trimmed⟩ := spacing_separates {}
  refine ⟨⟨by decide, ?_⟩, ⟨by decide, line, by decide, space, ?_⟩,
    around, ?_⟩
  · exact separates "a!" "=\x00" '\x0b' (by decide)
  · exact replaced "a!" "\r\n" " " "=\x00" (by decide) line (by decide) space
  · exact trimmed "\t\x0c" "=\x00" around

end MonkeyTokens
