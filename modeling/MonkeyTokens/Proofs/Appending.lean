import MonkeyTokens.Proofs.Joining
import MonkeyTokens.Proofs.Tiling

namespace MonkeyTokens

/-!
# Text added at the end

No token depends on more than the character behind it.  Adding to a text keeps
every token that ends before its end.  A token that touches the end may grow, but it
still begins where it did and with the characters it had, and nothing else is added
in front of the new text.
-/

/-- What may become of a token when text is added right behind it. -/
structure Placed.GrowsTo (placed grown : Placed) : Prop where
  offset_eq : grown.offset = placed.offset
  /-- An illegal token stays as it is. -/
  stray : placed.token.kind = .illegal → grown = placed
  /-- Any other token becomes a token of the text again. -/
  legal :
    placed.token.kind ≠ .illegal →
      grown.token.kind ≠ .illegal ∧ grown.token.kind ≠ .endOfInput
  longer : placed.token.literal.toList <+: grown.token.literal.toList

/-- The tokens of a text of some length, and those of the text with more behind it. -/
inductive ContinuedBy (length : Nat) : List Placed → List Placed → Prop where
  /-- Behind the text there are only tokens of what was added. -/
  | ended
      (closing : Placed)
      (added : List Placed)
      (ends : closing.token.kind = .endOfInput)
      (behind : ∀ placed ∈ added, length ≤ placed.offset) :
      ContinuedBy length [closing] added
  /-- A token that ends before the end of the text is kept. -/
  | kept
      {tokens longer : List Placed}
      (placed : Placed)
      (unended : placed.token.kind ≠ .endOfInput)
      (within : placed.offset + placed.token.width < length)
      (later : ContinuedBy length tokens longer) :
      ContinuedBy length (placed :: tokens) (placed :: longer)
  /-- A token that touches the end of the text may grow. -/
  | grown
      {tokens longer : List Placed}
      (placed grown : Placed)
      (unended : placed.token.kind ≠ .endOfInput)
      (touches : placed.offset + placed.token.width = length)
      (grows : placed.GrowsTo grown)
      (later : ContinuedBy length tokens longer) :
      ContinuedBy length (placed :: tokens) (grown :: longer)

/-- What may be read in place of a lexeme when text is added right behind it. -/
structure Lexeme.GrowsTo (lexeme grown : Lexeme) : Prop where
  stray : lexeme.kind = .illegal → grown = lexeme
  legal : lexeme.kind ≠ .illegal → grown.kind ≠ .illegal
  longer : lexeme.spelling <+: grown.spelling

namespace ContinuedBy

variable {length : Nat} {tokens longer : List Placed}

/-- A token of the text is kept where it was or, at the end of the text, may have grown there. -/
theorem kept_or_grown
    (continued : ContinuedBy length tokens longer)
    {index : Nat}
    {placed : Placed}
    (found : tokens[index]? = some placed)
    (unended : placed.token.kind ≠ .endOfInput) :
    (placed.offset + placed.token.width < length ∧
      longer[index]? = some placed) ∨
    (placed.offset + placed.token.width = length ∧
      ∃ grown, longer[index]? = some grown ∧ placed.GrowsTo grown) := by
  induction continued generalizing index with
  | ended closing added ends behind =>
      obtain rfl : closing = placed :=
        (List.mem_singleton.mp (List.mem_of_getElem? found)).symm
      exact (unended ends).elim
  | kept first _ within later inductionHypothesis =>
      cases index with
      | zero =>
          obtain rfl : first = placed := Option.some.inj found
          exact .inl ⟨within, rfl⟩
      | succ index =>
          exact inductionHypothesis found
  | grown first grown _ touches grows later inductionHypothesis =>
      cases index with
      | zero =>
          obtain rfl : first = placed := Option.some.inj found
          exact .inr ⟨touches, grown, rfl, grows⟩
      | succ index =>
          exact inductionHypothesis found

/-- A token that starts in the text is one of its tokens, kept or grown. -/
theorem exists_before
    (continued : ContinuedBy length tokens longer)
    {index : Nat}
    {placed : Placed}
    (found : longer[index]? = some placed)
    (starts : placed.offset < length) :
    ∃ before, tokens[index]? = some before ∧
      before.token.kind ≠ .endOfInput ∧
      ((before.offset + before.token.width < length ∧ placed = before) ∨
        (before.offset + before.token.width = length ∧
          before.GrowsTo placed)) := by
  induction continued generalizing index with
  | ended closing added ends behind =>
      have reached := behind placed (List.mem_of_getElem? found)
      omega
  | kept first unended within later inductionHypothesis =>
      cases index with
      | zero =>
          obtain rfl : first = placed := Option.some.inj found
          exact ⟨first, rfl, unended, .inl ⟨within, rfl⟩⟩
      | succ index =>
          exact inductionHypothesis found
  | grown first grown unended touches grows later inductionHypothesis =>
      cases index with
      | zero =>
          obtain rfl : grown = placed := Option.some.inj found
          exact ⟨first, rfl, unended, .inr ⟨touches, grows⟩⟩
      | succ index =>
          exact inductionHypothesis found

end ContinuedBy

theorem Lexeme.GrowsTo.refl (lexeme : Lexeme) :
    lexeme.GrowsTo lexeme where
  stray _ := rfl
  legal legal := legal
  longer := List.prefix_rfl

namespace Dialect

variable {dialect : Dialect}

/-- A lexeme that ends before some text ends there whatever stands behind that text. -/
theorem EndsBefore.append
    {lexeme : Lexeme}
    {rest : List Char}
    (ends : dialect.EndsBefore lexeme rest)
    (present : rest ≠ [])
    (more : List Char) :
    dialect.EndsBefore lexeme (rest ++ more) := by
  obtain ⟨first, later, rfl⟩ := List.exists_cons_of_ne_nil present
  exact ends

/--
What is read where a lexeme stood alone, once there is more behind it.  Of the
operators only one that an equals sign joins can grow.
-/
theorem lexemeAt_grows
    {lexeme : Lexeme}
    {head : Char}
    {tail : List Char}
    (admitted : dialect.Admits lexeme)
    (spelled : lexeme.spelling = head :: tail)
    (more : List Char) :
    lexeme.GrowsTo (dialect.lexemeAt head (tail ++ more)).1 := by
  cases lexeme with
  | mark sign =>
      rcases sign.spelling_cases with
          ⟨character, short, found⟩ | ⟨character, long, joins⟩
      · obtain ⟨rfl, rfl⟩ : character = head ∧ [] = tail := by
          simpa [Lexeme.spelling, short] using spelled
        by_cases joined :
            Mark.joined? character = none ∨ more.head? ≠ some '='
        · rw [List.nil_append,
            lexemeAt_of_ofChar? found (endsBefore_of_ofChar? found joined)]
          exact .refl _
        · obtain ⟨⟨other, joins⟩, equal⟩ :
              (∃ other, Mark.joined? character = some other) ∧
                more.head? = some '=' := by
            simpa [Option.ne_none_iff_exists', not_or] using joined
          obtain ⟨after, rfl⟩ := List.head?_eq_some_iff.mp equal
          rw [List.nil_append, lexemeAt_of_joined? joins]
          refine ⟨by simp [Lexeme.kind], by simp [Lexeme.kind], ['='], ?_⟩
          rw [spelled, Lexeme.spelling, Mark.spelling_of_joined? joins]
          rfl
      · obtain ⟨rfl, rfl⟩ : character = head ∧ ['='] = tail := by
          simpa [Lexeme.spelling, long] using spelled
        rw [List.singleton_append, lexemeAt_of_joined? joins]
        exact .refl _
  | word letters =>
      obtain ⟨begin, later, rfl, begins, inside⟩ := isWord_iff.mp admitted
      obtain ⟨rfl, rfl⟩ := List.cons.inj spelled
      rw [lexemeAt_of_isWordStart begins,
        List.takeWhile_append_of_pos inside]
      refine ⟨?_, ?_, _, rfl⟩ <;> simp [Lexeme.kind_eq_illegal_iff]
  | number digits =>
      obtain ⟨begin, later, rfl, digit, inside⟩ := isDigits_iff.mp admitted
      obtain ⟨rfl, rfl⟩ := List.cons.inj spelled
      rw [lexemeAt_of_isDigit digit, List.takeWhile_append_of_pos inside]
      refine ⟨?_, ?_, _, rfl⟩ <;> simp [Lexeme.kind_eq_illegal_iff]
  | stray character =>
      obtain ⟨rfl, rfl⟩ : character = head ∧ [] = tail := by
        simpa [Lexeme.spelling] using spelled
      rw [lexemeAt_of_isStray (admits_stray_iff.mp admitted)]
      exact .refl _

end Dialect

/-- A piece whose lexeme grows keeps its place, and its token grows with it. -/
theorem Piece.placed_grows
    {dialect : Dialect}
    (piece grown : Piece dialect)
    (sameGap : grown.gap = piece.gap)
    (grows : piece.lexeme.GrowsTo grown.lexeme)
    (start : Nat) :
    (piece.placed start).GrowsTo (grown.placed start) where
  offset_eq := by
    simp [placed, sameGap]
  stray illegal := by
    simp [placed, sameGap, grows.stray illegal]
  legal legal :=
    ⟨grows.legal legal, grown.lexeme.kind_ne_endOfInput⟩
  longer := by
    by_cases legal : piece.lexeme.kind = .illegal
    · simp [placed, grows.stray legal]
    · have spelled := (Lexeme.spellsKind_token piece.admitted legal).1
      have grownSpelled :=
        (Lexeme.spellsKind_token grown.admitted (grows.legal legal)).1
      simp only [placed, Lexeme.token, spelled, grownSpelled]
      exact grows.longer

namespace Cursor

/-- Nothing is read from in front of a cursor. -/
theorem le_offset_drain (cursor : Cursor) :
    ∀ placed ∈ cursor.drain.1, cursor.position ≤ placed.offset := by
  obtain ⟨layout, shape, separated⟩ :=
    Layout.exists_separated cursor.dialect cursor.rest
  rw [drain_of_separated separated rfl shape.symm]
  exact Layout.le_offset cursor.position layout

/-- The last token of a text grows with what is added right behind it. -/
theorem exists_grown_of_touching
    {dialect : Dialect}
    {cursor : Cursor}
    {piece : Piece dialect}
    {more : List Char}
    (same : cursor.dialect = dialect)
    (shape : cursor.rest = piece.text ++ more) :
    ∃ grown added,
      cursor.drain.1 = grown :: added ∧
        (piece.placed cursor.position).GrowsTo grown ∧
        ∀ placed ∈ added,
          cursor.position + piece.text.length ≤ placed.offset := by
  obtain ⟨head, tail, spelled⟩ :=
    List.exists_cons_of_ne_nil
      (Dialect.spelling_ne_nil_of_admits piece.admitted)
  have solid : isSpacing head = false :=
    Dialect.isSpacing_of_admits piece.admitted head (by simp [spelled])
  obtain ⟨admitted, ends⟩ :=
    dialect.admits_lexemeAt solid (tail ++ more)
  have whole := dialect.spelling_append_lexemeAt head (tail ++ more)
  have grows :=
    dialect.lexemeAt_grows piece.admitted spelled more
  generalize dialect.lexemeAt head (tail ++ more) = read at *
  let grown : Piece dialect :=
    ⟨piece.gap, read.1, piece.spaced, admitted⟩
  have newShape : cursor.rest = grown.text ++ read.2 := by
    rw [shape, Piece.text, Piece.text, spelled, List.append_assoc,
      List.append_assoc, whole]
    rfl
  refine ⟨grown.placed cursor.position, (cursor.past grown read.2).drain.1,
    congrArg Prod.fst (drain_of_piece same newShape ends),
    piece.placed_grows grown rfl grows cursor.position, ?_⟩
  intro placed member
  have reached := le_offset_drain _ placed member
  have longer := grows.longer.length_le
  simp only [past, Piece.text, List.length_append, grown] at reached ⊢
  omega

/--
The tokens of what a cursor has to read are continued when text is added to it.  The
added text is read into a lexeme only if nothing was behind that one.
-/
theorem continuedBy_drain
    (cursor longer : Cursor)
    {more : List Char}
    (sameDialect : longer.dialect = cursor.dialect)
    (samePosition : longer.position = cursor.position)
    (shape : longer.rest = cursor.rest ++ more) :
    ContinuedBy (cursor.position + cursor.rest.length)
      cursor.drain.1 longer.drain.1 := by
  rcases cursor.advance_cases with
      ⟨spaced, -⟩ | ⟨piece, after, text, ends, -⟩
  · rw [drain_of_gap spaced]
    refine .ended _ _ rfl ?_
    let behind : Cursor :=
      { longer with
        rest := more
        position := cursor.position + cursor.rest.length }
    have skipped : longer.drain.1 = behind.drain.1 :=
      drain_of_indent spaced rfl shape (by rw [samePosition])
    rw [skipped]
    exact le_offset_drain behind
  · have stop :
        (piece.placed cursor.position).offset +
            (piece.placed cursor.position).token.width =
          cursor.position + piece.text.length := by
      simp [Piece.placed, Lexeme.width_token, Piece.text, Nat.add_assoc]
    rw [drain_of_piece rfl text ends]
    by_cases touching : after = []
    · subst touching
      rw [List.append_nil] at text
      obtain ⟨grown, added, read, grows, behind⟩ :=
        exists_grown_of_touching sameDialect (shape.trans (by rw [text]))
      rw [samePosition] at grows behind
      have closed : IsGap (cursor.past piece []).rest := IsGap.nil
      rw [read, drain_of_gap closed, text]
      exact .grown _ _ piece.lexeme.kind_ne_endOfInput stop grows
        (.ended _ _ rfl behind)
    · have longerShape : longer.rest = piece.text ++ (after ++ more) := by
        rw [shape, text, List.append_assoc]
      have total :
          cursor.position + cursor.rest.length =
            cursor.position + piece.text.length + after.length := by
        rw [text, List.length_append, Nat.add_assoc]
      have present := List.length_pos_iff.mpr touching
      rw [drain_of_piece sameDialect longerShape (ends.append touching more),
        samePosition, total]
      exact .kept _ piece.lexeme.kind_ne_endOfInput (by omega)
        (continuedBy_drain (cursor.past piece after)
          (longer.past piece (after ++ more)) sameDialect
          (by simp [past, samePosition]) rfl)
termination_by cursor.rest.length
decreasing_by exact length_rest_past_lt text

end Cursor

/--
Text added behind a text disturbs at most the token that touches its end.  Tokens that
end before the end of the text stay at their indices, one that touches the end grows at
its index, and whatever else the longer text has starts behind the shorter one.
-/
theorem appending_disturbs_last
    (dialect : Dialect)
    (text more : String) :
    let tokens := (Cursor.ofText dialect text).drain.1
    let longer := (Cursor.ofText dialect (text ++ more)).drain.1
    (∀ (index : Nat) (placed : Placed),
      tokens[index]? = some placed →
      placed.token.kind ≠ .endOfInput →
      placed.offset + placed.token.width < text.length →
        longer[index]? = some placed) ∧
    (∀ (index : Nat) (placed : Placed),
      tokens[index]? = some placed →
      placed.token.kind ≠ .endOfInput →
      placed.offset + placed.token.width = text.length →
        ∃ grown, longer[index]? = some grown ∧ placed.GrowsTo grown) ∧
    ∀ (index : Nat) (placed : Placed),
      longer[index]? = some placed →
      placed.offset < text.length →
        ∃ before, tokens[index]? = some before ∧
          before.token.kind ≠ .endOfInput ∧
          ((before.offset + before.token.width < text.length ∧
              placed = before) ∨
            (before.offset + before.token.width = text.length ∧
              before.GrowsTo placed)) := by
  have continued :
      ContinuedBy text.length (Cursor.ofText dialect text).drain.1
        (Cursor.ofText dialect (text ++ more)).drain.1 := by
    have drained :=
      Cursor.continuedBy_drain (Cursor.ofText dialect text)
        (Cursor.ofText dialect (text ++ more)) rfl rfl String.toList_append
    have length :
        (Cursor.ofText dialect text).position +
            (Cursor.ofText dialect text).rest.length =
          text.length := by
      simp [Cursor.ofText, String.length_toList]
    rwa [length] at drained
  refine ⟨?_, ?_, ?_⟩
  · intro index placed found unended within
    rcases continued.kept_or_grown found unended with
        ⟨-, kept⟩ | ⟨touches, -⟩
    · exact kept
    · omega
  · intro index placed found unended touches
    rcases continued.kept_or_grown found unended with
        ⟨within, -⟩ | ⟨-, grown⟩
    · omega
    · exact grown
  · intro index placed found starts
    exact continued.exists_before found starts

theorem appending_disturbs_last_operator :
    let tokens := (Cursor.ofText {} "x =").drain.1
    let longer := (Cursor.ofText {} ("x =" ++ "=y")).drain.1
    let name : Placed :=
      { offset := 0, token := { kind := .identifier, literal := "x" } }
    let sign : Placed :=
      { offset := 2, token := { kind := .mark .assign, literal := "=" } }
    let grown : Placed :=
      { offset := 2, token := { kind := .mark .equal, literal := "==" } }
    (tokens[0]? = some name ∧ name.token.kind ≠ .endOfInput ∧
      name.offset + name.token.width < "x =".length ∧
      longer[0]? = some name) ∧
    (tokens[1]? = some sign ∧ sign.token.kind ≠ .endOfInput ∧
      sign.offset + sign.token.width = "x =".length ∧
      ∃ grown, longer[1]? = some grown ∧ sign.GrowsTo grown) ∧
    longer[1]? = some grown ∧ grown.offset < "x =".length ∧
      ∃ before, tokens[1]? = some before ∧
        before.token.kind ≠ .endOfInput ∧
        ((before.offset + before.token.width < "x =".length ∧
            grown = before) ∨
          (before.offset + before.token.width = "x =".length ∧
            before.GrowsTo grown)) := by
  obtain ⟨kept, grows, before⟩ := appending_disturbs_last {} "x =" "=y"
  refine ⟨⟨by decide +kernel, by decide, by decide, ?_⟩,
    ⟨by decide +kernel, by decide, by decide, ?_⟩,
    by decide +kernel, by decide, ?_⟩
  · exact kept 0 _ (by decide +kernel) (by decide) (by decide)
  · exact grows 1 _ (by decide +kernel) (by decide) (by decide)
  · exact before 1 _ (by decide +kernel) (by decide)

end MonkeyTokens
