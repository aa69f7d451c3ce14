import MonkeyTokens.Proofs.Dashes
import MonkeyTokens.Proofs.MaximalRuns

namespace MonkeyTokens

/-!
# Words and numbers are maximal runs

Numbers are the maximal runs of digits, and where no dash is part of a word, words are
the maximal runs of letters.  With dashes in words, a maximal run of letters and dashes
holds one mark for each dash in front and one word of the rest.
-/

namespace Dialect

theorem readsRuns_number (dialect : Dialect) :
    dialect.ReadsRuns Char.isDigit .number where
  solid _ digit := (classes_of_begins (.inr digit)).2
  spelled _ := rfl
  inside _ admitted := holds_of_mem_spelling admitted
  alone _ _ admitted member digit :=
    exists_number_of_isDigit admitted member digit
  continued _ _ := rfl

/-- Without dashes words are read as runs of letters. -/
theorem readsRuns_word : plain.ReadsRuns isWordStart .word where
  solid _ begins := (classes_of_begins (.inl begins)).2
  spelled _ := rfl
  inside letters admitted character member := by
    rw [← isWordPart_plain]
    exact isWordPart_of_isWord admitted character member
  alone _ _ admitted member begins :=
    exists_word_of_isWordStart admitted member begins
  continued _ character := isWordPart_plain character

end Dialect

/-! ## Runs of letters and dashes -/

/-- A letter, an underscore or a dash. -/
def isLetterOrDash (character : Char) : Bool :=
  isWordStart character || character == '-'

/-- Only one mark holds a dash. -/
theorem Mark.eq_minus_of_mem
    {sign : Mark}
    (member : '-' ∈ sign.spelling) :
    sign = .minus := by
  cases sign <;> simp [spelling] at member ⊢

namespace Dialect

variable {text : String} {offset : Nat}

theorem isWordPart_dashed_eq : dashed.isWordPart = isLetterOrDash :=
  funext isWordPart_dashed

theorem isSpacing_of_isLetterOrDash
    {character : Char}
    (belongs : isLetterOrDash character = true) :
    isSpacing character = false := by
  apply Bool.eq_false_iff.mpr
  intro spacing
  have classes := classes_of_isSpacing spacing
  simp [isLetterOrDash, classes] at belongs

/-- With dashes in words, letters and dashes stand in words and in the marks of dashes. -/
theorem word_or_minus_of_isLetterOrDash
    {lexeme : Lexeme}
    {character : Char}
    (admitted : dashed.Admits lexeme)
    (member : character ∈ lexeme.spelling)
    (belongs : isLetterOrDash character = true) :
    (∃ letters, lexeme = .word letters) ∨ lexeme = .mark .minus := by
  simp only [isLetterOrDash, Bool.or_eq_true, beq_iff_eq] at belongs
  rcases belongs with begins | rfl
  · exact .inl (exists_word_of_isWordStart admitted member begins)
  · rcases exists_mark_or_word_of_ofChar? admitted member rfl with
        ⟨sign, rfl⟩ | ⟨-, -, word⟩
    · obtain rfl := Mark.eq_minus_of_mem member
      exact .inr rfl
    · exact .inl word

/-- A word and the mark of a dash begin with a letter or a dash. -/
theorem isLetterOrDash_of_head?
    {lexeme : Lexeme}
    {first : Char}
    (admitted : dashed.Admits lexeme)
    (shape : (∃ letters, lexeme = .word letters) ∨ lexeme = .mark .minus)
    (head : lexeme.spelling.head? = some first) :
    isLetterOrDash first = true := by
  have held :=
    holds_of_mem_spelling admitted first (List.mem_of_head? head)
  rcases shape with ⟨letters, rfl⟩ | rfl
  · rwa [holds, isWordPart_dashed_eq] at held
  · obtain rfl : '-' = first := Option.some.inj head
    rfl

/--
In front of a word, and in front of the mark of a dash, there are only dashes, back to
where a run of letters and dashes begins.  What touches them there is no word, which
would go on, so it is the mark of a dash.
-/
theorem Finds.exists_dashes
    {lexeme : Lexeme}
    (found : dashed.Finds text offset lexeme)
    (shape :
      (∃ letters, lexeme = .word letters) ∨ lexeme = .mark .minus) :
    ∃ start count, start + count = offset ∧
      text.toList.drop start =
        List.replicate count '-' ++ text.toList.drop offset ∧
      ∀ position character,
        position + 1 = start →
        text.toList[position]? = some character →
          isLetterOrDash character = false := by
  induction offset using Nat.strong_induction_on generalizing lexeme with
  | _ offset inductionHypothesis =>
      by_cases touched :
          ∃ position character, position + 1 = offset ∧
            text.toList[position]? = some character ∧
            isLetterOrDash character = true
      · obtain ⟨position, character, adjacent, held, belongs⟩ := touched
        obtain ⟨start, neighbour, beside, touches, member, apart⟩ :=
          found.exists_neighbour adjacent held
            (isSpacing_of_isLetterOrDash belongs)
        obtain ⟨first, head⟩ : ∃ first, lexeme.spelling.head? = some first :=
          ⟨_, List.head?_eq_some_head
            (spelling_ne_nil_of_admits found.admitted)⟩
        have continuing := isLetterOrDash_of_head? found.admitted shape head
        rcases word_or_minus_of_isLetterOrDash beside.admitted member
            belongs with ⟨letters, rfl⟩ | rfl
        · have stopped := apart first head
          rw [continues, isWordPart_dashed_eq, continuing] at stopped
          cases stopped
        · obtain ⟨begin, count, sum, dashes, free⟩ :=
            inductionHypothesis start
              (by simp only [← touches, Lexeme.spelling, Mark.spelling,
                    List.length_singleton, Nat.lt_add_one])
              beside (.inr rfl)
          refine ⟨begin, count + 1, ?_, ?_, free⟩
          · rw [← touches, ← sum]
            rfl
          · rw [dashes, beside.drop_offset, touches,
              List.replicate_succ', List.append_assoc]
            rfl
      · refine ⟨offset, 0, rfl, rfl, ?_⟩
        intro position character adjacent held
        apply Bool.eq_false_iff.mpr
        intro belongs
        exact touched ⟨position, character, adjacent, held, belongs⟩

/--
A word, and the mark of a dash, lies in a maximal run of letters and dashes, with only
dashes of the run in front of it.
-/
theorem Finds.exists_maximalRun
    {lexeme : Lexeme}
    (found : dashed.Finds text offset lexeme)
    (shape :
      (∃ letters, lexeme = .word letters) ∨ lexeme = .mark .minus) :
    ∃ start count, start + count = offset ∧
      MaximalRun isLetterOrDash text.toList start
        (List.replicate count '-' ++
          (text.toList.drop offset).takeWhile isLetterOrDash) := by
  obtain ⟨start, count, sum, dashes, free⟩ := found.exists_dashes shape
  refine ⟨start, count, sum, ?_⟩
  have whole :=
    List.takeWhile_append_dropWhile (p := isLetterOrDash)
      (l := text.toList.drop offset)
  have present :
      (text.toList.drop offset).takeWhile isLetterOrDash ≠ [] := by
    obtain ⟨first, later, spelled⟩ :=
      List.exists_cons_of_ne_nil (spelling_ne_nil_of_admits found.admitted)
    have continuing :=
      isLetterOrDash_of_head? found.admitted shape
        (by rw [spelled]; rfl : _ = some first)
    rw [found.drop_offset, spelled]
    simp [continuing]
  refine MaximalRun.of_drop_eq (by rw [dashes, List.append_assoc, whole])
    (by simp [present]) ?_ class_of_head?_dropWhile free
  intro character member
  rcases List.mem_append.mp member with dash | inRun
  · rw [List.eq_of_mem_replicate dash]
    rfl
  · exact List.mem_takeWhile_imp inRun

/-- The dashes in front of a run of letters and dashes, and the rest of it. -/
theorem takeWhile_dash_append
    (count : Nat)
    {rest : List Char}
    (apart : rest.head? ≠ some '-') :
    (List.replicate count '-' ++ rest).takeWhile (· == '-') =
        List.replicate count '-' ∧
      (List.replicate count '-' ++ rest).dropWhile (· == '-') = rest := by
  refine takeWhile_dropWhile_of_class (by simp) ?_
  intro character first
  apply Bool.eq_false_iff.mpr
  intro dash
  rw [beq_iff_eq.mp dash] at first
  exact apart first

/-- A word is a maximal run of letters and dashes without the dashes in front. -/
theorem Finds.exists_run_of_word
    {letters : List Char}
    (found : dashed.Finds text offset (.word letters)) :
    ∃ start run, MaximalRun isLetterOrDash text.toList start run ∧
      offset = start + (run.takeWhile (· == '-')).length ∧
      letters = run.dropWhile (· == '-') := by
  obtain ⟨start, count, sum, maximal⟩ :=
    found.exists_maximalRun (.inl ⟨letters, rfl⟩)
  obtain ⟨first, later, rfl, begins, -⟩ := isWord_iff.mp found.admitted
  have read :
      (text.toList.drop offset).takeWhile isLetterOrDash =
        first :: later := by
    have inside := holds_of_mem_spelling found.admitted
    have outside := found.ends
    simp only [holds, continues, EndsBefore, isWordPart_dashed_eq]
      at inside outside
    rw [found.drop_offset]
    exact (takeWhile_dropWhile_of_class inside outside).1
  rw [read] at maximal
  have apart : (first :: later).head? ≠ some '-' := by
    rw [List.head?_cons, ne_eq, Option.some.injEq]
    rintro rfl
    cases begins
  obtain ⟨taken, dropped⟩ := takeWhile_dash_append count apart
  refine ⟨start, _, maximal, ?_, dropped.symm⟩
  rw [taken, List.length_replicate, sum]

theorem length_takeWhile_add_length_dropWhile
    (holds : Char → Bool)
    (run : List Char) :
    (run.takeWhile holds).length + (run.dropWhile holds).length =
      run.length := by
  rw [← List.length_append, List.takeWhile_append_dropWhile]

/-- A word that holds a position of a maximal run is what the run leaves behind its first dashes. -/
theorem Finds.eq_of_word_in_run
    {letters run : List Char}
    {start index : Nat}
    (found : dashed.Finds text offset (.word letters))
    (maximal : MaximalRun isLetterOrDash text.toList start run)
    (inside : index < letters.length)
    (reached : start ≤ offset + index)
    (within : offset + index < start + run.length) :
    offset = start + (run.takeWhile (· == '-')).length ∧
      letters = run.dropWhile (· == '-') := by
  obtain ⟨otherStart, other, otherMaximal, rfl, rfl⟩ :=
    found.exists_run_of_word
  have lengths := length_takeWhile_add_length_dropWhile (· == '-') other
  obtain ⟨rfl, rfl⟩ :=
    maximal.unique otherMaximal reached within (by omega) (by omega)
  exact ⟨rfl, rfl⟩

/-- The first dashes of a run stand where it starts. -/
theorem getElem?_of_first_dashes
    {source run : List Char}
    {start distance : Nat}
    (maximal : MaximalRun isLetterOrDash source start run)
    (within : distance < (run.takeWhile (· == '-')).length) :
    source[start + distance]? = some '-' := by
  have dash := List.mem_takeWhile_imp (List.getElem_mem within)
  have leading := List.takeWhile_prefix (· == '-') (l := run)
  refine getElem?_of_stands maximal.stands
    (List.getElem?_eq_some_iff.mpr
      ⟨Nat.lt_of_lt_of_le within leading.length_le, ?_⟩)
  rw [← leading.getElem within]
  exact beq_iff_eq.mp dash

/-- What stands behind the first dashes of a run is no dash. -/
theorem exists_first_behind_dashes
    {source run : List Char}
    {start : Nat}
    (maximal : MaximalRun isLetterOrDash source start run)
    (present : run.dropWhile (· == '-') ≠ []) :
    ∃ first,
      source[start + (run.takeWhile (· == '-')).length]? = some first ∧
        isLetterOrDash first = true ∧ first ≠ '-' := by
  obtain ⟨first, later, shape⟩ := List.exists_cons_of_ne_nil present
  have held :
      (run.takeWhile (· == '-') ++ run.dropWhile (· == '-'))[
          (run.takeWhile (· == '-')).length]? =
        some first := by
    rw [List.getElem?_append_right (Nat.le_refl _), shape, Nat.sub_self]
    rfl
  rw [List.takeWhile_append_dropWhile] at held
  have different : (first == '-') = false :=
    class_of_head?_dropWhile first (by rw [shape]; rfl)
  exact ⟨first, getElem?_of_stands maximal.stands held,
    maximal.inside first (List.mem_of_getElem? held),
    by simpa using different⟩

/-- With dashes in words, words are what the maximal runs of letters and dashes leave behind their first dashes. -/
theorem finds_word_dashed_iff {letters : List Char} :
    dashed.Finds text offset (.word letters) ↔
      letters ≠ [] ∧
        ∃ start run, MaximalRun isLetterOrDash text.toList start run ∧
          offset = start + (run.takeWhile (· == '-')).length ∧
          letters = run.dropWhile (· == '-') := by
  constructor
  · intro found
    exact ⟨spelling_ne_nil_of_admits found.admitted,
      found.exists_run_of_word⟩
  · rintro ⟨present, start, run, maximal, rfl, rfl⟩
    have lengths := length_takeWhile_add_length_dropWhile (· == '-') run
    have remains := List.length_pos_iff.mpr present
    obtain ⟨first, held, continuing, different⟩ :=
      exists_first_behind_dashes maximal present
    have begins : isWordStart first = true := by
      simpa [isLetterOrDash, different] using continuing
    obtain ⟨offset, index, lexeme, position, spelled, found⟩ :=
      dashed.exists_finds_of_solid held
        (isSpacing_of_isLetterOrDash continuing)
    obtain ⟨letters, rfl⟩ :=
      exists_word_of_isWordStart found.admitted
        (List.mem_of_getElem? spelled) begins
    have inside : index < letters.length :=
      (List.getElem?_eq_some_iff.mp spelled).1
    obtain ⟨sameOffset, sameWord⟩ :=
      found.eq_of_word_in_run maximal inside (by omega) (by omega)
    rw [← sameOffset, ← sameWord]
    exact found

/-- With dashes in words, the marks of dashes are the first dashes of the maximal runs of letters and dashes. -/
theorem finds_minus_dashed_iff :
    dashed.Finds text offset (.mark .minus) ↔
      ∃ start run, MaximalRun isLetterOrDash text.toList start run ∧
        start ≤ offset ∧
        offset < start + (run.takeWhile (· == '-')).length := by
  constructor
  · intro found
    obtain ⟨start, count, rfl, maximal⟩ :=
      found.exists_maximalRun (.inr rfl)
    refine ⟨start, _, maximal, Nat.le_add_right start count, ?_⟩
    rw [found.drop_offset, List.takeWhile_append_of_pos (by simp)]
    simp [Lexeme.spelling, Mark.spelling, isLetterOrDash]
  · rintro ⟨start, run, maximal, reached, within⟩
    obtain ⟨distance, rfl⟩ := Nat.exists_eq_add_of_le reached
    have inDashes : distance < (run.takeWhile (· == '-')).length := by
      omega
    have held := getElem?_of_first_dashes maximal inDashes
    obtain ⟨offset, index, lexeme, position, spelled, found⟩ :=
      dashed.exists_finds_of_solid held (by decide)
    have member := List.mem_of_getElem? spelled
    rcases word_or_minus_of_isLetterOrDash found.admitted member
        (by decide) with ⟨letters, rfl⟩ | rfl
    · -- A word would begin behind the dashes, and not hold one of them.
      have inside : index < letters.length :=
        (List.getElem?_eq_some_iff.mp spelled).1
      have lengths := length_takeWhile_add_length_dropWhile (· == '-') run
      obtain ⟨behind, -⟩ :=
        found.eq_of_word_in_run maximal inside (by omega) (by omega)
      omega
    · obtain rfl := index_eq_zero_of_length spelled rfl
      rw [position]
      exact found

/-- Without dashes in words, every dash is a mark. -/
theorem finds_minus_plain_iff :
    plain.Finds text offset (.mark .minus) ↔
      text.toList[offset]? = some '-' := by
  constructor
  · intro found
    have spelled : (Lexeme.mark .minus).spelling[0]? = some '-' := rfl
    exact found.getElem?_of_spelling spelled
  · intro held
    obtain ⟨start, index, lexeme, rfl, spelled, found⟩ :=
      plain.exists_finds_of_solid held (by decide)
    have member := List.mem_of_getElem? spelled
    rcases exists_mark_or_word_of_ofChar? found.admitted member rfl with
        ⟨sign, rfl⟩ | ⟨-, dashes, -⟩
    · obtain rfl := Mark.eq_minus_of_mem member
      obtain rfl := index_eq_zero_of_length spelled rfl
      exact found
    · cases dashes

end Dialect

/-! ## The tokens of words, numbers and dashes -/

/-- The kinds of words. -/
def Kind.isWord : Kind → Bool
  | .identifier => true
  | .keyword _ => true
  | _ => false

/-- Identifiers and keywords are the kinds of words. -/
theorem Lexeme.isWord_kind_iff {lexeme : Lexeme} :
    lexeme.kind.isWord = true ↔ ∃ letters, lexeme = .word letters := by
  cases lexeme with
  | word letters =>
      rcases Kind.ofWord_cases (String.ofList letters) with
          named | ⟨reserved, named⟩ <;>
        simp [kind, named, Kind.isWord]
  | _ =>
      simp [kind, Kind.isWord]

/-- Every keyword has a letter. -/
theorem Keyword.exists_letter (reserved : Keyword) :
    ∃ letter ∈ reserved.spelling.toList, isWordStart letter = true := by
  apply List.any_eq_true.mp
  cases reserved <;> decide

namespace Dialect

variable {dialect : Dialect} {text literal : String} {offset : Nat}

/-- A word is given exactly where one is found with that spelling. -/
theorem exists_gives_word_iff :
    (∃ kind, kind.isWord = true ∧ dialect.Gives text offset kind literal) ↔
      dialect.Finds text offset (.word literal.toList) := by
  constructor
  · rintro ⟨kind, word, given⟩
    obtain ⟨lexeme, found, same⟩ :=
      exists_finds_of_mem given (by rintro rfl; cases word)
    obtain ⟨rfl, rfl⟩ := Token.mk.inj same
    obtain ⟨letters, rfl⟩ := Lexeme.isWord_kind_iff.mp word
    simpa [Lexeme.literal, Lexeme.spelling] using found
  · intro found
    refine ⟨(Lexeme.word literal.toList).kind,
      Lexeme.isWord_kind_iff.mpr ⟨_, rfl⟩, ?_⟩
    simpa [Gives, Lexeme.token, Lexeme.literal,
      Lexeme.spelling] using found.given

/-- A lexeme with a letter in its literal is a word. -/
theorem exists_word_of_literal
    {lexeme : Lexeme}
    {character : Char}
    (admitted : dialect.Admits lexeme)
    (member : character ∈ lexeme.literal.toList)
    (begins : isWordStart character = true) :
    ∃ letters, lexeme = .word letters := by
  by_cases illegal : lexeme.kind = .illegal
  · obtain ⟨stray, rfl⟩ := Lexeme.kind_eq_illegal_iff.mp illegal
    simp [Lexeme.literal] at member
  · rw [(Lexeme.spellsKind_token admitted illegal).1] at member
    exact exists_word_of_isWordStart admitted member begins

/-- A token is a keyword exactly if its whole literal is the spelling of that keyword. -/
theorem kind_eq_keyword_iff
    {placed : Placed}
    (member : placed ∈ (Cursor.ofText dialect text).drain.1)
    (reserved : Keyword) :
    placed.token.kind = .keyword reserved ↔
      placed.token.literal = reserved.spelling := by
  obtain ⟨letter, inSpelling, begins⟩ := reserved.exists_letter
  rcases closing_or_finds member with rfl | ⟨lexeme, found, same⟩
  · refine iff_of_false (by simp [Token.endOfInput]) ?_
    intro spelled
    simp [← spelled, Token.endOfInput] at inSpelling
  rw [same]
  by_cases word : ∃ letters, lexeme = .word letters
  · obtain ⟨letters, rfl⟩ := word
    exact Kind.ofWord_eq_keyword_iff
  · refine iff_of_false ?_ ?_
    · intro named
      refine word (Lexeme.isWord_kind_iff.mp ?_)
      rw [show lexeme.kind = .keyword reserved from named]
      rfl
    · intro spelled
      rw [← spelled] at inSpelling
      exact
        word (exists_word_of_literal found.admitted inSpelling begins)

end Dialect

/--
Words and numbers are the maximal runs of their characters.  Numbers are the maximal
runs of digits in either dialect.  Without dashes in words, words are the maximal runs
of letters, and every dash is a mark.  With dashes in words, each dash in front of a
maximal run of letters and dashes is a mark, and the rest of the run, if there is any,
is one word.  A word is a keyword if and only if it is spelled like one as a whole.
-/
theorem words_and_numbers_are_maximal_runs (text : String) :
    (∀ (dialect : Dialect) (offset : Nat) (literal : String),
      dialect.Gives text offset .integer literal ↔
        MaximalRun Char.isDigit text.toList offset literal.toList) ∧
    (∀ (offset : Nat) (literal : String),
      ((∃ kind, kind.isWord = true ∧
          Dialect.plain.Gives text offset kind literal) ↔
        MaximalRun isWordStart text.toList offset literal.toList) ∧
      (Dialect.plain.Gives text offset (.mark .minus) literal ↔
        literal = "-" ∧ text.toList[offset]? = some '-')) ∧
    (∀ (offset : Nat) (literal : String),
      ((∃ kind, kind.isWord = true ∧
          Dialect.dashed.Gives text offset kind literal) ↔
        literal.toList ≠ [] ∧
          ∃ start run, MaximalRun isLetterOrDash text.toList start run ∧
            offset = start + (run.takeWhile (· == '-')).length ∧
            literal.toList = run.dropWhile (· == '-')) ∧
      (Dialect.dashed.Gives text offset (.mark .minus) literal ↔
        literal = "-" ∧
          ∃ start run, MaximalRun isLetterOrDash text.toList start run ∧
            start ≤ offset ∧
            offset < start + (run.takeWhile (· == '-')).length)) ∧
    ∀ (dialect : Dialect) (reserved : Keyword),
      ∀ placed ∈ (Cursor.ofText dialect text).drain.1,
        placed.token.kind = .keyword reserved ↔
          placed.token.literal = reserved.spelling := by
  refine ⟨?_, ?_, ?_, ?_⟩
  · intro dialect offset literal
    rw [Dialect.gives_integer_iff, dialect.readsRuns_number.finds_iff]
  · intro offset literal
    rw [Dialect.exists_gives_word_iff, Dialect.readsRuns_word.finds_iff,
      Dialect.gives_mark_iff, Dialect.finds_minus_plain_iff]
    exact ⟨Iff.rfl, Iff.rfl⟩
  · intro offset literal
    rw [Dialect.exists_gives_word_iff, Dialect.finds_word_dashed_iff,
      Dialect.gives_mark_iff, Dialect.finds_minus_dashed_iff]
    exact ⟨Iff.rfl, Iff.rfl⟩
  · intro dialect reserved placed member
    exact Dialect.kind_eq_keyword_iff member reserved

theorem words_and_numbers_are_maximal_runs_prefix :
    let tokens := (Cursor.ofText .dashed "--let-7_ let").drain.1
    let name : Placed :=
      { offset := 2, token := { kind := .identifier, literal := "let-" } }
    let word : Placed :=
      { offset := 9, token := { kind := .keyword .letWord, literal := "let" } }
    (name ∈ tokens ∧
      (name.token.kind = .keyword .letWord ↔
        name.token.literal = Keyword.letWord.spelling)) ∧
    word ∈ tokens ∧
      (word.token.kind = .keyword .letWord ↔
        word.token.literal = Keyword.letWord.spelling) := by
  obtain ⟨-, -, -, keyword⟩ :=
    words_and_numbers_are_maximal_runs "--let-7_ let"
  intro tokens name word
  have nameMember : name ∈ tokens := by decide +kernel
  have wordMember : word ∈ tokens := by decide +kernel
  exact ⟨⟨nameMember, keyword .dashed .letWord name nameMember⟩,
    wordMember, keyword .dashed .letWord word wordMember⟩

end MonkeyTokens
