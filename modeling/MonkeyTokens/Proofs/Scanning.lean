import MonkeyTokens.Proofs.Interleaving
import MonkeyTokens.Scanner

namespace MonkeyTokens

/-!
# Scanners keep pace with cursors

A scanner is sound if its fields fit together and its index keeps to the text.  Steps
that are taken within the text keep it sound, and each scan takes no other steps.  So a
scanner that stands where a cursor stands reads the token that the cursor reads and
stands where the cursor stands then, whatever calls are made.
-/

/-- A dash is a sign, so what neither begins a word nor is a sign does not continue one either. -/
theorem Dialect.isWordPart_eq_false
    {dialect : Dialect}
    {character : Char}
    (missing : Mark.ofChar? character = none)
    (noLetter : isWordStart character = false) :
    dialect.isWordPart character = false := by
  have different := (ne_of_ofChar?_eq_none missing).2
  simp [isWordPart, noLetter, different]

namespace Scanner

variable {dialect : Dialect} {source : List Char} {scanner : Scanner}

/-- The scanner with its index moved on. -/
def moved
    (scanner : Scanner)
    (distance : Nat) :
    Scanner :=
  { scanner with
    current :=
      scanner.characters[scanner.position + distance]?.getD nothing
    position := scanner.position + distance
    readPosition := scanner.position + distance + 1 }

/--
A scanner of a text: the index is one of the text or its end, the character is the one
under it, the next one to read stands behind it, and the token read last starts no
further on.  The closing token has been given only if nothing is left.
-/
structure Sound
    (dialect : Dialect)
    (source : List Char)
    (scanner : Scanner) :
    Prop where
  characters_eq : scanner.characters = source
  dialect_eq : scanner.dialect = dialect
  position_le : scanner.position ≤ source.length
  readPosition_eq : scanner.readPosition = scanner.position + 1
  current_eq : scanner.current = source[scanner.position]?.getD nothing
  start_le : scanner.start ≤ scanner.position
  ended : scanner.finished = true → scanner.position = source.length

@[simp] theorem position_moved
    (scanner : Scanner)
    (distance : Nat) :
    (scanner.moved distance).position = scanner.position + distance :=
  rfl

theorem moved_moved
    (scanner : Scanner)
    (first second : Nat) :
    (scanner.moved first).moved second = scanner.moved (first + second) := by
  simp [moved, Nat.add_assoc]

namespace Sound

theorem moved_zero
    (sound : scanner.Sound dialect source) :
    scanner.moved 0 = scanner := by
  obtain ⟨rfl, -, -, next, held, -, -⟩ := sound
  rw [Scanner.moved, Nat.add_zero, ← next, ← held]

/-- Reading one character moves a sound scanner by one. -/
theorem stepped_eq
    (sound : scanner.Sound dialect source) :
    scanner.stepped = scanner.moved 1 := by
  simp [stepped, Scanner.moved, sound.readPosition_eq]

/-- A move that ends in the source, or right behind it, keeps a scanner sound. -/
theorem moved
    {distance : Nat}
    (sound : scanner.Sound dialect source)
    (within : scanner.position + distance ≤ source.length) :
    (scanner.moved distance).Sound dialect source where
  characters_eq := sound.characters_eq
  dialect_eq := sound.dialect_eq
  position_le := within
  readPosition_eq := rfl
  current_eq := by
    simp only [Scanner.moved, sound.characters_eq]
  start_le := Nat.le_add_right_of_le sound.start_le
  ended finished := by
    have ended := sound.ended finished
    simp only [Scanner.moved]
    omega

theorem start_marked
    (sound : scanner.Sound dialect source) :
    scanner.marked.start = scanner.position := by
  rw [Scanner.marked, sound.characters_eq]
  exact Nat.min_eq_left sound.position_le

theorem marked
    (sound : scanner.Sound dialect source) :
    scanner.marked.Sound dialect source where
  characters_eq := sound.characters_eq
  dialect_eq := sound.dialect_eq
  position_le := sound.position_le
  readPosition_eq := sound.readPosition_eq
  current_eq := sound.current_eq
  start_le := Nat.le_of_eq sound.start_marked
  ended := sound.ended

/-- A scanner may finish once it is at the end of the source. -/
theorem closed
    (sound : scanner.Sound dialect source)
    (ended : scanner.position = source.length) :
    scanner.closed.Sound dialect source where
  characters_eq := sound.characters_eq
  dialect_eq := sound.dialect_eq
  position_le := sound.position_le
  readPosition_eq := sound.readPosition_eq
  current_eq := sound.current_eq
  start_le := sound.start_le
  ended _ := ended

/-- The character behind the one under the index, as looking ahead finds it. -/
theorem ahead_eq
    (sound : scanner.Sound dialect source) :
    scanner.characters[scanner.readPosition]? =
      (source.drop (scanner.position + 1)).head? := by
  rw [sound.characters_eq, sound.readPosition_eq, List.head?_drop]

/-- What a sound scanner knows where nothing is left to read. -/
theorem of_drop_eq_nil
    (sound : scanner.Sound dialect source)
    (shape : source.drop scanner.position = []) :
    scanner.position = source.length ∧ scanner.atEnd = true ∧
      scanner.current = nothing := by
  have passed := List.drop_eq_nil_iff.mp shape
  refine ⟨Nat.le_antisymm sound.position_le passed, ?_, ?_⟩
  · simpa [atEnd, sound.characters_eq] using passed
  · rw [sound.current_eq, List.getElem?_eq_none passed]
    rfl

/-- What a sound scanner knows where a character is left to read. -/
theorem of_drop_eq_cons
    {head : Char}
    {tail : List Char}
    (sound : scanner.Sound dialect source)
    (shape : source.drop scanner.position = head :: tail) :
    scanner.position < source.length ∧ scanner.atEnd = false ∧
      scanner.current = head ∧
      source.drop (scanner.position + 1) = tail := by
  have within : scanner.position < source.length := by
    have total := congrArg List.length shape
    simp only [List.length_drop, List.length_cons] at total
    omega
  have parts := List.drop_eq_getElem_cons within
  rw [shape, List.cons.injEq] at parts
  refine ⟨within, ?_, ?_, parts.2.symm⟩
  · simpa [atEnd, sound.characters_eq] using within
  · rw [sound.current_eq, List.getElem?_eq_getElem within, parts.1]
    rfl

end Sound

end Scanner

namespace Walk

variable {dialect : Dialect} {source : List Char}

/-- The scanner is sound, and it was so, with a character under the index, at each step. -/
structure Sound
    (dialect : Dialect)
    (source : List Char)
    (walk : Walk) :
    Prop where
  scanner : walk.scanner.Sound dialect source
  trail :
    ∀ before ∈ walk.trail,
      before.Sound dialect source ∧ before.position < source.length

/-- A sound walk has come from another one by a distance. -/
structure Moves
    (dialect : Dialect)
    (source : List Char)
    (distance : Nat)
    (before after : Walk) :
    Prop where
  sound : after.Sound dialect source
  scanner_eq : after.scanner = before.scanner.moved distance

namespace Sound

theorem update
    {walk : Walk}
    {change : Scanner → Scanner}
    (sound : walk.Sound dialect source)
    (changed : (change walk.scanner).Sound dialect source) :
    ({ walk with scanner := change walk.scanner } : Walk).Sound
      dialect source where
  scanner := changed
  trail := sound.trail

/-- A step with a character under the index is a move by one. -/
theorem stepped
    {walk : Walk}
    (sound : walk.Sound dialect source)
    (within : walk.scanner.position < source.length) :
    Moves dialect source 1 walk walk.stepped where
  sound.scanner := by
    rw [Walk.stepped, sound.scanner.stepped_eq]
    exact sound.scanner.moved within
  sound.trail before member := by
    rcases List.mem_append.mp member with earlier | last
    · exact sound.trail before earlier
    · obtain rfl := List.mem_singleton.mp last
      exact ⟨sound.scanner, within⟩
  scanner_eq := sound.scanner.stepped_eq

theorem moves_zero
    {walk : Walk}
    (sound : walk.Sound dialect source) :
    Moves dialect source 0 walk walk where
  sound := sound
  scanner_eq := sound.scanner.moved_zero.symm

end Sound

theorem Moves.trans
    {first second : Nat}
    {before between after : Walk}
    (moves : Moves dialect source first before between)
    (movesOn : Moves dialect source second between after) :
    Moves dialect source (first + second) before after where
  sound := movesOn.sound
  scanner_eq := by
    rw [movesOn.scanner_eq, moves.scanner_eq, Scanner.moved_moved]

end Walk

namespace Scan

variable {dialect : Dialect} {source : List Char} {walk : Walk}

/-! ## Reading on -/

/-- A number of characters that the source still holds is read without a breach. -/
theorem readChars_runs
    {count : Nat}
    (sound : walk.Sound dialect source)
    (within : walk.scanner.position + count ≤ source.length) :
    ∃ after,
      (readChars count).Runs walk () after ∧
        Walk.Moves dialect source count walk after := by
  induction count generalizing walk with
  | zero =>
      exact ⟨walk, .pure () walk, sound.moves_zero⟩
  | succ count inductionHypothesis =>
      have step := sound.stepped (by omega)
      obtain ⟨after, runs, moves⟩ :=
        inductionHypothesis step.sound
          (by rw [step.scanner_eq, Scanner.position_moved]; omega)
      refine ⟨after, (readChar_runs walk).bind runs, ?_⟩
      rw [Nat.add_comm]
      exact step.trans moves

/-- A run is over at the end of the source and at a character outside of it. -/
theorem readWhile_of_stopped
    {holds : Char → Bool}
    (stops :
      (!walk.scanner.atEnd && holds walk.scanner.current) = false) :
    (readWhile holds).Runs walk () walk := by
  unfold Runs StateT.run
  rw [readWhile, stops]
  rfl

/-- Inside a run one character is read, and then the rest of the run. -/
theorem readWhile_of_going
    {holds : Char → Bool}
    {after : Walk}
    (goes :
      (!walk.scanner.atEnd && holds walk.scanner.current) = true)
    (runs : (readWhile holds).Runs walk.stepped () after) :
    (readWhile holds).Runs walk () after := by
  unfold Runs StateT.run
  rw [readWhile, goes]
  simp only [↓reduceIte]
  split
  · rename_i breach failed
    cases (readChar_runs walk).symm.trans failed
  · rename_i next stepped
    cases (readChar_runs walk).symm.trans stepped
    exact runs

/-- Reading on over a class of characters moves over all of them that stand at the index. -/
theorem readWhile_runs
    (holds : Char → Bool)
    (sound : walk.Sound dialect source) :
    ∃ after,
      (readWhile holds).Runs walk () after ∧
        Walk.Moves dialect source
          ((source.drop walk.scanner.position).takeWhile holds).length
          walk after := by
  induction shape : source.drop walk.scanner.position
      generalizing walk with
  | nil =>
      obtain ⟨-, ended, -⟩ := sound.scanner.of_drop_eq_nil shape
      exact ⟨walk, readWhile_of_stopped (by simp [ended]), sound.moves_zero⟩
  | cons head tail inductionHypothesis =>
      obtain ⟨within, unended, held, behind⟩ :=
        sound.scanner.of_drop_eq_cons shape
      cases matched : holds head with
      | false =>
          rw [List.takeWhile_cons_of_neg (by simp [matched])]
          exact ⟨walk, readWhile_of_stopped (by simp [held, matched]),
            sound.moves_zero⟩
      | true =>
          have step := sound.stepped within
          obtain ⟨after, runs, moves⟩ :=
            inductionHypothesis step.sound
              (by rw [step.scanner_eq]; exact behind)
          rw [List.takeWhile_cons_of_pos matched, List.length_cons,
            Nat.add_comm]
          exact ⟨after,
            readWhile_of_going (by simp [unended, held, matched]) runs,
            step.trans moves⟩

/-- A run of a class of characters is cut out of the text where the index has moved over it. -/
theorem readRun_runs
    {holds : Char → Bool}
    {run after : List Char}
    (sound : walk.Sound dialect source)
    (shape : source.drop walk.scanner.position = run ++ after)
    (inside : ∀ character ∈ run, holds character = true)
    (outside : ∀ character ∈ after.head?, holds character = false) :
    ∃ last,
      (readRun holds).Runs walk run last ∧
        Walk.Moves dialect source run.length walk last := by
  obtain ⟨taken, -⟩ :=
    Dialect.takeWhile_dropWhile_of_class inside outside
  obtain ⟨last, runs, moves⟩ := readWhile_runs holds sound
  rw [shape, taken] at moves
  refine ⟨last, ?_, moves⟩
  have ahead :
      last.scanner.position = walk.scanner.position + run.length := by
    rw [moves.scanner_eq, Scanner.position_moved]
  have same := moves.sound.scanner.characters_eq
  have cut :
      (slice walk.scanner.position last.scanner.position).Runs last
        ((last.scanner.characters.drop walk.scanner.position).take
          (last.scanner.position - walk.scanner.position)) last :=
    slice_runs (by omega)
      (by
        rw [same]
        exact moves.sound.scanner.position_le)
  rw [same, shape, ahead, Nat.add_sub_cancel_left, List.take_left,
    ← ahead] at cut
  exact (scanner_runs walk).bind
    (runs.bind ((scanner_runs last).bind cut))

/-! ## One token -/

/-- An operator with an equals sign behind it is a lexeme of two characters. -/
theorem classify_of_joined
    {sign : Mark}
    (joins : Mark.joined? walk.scanner.current = some sign)
    (ahead :
      walk.scanner.characters[walk.scanner.readPosition]? = some '=') :
    classify.Runs walk ((Lexeme.mark sign).token, .fixed 2) walk := by
  obtain ⟨short, found⟩ := Mark.exists_ofChar?_of_joined? joins
  refine (scanner_runs walk).bind ?_
  simp only [found, joins]
  refine (peekChar_runs walk).bind ?_
  simp only [ahead, Option.getD_some, beq_self_eq_true, ↓reduceIte]
  exact .pure _ walk

/-- An operator that no equals sign joins is a lexeme of one character. -/
theorem classify_of_ofChar?
    {sign : Mark}
    (found : Mark.ofChar? walk.scanner.current = some sign)
    (apart :
      Mark.joined? walk.scanner.current = none ∨
        walk.scanner.characters[walk.scanner.readPosition]? ≠ some '=') :
    classify.Runs walk ((Lexeme.mark sign).token, .fixed 1) walk := by
  refine (scanner_runs walk).bind ?_
  cases joins : Mark.joined? walk.scanner.current with
  | none =>
      simp only [found, joins]
      exact .pure _ walk
  | some joined =>
      have different :
          walk.scanner.characters[walk.scanner.readPosition]?.getD
              Scanner.nothing ≠
            '=' := by
        intro equal
        cases ahead :
            walk.scanner.characters[walk.scanner.readPosition]? with
        | none =>
            rw [ahead] at equal
            cases equal
        | some character =>
            simp_all
      simp only [found, joins]
      refine (peekChar_runs walk).bind ?_
      simp only [beq_iff_eq, different, ↓reduceIte]
      exact .pure _ walk

/-- At the end of the source the closing token is found. -/
theorem classify_at_end
    (ended : walk.scanner.atEnd = true)
    (held : walk.scanner.current = Scanner.nothing) :
    classify.Runs walk (.endOfInput, .nothing) walk := by
  have missing : Mark.ofChar? Scanner.nothing = none := rfl
  refine (scanner_runs walk).bind ?_
  simp only [held, missing, ended, beq_self_eq_true, Bool.and_self,
    ↓reduceIte]
  exact .pure _ walk

/-- A letter begins the word that the run from there on spells. -/
theorem classify_of_word
    {letters : List Char}
    {last : Walk}
    (unended : walk.scanner.atEnd = false)
    (missing : Mark.ofChar? walk.scanner.current = none)
    (begins :
      walk.scanner.dialect.isWordPart walk.scanner.current = true)
    (runs :
      (readRun walk.scanner.dialect.isWordPart).Runs walk letters last) :
    classify.Runs walk ((Lexeme.word letters).token, .scanned) last := by
  refine (scanner_runs walk).bind ?_
  simp only [missing, unended, Bool.and_false, Bool.false_eq_true,
    begins, ↓reduceIte]
  exact runs.bind (.pure _ last)

/-- A digit begins the number that the run from there on spells. -/
theorem classify_of_number
    {digits : List Char}
    {last : Walk}
    (unended : walk.scanner.atEnd = false)
    (missing : Mark.ofChar? walk.scanner.current = none)
    (noLetter :
      walk.scanner.dialect.isWordPart walk.scanner.current = false)
    (digit : walk.scanner.current.isDigit = true)
    (runs : (readRun Char.isDigit).Runs walk digits last) :
    classify.Runs walk ((Lexeme.number digits).token, .scanned) last := by
  refine (scanner_runs walk).bind ?_
  simp only [missing, unended, Bool.and_false, Bool.false_eq_true,
    noLetter, digit, ↓reduceIte]
  exact runs.bind (.pure _ last)

/-- Any other character is a stray one. -/
theorem classify_of_stray
    (unended : walk.scanner.atEnd = false)
    (missing : Mark.ofChar? walk.scanner.current = none)
    (noLetter :
      walk.scanner.dialect.isWordPart walk.scanner.current = false)
    (noDigit : walk.scanner.current.isDigit = false) :
    classify.Runs walk
      ((Lexeme.stray walk.scanner.current).token, .fixed 1) walk := by
  refine (scanner_runs walk).bind ?_
  simp only [missing, unended, Bool.and_false, Bool.false_eq_true,
    noLetter, noDigit, ↓reduceIte]
  exact .pure _ walk

/-- What is left of a lexeme of fixed width is all of it. -/
theorem consumes_of_fixed
    {token : Token}
    {width : Nat}
    (sound : walk.Sound dialect source)
    (within : walk.scanner.position + width ≤ source.length)
    (classified : classify.Runs walk (token, .fixed width) walk) :
    ∃ consumed between last,
      classify.Runs walk (token, consumed) between ∧
        (consume consumed).Runs between () last ∧
        Walk.Moves dialect source width walk last := by
  obtain ⟨last, runs, moves⟩ := readChars_runs sound within
  exact ⟨.fixed width, walk, last, classified, runs, moves⟩

/-- The lexeme that stands at the index is classified, and the index moves over it. -/
theorem classify_runs
    {lexeme : Lexeme}
    {after : List Char}
    (sound : walk.Sound dialect source)
    (admitted : dialect.Admits lexeme)
    (ends : dialect.EndsBefore lexeme after)
    (shape :
      source.drop walk.scanner.position = lexeme.spelling ++ after) :
    ∃ consumed between last,
      classify.Runs walk (lexeme.token, consumed) between ∧
        (consume consumed).Runs between () last ∧
        Walk.Moves dialect source lexeme.spelling.length walk last := by
  have within :
      walk.scanner.position + lexeme.spelling.length ≤ source.length := by
    have total := congrArg List.length shape
    have bound := sound.scanner.position_le
    simp only [List.length_drop, List.length_append] at total
    omega
  have same := sound.scanner.dialect_eq
  cases lexeme with
  | mark sign =>
      rcases sign.spelling_cases with
          ⟨character, spelled, found⟩ | ⟨character, spelled, joins⟩ <;>
        simp only [Lexeme.spelling, spelled, List.cons_append,
          List.nil_append] at shape within ⊢ <;>
        obtain ⟨-, -, held, behind⟩ :=
          sound.scanner.of_drop_eq_cons shape <;>
        have ahead := sound.scanner.ahead_eq <;>
        rw [behind] at ahead
      · refine consumes_of_fixed sound within
          (classify_of_ofChar? (by rw [held]; exact found) ?_)
        cases joins : Mark.joined? character with
        | none =>
            exact .inl (by rw [held, joins])
        | some joined =>
            right
            intro equal
            have closed := ends '=' (ahead.symm.trans equal)
            simp [Dialect.continues, Mark.isOpen_of_ofChar? found,
              joins] at closed
      · exact consumes_of_fixed sound within
          (classify_of_joined (by rw [held]; exact joins) ahead)
  | word letters =>
      obtain ⟨first, later, spelled, begins, -⟩ :=
        Dialect.isWord_iff.mp admitted
      obtain ⟨-, unended, held, -⟩ :=
        sound.scanner.of_drop_eq_cons
          (by rw [shape, Lexeme.spelling, spelled]; rfl)
      obtain ⟨last, runs, moves⟩ :=
        readRun_runs sound shape
          (Dialect.isWordPart_of_isWord admitted) ends
      refine ⟨.scanned, last, last,
        classify_of_word unended ?_ ?_ (by rw [same]; exact runs),
        .pure () last, moves⟩
      · rw [held]
        exact (classes_of_begins (.inl begins)).1
      · rw [held]
        exact Dialect.isWordPart_of_isWordStart _ begins
  | number digits =>
      obtain ⟨first, later, spelled, digit, inside⟩ :=
        Dialect.isDigits_iff.mp admitted
      obtain ⟨-, unended, held, -⟩ :=
        sound.scanner.of_drop_eq_cons
          (by rw [shape, Lexeme.spelling, spelled]; rfl)
      have missing := (classes_of_begins (.inr digit)).1
      obtain ⟨last, runs, moves⟩ :=
        readRun_runs sound shape
          (by
            simp only [Lexeme.spelling, spelled, List.forall_mem_cons]
            exact ⟨digit, inside⟩)
          ends
      refine ⟨.scanned, last, last,
        classify_of_number unended (by rw [held]; exact missing) ?_
          (by rw [held]; exact digit) runs,
        .pure () last, moves⟩
      rw [held]
      exact Dialect.isWordPart_eq_false missing (isWordStart_of_isDigit digit)
  | stray character =>
      obtain ⟨-, unended, held, -⟩ :=
        sound.scanner.of_drop_eq_cons shape
      have stray := Dialect.admits_stray_iff.mp admitted
      simp only [isStray, Bool.and_eq_true, Bool.not_eq_true',
        Option.isNone_iff_eq_none] at stray
      obtain ⟨⟨⟨-, missing⟩, noLetter⟩, noDigit⟩ := stray
      have classified :
          classify.Runs walk
            ((Lexeme.stray walk.scanner.current).token, .fixed 1) walk :=
        classify_of_stray unended
          (by rw [held]; exact missing)
          (by rw [held]; exact Dialect.isWordPart_eq_false missing noLetter)
          (by rw [held]; exact noDigit)
      rw [held] at classified
      exact consumes_of_fixed sound within classified

/-- In front of a token the spacing is passed, and the token starts behind it. -/
theorem skips_runs
    {gap after : List Char}
    (sound : walk.Sound dialect source)
    (shape : source.drop walk.scanner.position = gap ++ after)
    (spaced : IsGap gap)
    (solid : ∀ character ∈ after.head?, isSpacing character = false) :
    ∃ skipped ready,
      (readWhile isSpacing).Runs walk () skipped ∧
        (update Scanner.marked).Runs skipped () ready ∧
        ready.Sound dialect source ∧
        ready.scanner =
          { walk.scanner.moved gap.length with
            start := walk.scanner.position + gap.length } := by
  obtain ⟨taken, -⟩ := Dialect.takeWhile_dropWhile_of_class spaced solid
  obtain ⟨skipped, runs, moves⟩ := readWhile_runs isSpacing sound
  rw [shape, taken] at moves
  refine ⟨skipped, _, runs, update_runs Scanner.marked skipped,
    moves.sound.update moves.sound.scanner.marked, ?_⟩
  have start := moves.sound.scanner.start_marked
  rw [moves.scanner_eq] at start ⊢
  rw [← Scanner.position_moved, ← start]
  rfl

end Scan

/-- A walk of a text stands where a cursor of the text stands. -/
structure Walk.Matches
    (dialect : Dialect)
    (source : List Char)
    (walk : Walk)
    (cursor : Cursor) :
    Prop where
  sound : walk.Sound dialect source
  stands : cursor.Stands dialect source
  position_eq : walk.scanner.position = cursor.position
  start_eq : walk.scanner.start = cursor.start
  finished_eq : walk.scanner.finished = cursor.finished

/-- What is in front of a walk is the rest of the cursor that it matches. -/
theorem Walk.Matches.rest_eq
    {dialect : Dialect}
    {source : List Char}
    {walk : Walk}
    {cursor : Cursor}
    (matched : walk.Matches dialect source cursor) :
    source.drop walk.scanner.position = cursor.rest := by
  rw [matched.stands.rest_eq, matched.position_eq]

namespace Scan

variable {dialect : Dialect} {source : List Char}
variable {walk : Walk} {cursor : Cursor}

/-- In front of nothing but spacing a scanner comes to its end as the cursor does. -/
theorem nextToken_of_gap
    (matched : walk.Matches dialect source cursor)
    (spaced : IsGap cursor.rest) :
    ∃ after,
      nextToken.Runs walk .endOfInput after ∧
        after.Matches dialect source cursor.atEnd := by
  obtain ⟨skipped, ready, skips, marks, sound, same⟩ :=
    skips_runs matched.sound
      (matched.rest_eq.trans (List.append_nil cursor.rest).symm)
      spaced (by simp)
  have position :
      ready.scanner.position = cursor.position + cursor.rest.length := by
    rw [same, ← matched.position_eq]
    rfl
  have nothingLeft : source.drop ready.scanner.position = [] := by
    rw [position, matched.stands.position_add_length]
    exact List.drop_length
  obtain ⟨-, ended, held⟩ := sound.scanner.of_drop_eq_nil nothingLeft
  refine ⟨ready,
    skips.bind
      (marks.bind
        ((classify_at_end ended held).bind
          ((Runs.pure () ready).bind (.pure _ ready)))),
    sound, ?_, position, ?_, ?_⟩
  · exact matched.stands.atEnd cursor.finished
  · rw [same, matched.position_eq]
    rfl
  · rw [same]
    exact matched.finished_eq

/-- In front of a piece a scanner reads the lexeme and stops where the cursor does. -/
theorem nextToken_of_piece
    {piece : Piece dialect}
    {after : List Char}
    (matched : walk.Matches dialect source cursor)
    (shape : cursor.rest = piece.text ++ after)
    (ends : dialect.EndsBefore piece.lexeme after) :
    ∃ last,
      nextToken.Runs walk piece.lexeme.token last ∧
        last.Matches dialect source (cursor.past piece after) := by
  have parts :
      source.drop walk.scanner.position =
        piece.gap ++ (piece.lexeme.spelling ++ after) := by
    rw [matched.rest_eq, shape, Piece.text, List.append_assoc]
  obtain ⟨head, tail, spelled⟩ :=
    List.exists_cons_of_ne_nil
      (Dialect.spelling_ne_nil_of_admits piece.admitted)
  have solid : isSpacing head = false :=
    Dialect.isSpacing_of_admits piece.admitted head
      (by simp [spelled])
  obtain ⟨skipped, ready, skips, marks, sound, same⟩ :=
    skips_runs matched.sound parts piece.spaced
      (by simp [spelled, solid])
  have lexeme :
      source.drop ready.scanner.position =
        piece.lexeme.spelling ++ after := by
    have dropped := congrArg (List.drop piece.gap.length) parts
    rw [List.drop_drop, List.drop_left] at dropped
    rw [same]
    exact dropped
  obtain ⟨consumed, between, last, classifies, consumes, moves⟩ :=
    classify_runs sound piece.admitted ends lexeme
  refine ⟨last,
    skips.bind
      (marks.bind (classifies.bind (consumes.bind (.pure _ last)))),
    moves.sound, matched.stands.past shape, ?_, ?_, ?_⟩
  · rw [moves.scanner_eq, same]
    simp [Scanner.moved, Cursor.past, Piece.text, matched.position_eq,
      Nat.add_assoc]
  · rw [moves.scanner_eq, same]
    simp [Scanner.moved, Cursor.past, matched.position_eq]
  · rw [moves.scanner_eq, same]
    exact matched.finished_eq

/-- Where a cursor gives a token, a scanner reads it, and the two stand at one place again. -/
theorem nextToken_runs
    (matched : walk.Matches dialect source cursor) :
    ∃ after,
      nextToken.Runs walk cursor.nextToken.1 after ∧
        after.Matches dialect source cursor.nextToken.2 := by
  obtain rfl := matched.stands.dialect_eq
  rcases cursor.advance_cases with
      ⟨spaced, stopped⟩ | ⟨piece, after, shape, ends, found⟩
  · simp only [Cursor.nextToken, stopped]
    exact nextToken_of_gap matched spaced
  · simp only [Cursor.nextToken, found]
    exact nextToken_of_piece matched shape ends

/-- A scanner in step with a cursor gives the same next token and stays in step. -/
theorem next?_runs
    (matched : walk.Matches dialect source cursor) :
    ∃ after,
      next?.Runs walk cursor.next?.1 after ∧
        after.Matches dialect source cursor.next?.2 := by
  have stands : cursor.next?.2.Stands dialect source :=
    matched.stands.after .next
  cases finished : cursor.finished with
  | true =>
      have stopped : cursor.next? = (none, cursor) := by
        simp [Cursor.next?, finished]
      rw [stopped]
      refine ⟨walk, (scanner_runs walk).bind ?_, matched⟩
      rw [matched.finished_eq, finished]
      exact .pure none walk
  | false =>
      obtain ⟨after, runs, reached⟩ := nextToken_runs matched
      have unfinished : walk.scanner.finished = false :=
        matched.finished_eq.trans finished
      rw [Cursor.next?_of_unfinished finished] at stands ⊢
      cases ends : cursor.nextToken.1.isEnd with
      | false =>
          refine ⟨after, (scanner_runs walk).bind ?_, ?_⟩
          · simp only [unfinished, Bool.false_eq_true, ↓reduceIte]
            refine runs.bind ?_
            rw [ends]
            exact .pure _ after
          · rw [ends] at stands
            refine ⟨reached.sound, stands, reached.position_eq,
              reached.start_eq, ?_⟩
            rw [reached.finished_eq, Cursor.nextToken_snd,
              Cursor.finished_advance, finished]
      | true =>
          rw [ends] at stands
          have ended : after.scanner.position = source.length := by
            have total := stands.position_add_length
            rw [stands.rest_nil rfl] at total
            exact reached.position_eq.trans total
          refine ⟨{ after with scanner := after.scanner.closed },
            (scanner_runs walk).bind ?_,
            reached.sound.update (reached.sound.scanner.closed ended),
            stands, reached.position_eq, reached.start_eq, rfl⟩
          simp only [unfinished, Bool.false_eq_true, ↓reduceIte]
          refine runs.bind ?_
          rw [ends]
          exact (update_runs Scanner.closed after).bind (.pure _ _)

/-! ## Calls -/

/-- What a scanner gives to a call. -/
def answer : Call → Scan (Option Token)
  | .nextToken => do return some (← nextToken)
  | .next => next?

/-- What a scanner gives to some calls, in order. -/
def answers : List Call → Scan (List (Option Token))
  | [] => return []
  | call :: later => do
      let token ← answer call
      return token :: (← answers later)

/-- Set the index on the text and make some calls. -/
def session (calls : List Call) : Scan (List (Option Token)) := do
  begin
  answers calls

end Scan

namespace Cursor

/-- What a cursor gives to a call. -/
def answered (cursor : Cursor) : Call → Option Token
  | .nextToken => some cursor.nextToken.1
  | .next => cursor.next?.1

/-- What a cursor gives to some calls, in order. -/
def answeredAll
    (cursor : Cursor) :
    List Call → List (Option Token)
  | [] => []
  | call :: later =>
      cursor.answered call :: (cursor.after call).answeredAll later

end Cursor

namespace Scan

variable {dialect : Dialect} {source : List Char}
variable {walk : Walk} {cursor : Cursor}

/-- A scanner in step with a cursor answers any call as the cursor does. -/
theorem answer_runs
    (matched : walk.Matches dialect source cursor)
    (call : Call) :
    ∃ after,
      (answer call).Runs walk (cursor.answered call) after ∧
        after.Matches dialect source (cursor.after call) := by
  cases call with
  | nextToken =>
      obtain ⟨after, runs, reached⟩ := nextToken_runs matched
      exact ⟨after, runs.bind (.pure _ after), reached⟩
  | next =>
      exact next?_runs matched

/-- A scanner in step with a cursor answers any number of calls as the cursor does. -/
theorem answers_runs
    (matched : walk.Matches dialect source cursor)
    (calls : List Call) :
    ∃ after,
      (answers calls).Runs walk (cursor.answeredAll calls) after ∧
        after.Matches dialect source (cursor.afterAll calls) := by
  induction calls generalizing walk cursor with
  | nil =>
      exact ⟨walk, .pure [] walk, matched⟩
  | cons call later inductionHypothesis =>
      obtain ⟨between, runs, reached⟩ := answer_runs matched call
      obtain ⟨after, runsOn, reachedLast⟩ := inductionHypothesis reached
      exact ⟨after, runs.bind (runsOn.bind (.pure _ after)), reachedLast⟩

/-- The scanner stands on the first character where a fresh cursor stands before it. -/
theorem begin_runs
    (dialect : Dialect)
    (text : String) :
    ∃ opened,
      begin.Runs (.ofText dialect text) () opened ∧
        opened.Matches dialect text.toList (.ofText dialect text) := by
  refine ⟨_, (readChar_runs (.ofText dialect text)).bind rfl,
    ⟨⟨rfl, rfl, Nat.zero_le _, rfl, rfl, Nat.le_refl 0, ?_⟩, ?_⟩,
    .ofText dialect text, rfl, rfl, rfl⟩
  · intro finished
    cases finished
  · exact List.forall_mem_nil _

/-- Whatever calls are made, a scanner answers as a cursor does and stands where it stands. -/
theorem session_runs
    (dialect : Dialect)
    (text : String)
    (calls : List Call) :
    ∃ walk,
      (session calls).Runs (.ofText dialect text)
          ((Cursor.ofText dialect text).answeredAll calls) walk ∧
        walk.Matches dialect text.toList
          ((Cursor.ofText dialect text).afterAll calls) := by
  obtain ⟨opened, begins, matched⟩ := begin_runs dialect text
  obtain ⟨walk, runs, reached⟩ := answers_runs matched calls
  exact ⟨walk, begins.bind runs, reached⟩

end Scan

end MonkeyTokens
