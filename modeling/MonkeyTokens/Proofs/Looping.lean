import MonkeyTokens.Proofs.Scanning
import MonkeyTokens.Proofs.Strictness

namespace MonkeyTokens

/-!
# Where scans stay and how they end

A scan never leaves its text: no index and no slice is out of bounds, and nothing reads
on at the end.  Each token but the closing one takes a character that is no spacing, so
the loops that read token after token end after no more rounds than there are such
characters left, and one for the closing token.
-/

namespace Layout

variable {dialect : Dialect}

/-- Every token of a layout but the closing one holds a character that is no spacing. -/
theorem length_placedFrom_le
    (start : Nat)
    (layout : Layout dialect) :
    (layout.placedFrom start).length ≤
      (layout.text.countP fun character => !isSpacing character) + 1 := by
  induction layout generalizing start with
  | ending gap spaced =>
      simp [placedFrom]
  | cons piece later inductionHypothesis =>
      have solid :
          0 < piece.text.countP fun character => !isSpacing character := by
        obtain ⟨head, tail, spelled⟩ :=
          List.exists_cons_of_ne_nil
            (Dialect.spelling_ne_nil_of_admits piece.admitted)
        have member : head ∈ piece.lexeme.spelling := by
          simp [spelled]
        refine List.countP_pos_iff.mpr ⟨head, ?_, ?_⟩
        · exact List.mem_append_right piece.gap member
        · simp [Dialect.isSpacing_of_admits piece.admitted head member]
      have rest := inductionHypothesis (start + piece.text.length)
      simp only [placedFrom, List.length_cons, text, List.countP_append]
      omega

end Layout

namespace Cursor

variable {dialect : Dialect} {source : List Char} {cursor : Cursor}

/--
A cursor gives at most one token for each character that is no spacing, and the
closing one.
-/
theorem length_drain_le (cursor : Cursor) :
    cursor.drain.1.length ≤
      (cursor.rest.countP fun character => !isSpacing character) + 1 := by
  obtain ⟨layout, shape, read⟩ := cursor.exists_layout
  rw [read, ← shape]
  exact layout.length_placedFrom_le cursor.position

theorem length_remaining_le (cursor : Cursor) :
    cursor.remaining.1.length ≤
      (cursor.rest.countP fun character => !isSpacing character) + 1 := by
  rw [remaining_eq_drain]
  split
  · exact Nat.zero_le _
  · exact cursor.length_drain_le

/-- A call leaves a cursor as it is or takes it one step on. -/
theorem after_cases
    (cursor : Cursor)
    (call : Call) :
    cursor.after call = cursor ∨
      ∃ finished, cursor.after call = { cursor.advance.2 with finished } := by
  cases call with
  | nextToken =>
      exact .inr ⟨_, cursor.nextToken_snd⟩
  | next =>
      cases finished : cursor.finished with
      | true =>
          exact .inl (by simp [after, next?, finished])
      | false =>
          refine .inr ⟨cursor.nextToken.1.isEnd, ?_⟩
          simp only [after, next?_of_unfinished finished, nextToken_snd]

namespace Stands

/-- There is a token to read, be it the closing one. -/
theorem length_drain_pos
    (stands : cursor.Stands dialect source) :
    0 < cursor.drain.1.length := by
  obtain ⟨earlier, shape, -⟩ := drain_closed stands
  simp [shape]

/-- A token starts no earlier than the cursor stood, and all but the closing one are passed. -/
theorem nextToken_progress
    (stands : cursor.Stands dialect source) :
    cursor.position ≤ cursor.nextToken.2.start ∧
      if cursor.nextToken.1.isEnd then
        cursor.nextToken.2.position = source.length
      else
        cursor.nextToken.2.start + 1 ≤ cursor.nextToken.2.position := by
  rcases cursor.advance_cases with
      ⟨-, stopped⟩ | ⟨piece, after, -, -, found⟩
  · have ended := stands.position_add_length
    have closing : Token.endOfInput.isEnd = true := rfl
    simpa [nextToken, stopped, Cursor.atEnd, closing, ended] using
      stands.position_le
  · have spelled := piece.length_spelling_pos
    simp only [nextToken, found, Cursor.past, Piece.text,
      List.length_append, Lexeme.isEnd_token, Bool.false_eq_true,
      ↓reduceIte]
    omega

/-- Neither the position nor the start of the token read last ever goes back. -/
theorem le_after
    (stands : cursor.Stands dialect source)
    (call : Call) :
    cursor.position ≤ (cursor.after call).position ∧
      cursor.start ≤ (cursor.after call).start := by
  rcases cursor.after_cases call with same | ⟨finished, moved⟩
  · rw [same]
    exact ⟨Nat.le_refl _, Nat.le_refl _⟩
  · have started := stands.nextToken_progress.1
    have behind := stands.start_le
    have reached := stands.advance.start_le
    rw [nextToken_snd] at started
    rw [moved]
    exact ⟨Nat.le_trans started reached, Nat.le_trans behind started⟩

end Stands

end Cursor

/-- A token in front of a reading comes first in its result. -/
theorem Reading.result_cons
    (placed : Placed)
    (reading : Reading) :
    (reading.cons placed).result =
      reading.result.map (placed.token :: ·) := by
  obtain ⟨tokens, fault⟩ := reading
  cases fault <;> rfl

/--
A text in memory takes four bytes for a character, and its size is a positive number of
64 bits.  So a word of 64 bits holds the next index of each step.
-/
theorem Walk.Sound.readPosition_lt
    {dialect : Dialect}
    {source : List Char}
    {walk : Walk}
    {before : Scanner}
    (sound : walk.Sound dialect source)
    (short : 4 * source.length < UInt64.size / 2)
    (member : before ∈ walk.trail) :
    before.readPosition + 1 < UInt64.size := by
  obtain ⟨earlier, within⟩ := sound.trail before member
  rw [earlier.readPosition_eq]
  omega

namespace Scan

variable {dialect : Dialect} {source : List Char}
variable {walk : Walk} {cursor : Cursor}

/-!
## Loops

Each loop is followed by induction on its rounds.  A round reads one token, so the bound
on the rounds goes down together with the tokens that are left.
-/

/-- With a round for each token, reading through the closing token ends. -/
theorem drain_runs
    {rounds : Nat}
    (matched : walk.Matches dialect source cursor)
    (enough : cursor.drain.1.length ≤ rounds)
    (earlier : List Placed) :
    ∃ after,
      (drain rounds earlier).Runs walk
          (some (earlier ++ cursor.drain.1)) after ∧
        after.Sound dialect source := by
  induction rounds generalizing walk cursor earlier with
  | zero =>
      exact absurd enough (Nat.not_le_of_lt matched.stands.length_drain_pos)
  | succ rounds inductionHypothesis =>
      obtain rfl := matched.stands.dialect_eq
      rcases cursor.advance_cases with
          ⟨spaced, -⟩ | ⟨piece, rest, shape, ends, -⟩
      · obtain ⟨after, runs, reached⟩ := nextToken_of_gap matched spaced
        refine ⟨after, runs.bind ((scanner_runs after).bind ?_),
          reached.sound⟩
        rw [Cursor.drain_of_gap spaced, reached.start_eq]
        exact .pure _ after
      · obtain ⟨between, runs, reached⟩ :=
          nextToken_of_piece matched shape ends
        rw [Cursor.drain_of_piece rfl shape ends, List.length_cons] at enough
        obtain ⟨after, runsOn, sound⟩ :=
          inductionHypothesis reached (Nat.le_of_succ_le_succ enough)
            (earlier ++ [piece.placed cursor.position])
        refine ⟨after, runs.bind ((scanner_runs between).bind ?_), sound⟩
        rw [Cursor.drain_of_piece rfl shape ends, reached.start_eq]
        simp only [Lexeme.isEnd_token, Bool.false_eq_true, ↓reduceIte]
        rw [List.append_assoc] at runsOn
        exact runsOn

/-- The iterator gives nothing in the round behind its last token, and then collecting ends. -/
theorem collect_runs
    {rounds : Nat}
    (matched : walk.Matches dialect source cursor)
    (enough : cursor.remaining.1.length < rounds)
    (earlier : List Token) :
    ∃ after,
      (collect rounds earlier).Runs walk
          (some (earlier ++ cursor.remaining.1.map Placed.token)) after ∧
        after.Sound dialect source := by
  induction rounds generalizing walk cursor earlier with
  | zero =>
      cases enough
  | succ rounds inductionHypothesis =>
      obtain ⟨between, runs, reached⟩ := next?_runs matched
      rcases given : cursor.next? with ⟨token?, next⟩
      rw [given] at runs reached
      cases token? with
      | none =>
          rw [Cursor.remaining_of_stopped given, List.map_nil,
            List.append_nil]
          exact ⟨between, runs.bind (.pure _ between), reached.sound⟩
      | some token =>
          rw [Cursor.remaining_of_next? given] at enough ⊢
          obtain ⟨after, runsOn, sound⟩ :=
            inductionHypothesis reached (Nat.lt_of_succ_lt_succ enough)
              (earlier ++ [token])
          rw [List.append_assoc] at runsOn
          exact ⟨after, runs.bind runsOn, sound⟩

/-- With a round for each token strict reading ends, at an illegal token or the closing one. -/
theorem strictly_runs
    {rounds : Nat}
    (matched : walk.Matches dialect source cursor)
    (enough : cursor.drain.1.length ≤ rounds)
    (earlier : List Token) :
    ∃ after,
      (strictly rounds earlier).Runs walk
          (some (cursor.strictly.result.map (earlier ++ ·))) after ∧
        after.Sound dialect source := by
  induction rounds generalizing walk cursor earlier with
  | zero =>
      exact absurd enough (Nat.not_le_of_lt matched.stands.length_drain_pos)
  | succ rounds inductionHypothesis =>
      obtain rfl := matched.stands.dialect_eq
      rcases cursor.advance_cases with
          ⟨spaced, -⟩ | ⟨piece, rest, shape, ends, -⟩
      · obtain ⟨after, runs, reached⟩ := nextToken_of_gap matched spaced
        refine ⟨after, runs.bind ?_, reached.sound⟩
        rw [Cursor.strictly_of_gap spaced, Cursor.drain_of_gap spaced]
        exact .pure _ after
      obtain ⟨between, runs, reached⟩ :=
        nextToken_of_piece matched shape ends
      by_cases illegal : piece.lexeme.kind = .illegal
      · obtain ⟨character, stray⟩ := Lexeme.kind_eq_illegal_iff.mp illegal
        have found := matched.stands.getElem?_of_stray shape stray
        have looksUp :
            (characterAt between.scanner.start).Runs between character
              between := by
          apply characterAt_runs
          rw [reached.sound.scanner.characters_eq, reached.start_eq]
          exact found
        refine ⟨between, runs.bind ?_, reached.sound⟩
        rw [Cursor.strictly_of_stray rfl shape stray]
        have faulty : (piece.lexeme.token.kind == Kind.illegal) = true := by
          simp [Lexeme.token, illegal]
        simp only [faulty, ↓reduceIte]
        refine (scanner_runs between).bind (looksUp.bind ?_)
        rw [reached.sound.scanner.characters_eq, reached.start_eq,
          matched.stands.source_eq]
        exact .pure _ between
      · rw [Cursor.drain_of_piece rfl shape ends, List.length_cons] at enough
        obtain ⟨after, runsOn, sound⟩ :=
          inductionHypothesis reached (Nat.le_of_succ_le_succ enough)
            (earlier ++ [piece.lexeme.token])
        refine ⟨after, runs.bind ?_, sound⟩
        have faultless :
            (piece.lexeme.token.kind == Kind.illegal) = false := by
          simpa [Lexeme.token] using illegal
        simp only [faultless, Lexeme.isEnd_token, Bool.false_eq_true,
          ↓reduceIte]
        rw [Cursor.strictly_of_legal rfl shape ends illegal,
          Reading.result_cons]
        cases result : (cursor.past piece rest).strictly.result with
        | error fault =>
            rw [result] at runsOn
            exact runsOn
        | ok later =>
            rw [result] at runsOn
            simpa [Except.map, Piece.placed] using runsOn

end Scan

/--
Every walk of a text that calls lead to keeps to the text, and so does what is read from
there: the walk and all scanners on its trail are sound, each of them had a character
under its index when it read on, no index and no slice was a breach, and the word that
holds the next index does not overflow if the text fits in memory.  Marking the start of
a token never cuts an offset, and neither offset ever goes back.
-/
theorem walks_keep_to_text
    (dialect : Dialect)
    (text : String)
    (calls : List Call) :
    let cursor := (Cursor.ofText dialect text).afterAll calls
    ∃ walk : Walk,
      (Scan.session calls).Runs (.ofText dialect text)
          ((Cursor.ofText dialect text).answeredAll calls) walk ∧
        walk.scanner.position = cursor.position ∧
        walk.Sound dialect text.toList ∧
        walk.scanner.readPosition ≤ text.toList.length + 1 ∧
        (4 * text.toList.length < UInt64.size / 2 →
          ∀ before ∈ walk.trail, before.readPosition + 1 < UInt64.size) ∧
        (∃ skipped,
          (Scan.readWhile isSpacing).Runs walk () skipped ∧
            skipped.scanner.marked.start = skipped.scanner.position) ∧
        (∃ result after,
          (Scan.strictly (text.toList.length + 1) []).Runs walk
              (some result) after ∧
            after.Sound dialect text.toList ∧
            (4 * text.toList.length < UInt64.size / 2 →
              ∀ before ∈ after.trail, before.readPosition + 1 < UInt64.size)) ∧
        ∀ call,
          ∃ token after,
            (Scan.answer call).Runs walk token after ∧
              walk.scanner.position ≤ after.scanner.position ∧
              walk.scanner.start ≤ after.scanner.start := by
  intro cursor
  obtain ⟨walk, runs, matched⟩ := Scan.session_runs dialect text calls
  have sound := matched.sound
  refine ⟨walk, runs, matched.position_eq, sound, ?_, ?_, ?_, ?_, ?_⟩
  · have bound := sound.scanner.position_le
    rw [sound.scanner.readPosition_eq]
    omega
  · intro short before member
    exact sound.readPosition_lt short member
  · obtain ⟨skipped, skips, moves⟩ := Scan.readWhile_runs isSpacing sound
    exact ⟨skipped, skips, moves.sound.scanner.start_marked⟩
  · have enough : cursor.drain.1.length ≤ text.toList.length + 1 := by
      have few := cursor.length_drain_le
      have all :
          (cursor.rest.countP fun character => !isSpacing character) ≤
            cursor.rest.length :=
        List.countP_le_length
      have left :
          cursor.position + cursor.rest.length = text.toList.length :=
        matched.stands.position_add_length
      omega
    obtain ⟨after, ends, last⟩ := Scan.strictly_runs matched enough []
    refine ⟨_, after, ends, last, ?_⟩
    intro short before member
    exact last.readPosition_lt short member
  · intro call
    obtain ⟨after, answers, reached⟩ := Scan.answer_runs matched call
    have ordered := matched.stands.le_after call
    refine ⟨_, after, answers, ?_, ?_⟩
    · rw [matched.position_eq, reached.position_eq]
      exact ordered.1
    · rw [matched.start_eq, reached.start_eq]
      exact ordered.2

/-- A dash goes on with a word, a NUL belongs to the text, and a sign is looked behind. -/
theorem walks_keep_to_text_past_nul :
    4 * "a-\x00 =".toList.length < UInt64.size / 2 ∧
      ∃ walk : Walk,
        (Scan.session [.next, .nextToken, .next, .next, .nextToken]).Runs
            (.ofText { dashInWords := true } "a-\x00 =")
            [some { kind := .identifier, literal := "a-" },
              some { kind := .illegal, literal := "" },
              some { kind := .mark .assign, literal := "=" },
              some .endOfInput,
              some .endOfInput]
            walk ∧
          walk.scanner.position = 5 ∧
          walk.scanner.readPosition ≤ 6 ∧
          ∀ before ∈ walk.trail, before.readPosition + 1 < UInt64.size := by
  have short : 4 * "a-\x00 =".toList.length < UInt64.size / 2 := by
    decide
  obtain ⟨walk, runs, position, -, bound, fits, -⟩ :=
    walks_keep_to_text { dashInWords := true } "a-\x00 ="
      [.next, .nextToken, .next, .next, .nextToken]
  refine ⟨short, walk, ?_, ?_, ?_, fits short⟩
  · exact runs
  · exact position
  · exact bound

/--
Wherever calls lead, a token that is not the closing one is read at least one character
past its start, and the closing token leaves nothing to read.  The tokens in front of
the closing one are no more than the characters left that are no spacing, so with one
round more than that each loop has ended: reading through the closing token, strict
reading, and in the round behind it the collecting of what the iterator gives.
-/
theorem loops_end
    (dialect : Dialect)
    (text : String)
    (calls : List Call) :
    let cursor := (Cursor.ofText dialect text).afterAll calls
    let solid :=
      (text.toList.drop cursor.position).countP fun character =>
        !isSpacing character
    ∃ walk : Walk,
      (Scan.session calls).Runs (.ofText dialect text)
          ((Cursor.ofText dialect text).answeredAll calls) walk ∧
        walk.scanner.position = cursor.position ∧
        (∃ token after,
          Scan.nextToken.Runs walk token after ∧
            walk.scanner.position ≤ after.scanner.start ∧
            if token.isEnd then
              after.scanner.position = text.toList.length
            else
              after.scanner.start + 1 ≤ after.scanner.position) ∧
        ∃ earlier,
          (∀ placed ∈ earlier, placed.token.kind ≠ .endOfInput) ∧
            earlier.length ≤ solid ∧
            cursor.drain.1 =
              earlier ++
                [{ offset := text.toList.length, token := .endOfInput }] ∧
            ∀ rounds, solid < rounds →
              (∃ after,
                (Scan.drain rounds []).Runs walk
                  (some cursor.drain.1) after) ∧
              (∃ after,
                (Scan.strictly rounds []).Runs walk
                  (some cursor.strictly.result) after) ∧
              ∃ after,
                (Scan.collect (rounds + 1) []).Runs walk
                  (some (cursor.remaining.1.map Placed.token)) after := by
  intro cursor solid
  obtain ⟨walk, runs, matched⟩ := Scan.session_runs dialect text calls
  refine ⟨walk, runs, matched.position_eq, ?_, ?_⟩
  · obtain ⟨after, reads, reached⟩ := Scan.nextToken_runs matched
    have progress := matched.stands.nextToken_progress
    refine ⟨_, after, reads, ?_⟩
    rw [matched.position_eq, reached.position_eq, reached.start_eq]
    exact progress
  · obtain ⟨earlier, shape, unended⟩ :=
      Cursor.drain_closed matched.stands
    have few : cursor.drain.1.length ≤ solid + 1 := by
      have counted := cursor.length_drain_le
      rwa [matched.stands.rest_eq] at counted
    have remain : cursor.remaining.1.length ≤ solid + 1 := by
      have counted := cursor.length_remaining_le
      rwa [matched.stands.rest_eq] at counted
    refine ⟨earlier, unended, ?_, shape, ?_⟩
    · rw [shape, List.length_append] at few
      exact Nat.le_of_succ_le_succ few
    · intro rounds enough
      obtain ⟨drained, drains, -⟩ :=
        Scan.drain_runs matched (Nat.le_trans few enough) []
      obtain ⟨judged, judges, -⟩ :=
        Scan.strictly_runs matched (Nat.le_trans few enough) []
      obtain ⟨collected, collects, -⟩ :=
        Scan.collect_runs matched
          (Nat.lt_succ_of_le (Nat.le_trans remain enough)) []
      refine ⟨⟨drained, drains⟩, ⟨judged, ?_⟩, ⟨collected, collects⟩⟩
      have same : cursor.strictly.result.map ([] ++ ·) =
          cursor.strictly.result := by
        cases cursor.strictly.result <;> rfl
      rwa [same] at judges

/-- A NUL neither ends a loop nor holds it up; one round behind the last token is enough. -/
theorem loops_end_past_nul :
    (("a\x00 -b".toList.drop 1).countP fun character =>
        !isSpacing character) < 4 ∧
      ∃ walk after : Walk,
        (Scan.session [.next]).Runs
            (.ofText { dashInWords := true } "a\x00 -b")
            [some { kind := .identifier, literal := "a" }] walk ∧
          (Scan.collect 5 []).Runs walk
            (some
              [{ kind := .illegal, literal := "" },
                { kind := .mark .minus, literal := "-" },
                { kind := .identifier, literal := "b" },
                .endOfInput])
            after := by
  have enough :
      (("a\x00 -b".toList.drop 1).countP fun character =>
        !isSpacing character) < 4 := by
    decide
  obtain ⟨walk, runs, -, -, earlier, -, -, -, loops⟩ :=
    loops_end { dashInWords := true } "a\x00 -b" [.next]
  obtain ⟨-, -, after, collects⟩ := loops 4 enough
  have given :
      ((Cursor.ofText { dashInWords := true } "a\x00 -b").afterAll
          [.next]).remaining.1.map Placed.token =
        [{ kind := .illegal, literal := "" },
          { kind := .mark .minus, literal := "-" },
          { kind := .identifier, literal := "b" },
          .endOfInput] := by
    decide +kernel
  rw [given] at collects
  exact ⟨enough, walk, after, runs, collects⟩

end MonkeyTokens
