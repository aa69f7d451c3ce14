import Mathlib.Data.List.Chain
import MonkeyTokens.Proofs.Lines
import MonkeyTokens.Proofs.Tiling

namespace MonkeyTokens

/-!
# Dashes in words

The dialects differ in one class of characters.  Reading without dashes in words
cuts every word that holds a dash into its parts and its dashes, and reads the rest
of the text exactly as reading with them does.  Strays are the same in both, and so
is the error of strict reading.
-/

namespace Dialect

/-- A dash is always a mark. -/
def plain : Dialect :=
  { dashInWords := false }

/-- A dash within a word belongs to it. -/
def dashed : Dialect :=
  { dashInWords := true }

theorem isWordPart_plain (character : Char) :
    plain.isWordPart character = isWordStart character := by
  simp [isWordPart, plain]

theorem isWordPart_dashed (character : Char) :
    dashed.isWordPart character =
      (isWordStart character || character == '-') := by
  simp [isWordPart, dashed]

end Dialect

/-- What letters and dashes make where no dash is part of a word: a mark of each dash, words of the rest. -/
def undash : List Char → List Lexeme
  | [] => []
  | head :: rest =>
      if head = '-' then
        .mark .minus :: undash rest
      else
        .word (head :: rest.takeWhile isWordStart) ::
          undash (rest.dropWhile isWordStart)
termination_by letters => letters.length
decreasing_by
  · exact Nat.lt_succ_self rest.length
  · exact Nat.lt_succ_of_le (List.dropWhile_sublist _).length_le

namespace Lexeme

/-- The tokens of lexemes that stand one right behind the other. -/
def placedFrom (start : Nat) : List Lexeme → List Placed
  | [] => []
  | lexeme :: later =>
      { offset := start, token := lexeme.token } ::
        placedFrom (start + lexeme.spelling.length) later

theorem placedFrom_add
    (start distance : Nat)
    (lexemes : List Lexeme) :
    (placedFrom start lexemes).map (Placed.shift distance) =
      placedFrom (start + distance) lexemes := by
  induction lexemes generalizing start with
  | nil =>
      rfl
  | cons lexeme later inductionHypothesis =>
      simp [placedFrom, inductionHypothesis, Placed.shift,
        Nat.add_right_comm]

theorem exists_of_mem_placedFrom
    {start : Nat}
    {lexemes : List Lexeme}
    {placed : Placed}
    (member : placed ∈ placedFrom start lexemes) :
    ∃ lexeme ∈ lexemes, placed.token = lexeme.token := by
  induction lexemes generalizing start with
  | nil =>
      cases member
  | cons lexeme later inductionHypothesis =>
      rcases List.mem_cons.mp member with rfl | inLater
      · exact ⟨lexeme, by simp, rfl⟩
      · obtain ⟨other, among, same⟩ := inductionHypothesis inLater
        exact ⟨other, by simp [among], same⟩

/-- Only a word makes an identifier, and it leaves its letters in the token. -/
theorem exists_word_of_identifier
    {lexeme : Lexeme}
    (identifier : lexeme.kind = .identifier) :
    ∃ letters, lexeme = .word letters ∧
      lexeme.literal.toList = letters := by
  cases lexeme with
  | word letters =>
      exact ⟨letters, rfl, by simp [literal, spelling]⟩
  | _ =>
      simp [kind] at identifier

end Lexeme

/--
The tokens that stand for a token where no dash is part of a word: for an identifier
with a dash, those of its literal at the offset of the token, and else the token.
-/
def Placed.undashed (placed : Placed) : List Placed :=
  if placed.token.kind = .identifier ∧
      '-' ∈ placed.token.literal.toList then
    ((Cursor.ofText .plain placed.token.literal).drain.1.filter
      fun part => !part.token.isEnd).map (Placed.shift placed.offset)
  else
    [placed]

/-- A reserved word holds no dash. -/
theorem Kind.ofWord_of_dash
    {letters : List Char}
    (dash : '-' ∈ letters) :
    Kind.ofWord (String.ofList letters) = .identifier := by
  rcases Kind.ofWord_cases (String.ofList letters) with
      named | ⟨reserved, named⟩
  · exact named
  · have inside : '-' ∈ reserved.spelling.toList := by
      rw [← Kind.ofWord_eq_keyword_iff.mp named, String.toList_ofList]
      exact dash
    cases reserved <;> simp [Keyword.spelling] at inside

namespace Dialect

/-- A lexeme that is no word with a dash is one in either dialect. -/
theorem admits_plain
    {lexeme : Lexeme}
    (admitted : dashed.Admits lexeme)
    (undashed : ∀ letters, lexeme = .word letters → '-' ∉ letters) :
    plain.Admits lexeme := by
  cases lexeme with
  | mark sign =>
      trivial
  | word letters =>
      obtain ⟨first, later, rfl, begins, inside⟩ := isWord_iff.mp admitted
      have absent := undashed _ rfl
      refine isWord_iff.mpr ⟨first, later, rfl, begins, ?_⟩
      intro character member
      have continued := inside character member
      have different : character ≠ '-' := by
        rintro rfl
        exact absent (List.mem_cons_of_mem first member)
      simpa [isWordPart_plain, isWordPart_dashed, different] using continued
  | number digits =>
      exact admitted
  | stray character =>
      exact admits_stray_iff.mpr (admits_stray_iff.mp admitted)

/-- Where a lexeme ends with dashes in words, it ends without them. -/
theorem endsBefore_plain
    {lexeme : Lexeme}
    {rest : List Char}
    (ends : dashed.EndsBefore lexeme rest) :
    plain.EndsBefore lexeme rest := by
  intro character first
  have apart := ends character first
  cases lexeme with
  | word letters =>
      simp only [continues, isWordPart_dashed, Bool.or_eq_false_iff] at apart
      simpa [continues, isWordPart_plain] using apart.1
  | _ =>
      exact apart

end Dialect

namespace Cursor

/-- A cursor right in front of a lexeme gives its token, and then what stands behind it. -/
theorem drain_of_lexeme
    {dialect : Dialect}
    {cursor : Cursor}
    (lexeme : Lexeme)
    {after : List Char}
    (admitted : dialect.Admits lexeme)
    (ends : dialect.EndsBefore lexeme after)
    (same : cursor.dialect = dialect)
    (shape : cursor.rest = lexeme.spelling ++ after) :
    ∃ next : Cursor,
      next.dialect = dialect ∧ next.rest = after ∧
        next.position = cursor.position + lexeme.spelling.length ∧
        cursor.drain.1 =
          { offset := cursor.position, token := lexeme.token } ::
            next.drain.1 := by
  let piece : Piece dialect :=
    ⟨[], lexeme, .nil, admitted⟩
  refine ⟨cursor.past piece after, same, rfl, rfl, ?_⟩
  have pieceShape : cursor.rest = piece.text ++ after := shape
  rw [drain_of_piece same pieceShape ends]
  rfl

/--
Letters and dashes that nothing continues are read as their words and dashes, and then
the rest.  The first word ends at a dash, or with all the letters.
-/
theorem drain_of_wordParts
    {cursor behind : Cursor}
    {letters : List Char}
    (inside :
      ∀ character ∈ letters, Dialect.dashed.isWordPart character = true)
    (ends :
      ∀ character ∈ behind.rest.head?,
        Dialect.dashed.isWordPart character = false)
    (same : cursor.dialect = .plain)
    (sameBehind : behind.dialect = .plain)
    (shape : cursor.rest = letters ++ behind.rest)
    (position : behind.position = cursor.position + letters.length) :
    cursor.drain.1 =
      Lexeme.placedFrom cursor.position (undash letters) ++
        behind.drain.1 := by
  induction letters using undash.induct generalizing cursor with
  | case1 =>
      simpa [undash, Lexeme.placedFrom] using
        drain_congr (same.trans sameBehind.symm) shape position.symm
  | case2 rest inductionHypothesis =>
      have signEnds :
          Dialect.plain.EndsBefore (.mark .minus) (rest ++ behind.rest) := by
        intro character _
        rfl
      obtain ⟨next, nextSame, nextShape, nextPosition, given⟩ :=
        drain_of_lexeme (.mark .minus) trivial signEnds same shape
      have later :=
        inductionHypothesis
          (fun character member => inside character (by simp [member]))
          nextSame nextShape
          (by
            rw [position, nextPosition, List.length_cons]
            simp [Lexeme.spelling, Mark.spelling]
            omega)
      rw [given, later, nextPosition]
      simp [undash, Lexeme.placedFrom]
  | case3 head rest letter inductionHypothesis =>
      have begins : isWordStart head = true := by
        simpa [Dialect.isWordPart_dashed, letter] using inside head (by simp)
      have wordShape :
          cursor.rest =
            (head :: rest.takeWhile isWordStart) ++
              (rest.dropWhile isWordStart ++ behind.rest) := by
        rw [shape, List.cons_append, List.cons_append,
          ← List.append_assoc, List.takeWhile_append_dropWhile]
      have admitted :
          Dialect.plain.Admits
            (.word (head :: rest.takeWhile isWordStart)) := by
        refine Dialect.isWord_iff.mpr ⟨head, _, rfl, begins, ?_⟩
        intro character member
        rw [Dialect.isWordPart_plain]
        exact List.mem_takeWhile_imp member
      have wordEnds :
          Dialect.plain.EndsBefore
            (.word (head :: rest.takeWhile isWordStart))
            (rest.dropWhile isWordStart ++ behind.rest) := by
        intro character first
        rw [Dialect.continues, Dialect.isWordPart_plain]
        cases left : rest.dropWhile isWordStart with
        | nil =>
            rw [left, List.nil_append] at first
            have apart := ends character first
            rw [Dialect.isWordPart_dashed, Bool.or_eq_false_iff] at apart
            exact apart.1
        | cons next later =>
            rw [left] at first
            exact Dialect.class_of_head?_dropWhile character
              (by rw [left]; exact first)
      obtain ⟨next, nextSame, nextShape, nextPosition, given⟩ :=
        drain_of_lexeme _ admitted wordEnds same wordShape
      have later :=
        inductionHypothesis
          (fun character member =>
            inside character
              (List.mem_cons_of_mem head
                ((List.dropWhile_sublist _).subset member)))
          nextSame nextShape
          (by
            have whole :=
              congrArg List.length
                (List.takeWhile_append_dropWhile
                  (p := isWordStart) (l := rest))
            rw [List.length_append] at whole
            simp only [position, nextPosition, Lexeme.spelling,
              List.length_cons]
            omega)
      rw [given, later, nextPosition]
      simp [undash, Lexeme.placedFrom, letter]

/-- The parts of a word with its closing token are what reading it alone gives. -/
theorem drain_ofList_of_wordParts
    {letters : List Char}
    (inside :
      ∀ character ∈ letters, Dialect.dashed.isWordPart character = true) :
    (ofText .plain (String.ofList letters)).drain.1 =
      Lexeme.placedFrom 0 (undash letters) ++
        [{ offset := letters.length, token := .endOfInput }] := by
  let fresh := ofText .plain (String.ofList letters)
  let behind : Cursor := { fresh with rest := [], position := letters.length }
  have closed : IsGap behind.rest := IsGap.nil
  have shape : fresh.rest = letters ++ behind.rest := by
    simp [fresh, ofText, behind]
  have parts :=
    drain_of_wordParts inside (by simp [behind]) rfl rfl shape
      (Nat.zero_add _).symm
  rw [drain_of_gap closed] at parts
  exact parts

end Cursor

/-- An identifier with a dash gives way to its parts, where it stands. -/
theorem Placed.undashed_word
    {letters : List Char}
    (inside :
      ∀ character ∈ letters, Dialect.dashed.isWordPart character = true)
    (dash : '-' ∈ letters)
    (start : Nat) :
    Placed.undashed
        { offset := start, token := (Lexeme.word letters).token } =
      Lexeme.placedFrom start (undash letters) := by
  have kind : (Lexeme.word letters).token.kind = .identifier :=
    Kind.ofWord_of_dash dash
  have literal :
      (Lexeme.word letters).token.literal = String.ofList letters :=
    rfl
  have parts :
      (Lexeme.placedFrom 0 (undash letters)).filter
          (fun part => !part.token.isEnd) =
        Lexeme.placedFrom 0 (undash letters) := by
    rw [List.filter_eq_self]
    intro part member
    obtain ⟨lexeme, -, same⟩ := Lexeme.exists_of_mem_placedFrom member
    simp [same]
  rw [undashed, if_pos ⟨kind, by simpa [literal] using dash⟩]
  simp only [literal, Cursor.drain_ofList_of_wordParts inside,
    List.filter_append, parts, List.map_append, Lexeme.placedFrom_add]
  simp [Token.endOfInput, Token.isEnd]

/-- Tokens of a text with dashes in words, and those of the same text without. -/
inductive Undashes : List Placed → List Placed → Prop where
  | nil : Undashes [] []
  /-- A token that is no identifier with a dash stays. -/
  | kept
      {tokens parts : List Placed}
      (placed : Placed)
      (whole :
        placed.token.kind = .identifier →
          '-' ∉ placed.token.literal.toList)
      (later : Undashes tokens parts) :
      Undashes (placed :: tokens) (placed :: parts)
  /-- A word with a dash gives way to its parts. -/
  | split
      {tokens parts : List Placed}
      (start : Nat)
      (letters : List Char)
      (inside :
        ∀ character ∈ letters, Dialect.dashed.isWordPart character = true)
      (dash : '-' ∈ letters)
      (later : Undashes tokens parts) :
      Undashes
        ({ offset := start, token := (Lexeme.word letters).token } :: tokens)
        (Lexeme.placedFrom start (undash letters) ++ parts)

namespace Cursor

/-- A word of the one dialect, with its gap, as the other reads it. -/
theorem drain_of_word
    {cursor : Cursor}
    {piece : Piece .dashed}
    {letters after : List Char}
    (plain : cursor.dialect = .plain)
    (word : piece.lexeme = .word letters)
    (shape : cursor.rest = piece.text ++ after)
    (ends : Dialect.dashed.EndsBefore piece.lexeme after) :
    cursor.drain.1 =
      Lexeme.placedFrom (cursor.position + piece.gap.length)
          (undash letters) ++
        (cursor.past piece after).drain.1 := by
  have admitted := piece.admitted
  rw [word] at admitted ends
  let ahead : Cursor :=
    { cursor with
      rest := letters ++ after
      position := cursor.position + piece.gap.length }
  have skipped : cursor.drain.1 = ahead.drain.1 := by
    refine drain_of_indent piece.spaced rfl ?_ rfl
    rw [shape, Piece.text, word, List.append_assoc]
    rfl
  rw [skipped]
  refine
    drain_of_wordParts (Dialect.isWordPart_of_isWord admitted) ends plain
      plain rfl ?_
  simp [past, ahead, Piece.text, word, Lexeme.spelling, Nat.add_assoc]

/--
Reading without dashes in words cuts the words with dashes that reading with them
gives.  The readings part in front of such a word and meet again behind it.
-/
theorem undashes_drain
    {cursor other : Cursor}
    (dashed : cursor.dialect = .dashed)
    (plain : other.dialect = .plain)
    (sameRest : other.rest = cursor.rest)
    (samePosition : other.position = cursor.position) :
    Undashes cursor.drain.1 other.drain.1 := by
  rcases Layout.gap_or_piece .dashed cursor.rest with
      spaced | ⟨piece, after, shape, ends⟩
  · have spacedToo : IsGap other.rest := by
      rwa [sameRest]
    rw [drain_of_gap spaced, drain_of_gap spacedToo, sameRest, samePosition]
    exact .kept _ (by simp [Token.endOfInput]) .nil
  rw [drain_of_piece dashed shape ends]
  by_cases cut : ∃ letters, piece.lexeme = .word letters ∧ '-' ∈ letters
  · obtain ⟨letters, word, dash⟩ := cut
    have admitted := piece.admitted
    rw [word] at admitted
    rw [drain_of_word plain word (sameRest.trans shape) ends, samePosition,
      Piece.placed, word]
    exact .split _ letters (Dialect.isWordPart_of_isWord admitted) dash
      (undashes_drain dashed plain rfl (by simp [past, samePosition]))
  · have undashed :
        ∀ letters, piece.lexeme = .word letters → '-' ∉ letters := by
      intro letters word dash
      exact cut ⟨letters, word, dash⟩
    let whole : Piece .plain :=
      ⟨piece.gap, piece.lexeme, piece.spaced,
        Dialect.admits_plain piece.admitted undashed⟩
    have wholeShape : other.rest = whole.text ++ after :=
      sameRest.trans shape
    rw [drain_of_piece plain wholeShape (Dialect.endsBefore_plain ends),
      samePosition]
    refine .kept _ ?_
      (undashes_drain dashed plain rfl (by simp [past, samePosition]; rfl))
    intro identifier
    obtain ⟨letters, word, literal⟩ :=
      Lexeme.exists_word_of_identifier identifier
    have unread := undashed letters word
    rw [← literal] at unread
    exact unread
termination_by cursor.rest.length
decreasing_by all_goals exact length_rest_past_lt shape

end Cursor

/-- A token begins or ends at a position. -/
def IsBoundary
    (tokens : List Placed)
    (position : Nat) :
    Prop :=
  ∃ placed ∈ tokens,
    position = placed.offset ∨
      position = placed.offset + placed.token.width

/-- A boundary stays one when tokens are added behind. -/
theorem IsBoundary.append_left
    {first : List Placed}
    {position : Nat}
    (bounds : IsBoundary first position)
    (second : List Placed) :
    IsBoundary (first ++ second) position := by
  obtain ⟨placed, member, place⟩ := bounds
  exact ⟨placed, by simp [member], place⟩

theorem IsBoundary.append_right
    {second : List Placed}
    {position : Nat}
    (bounds : IsBoundary second position)
    (first : List Placed) :
    IsBoundary (first ++ second) position := by
  obtain ⟨placed, member, place⟩ := bounds
  exact ⟨placed, by simp [member], place⟩

/-- Lexemes that stand one right behind the other begin at the start and end behind their spellings. -/
theorem Lexeme.isBoundary_placedFrom
    {lexemes : List Lexeme}
    (present : lexemes ≠ [])
    (start : Nat) :
    IsBoundary (placedFrom start lexemes) start ∧
      IsBoundary (placedFrom start lexemes)
        (start + (lexemes.flatMap spelling).length) := by
  induction lexemes generalizing start with
  | nil =>
      exact (present rfl).elim
  | cons lexeme later inductionHypothesis =>
      refine ⟨⟨_, List.mem_cons_self, .inl rfl⟩, ?_⟩
      by_cases last : later = []
      · refine ⟨_, List.mem_cons_self, .inr ?_⟩
        simp [last, width_token]
      · have ending :=
          (inductionHypothesis last (start + lexeme.spelling.length)).2
        have bounds := ending.append_right
          [{ offset := start, token := lexeme.token }]
        simpa [placedFrom, Nat.add_assoc] using bounds

/-- Cutting a word keeps its letters and dashes. -/
theorem flatMap_spelling_undash (letters : List Char) :
    (undash letters).flatMap Lexeme.spelling = letters := by
  induction letters using undash.induct with
  | case1 =>
      simp [undash]
  | case2 rest inductionHypothesis =>
      simp [undash, inductionHypothesis, Lexeme.spelling, Mark.spelling]
  | case3 head rest letter inductionHypothesis =>
      simp [undash, letter, inductionHypothesis, Lexeme.spelling]

/-- The parts of a word with dashes are all legal. -/
theorem kind_ne_illegal_of_mem_undash
    {letters : List Char}
    {lexeme : Lexeme}
    (member : lexeme ∈ undash letters) :
    lexeme.kind ≠ .illegal := by
  induction letters using undash.induct with
  | case1 =>
      simp [undash] at member
  | case2 rest inductionHypothesis =>
      rw [undash, if_pos rfl] at member
      rcases List.mem_cons.mp member with rfl | inRest
      · simp [Lexeme.kind]
      · exact inductionHypothesis inRest
  | case3 head rest letter inductionHypothesis =>
      rw [undash, if_neg letter] at member
      rcases List.mem_cons.mp member with rfl | inRest
      · simp [Lexeme.kind_eq_illegal_iff]
      · exact inductionHypothesis inRest

namespace Undashes

variable {tokens parts : List Placed}

/-- The parts are those of the tokens, one token after another. -/
theorem eq_flatMap (undashes : Undashes tokens parts) :
    parts = tokens.flatMap Placed.undashed := by
  induction undashes with
  | nil =>
      rfl
  | kept placed whole later inductionHypothesis =>
      have unchanged : placed.undashed = [placed] := by
        rw [Placed.undashed, if_neg]
        rintro ⟨identifier, dash⟩
        exact whole identifier dash
      rw [List.flatMap_cons, unchanged, inductionHypothesis]
      rfl
  | split start letters inside dash later inductionHypothesis =>
      rw [List.flatMap_cons, Placed.undashed_word inside dash,
        inductionHypothesis]

/-- What replaces an identifier with a dash is one mark a dash, and the words between the dashes. -/
theorem undashed_eq
    (undashes : Undashes tokens parts)
    {placed : Placed}
    (member : placed ∈ tokens)
    (identifier : placed.token.kind = .identifier)
    (dash : '-' ∈ placed.token.literal.toList) :
    placed.undashed =
      Lexeme.placedFrom placed.offset
        (undash placed.token.literal.toList) := by
  induction undashes with
  | nil =>
      cases member
  | kept first whole later inductionHypothesis =>
      rcases List.mem_cons.mp member with rfl | inLater
      · exact (whole identifier dash).elim
      · exact inductionHypothesis inLater
  | split start letters inside inWord later inductionHypothesis =>
      rcases List.mem_cons.mp member with rfl | inLater
      · rw [Placed.undashed_word inside inWord]
        simp [Lexeme.token, Lexeme.literal, Lexeme.spelling]
      · exact inductionHypothesis inLater

/-- Tokens without a word that has a dash are their own parts. -/
theorem eq_of_whole
    (undashes : Undashes tokens parts)
    (whole :
      ∀ placed ∈ tokens, placed.token.kind = .identifier →
        '-' ∉ placed.token.literal.toList) :
    parts = tokens := by
  induction undashes with
  | nil =>
      rfl
  | kept placed _ later inductionHypothesis =>
      rw [inductionHypothesis fun other member =>
        whole other (by simp [member])]
  | split start letters inside dash later inductionHypothesis =>
      have absent :=
        whole _ List.mem_cons_self (Kind.ofWord_of_dash dash)
      simp [Lexeme.token, Lexeme.literal, Lexeme.spelling, dash] at absent

/-- No boundary is lost. -/
theorem isBoundary
    (undashes : Undashes tokens parts)
    {position : Nat}
    (bounds : IsBoundary tokens position) :
    IsBoundary parts position := by
  induction undashes with
  | nil =>
      exact bounds
  | kept placed whole later inductionHypothesis =>
      obtain ⟨other, member, place⟩ := bounds
      rcases List.mem_cons.mp member with rfl | inLater
      · exact ⟨other, List.mem_cons_self, place⟩
      · exact (inductionHypothesis ⟨other, inLater, place⟩).append_right
          [placed]
  | split start letters inside dash later inductionHypothesis =>
      obtain ⟨other, member, place⟩ := bounds
      rcases List.mem_cons.mp member with rfl | inLater
      · have spelled := flatMap_spelling_undash letters
        have present : undash letters ≠ [] := by
          intro nothing
          rw [nothing] at spelled
          simp [← spelled] at dash
        obtain ⟨first, last⟩ :=
          Lexeme.isBoundary_placedFrom present start
        rw [spelled] at last
        rcases place with rfl | rfl
        · exact first.append_left _
        · rw [Lexeme.width_token]
          exact last.append_left _
      · exact (inductionHypothesis ⟨other, inLater, place⟩).append_right _

/-- Only legal tokens are cut, and into legal ones. -/
theorem filter_illegal (undashes : Undashes tokens parts) :
    (parts.filter fun placed => placed.token.kind == .illegal) =
      tokens.filter fun placed => placed.token.kind == .illegal := by
  induction undashes with
  | nil =>
      rfl
  | kept placed whole later inductionHypothesis =>
      simp only [List.filter_cons, inductionHypothesis]
  | split start letters inside dash later inductionHypothesis =>
      have kind : (Lexeme.word letters).token.kind = .identifier :=
        Kind.ofWord_of_dash dash
      have legal :
          (Lexeme.placedFrom start (undash letters)).filter
              (fun placed => placed.token.kind == .illegal) =
            [] := by
        rw [List.filter_eq_nil_iff]
        intro part member
        obtain ⟨lexeme, among, same⟩ :=
          Lexeme.exists_of_mem_placedFrom member
        simpa [same, Lexeme.token] using
          kind_ne_illegal_of_mem_undash among
      rw [List.filter_append, legal, inductionHypothesis]
      simp [kind]

end Undashes

/-- In a word with a dash, some dash stands right behind a letter. -/
theorem Dialect.exists_letter_dash
    {letters : List Char}
    (word : dashed.isWord letters = true)
    (dash : '-' ∈ letters) :
    ∃ letter, isWordStart letter = true ∧ [letter, '-'] <:+: letters := by
  obtain ⟨first, later, rfl, begins, inside⟩ := isWord_iff.mp word
  have different : '-' ≠ first := by
    rintro rfl
    cases begins
  have inLater : '-' ∈ later := by
    simpa [different] using dash
  clear word dash different
  induction later generalizing first with
  | nil =>
      cases inLater
  | cons second rest inductionHypothesis =>
      by_cases found : second = '-'
      · exact ⟨first, begins, [], rest, by simp [found]⟩
      · have beginsToo : isWordStart second = true := by
          simpa [isWordPart_dashed, found] using inside second (by simp)
        obtain ⟨letter, starts, within⟩ :=
          inductionHypothesis second beginsToo
            (fun character member => inside character (by simp [member]))
            (by simpa [Ne.symm found] using inLater)
        exact ⟨letter, starts, within.trans (List.suffix_cons _ _).isInfix⟩

/-- A text in which no dash follows a letter has no identifier with a dash. -/
theorem Dialect.not_mem_literal_of_apart
    {text : String}
    (apart :
      text.toList.IsChain fun before behind =>
        isWordStart before = true → behind ≠ '-') :
    ∀ placed ∈ (Cursor.ofText dashed text).drain.1,
      placed.token.kind = .identifier →
        '-' ∉ placed.token.literal.toList := by
  intro placed member identifier dash
  obtain ⟨-, covered, word, -⟩ :
      1 ≤ placed.token.width ∧
        (text.toList.drop placed.offset).take placed.token.width =
          placed.token.literal.toList ∧
        dashed.SpellsKind placed.token.literal.toList .identifier := by
    obtain ⟨layout, shape, read⟩ := (Cursor.ofText dashed text).exists_layout
    rw [read] at member
    have spelled := layout.tiling_placedFrom.spelled placed member
    rw [shape, identifier] at spelled
    exact spelled (by simp) (by simp)
  obtain ⟨letter, begins, within⟩ := exists_letter_dash word dash
  have inText : [letter, '-'] <:+: text.toList := by
    rw [← covered] at within
    exact within.trans
      ((List.take_prefix _ _).isInfix.trans (List.drop_suffix _ _).isInfix)
  have pair := List.IsChain.infix apart inText
  exact List.isChain_pair.mp pair begins rfl

/--
Reading without dashes in words refines reading with them.  Its tokens are those of
the other with every identifier that holds a dash replaced by the tokens of its
literal: words between the dashes, and a mark for every dash.  So both are the same
where no dash follows a letter, no boundary of a token is lost, the illegal tokens
are the same, and strict reading fails alike.
-/
theorem plain_refines_dashed (text : String) :
    let tokens := (Cursor.ofText .dashed text).drain.1
    let parts := (Cursor.ofText .plain text).drain.1
    parts = tokens.flatMap Placed.undashed ∧
      (∀ placed ∈ tokens,
        placed.token.kind = .identifier →
        '-' ∈ placed.token.literal.toList →
          placed.undashed =
            Lexeme.placedFrom placed.offset
              (undash placed.token.literal.toList)) ∧
      ((text.toList.IsChain fun before behind =>
          isWordStart before = true → behind ≠ '-') →
        parts = tokens) ∧
      (∀ position, IsBoundary tokens position → IsBoundary parts position) ∧
      (parts.filter fun placed => placed.token.kind == .illegal) =
        (tokens.filter fun placed => placed.token.kind == .illegal) ∧
      ∀ fault,
        Dialect.plain.readStrictly text = .error fault ↔
          Dialect.dashed.readStrictly text = .error fault := by
  have undashes :
      Undashes (Cursor.ofText .dashed text).drain.1
        (Cursor.ofText .plain text).drain.1 :=
    Cursor.undashes_drain rfl rfl rfl rfl
  refine ⟨undashes.eq_flatMap, ?_, ?_, ?_, undashes.filter_illegal, ?_⟩
  · intro placed member identifier dash
    exact undashes.undashed_eq member identifier dash
  · intro apart
    exact undashes.eq_of_whole (Dialect.not_mem_literal_of_apart apart)
  · intro position bounds
    exact undashes.isBoundary bounds
  · intro fault
    have sameFirst :
        firstIllegal? (Cursor.ofText .plain text).drain.1 =
          firstIllegal? (Cursor.ofText .dashed text).drain.1 := by
      simp only [firstIllegal?, ← List.head?_filter,
        undashes.filter_illegal]
    rw [(Dialect.plain.agreement_readStrictly text).refuses,
      (Dialect.dashed.agreement_readStrictly text).refuses, sameFirst]

theorem plain_refines_dashed_keyword :
    let tokens := (Cursor.ofText .dashed "-1 let-x").drain.1
    let parts := (Cursor.ofText .plain "-1 let-x").drain.1
    let word : Placed :=
      { offset := 3, token := { kind := .identifier, literal := "let-x" } }
    (word ∈ tokens ∧ word.token.kind = .identifier ∧
      '-' ∈ word.token.literal.toList ∧
      word.undashed =
        [{ offset := 3, token := { kind := .keyword .letWord, literal := "let" } },
          { offset := 6, token := { kind := .mark .minus, literal := "-" } },
          { offset := 7, token := { kind := .identifier, literal := "x" } }]) ∧
    (IsBoundary tokens 8 ∧ IsBoundary parts 8) ∧
    ("-1-x --".toList.IsChain fun before behind =>
        isWordStart before = true → behind ≠ '-') ∧
      (Cursor.ofText .plain "-1-x --").drain.1 =
        (Cursor.ofText .dashed "-1-x --").drain.1 := by
  obtain ⟨-, cut, -, kept, -⟩ := plain_refines_dashed "-1 let-x"
  obtain ⟨-, -, same, -⟩ := plain_refines_dashed "-1-x --"
  intro tokens parts word
  have member : word ∈ tokens := by decide +kernel
  have bounds : IsBoundary tokens 8 := ⟨word, member, .inr (by decide)⟩
  have apart :
      "-1-x --".toList.IsChain fun before behind =>
        isWordStart before = true → behind ≠ '-' := by
    decide
  refine ⟨⟨member, rfl, by decide, ?_⟩, ⟨bounds, kept 8 bounds⟩,
    apart, same apart⟩
  rw [cut word member rfl (by decide)]
  decide +kernel

end MonkeyTokens
