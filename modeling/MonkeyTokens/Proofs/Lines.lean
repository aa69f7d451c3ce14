import Mathlib.Algebra.GroupWithZero.Nat
import MonkeyTokens.Proofs.Joining
import MonkeyTokens.Proofs.Place
import MonkeyTokens.Proofs.Strictness

namespace MonkeyTokens

/-!
# Reading a text line by line

A line feed is spacing, so a text of several lines gives the tokens of its lines in
order.  Reading it strictly fails exactly if a line by itself fails, and the error
is that of the first such line, moved to where the line stands.
-/

/-- The result of reading a whole text strictly. -/
def Dialect.readStrictly
    (dialect : Dialect)
    (text : String) :
    Except IllegalCharacter (List Token) :=
  (Cursor.ofText dialect text).strictly.result

/-- An error of a text, for the same text behind some lines of a given length in all. -/
def IllegalCharacter.lower
    (lines length : Nat)
    (fault : IllegalCharacter) :
    IllegalCharacter where
  character := fault.character
  offset := fault.offset + length
  place :=
    { line := fault.place.line + lines, column := fault.place.column }

theorem IllegalCharacter.lower_lower
    (fault : IllegalCharacter)
    (lines length moreLines moreLength : Nat) :
    (fault.lower lines length).lower moreLines moreLength =
      fault.lower (lines + moreLines) (length + moreLength) := by
  simp [lower, Nat.add_assoc]

/-- Tokens without the one that closes a text. -/
def withoutEnd (tokens : List Token) : List Token :=
  tokens.filter fun token => !token.isEnd

/-- Moved tokens have the same first illegal one, moved. -/
theorem firstIllegal?_map_shift
    (distance : Nat)
    (tokens : List Placed) :
    firstIllegal? (tokens.map (Placed.shift distance)) =
      (firstIllegal? tokens).map (Placed.shift distance) := by
  simp only [firstIllegal?, List.find?_map]
  rfl

theorem firstIllegal?_append (first second : List Placed) :
    firstIllegal? (first ++ second) =
      (firstIllegal? first).or (firstIllegal? second) :=
  List.find?_append

/-- Below a line the characters of the rest stand where they stood, further behind. -/
theorem getElem?_below
    (line rest : List Char)
    (offset : Nat) :
    (line ++ '\n' :: rest)[offset + (line.length + 1)]? = rest[offset]? := by
  rw [List.getElem?_append_right (by omega)]
  have index : offset + (line.length + 1) - line.length = offset + 1 := by
    omega
  rw [index, List.getElem?_cons_succ]

theorem toList_line (line rest : String) :
    (line ++ "\n" ++ rest).toList =
      line.toList ++ '\n' :: rest.toList := by
  simp

theorem isGap_feed : IsGap "\n".toList :=
  isGap_of_mem_spacings (by simp [spacings])

namespace Dialect

variable {dialect : Dialect} {line rest : String}

/-- Reading a text strictly agrees with the tokens that the text gives. -/
theorem agreement_readStrictly
    (dialect : Dialect)
    (text : String) :
    Agreement text.toList (Cursor.ofText dialect text).drain.1
      (dialect.readStrictly text) :=
  (Cursor.readsStrictly_drain (Cursor.Stands.ofText dialect text)).agreement

/-- The tokens of a line and of the text below it, and the first illegal one among them. -/
theorem drain_line
    (dialect : Dialect)
    (line rest : String) :
    (Cursor.ofText dialect (line ++ "\n" ++ rest)).drain.1 =
      (Cursor.ofText dialect line).drain.1.dropLast ++
        (Cursor.ofText dialect rest).drain.1.map
          (Placed.shift (line.length + 1)) :=
  Cursor.drain_join dialect line "\n" rest (by decide) isGap_feed

/--
The first illegal token of two texts with spacing between them is in the first, or else
in the second; the closing token that the first one loses is not illegal.
-/
theorem firstIllegal?_drain_join
    {gap : String}
    (dialect : Dialect)
    (present : gap ≠ "")
    (spaced : IsGap gap.toList)
    (front rest : String) :
    firstIllegal? (Cursor.ofText dialect (front ++ gap ++ rest)).drain.1 =
      (firstIllegal? (Cursor.ofText dialect front).drain.1).or
        ((firstIllegal? (Cursor.ofText dialect rest).drain.1).map
          (Placed.shift (front.length + gap.length))) := by
  obtain ⟨earlier, shape, -⟩ :=
    Cursor.drain_closed (Cursor.Stands.ofText dialect front)
  have unended :
      firstIllegal? (Cursor.ofText dialect front).drain.1 =
        firstIllegal? earlier := by
    rw [shape, firstIllegal?_append]
    simp [firstIllegal?, Token.endOfInput]
  rw [Cursor.drain_join dialect front gap rest present spaced,
    firstIllegal?_append, firstIllegal?_map_shift, unended, shape,
    List.dropLast_concat]

/-- The first illegal token is in the first line, or else in the lines below. -/
theorem firstIllegal?_drain_line
    (dialect : Dialect)
    (line rest : String) :
    firstIllegal? (Cursor.ofText dialect (line ++ "\n" ++ rest)).drain.1 =
      (firstIllegal? (Cursor.ofText dialect line).drain.1).or
        ((firstIllegal? (Cursor.ofText dialect rest).drain.1).map
          (Placed.shift (line.length + 1))) :=
  dialect.firstIllegal?_drain_join (by decide) isGap_feed line rest

/-- The closing token comes last, so without it all the others are left. -/
theorem withoutEnd_drain
    (dialect : Dialect)
    (text : String) :
    withoutEnd ((Cursor.ofText dialect text).drain.1.map Placed.token) =
      (Cursor.ofText dialect text).drain.1.dropLast.map Placed.token := by
  obtain ⟨earlier, shape, unended⟩ :=
    Cursor.drain_closed (Cursor.Stands.ofText dialect text)
  have kept :
      withoutEnd (earlier.map Placed.token) = earlier.map Placed.token := by
    simpa [withoutEnd, List.filter_eq_self, Token.isEnd] using unended
  rw [shape, List.dropLast_concat, List.map_append, withoutEnd,
    List.filter_append, ← withoutEnd, kept]
  exact List.append_nil _

/-- A single line fails on its first line, in the column of the offset. -/
theorem place_of_unbroken
    {fault : IllegalCharacter}
    (unbroken : '\n' ∉ line.toList)
    (fails : dialect.readStrictly line = .error fault) :
    fault.place = { line := 1, column := fault.offset + 1 } := by
  obtain ⟨placed, character, -, -, rfl⟩ :=
    ((dialect.agreement_readStrictly line).refuses fault).mp fails
  exact Text.Place.ofOffset_of_not_mem unbroken placed.offset

/-- If a text fails, it fails with the same error whatever spacing and text follow. -/
theorem readStrictly_of_front_fails
    {front gap : String}
    {fault : IllegalCharacter}
    (fails : dialect.readStrictly front = .error fault)
    (present : gap ≠ "")
    (spaced : IsGap gap.toList)
    (rest : String) :
    dialect.readStrictly (front ++ gap ++ rest) = .error fault := by
  obtain ⟨placed, character, first, found, rfl⟩ :=
    ((dialect.agreement_readStrictly front).refuses fault).mp fails
  have within : placed.offset < front.toList.length :=
    (List.getElem?_eq_some_iff.mp found).1
  have toList :
      (front ++ gap ++ rest).toList =
        front.toList ++ (gap.toList ++ rest.toList) := by
    simp
  refine
    ((dialect.agreement_readStrictly (front ++ gap ++ rest)).refuses _).mpr
      ⟨placed, character, ?_, ?_, ?_⟩
  · rw [dialect.firstIllegal?_drain_join present spaced, first]
    rfl
  · rw [toList, List.getElem?_append_left within, found]
  · rw [toList, Text.Place.ofOffset_append _ _ (Nat.le_of_lt within)]

/-- Spacing at the end of a text does not matter to strict reading. -/
theorem readStrictly_trail
    {gap : String}
    (dialect : Dialect)
    (spaced : IsGap gap.toList)
    (text : String) :
    dialect.readStrictly (text ++ gap) = dialect.readStrictly text := by
  by_cases absent : gap = ""
  · rw [absent, String.append_empty]
  cases result : dialect.readStrictly text with
  | error fault =>
      have fails := readStrictly_of_front_fails result absent spaced ""
      rwa [String.append_empty] at fails
  | ok tokens =>
      obtain ⟨legal, rfl⟩ :=
        ((dialect.agreement_readStrictly text).accepts tokens).mp result
      have joined :=
        dialect.firstIllegal?_drain_join absent spaced text ""
      rw [String.append_empty, firstIllegal?_eq_none_iff.mpr legal] at joined
      refine
        ((dialect.agreement_readStrictly (text ++ gap)).accepts _).mpr
          ⟨?_, (dialect.tokens_trail spaced text).symm⟩
      have nothing : IsGap (Cursor.ofText dialect "").rest := by
        simpa [Cursor.ofText] using IsGap.nil
      rw [← firstIllegal?_eq_none_iff, joined, Cursor.drain_of_gap nothing]
      rfl

/-- If the first line is read and the rest fails, the text fails with the error of the rest, lowered. -/
theorem readStrictly_of_rest_fails
    {tokens : List Token}
    {fault : IllegalCharacter}
    (unbroken : '\n' ∉ line.toList)
    (reads : dialect.readStrictly line = .ok tokens)
    (fails : dialect.readStrictly rest = .error fault) :
    dialect.readStrictly (line ++ "\n" ++ rest) =
      .error (fault.lower 1 (line.length + 1)) := by
  have legal :=
    (((dialect.agreement_readStrictly line).accepts tokens).mp reads).1
  obtain ⟨placed, character, first, found, rfl⟩ :=
    ((dialect.agreement_readStrictly rest).refuses fault).mp fails
  refine
    ((dialect.agreement_readStrictly (line ++ "\n" ++ rest)).refuses _).mpr
      ⟨placed.shift (line.length + 1), character, ?_, ?_, ?_⟩
  · rw [firstIllegal?_drain_line,
      firstIllegal?_eq_none_iff.mpr legal, first]
    rfl
  · rw [toList_line, ← found, ← String.length_toList]
    exact getElem?_below line.toList rest.toList placed.offset
  · rw [toList_line, ← String.length_toList]
    simp only [Placed.shift,
      Text.Place.ofOffset_append_feed unbroken rest.toList]
    rfl

/-- If the first line and the rest are read, the text is read, with one closing token. -/
theorem readStrictly_of_both_read
    {tokens later : List Token}
    (reads : dialect.readStrictly line = .ok tokens)
    (readsLater : dialect.readStrictly rest = .ok later) :
    dialect.readStrictly (line ++ "\n" ++ rest) =
      .ok (withoutEnd tokens ++ later) := by
  obtain ⟨legal, rfl⟩ :=
    ((dialect.agreement_readStrictly line).accepts tokens).mp reads
  obtain ⟨legalLater, rfl⟩ :=
    ((dialect.agreement_readStrictly rest).accepts later).mp readsLater
  refine
    ((dialect.agreement_readStrictly (line ++ "\n" ++ rest)).accepts _).mpr
      ⟨?_, ?_⟩
  · rw [← firstIllegal?_eq_none_iff, firstIllegal?_drain_line,
      firstIllegal?_eq_none_iff.mpr legal,
      firstIllegal?_eq_none_iff.mpr legalLater]
    rfl
  · rw [drain_line, List.map_append, List.map_map, withoutEnd_drain]
    rfl

/-- The tokens of a text that is read are those without the closing one, and the closing one. -/
theorem withoutEnd_append_end
    {text : String}
    {tokens : List Token}
    (reads : dialect.readStrictly text = .ok tokens) :
    withoutEnd tokens ++ [.endOfInput] = tokens := by
  obtain ⟨-, rfl⟩ :=
    ((dialect.agreement_readStrictly text).accepts tokens).mp reads
  obtain ⟨earlier, shape, -⟩ :=
    Cursor.drain_closed (Cursor.Stands.ofText dialect text)
  rw [withoutEnd_drain, shape, List.dropLast_concat, List.map_append]
  rfl

/-- Lines that are read by themselves are read together. -/
theorem readStrictly_intercalate_of_read
    {lines : List String}
    {tokensOf : List (List Token)}
    (read : lines.map dialect.readStrictly = tokensOf.map .ok) :
    dialect.readStrictly ("\n".intercalate lines) =
      .ok (tokensOf.flatMap withoutEnd ++ [.endOfInput]) := by
  induction lines generalizing tokensOf with
  | nil =>
      obtain rfl : tokensOf = [] := by
        simpa using read.symm
      have spaced : IsGap (Cursor.ofText dialect "").rest := by
        simp [IsGap, Cursor.ofText]
      rw [String.intercalate_nil, readStrictly,
        Cursor.strictly_of_gap spaced, Cursor.drain_of_gap spaced]
      rfl
  | cons line others inductionHypothesis =>
      cases tokensOf with
      | nil =>
          cases read
      | cons tokens later =>
          obtain ⟨reads, readsOthers⟩ := List.cons.inj read
          cases others with
          | nil =>
              obtain rfl : later = [] := by
                simpa using readsOthers.symm
              simpa [withoutEnd_append_end reads] using reads
          | cons next below =>
              rw [String.intercalate_cons_cons,
                readStrictly_of_both_read reads
                  (inductionHypothesis readsOthers)]
              simp

/-- The first line that fails by itself makes the lines together fail. -/
theorem readStrictly_intercalate_of_fails
    {earlier : List String}
    {line : String}
    {fault : IllegalCharacter}
    (unbroken : ∀ above ∈ earlier, '\n' ∉ above.toList)
    (read :
      ∀ above ∈ earlier, ∃ tokens, dialect.readStrictly above = .ok tokens)
    (fails : dialect.readStrictly line = .error fault)
    (later : List String) :
    dialect.readStrictly ("\n".intercalate (earlier ++ line :: later)) =
      .error
        (fault.lower earlier.length
          (earlier.map fun above => above.length + 1).sum) := by
  induction earlier with
  | nil =>
      cases later with
      | nil =>
          simpa [IllegalCharacter.lower] using fails
      | cons next below =>
          rw [List.nil_append, String.intercalate_cons_cons,
            readStrictly_of_front_fails fails (by decide) isGap_feed]
          rfl
  | cons above others inductionHypothesis =>
      obtain ⟨tokens, reads⟩ := read above (by simp)
      have failsBelow :=
        inductionHypothesis
          (fun other member => unbroken other (by simp [member]))
          (fun other member => read other (by simp [member]))
      have present : others ++ line :: later ≠ [] := by
        simp
      rw [List.cons_append, String.intercalate_cons_of_ne_nil present,
        readStrictly_of_rest_fails (unbroken above (by simp)) reads
          failsBelow, IllegalCharacter.lower_lower, List.length_cons,
        List.map_cons, List.sum_cons, Nat.add_comm (above.length + 1)]

/-- All lines are read, or there is a first one that fails. -/
theorem read_or_first_fails
    (dialect : Dialect)
    (lines : List String) :
    (∃ tokensOf : List (List Token),
      lines.map dialect.readStrictly = tokensOf.map .ok) ∨
    ∃ earlier line later fault,
      lines = earlier ++ line :: later ∧
        (∀ above ∈ earlier, ∃ tokens,
          dialect.readStrictly above = .ok tokens) ∧
        dialect.readStrictly line = .error fault := by
  induction lines with
  | nil =>
      exact .inl ⟨[], rfl⟩
  | cons line others inductionHypothesis =>
      cases result : dialect.readStrictly line with
      | error fault =>
          exact .inr ⟨[], line, others, fault, rfl, by simp, result⟩
      | ok tokens =>
          rcases inductionHypothesis with
              ⟨tokensOf, read⟩ |
              ⟨earlier, failing, later, fault, rfl, read, fails⟩
          · exact .inl ⟨tokens :: tokensOf, by simp [result, read]⟩
          · refine .inr
              ⟨line :: earlier, failing, later, fault, rfl, ?_, fails⟩
            intro above member
            rcases List.mem_cons.mp member with rfl | inEarlier
            · exact ⟨tokens, result⟩
            · exact read above inEarlier

end Dialect

/--
Strict reading of lines that are joined by line feeds.  It succeeds exactly if each
line by itself does, with the tokens of the lines and one closing token.  Otherwise
it fails with the error of the first line that fails by itself, whose line number is
that of the line, whose column is unchanged, and whose offset counts the lines
before it with their line feeds.
-/
theorem readStrictly_lines
    (dialect : Dialect)
    {lines : List String}
    (unbroken : ∀ line ∈ lines, '\n' ∉ line.toList) :
    ((∃ tokens,
        dialect.readStrictly ("\n".intercalate lines) = .ok tokens) ↔
      ∀ line ∈ lines, ∃ tokens, dialect.readStrictly line = .ok tokens) ∧
    (∀ tokensOf : List (List Token),
      lines.map dialect.readStrictly = tokensOf.map .ok →
        dialect.readStrictly ("\n".intercalate lines) =
          .ok (tokensOf.flatMap withoutEnd ++ [.endOfInput])) ∧
    (∀ line ∈ lines, ∀ fault,
      dialect.readStrictly line = .error fault →
        fault.place = { line := 1, column := fault.offset + 1 }) ∧
    ∀ earlier line later fault,
      lines = earlier ++ line :: later →
      (∀ above ∈ earlier, ∃ tokens, dialect.readStrictly above = .ok tokens) →
      dialect.readStrictly line = .error fault →
        dialect.readStrictly ("\n".intercalate lines) =
          .error
            { character := fault.character
              offset :=
                fault.offset +
                  (earlier.map fun above => above.length + 1).sum
              place :=
                { line := earlier.length + 1
                  column := fault.place.column } } := by
  have failing :
      ∀ earlier line later fault,
        lines = earlier ++ line :: later →
        (∀ above ∈ earlier, ∃ tokens,
          dialect.readStrictly above = .ok tokens) →
        dialect.readStrictly line = .error fault →
          dialect.readStrictly ("\n".intercalate lines) =
            .error
              (fault.lower earlier.length
                (earlier.map fun above => above.length + 1).sum) := by
    rintro earlier line later fault rfl read fails
    refine Dialect.readStrictly_intercalate_of_fails ?_ read fails later
    intro above member
    exact unbroken above (by simp [member])
  refine ⟨⟨?_, ?_⟩, ?_, ?_, ?_⟩
  · rintro ⟨tokens, whole⟩
    rcases dialect.read_or_first_fails lines with
        ⟨tokensOf, read⟩ | ⟨earlier, line, later, fault, shape, read, fails⟩
    · intro line member
      have result := List.mem_map_of_mem (f := dialect.readStrictly) member
      rw [read] at result
      obtain ⟨ownTokens, -, reads⟩ := List.mem_map.mp result
      exact ⟨ownTokens, reads.symm⟩
    · rw [failing earlier line later fault shape read fails] at whole
      cases whole
  · intro each
    rcases dialect.read_or_first_fails lines with
        ⟨tokensOf, read⟩ | ⟨earlier, line, later, fault, shape, read, fails⟩
    · exact ⟨_, Dialect.readStrictly_intercalate_of_read read⟩
    · obtain ⟨tokens, reads⟩ := each line (by simp [shape])
      rw [fails] at reads
      cases reads
  · intro tokensOf read
    exact Dialect.readStrictly_intercalate_of_read read
  · intro line member fault fails
    exact Dialect.place_of_unbroken (unbroken line member) fails
  · intro earlier line later fault shape read fails
    have place :=
      Dialect.place_of_unbroken (unbroken line (by simp [shape])) fails
    rw [failing earlier line later fault shape read fails]
    simp [IllegalCharacter.lower, place, Nat.add_comm]

theorem readStrictly_lines_crlf :
    (∀ line ∈ ["let x;\r", "", "  y @"], '\n' ∉ line.toList) ∧
      Dialect.readStrictly {} ("\n".intercalate ["let x;\r", "", "  y @"]) =
        .error
          { character := '@'
            offset := 13
            place := { line := 3, column := 5 } } := by
  refine ⟨by decide, ?_⟩
  exact
    (readStrictly_lines {} (by decide)).2.2.2 ["let x;\r", ""] "  y @" []
      { character := '@', offset := 4, place := { line := 1, column := 5 } }
      rfl
      (by
        intro above member
        simp only [List.mem_cons, List.not_mem_nil, or_false] at member
        rcases member with rfl | rfl
        · exact
            ⟨[{ kind := .keyword .letWord, literal := "let" },
              { kind := .identifier, literal := "x" },
              { kind := .mark .semicolon, literal := ";" },
              .endOfInput], by decide +kernel⟩
        · exact ⟨[.endOfInput], by decide +kernel⟩)
      (by decide +kernel)

end MonkeyTokens
