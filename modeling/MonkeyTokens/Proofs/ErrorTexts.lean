import MonkeyTokens.Failure
import MonkeyTokens.Output
import MonkeyTokens.Proofs.Calls
import MonkeyTokens.Proofs.Coordinates
import MonkeyTokens.Proofs.Escaping
import MonkeyTokens.Proofs.Strictness

namespace MonkeyTokens

/-!
# Texts of errors

The sentence about an illegal character and the record of it are read from the end: a
number ends where the label in front of it ends, and what is left in front of all
numbers quotes the character.  So the sentence tells the character and its place, and
the record all that there is to know.  Neither holds a control character, and the
place in the sentence gives the offset back to whoever has the text.
-/

namespace Text

/-- Behind a label that ends with a blank, a number is cut off the end of a text. -/
theorem eq_of_labelled_number
    {label front other : String}
    {number otherNumber : Nat}
    (ends : label.toList.getLast? = some ' ')
    (same :
      front ++ label ++ toString number =
        other ++ label ++ toString otherNumber) :
    front = other ∧ number = otherNumber := by
  have cut (before : String) (written : Nat) :
      (before ++ label ++ toString written).toList.reverse.takeWhile
            Char.isDigit =
          (toString written).toList.reverse ∧
        (before ++ label ++ toString written).toList.reverse.dropWhile
            Char.isDigit =
          (before ++ label).toList.reverse := by
    rw [String.toList_append, List.reverse_append]
    refine Dialect.takeWhile_dropWhile_of_class ?_ ?_
    · intro digit member
      rw [List.mem_reverse, Nat.toString_eq_repr, Nat.toList_repr] at member
      exact Nat.isDigit_of_mem_toDigits (by decide) (by decide) member
    · rw [List.head?_reverse, String.toList_append, List.getLast?_append,
        ends]
      intro last blank
      cases blank
      rfl
  obtain ⟨digits, rest⟩ := cut front number
  obtain ⟨otherDigits, otherRest⟩ := cut other otherNumber
  rw [same, otherRest, List.reverse_inj, String.toList_inj,
    String.append_left_inj] at rest
  rw [same, otherDigits, List.reverse_inj, Nat.toString_eq_repr,
    Nat.toString_eq_repr, Nat.toList_repr, Nat.toList_repr] at digits
  have numbers := congrArg (Nat.ofDigitChars 10 · 0) digits
  simp only [Nat.ofDigitChars_ten_toDigits] at numbers
  exact ⟨rest.symm, numbers.symm⟩

end Text

namespace IllegalCharacter

/-- The sentence about an error tells its character and its place, and no more. -/
theorem message_eq_iff {first second : IllegalCharacter} :
    first.message = second.message ↔
      first.character = second.character ∧ first.place = second.place := by
  constructor
  · intro same
    unfold message at same
    obtain ⟨inFront, columns⟩ :=
      Text.eq_of_labelled_number (by decide) same
    obtain ⟨quoted, lines⟩ :=
      Text.eq_of_labelled_number (by decide) inFront
    rw [String.append_right_inj] at quoted
    refine ⟨Text.Quoted.character_injective quoted, ?_⟩
    rw [Text.Place.mk.injEq]
    exact ⟨lines, columns⟩
  · rintro ⟨characters, places⟩
    unfold message
    rw [characters, places]

/-- The record of an error tells everything about it. -/
theorem debug_injective : Function.Injective debug := by
  intro first second same
  unfold debug at same
  rw [String.append_left_inj] at same
  obtain ⟨inFront, columns⟩ :=
    Text.eq_of_labelled_number (by decide) same
  obtain ⟨beforeLines, lines⟩ :=
    Text.eq_of_labelled_number (by decide) inFront
  obtain ⟨quoted, offsets⟩ :=
    Text.eq_of_labelled_number (by decide) beforeLines
  rw [String.append_right_inj] at quoted
  have characters := Text.Quoted.character_injective quoted
  cases first
  cases second
  rw [mk.injEq, Text.Place.mk.injEq]
  exact ⟨characters, offsets, lines, columns⟩

/-- A message has no control character, whatever the illegal one was. -/
theorem isControlFree_message (fault : IllegalCharacter) :
    Text.IsControlFree fault.message.toList := by
  unfold message
  simp only [String.toList_append, Text.IsControlFree.append_iff]
  exact
    ⟨⟨⟨⟨⟨by decide, Text.Quoted.isControlFree_character _⟩, by decide⟩,
      .toString _⟩, by decide⟩, .toString _⟩

theorem isControlFree_debug (fault : IllegalCharacter) :
    Text.IsControlFree fault.debug.toList := by
  unfold debug
  simp only [String.toList_append, Text.IsControlFree.append_iff]
  exact
    ⟨⟨⟨⟨⟨⟨⟨⟨by decide, Text.Quoted.isControlFree_character _⟩, by decide⟩,
      .toString _⟩, by decide⟩, .toString _⟩, by decide⟩, .toString _⟩,
      by decide⟩

/-- On the error channel an error takes up one line. -/
theorem splitOn_error (fault : IllegalCharacter) :
    (Output.error (Failure.illegal fault).message).stderr.toList.splitOn
        '\n' =
      [("Error: " ++ fault.message).toList, []] := by
  have opening : '\n' ∉ "Error: ".toList := by
    decide
  have unbroken : '\n' ∉ ("Error: " ++ fault.message).toList := by
    rw [String.toList_append, List.mem_append, not_or]
    exact ⟨opening, fault.isControlFree_message.feed_not_mem⟩
  have written :
      (Output.error (Failure.illegal fault).message).stderr.toList =
        ("Error: " ++ fault.message).toList ++ ['\n'] :=
    String.toList_append
  rw [written, List.splitOn_append_cons_self_of_not_mem unbroken]
  rfl

end IllegalCharacter

/-- The place of an error of strict reading gives its offset back to whoever has the text. -/
theorem Cursor.Stands.toOffset_place
    {dialect : Dialect}
    {text : String}
    {cursor : Cursor}
    {fault : IllegalCharacter}
    (stands : cursor.Stands dialect text.toList)
    (fails : cursor.strictly.result = .error fault) :
    fault.place.toOffset text.toList = fault.offset := by
  obtain ⟨placed, character, -, found, rfl⟩ :=
    ((readsStrictly_drain stands).agreement.refuses fault).mp fails
  have within := (List.getElem?_eq_some_iff.mp found).1
  exact (Text.Place.ofOffset_recovered text (Nat.le_of_lt within)).2

/--
The sentences about two errors are equal exactly if the errors have one character, line
and column, and their records exactly if the errors are equal.  Neither text holds a
control character, so an error takes up one line of the error channel.  Whoever has the
text finds the offset of an error of strict reading from its line and column, and so two
such errors with one sentence have one offset.
-/
theorem error_texts_identify_errors :
    (∀ first second : IllegalCharacter,
      (first.message = second.message ↔
        first.character = second.character ∧
          first.place.line = second.place.line ∧
          first.place.column = second.place.column) ∧
      (first.debug = second.debug ↔
        first.character = second.character ∧
          first.offset = second.offset ∧
          first.place.line = second.place.line ∧
          first.place.column = second.place.column)) ∧
    (∀ fault : IllegalCharacter,
      (∀ character ∈ fault.message.toList,
        Text.isControl character = false) ∧
      (∀ character ∈ fault.debug.toList,
        Text.isControl character = false) ∧
      (Output.error (Failure.illegal fault).message).stderr.toList.splitOn
          '\n' =
        [("Error: " ++ fault.message).toList, []]) ∧
    ∀ (text : String) (dialect otherDialect : Dialect)
      (calls otherCalls : List Call) (fault otherFault : IllegalCharacter),
      ((Cursor.ofText dialect text).afterAll calls).strictly.result =
          .error fault →
      ((Cursor.ofText otherDialect text).afterAll
            otherCalls).strictly.result =
          .error otherFault →
        fault.place.toOffset text.toList = fault.offset ∧
          (fault.message = otherFault.message →
            fault.offset = otherFault.offset) := by
  refine ⟨?_, ?_, ?_⟩
  · intro first second
    refine ⟨?_, ?_⟩
    · rw [IllegalCharacter.message_eq_iff, Text.Place.mk.injEq]
    · rw [IllegalCharacter.debug_injective.eq_iff, IllegalCharacter.mk.injEq,
        Text.Place.mk.injEq]
  · intro fault
    exact ⟨fault.isControlFree_message, fault.isControlFree_debug,
      fault.splitOn_error⟩
  · intro text dialect otherDialect calls otherCalls fault otherFault fails
      otherFails
    have offset :=
      ((Cursor.Stands.ofText dialect text).afterAll calls).toOffset_place
        fails
    have otherOffset :=
      ((Cursor.Stands.ofText otherDialect text).afterAll
        otherCalls).toOffset_place otherFails
    refine ⟨offset, ?_⟩
    intro same
    rw [← offset, ← otherOffset, (IllegalCharacter.message_eq_iff.mp same).2]

theorem error_texts_identify_errors_escape :
    let text := "let\n\x1b-a"
    let fault : IllegalCharacter :=
      { character := '\x1b'
        offset := 4
        place := { line := 2, column := 1 } }
    ((Cursor.ofText {} text).afterAll [.nextToken]).strictly.result =
        .error fault ∧
      ((Cursor.ofText { dashInWords := true } text).afterAll
          []).strictly.result =
        .error fault ∧
      (∀ character ∈ fault.message.toList,
        Text.isControl character = false) ∧
      fault.place.toOffset text.toList = 4 := by
  intro text fault
  have fails :
      ((Cursor.ofText {} text).afterAll [.nextToken]).strictly.result =
        .error fault := by
    decide +kernel
  have otherFails :
      ((Cursor.ofText { dashInWords := true } text).afterAll
          []).strictly.result =
        .error fault := by
    decide +kernel
  obtain ⟨-, single, determined⟩ := error_texts_identify_errors
  obtain ⟨offset, -⟩ :=
    determined text {} { dashInWords := true } [.nextToken] [] fault fault
      fails otherFails
  exact ⟨fails, otherFails, (single fault).1, offset⟩

end MonkeyTokens
