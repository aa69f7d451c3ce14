namespace MonkeyTokens.Text

/-!
# Texts by their bytes

Some cuts of a text are given in bytes of its UTF-8 form.  Such a cut has to fall
between two characters: inside a character there is nothing to cut.
-/

/-- The number of bytes of a text in UTF-8. -/
def byteSize : List Char → Nat
  | [] =>
      0
  | character :: later =>
      character.utf8Size + byteSize later

/-- A text without its first bytes, unless they end inside a character. -/
def dropBytes? : List Char → Nat → Option (List Char)
  | text, 0 =>
      some text
  | [], _ + 1 =>
      none
  | character :: later, bytes + 1 =>
      if character.utf8Size ≤ bytes + 1 then
        dropBytes? later (bytes + 1 - character.utf8Size)
      else
        none

/-- The first bytes of a text, unless they end inside a character. -/
def takeBytes? : List Char → Nat → Option (List Char)
  | _, 0 =>
      some []
  | [], _ + 1 =>
      none
  | character :: later, bytes + 1 =>
      if character.utf8Size ≤ bytes + 1 then
        (takeBytes? later (bytes + 1 - character.utf8Size)).map
          (character :: ·)
      else
        none

/-- The sizes of two texts add up where one follows the other. -/
theorem byteSize_append
    (front later : List Char) :
    byteSize (front ++ later) = byteSize front + byteSize later := by
  induction front with
  | nil =>
      simp [byteSize]
  | cons character rest inductionHypothesis =>
      simp only [List.cons_append, byteSize, inductionHypothesis,
        Nat.add_assoc]

/-- The order of the characters does not matter for their size. -/
theorem byteSize_reverse (text : List Char) :
    byteSize text.reverse = byteSize text := by
  induction text with
  | nil =>
      rfl
  | cons character rest inductionHypothesis =>
      simp only [List.reverse_cons, byteSize_append, byteSize,
        inductionHypothesis]
      omega

/-- A text is dropped from the front of a longer one by its size. -/
theorem dropBytes?_append
    (front later : List Char) :
    dropBytes? (front ++ later) (byteSize front) = some later := by
  induction front with
  | nil =>
      simp [byteSize, dropBytes?]
  | cons character rest inductionHypothesis =>
      have positive := character.utf8Size_pos
      obtain ⟨bytes, size⟩ :
          ∃ bytes, byteSize (character :: rest) = bytes + 1 :=
        ⟨character.utf8Size - 1 + byteSize rest, by
          simp only [byteSize]
          omega⟩
      have fits : character.utf8Size ≤ bytes + 1 := by
        rw [← size, byteSize]
        exact Nat.le_add_right _ _
      have remaining :
          bytes + 1 - character.utf8Size = byteSize rest := by
        rw [← size]
        simp [byteSize]
      rw [size, List.cons_append, dropBytes?, if_pos fits, remaining]
      exact inductionHypothesis

end MonkeyTokens.Text
