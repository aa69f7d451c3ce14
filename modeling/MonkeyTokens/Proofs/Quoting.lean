import MonkeyTokens.Text.Quoted

namespace MonkeyTokens.Text.Quoted

/-!
# Reading quoted texts back

A quoted text is read from left to right: outside of an escape a character stands
for itself, a backslash begins an escape, and the delimiter ends the text.  No
escape begins like another one, so a quoted text is read back whichever characters
are unprintable, and nobody has to know which they are.
-/

/-- How much of an escape has been read. -/
inductive Escape where
  | outside
  | begun
  | byNumber
  | digits (number : Nat)
  deriving Repr, DecidableEq

/-- The character that a letter stands for after a backslash. -/
def ofLetter? : Char → Option Char
  | '0' => some '\x00'
  | 't' => some '\t'
  | 'n' => some '\n'
  | 'r' => some '\r'
  | '\\' => some '\\'
  | '"' => some '"'
  | '\'' => some '\''
  | _ => none

/-- The value of a lower-case hexadecimal digit. -/
def hexValue? (digit : Char) : Option Nat :=
  (List.range 16).find? fun value => Nat.digitChar value == digit

/-- The text that stands before the delimiter at the end of what follows a part of an escape. -/
def unquote? (delimiter : Char) : Escape → List Char → Option (List Char)
  | _, [] =>
      none
  | .outside, character :: rest =>
      if character = delimiter then
        if rest = [] then some [] else none
      else if character = '\\' then
        unquote? delimiter .begun rest
      else
        (unquote? delimiter .outside rest).map (character :: ·)
  | .begun, letter :: rest =>
      if letter = 'u' then
        unquote? delimiter .byNumber rest
      else
        (ofLetter? letter).bind fun character =>
          (unquote? delimiter .outside rest).map (character :: ·)
  | .byNumber, brace :: rest =>
      if brace = '{' then unquote? delimiter (.digits 0) rest else none
  | .digits number, digit :: rest =>
      if digit = '}' then
        (unquote? delimiter .outside rest).map (Char.ofNat number :: ·)
      else
        (hexValue? digit).bind fun value =>
          unquote? delimiter (.digits (16 * number + value)) rest

/-- The text between two delimiters. -/
def decode? (delimiter : Char) : List Char → Option (List Char)
  | [] =>
      none
  | first :: rest =>
      if first = delimiter then
        unquote? delimiter .outside rest
      else
        none

/-- Quotation marks: the delimiters of strings and of single characters. -/
def marks : List Char :=
  ['"', '\'']

variable {unprintable : Char → Bool} {delimiter : Char}

/-- The letter of a control character stands for it, begins no number and breaks no line. -/
theorem letter_of_controlLetter?
    {character letter : Char}
    (found : controlLetter? character = some letter) :
    ofLetter? letter = some character ∧ letter ≠ 'u' ∧ letter ≠ '\n' := by
  unfold controlLetter? at found
  split at found <;> cases found <;> decide

theorem ofLetter?_of_mem_marks
    (mark : delimiter ∈ marks) :
    ofLetter? delimiter = some delimiter ∧ delimiter ≠ 'u' ∧
      delimiter ≠ '\\' ∧ delimiter ≠ '\n' := by
  simp only [marks, List.mem_cons, List.not_mem_nil, or_false] at mark
  rcases mark with rfl | rfl <;> decide

/-- A hexadecimal digit has its value, and is no end of an escape. -/
theorem hexValue?_digitChar :
    ∀ value < 16,
      hexValue? (Nat.digitChar value) = some value ∧
        Nat.digitChar value ≠ '}' ∧ Nat.digitChar value ≠ '\n' := by
  decide

theorem digitChar_of_mem_hexDigits
    {number : Nat}
    {digit : Char}
    (member : digit ∈ hexDigits number) :
    ∃ value < 16, digit = Nat.digitChar value := by
  induction number using Nat.strongRecOn with
  | ind number inductionHypothesis =>
      rw [hexDigits, Nat.toDigits_eq_if (by decide)] at member
      split at member
      · rename_i single
        exact ⟨number, single, List.mem_singleton.mp member⟩
      · rename_i several
        rcases List.mem_append.mp member with earlier | last
        · exact inductionHypothesis (number / 16) (by omega) earlier
        · exact ⟨number % 16, Nat.mod_lt _ (by decide),
            List.mem_singleton.mp last⟩

/--
The digits of a number are read as the number.  All of them but the last write the
number without its last digit.
-/
theorem unquote?_hexDigits
    (number : Nat)
    (rest : List Char) :
    unquote? delimiter (.digits 0) (hexDigits number ++ rest) =
      unquote? delimiter (.digits number) rest := by
  induction number using Nat.strongRecOn generalizing rest with
  | ind number inductionHypothesis =>
      rw [hexDigits, Nat.toDigits_eq_if (by decide)]
      split
      · rename_i single
        obtain ⟨value, digit, -⟩ := hexValue?_digitChar number single
        simp [unquote?, value, digit]
      · rename_i several
        obtain ⟨value, digit, -⟩ :=
          hexValue?_digitChar (number % 16) (Nat.mod_lt _ (by decide))
        have earlier :=
          inductionHypothesis (number / 16) (by omega)
            (Nat.digitChar (number % 16) :: rest)
        rw [hexDigits] at earlier
        rw [List.append_assoc, List.singleton_append, earlier]
        simp [unquote?, value, digit, Nat.div_add_mod]

/-- The written form of a character is read as the character, whatever follows. -/
theorem unquote?_escape
    (mark : delimiter ∈ marks)
    (character : Char)
    (rest : List Char) :
    unquote? delimiter .outside
        (escape unprintable delimiter character ++ rest) =
      (unquote? delimiter .outside rest).map (character :: ·) := by
  obtain ⟨letter, noNumber, noBackslash, -⟩ := ofLetter?_of_mem_marks mark
  unfold escape
  split
  · rename_i written found
    obtain ⟨named, unnumbered, -⟩ := letter_of_controlLetter? found
    simp [unquote?, noBackslash.symm, named, unnumbered]
  · split
    · rename_i special
      rcases special with rfl | rfl
      · simp [unquote?, noBackslash.symm, ofLetter?]
      · simp [unquote?, noBackslash.symm, letter, noNumber]
    · rename_i special
      rw [not_or] at special
      split
      · simp only [numbered, List.append_assoc, List.cons_append,
          List.nil_append, unquote?, noBackslash.symm, ↓reduceIte,
          unquote?_hexDigits, Char.ofNat_toNat]
      · simp [unquote?, special]

/-- A quoted text is read back, whichever characters are unprintable. -/
theorem decode?_encode
    (mark : delimiter ∈ marks)
    (text : List Char) :
    decode? delimiter (encode unprintable delimiter text) = some text := by
  have body :
      unquote? delimiter .outside
          (text.flatMap (escape unprintable delimiter) ++ [delimiter]) =
        some text := by
    induction text with
    | nil =>
        simp [unquote?]
    | cons character later inductionHypothesis =>
        rw [List.flatMap_cons, List.append_assoc, unquote?_escape mark,
          inductionHypothesis]
        rfl
  simpa [decode?, encode] using body

/-- Different texts are encoded differently. -/
theorem encode_injective (mark : delimiter ∈ marks) :
    Function.Injective (encode unprintable delimiter) := by
  intro first second same
  have read := congrArg (decode? delimiter) same
  rw [decode?_encode mark, decode?_encode mark] at read
  exact Option.some.inj read

/-- Different texts are quoted differently. -/
theorem string_injective : Function.Injective (string unprintable) := by
  intro first second same
  have texts : first.toList = second.toList :=
    encode_injective (by simp [marks]) (String.ofList_injective same)
  exact String.toList_injective texts

/-- A line feed is always escaped. -/
theorem feed_not_mem_escape
    (mark : delimiter ∈ marks)
    (character : Char) :
    '\n' ∉ escape unprintable delimiter character := by
  obtain ⟨-, -, -, noFeed⟩ := ofLetter?_of_mem_marks mark
  unfold escape
  split
  · rename_i written found
    obtain ⟨-, -, otherLetter⟩ := letter_of_controlLetter? found
    simp [otherLetter.symm]
  · rename_i unlettered
    have other : character ≠ '\n' := by
      rintro rfl
      cases unlettered
    split
    · simp [other.symm]
    · split
      · intro member
        simp only [numbered, List.mem_append, List.mem_cons,
          List.not_mem_nil, or_false] at member
        rcases member with (opening | digit) | closing
        · revert opening
          decide
        · obtain ⟨value, bound, same⟩ := digitChar_of_mem_hexDigits digit
          exact (hexValue?_digitChar value bound).2.2 same.symm
        · revert closing
          decide
      · simp [other.symm]

/-- A quoted text stands on one line. -/
theorem feed_not_mem_encode
    (mark : delimiter ∈ marks)
    (text : List Char) :
    '\n' ∉ encode unprintable delimiter text := by
  obtain ⟨-, -, -, noFeed⟩ := ofLetter?_of_mem_marks mark
  intro member
  simp only [encode, List.mem_append, List.mem_cons, List.mem_flatMap,
    List.not_mem_nil, or_false] at member
  rcases member with (first | ⟨character, -, inside⟩) | last
  · exact noFeed first.symm
  · exact feed_not_mem_escape mark character inside
  · exact noFeed last.symm

end MonkeyTokens.Text.Quoted
