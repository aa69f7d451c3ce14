import Mathlib.Data.List.Sort
import MonkeyTokens.Proofs.Finding
import MonkeyTokens.Proofs.Lines

namespace MonkeyTokens

/-!
# The alphabet

Whether a character is illegal does not depend on the text around it.  The tokens
and the spacing between them are written with an alphabet of ASCII characters.  Each
character outside it makes one illegal token at its position, there are no other
illegal tokens, and strict reading fails at the first such character.
-/

/-- The characters that marks are written with. -/
def markCharacters : List Char :=
  ['=', '!', ';', '(', ')', ',', '+', '-', '/', '*', '<', '>', '{', '}']

/-- The alphabet: spacing, ASCII letters and digits, the underscore and the characters of marks. -/
def inAlphabet (character : Char) : Bool :=
  spacings.contains character || character.isAlpha || character.isDigit ||
    character == '_' || markCharacters.contains character

/-- The operators and delimiters of one character are those of the alphabet. -/
theorem Mark.ofChar?_eq_none_iff {character : Char} :
    ofChar? character = none ↔ character ∉ markCharacters := by
  constructor
  · intro missing member
    have found :
        markCharacters.all (fun other => (ofChar? other).isSome) = true := by
      decide
    have present := List.all_eq_true.mp found character member
    rw [missing] at present
    cases present
  · intro absent
    cases found : ofChar? character with
    | none =>
        rfl
    | some sign =>
        have spelled := spelling_of_ofChar? found
        cases sign <;>
          simp only [spelling, List.cons.injEq, and_true, reduceCtorEq,
            and_false] at spelled <;>
          subst spelled <;> exact (absent (by decide)).elim

/-- The characters outside the alphabet are the strays of every dialect. -/
theorem isStray_eq_not_inAlphabet (character : Char) :
    isStray character = !inAlphabet character := by
  rw [Bool.eq_iff_iff]
  simp only [isStray, inAlphabet, isWordStart, Bool.and_eq_true,
    Bool.not_eq_true', Option.isNone_iff_eq_none,
    Mark.ofChar?_eq_none_iff, ← Bool.not_eq_true,
    isSpacing_iff_mem_spacings]
  grind

/-- The alphabet is a part of ASCII, and not even the first character of ASCII belongs to it. -/
theorem toNat_of_inAlphabet
    {character : Char}
    (inside : inAlphabet character = true) :
    0 < character.toNat ∧ character.toNat < 128 := by
  simp only [inAlphabet, Bool.or_eq_true, beq_iff_eq,
    List.contains_iff_mem] at inside
  have written :
      (spacings ++ markCharacters).all
          (fun other => 0 < other.toNat ∧ other.toNat < 128) =
        true := by
    decide
  simp only [List.all_append, Bool.and_eq_true, List.all_eq_true,
    decide_eq_true_eq] at written
  rcases inside with (((spacing | letter) | digit) | rfl) | mark
  · exact written.1 character spacing
  · unfold Char.isAlpha Char.isUpper Char.isLower at letter
    simp only [Bool.or_eq_true, Bool.and_eq_true, decide_eq_true_eq,
      UInt32.le_iff_toNat_le] at letter
    simp at letter
    omega
  · simp only [Char.isDigit, Bool.and_eq_true, decide_eq_true_eq,
      UInt32.le_iff_toNat_le] at digit
    simp at digit
    omega
  · decide
  · exact written.2 character mark

/-- The token of a character outside the alphabet. -/
def Placed.strayAt (offset : Nat) : Placed where
  offset := offset
  token := { kind := .illegal, literal := "" }

namespace Dialect

variable {text : String}

/--
The illegal tokens of a text stand where its strays stand, since a stray is one
character long and begins where it is found.
-/
theorem mem_drain_and_illegal_iff
    (dialect : Dialect)
    {placed : Placed} :
    (placed ∈ (Cursor.ofText dialect text).drain.1 ∧
        placed.token.kind = .illegal) ↔
      ∃ offset character, text.toList[offset]? = some character ∧
        isStray character = true ∧ placed = .strayAt offset := by
  constructor
  · rintro ⟨member, illegal⟩
    obtain ⟨lexeme, found, same⟩ :=
      exists_finds_of_mem member (by simp [illegal])
    rw [same] at illegal
    obtain ⟨character, rfl⟩ := Lexeme.kind_eq_illegal_iff.mp illegal
    have held : (Lexeme.stray character).spelling[0]? = some character :=
      rfl
    refine ⟨placed.offset, character, found.getElem?_of_spelling held,
      admits_stray_iff.mp found.admitted, ?_⟩
    cases placed
    cases same
    rfl
  · rintro ⟨position, character, held, stray, rfl⟩
    have solid : isSpacing character = false := by
      simp_all [isStray]
    obtain ⟨offset, index, lexeme, rfl, spelled, found⟩ :=
      dialect.exists_finds_of_solid held solid
    obtain rfl :=
      eq_stray_of_isStray found.admitted (List.mem_of_getElem? spelled)
        stray
    obtain rfl := index_eq_zero_of_length spelled rfl
    exact ⟨found.given, rfl⟩

/-- The illegal tokens of a text, in order, are one for each position outside the alphabet. -/
theorem filter_illegal_drain
    (dialect : Dialect)
    (text : String) :
    ((Cursor.ofText dialect text).drain.1.filter
        fun placed => placed.token.kind == .illegal) =
      (text.toList.findIdxs fun character => !inAlphabet character).map
        .strayAt := by
  have antisymm :
      Std.Antisymm fun first second : Placed =>
        first.offset < second.offset :=
    ⟨by omega⟩
  have irrefl :
      Std.Irrefl fun first second : Placed =>
        first.offset < second.offset :=
    ⟨by omega⟩
  refine List.Pairwise.eq_of_mem_iff
    (((Cursor.ordered_drain dialect text).imp And.left).filter _)
    (List.pairwise_map.mpr List.pairwise_findIdxs) ?_
  intro placed
  rw [List.mem_filter, beq_iff_eq, mem_drain_and_illegal_iff, List.mem_map]
  simp only [List.mem_findIdxs_iff_getElem_sub_pos, Nat.zero_le, true_and,
    Nat.sub_zero, ← isStray_eq_not_inAlphabet]
  constructor
  · rintro ⟨offset, character, held, stray, rfl⟩
    obtain ⟨inside, rfl⟩ := List.getElem?_eq_some_iff.mp held
    exact ⟨offset, ⟨inside, stray⟩, rfl⟩
  · rintro ⟨offset, ⟨inside, stray⟩, rfl⟩
    exact ⟨offset, _, List.getElem?_eq_getElem inside, stray, rfl⟩

/-- Behind characters of the alphabet, strict reading fails at the first one outside it. -/
theorem readStrictly_of_outside
    (dialect : Dialect)
    {before after : List Char}
    {character : Char}
    (shape : text.toList = before ++ character :: after)
    (inside : ∀ earlier ∈ before, inAlphabet earlier = true)
    (outside : inAlphabet character = false) :
    dialect.readStrictly text =
      .error (.within text.toList before.length character) := by
  refine ((dialect.agreement_readStrictly text).refuses _).mpr
    ⟨.strayAt before.length, character, ?_, ?_, rfl⟩
  · have none :
        before.findIdxs (fun earlier => !inAlphabet earlier) = [] := by
      rw [List.findIdxs_eq_nil_iff]
      simpa using inside
    rw [firstIllegal?, ← List.head?_filter, filter_illegal_drain, shape,
      List.findIdxs_append, none]
    simp [List.findIdxs_cons, outside]
  · simp [Placed.strayAt, shape]

/-- A text is read strictly if and only if it is written with the alphabet. -/
theorem readStrictly_eq_ok_iff
    (dialect : Dialect)
    (text : String) :
    (∃ tokens, dialect.readStrictly text = .ok tokens) ↔
      ∀ character ∈ text.toList, inAlphabet character = true := by
  have legal :
      (∀ placed ∈ (Cursor.ofText dialect text).drain.1,
          placed.token.kind ≠ .illegal) ↔
        ∀ character ∈ text.toList, inAlphabet character = true := by
    have none :=
      congrArg (· = []) (dialect.filter_illegal_drain text)
    simpa [List.filter_eq_nil_iff, List.findIdxs_eq_nil_iff] using none
  simp only [(dialect.agreement_readStrictly text).accepts, legal,
    exists_and_left, exists_eq, and_true]

end Dialect

/--
Illegal tokens are exactly the characters outside the alphabet, one for each position
that holds such a character; the first character of ASCII is one of them, and so is
every character beyond ASCII.  So strict reading succeeds if and only if all characters
are in the alphabet, and else it reports the first that is not, in either dialect.
-/
theorem illegal_iff_outside_alphabet (text : String) :
    (∀ dialect : Dialect,
      ((Cursor.ofText dialect text).drain.1.filter
          fun placed => placed.token.kind == .illegal) =
        (text.toList.findIdxs fun character =>
          !inAlphabet character).map .strayAt) ∧
    (∀ character : Char,
      character.toNat = 0 ∨ 128 ≤ character.toNat →
        inAlphabet character = false) ∧
    (∀ dialect : Dialect,
      (∃ tokens, dialect.readStrictly text = .ok tokens) ↔
        ∀ character ∈ text.toList, inAlphabet character = true) ∧
    ∀ (dialect : Dialect) (fault : IllegalCharacter),
      dialect.readStrictly text = .error fault ↔
        ∃ before character after,
          text.toList = before ++ character :: after ∧
            (∀ earlier ∈ before, inAlphabet earlier = true) ∧
            inAlphabet character = false ∧
            fault =
              { character
                offset := before.length
                place :=
                  Text.Place.ofOffset text.toList before.length } := by
  refine ⟨fun dialect => dialect.filter_illegal_drain text, ?_,
    fun dialect => dialect.readStrictly_eq_ok_iff text, ?_⟩
  · intro character beyond
    apply Bool.eq_false_iff.mpr
    intro inside
    have bounds := toNat_of_inAlphabet inside
    omega
  intro dialect fault
  constructor
  · intro fails
    cases first :
        text.toList.find? fun character => !inAlphabet character with
    | none =>
        have inside :
            ∀ character ∈ text.toList, inAlphabet character = true := by
          simpa using List.find?_eq_none.mp first
        obtain ⟨tokens, reads⟩ :=
          (dialect.readStrictly_eq_ok_iff text).mpr inside
        rw [fails] at reads
        cases reads
    | some character =>
        obtain ⟨outside, before, after, shape, inside⟩ :=
          List.find?_eq_some_iff_append.mp first
        simp only [Bool.not_eq_true', Bool.not_not] at outside inside
        have fault_eq :=
          dialect.readStrictly_of_outside shape inside outside
        rw [fails] at fault_eq
        exact ⟨before, character, after, shape, inside, outside,
          Except.error.inj fault_eq⟩
  · rintro ⟨before, character, after, shape, inside, outside, rfl⟩
    exact dialect.readStrictly_of_outside shape inside outside

theorem illegal_iff_outside_alphabet_nul :
    ((Cursor.ofText {} "a\x00é").drain.1.filter
        fun placed => placed.token.kind == .illegal) =
      [.strayAt 1, .strayAt 2] ∧
    inAlphabet '\x00' = false ∧ inAlphabet 'é' = false := by
  obtain ⟨tokens, outside, -⟩ := illegal_iff_outside_alphabet "a\x00é"
  have positions :
      ("a\x00é".toList.findIdxs fun character => !inAlphabet character) =
        [1, 2] := by
    decide
  refine ⟨?_, outside '\x00' (.inl rfl), outside 'é' (.inr (by decide))⟩
  rw [tokens, positions]
  rfl

end MonkeyTokens
