import MonkeyTokens.Lexeme
import MonkeyTokens.Text.Alphanumeric

namespace MonkeyTokens

/-!
# Legal spellings

A dialect settles which texts are marks, words and numbers, and with them which
characters are left over as strays.  Reading one lexeme is characterized by these
classes alone: what is read is a lexeme of the dialect that the character behind
it does not continue, and a text begins with only one such lexeme.
-/

namespace Mark

/-- An equals sign directly behind the mark is read as part of it. -/
def isOpen : Mark → Bool
  | .assign => true
  | .bang => true
  | _ => false

/-- A character that is a mark is no spacing, letter or digit. -/
theorem classes_of_ofChar?
    {character : Char}
    {sign : Mark}
    (found : ofChar? character = some sign) :
    isSpacing character = false ∧ isWordStart character = false ∧
      character.isDigit = false := by
  have spelled := spelling_of_ofChar? found
  cases sign <;>
    simp only [spelling, List.cons.injEq, and_true, reduceCtorEq,
      and_false] at spelled <;>
    subst spelled <;> decide

/-- The first character of an operator or delimiter is one on its own. -/
theorem exists_ofChar?_of_head?
    {sign : Mark}
    {character : Char}
    (first : sign.spelling.head? = some character) :
    ∃ short, ofChar? character = some short := by
  cases sign <;>
    simp only [spelling, List.head?_cons, Option.some.injEq] at first <;>
    subst first <;> exact ⟨_, rfl⟩

/-- A mark is written with one character or with an equals sign joined to another. -/
theorem spelling_cases (sign : Mark) :
    (∃ character, sign.spelling = [character] ∧
      ofChar? character = some sign) ∨
    ∃ character, sign.spelling = [character, '='] ∧
      joined? character = some sign := by
  cases sign with
  | equal =>
      exact .inr ⟨_, rfl, rfl⟩
  | notEqual =>
      exact .inr ⟨_, rfl, rfl⟩
  | _ =>
      exact .inl ⟨_, rfl, rfl⟩

theorem exists_ofChar?_of_joined?
    {character : Char}
    {joined : Mark}
    (joins : joined? character = some joined) :
    ∃ short, ofChar? character = some short :=
  exists_ofChar?_of_head? (by rw [spelling_of_joined? joins]; rfl)

/-- Behind its first character an operator has an equals sign at most. -/
theorem mem_spelling
    {sign : Mark}
    {character : Char}
    (member : character ∈ sign.spelling) :
    (∃ short, ofChar? character = some short) ∨ character = '=' := by
  rcases sign.spelling_cases with
      ⟨first, spelled, found⟩ | ⟨first, spelled, joins⟩
  · obtain rfl : character = first := by
      simpa [spelled] using member
    exact .inl ⟨sign, found⟩
  · rcases (by simpa [spelled] using member :
        character = first ∨ character = '=') with rfl | equal
    · exact .inl (exists_ofChar?_of_joined? joins)
    · exact .inr equal

/-- An operator of one character is open if an equals sign can join it. -/
theorem isOpen_of_ofChar?
    {character : Char}
    {sign : Mark}
    (found : ofChar? character = some sign) :
    sign.isOpen = (joined? character).isSome := by
  have spelled := spelling_of_ofChar? found
  cases sign <;>
    simp only [spelling, List.cons.injEq, and_true, reduceCtorEq,
      and_false] at spelled <;>
    subst spelled <;> rfl

theorem isOpen_of_joined?
    {character : Char}
    {joined : Mark}
    (joins : joined? character = some joined) :
    joined.isOpen = false := by
  unfold joined? at joins
  split at joins <;> simp_all <;> subst joins <;> rfl

theorem joined?_eq_none
    {character : Char}
    (missing : ofChar? character = none) :
    joined? character = none := by
  cases joins : joined? character with
  | none =>
      rfl
  | some joined =>
      obtain ⟨short, found⟩ := exists_ofChar?_of_joined? joins
      simp [missing] at found

end Mark

/-- Spacing is no mark, letter or digit, and continues no word. -/
theorem classes_of_isSpacing
    {character : Char}
    (spacing : isSpacing character = true) :
    Mark.ofChar? character = none ∧ isWordStart character = false ∧
      character.isDigit = false ∧ character ≠ '-' ∧ character ≠ '=' := by
  simp only [isSpacing, Bool.or_eq_true, beq_iff_eq] at spacing
  rcases spacing with ((((rfl | rfl) | rfl) | rfl) | rfl) | rfl <;> decide

/-- A digit begins no word. -/
theorem isDigit_of_isWordStart
    {character : Char}
    (begins : isWordStart character = true) :
    character.isDigit = false := by
  unfold isWordStart Char.isAlpha Char.isUpper Char.isLower at begins
  simp only [Bool.or_eq_true, Bool.and_eq_true, decide_eq_true_eq,
    beq_iff_eq, UInt32.le_iff_toNat_le] at begins
  simp only [Char.isDigit, Bool.and_eq_false_iff, decide_eq_false_iff_not,
    UInt32.le_iff_toNat_le]
  rcases begins with (upper | lower) | rfl
  · simp at upper ⊢
    omega
  · simp at lower ⊢
    omega
  · decide

theorem isWordStart_of_isDigit
    {character : Char}
    (digit : character.isDigit = true) :
    isWordStart character = false := by
  cases begins : isWordStart character with
  | false =>
      rfl
  | true =>
      simp [isDigit_of_isWordStart begins] at digit

/-- What begins a word or a number is no operator, delimiter or spacing. -/
theorem classes_of_begins
    {character : Char}
    (begins : isWordStart character = true ∨ character.isDigit = true) :
    Mark.ofChar? character = none ∧ isSpacing character = false := by
  constructor
  · cases found : Mark.ofChar? character with
    | none =>
        rfl
    | some sign =>
        have classes := Mark.classes_of_ofChar? found
        simp [classes] at begins
  · cases spacing : isSpacing character with
    | false =>
        rfl
    | true =>
        have classes := classes_of_isSpacing spacing
        simp [classes] at begins

/-- A character that is no spacing and that no mark, word or number begins with. -/
def isStray (character : Char) : Bool :=
  !isSpacing character && (Mark.ofChar? character).isNone &&
    !isWordStart character && !character.isDigit

/-- A word is an identifier or a keyword. -/
theorem Kind.ofWord_cases (word : String) :
    Kind.ofWord word = .identifier ∨
      ∃ reserved, Kind.ofWord word = .keyword reserved := by
  unfold Kind.ofWord
  split
  · exact .inr ⟨_, rfl⟩
  · exact .inl rfl

/-- A word is a keyword exactly if it is spelled like one as a whole. -/
theorem Kind.ofWord_eq_keyword_iff
    {word : String}
    {reserved : Keyword} :
    Kind.ofWord word = .keyword reserved ↔ word = reserved.spelling := by
  constructor
  · intro named
    unfold Kind.ofWord at named
    split at named
    · rename_i other found
      obtain rfl := Kind.keyword.inj named
      have spelled := List.find?_some found
      exact (beq_iff_eq.mp spelled).symm
    · cases named
  · rintro rfl
    cases reserved <;> decide

namespace Lexeme

/-- No lexeme makes the token that closes a text. -/
theorem kind_ne_endOfInput (lexeme : Lexeme) :
    lexeme.kind ≠ .endOfInput := by
  cases lexeme with
  | word letters =>
      rcases Kind.ofWord_cases (String.ofList letters) with
          named | ⟨reserved, named⟩ <;>
        simp [kind, named]
  | _ =>
      simp [kind]

@[simp] theorem isEnd_token (lexeme : Lexeme) :
    lexeme.token.isEnd = false := by
  simpa [Token.isEnd, token] using lexeme.kind_ne_endOfInput

theorem kind_eq_mark_iff
    {lexeme : Lexeme}
    {sign : Mark} :
    lexeme.kind = .mark sign ↔ lexeme = .mark sign := by
  cases lexeme with
  | word letters =>
      rcases Kind.ofWord_cases (String.ofList letters) with
          named | ⟨reserved, named⟩ <;>
        simp [kind, named]
  | _ =>
      simp [kind]

theorem kind_eq_integer_iff {lexeme : Lexeme} :
    lexeme.kind = .integer ↔ ∃ digits, lexeme = .number digits := by
  cases lexeme with
  | word letters =>
      rcases Kind.ofWord_cases (String.ofList letters) with
          named | ⟨reserved, named⟩ <;>
        simp [kind, named]
  | _ =>
      simp [kind]

theorem kind_eq_illegal_iff {lexeme : Lexeme} :
    lexeme.kind = .illegal ↔ ∃ character, lexeme = .stray character := by
  cases lexeme with
  | word letters =>
      rcases Kind.ofWord_cases (String.ofList letters) with
          named | ⟨reserved, named⟩ <;>
        simp [kind, named]
  | _ =>
      simp [kind]

/-- A token and the text it stands in determine the lexeme that made it. -/
theorem eq_of_token
    {first second : Lexeme}
    {firstRest secondRest : List Char}
    (same : first.token = second.token)
    (shape :
      first.spelling ++ firstRest = second.spelling ++ secondRest) :
    first = second := by
  have sameKind : first.kind = second.kind :=
    congrArg Token.kind same
  have sameLiteral : first.literal = second.literal :=
    congrArg Token.literal same
  cases first with
  | mark sign =>
      exact (kind_eq_mark_iff.mp sameKind.symm).symm
  | number digits =>
      obtain ⟨others, rfl⟩ := kind_eq_integer_iff.mp sameKind.symm
      exact congrArg number (String.ofList_inj.mp sameLiteral)
  | stray character =>
      obtain ⟨other, rfl⟩ := kind_eq_illegal_iff.mp sameKind.symm
      exact congrArg stray (List.cons.inj shape).1
  | word letters =>
      cases second with
      | word others =>
          exact congrArg word (String.ofList_inj.mp sameLiteral)
      | mark sign =>
          exact kind_eq_mark_iff.mp sameKind
      | number digits =>
          obtain ⟨_, impossible⟩ := kind_eq_integer_iff.mp sameKind
          cases impossible
      | stray character =>
          obtain ⟨_, impossible⟩ := kind_eq_illegal_iff.mp sameKind
          cases impossible

end Lexeme

namespace Dialect

/-- A word is a character that begins words, and then characters that continue them. -/
def isWord (dialect : Dialect) : List Char → Bool
  | [] => false
  | first :: later => isWordStart first && later.all dialect.isWordPart

/-- The marks, words and numbers of a dialect. -/
def Spells (dialect : Dialect) : Lexeme → Prop
  | .mark _ => True
  | .word letters => dialect.isWord letters = true
  | .number digits => Text.Decimal.isDigits digits = true
  | .stray _ => False

/--
The lexemes of a dialect: its marks, words and numbers, and every character that
is neither spacing nor the first character of one of them.
-/
def Admits (dialect : Dialect) : Lexeme → Prop
  | .stray character =>
      isSpacing character = false ∧
        ∀ lexeme, dialect.Spells lexeme →
          lexeme.spelling.head? ≠ some character
  | lexeme => dialect.Spells lexeme

/-- A character standing directly behind a lexeme would be read as part of it. -/
def continues (dialect : Dialect) : Lexeme → Char → Bool
  | .mark sign, character => sign.isOpen && character == '='
  | .word _, character => dialect.isWordPart character
  | .number _, character => character.isDigit
  | .stray _, _ => false

/-- A lexeme ends before a text: the text is empty or does not continue it. -/
def EndsBefore
    (dialect : Dialect)
    (lexeme : Lexeme)
    (rest : List Char) :
    Prop :=
  ∀ character ∈ rest.head?, dialect.continues lexeme character = false

variable {dialect : Dialect}

/-- A word has a first letter, which begins words, and word characters behind it. -/
theorem isWord_iff {letters : List Char} :
    dialect.isWord letters = true ↔
      ∃ first later, letters = first :: later ∧
        isWordStart first = true ∧
        ∀ character ∈ later, dialect.isWordPart character = true := by
  cases letters with
  | nil =>
      simp [isWord]
  | cons first later =>
      simp only [isWord, Bool.and_eq_true, List.all_eq_true,
        List.cons.injEq]
      constructor
      · intro classes
        exact ⟨first, later, ⟨rfl, rfl⟩, classes⟩
      · rintro ⟨_, _, ⟨rfl, rfl⟩, classes⟩
        exact classes

/-- A number has at least one character, and all of them are digits. -/
theorem isDigits_iff {digits : List Char} :
    Text.Decimal.isDigits digits = true ↔
      ∃ first later, digits = first :: later ∧
        first.isDigit = true ∧
        ∀ character ∈ later, character.isDigit = true := by
  cases digits with
  | nil =>
      simp [Text.Decimal.isDigits]
  | cons first later =>
      simp only [Text.Decimal.isDigits, bne_iff_ne, ne_eq, reduceCtorEq,
        not_false_eq_true, Bool.and_eq_true, List.all_cons,
        List.all_eq_true, true_and, List.cons.injEq]
      constructor
      · intro classes
        exact ⟨first, later, ⟨rfl, rfl⟩, classes⟩
      · rintro ⟨_, _, ⟨rfl, rfl⟩, classes⟩
        exact classes

/-- All characters of a word belong to words, the first included. -/
theorem isWordPart_of_isWord
    {letters : List Char}
    (word : dialect.isWord letters = true) :
    ∀ character ∈ letters, dialect.isWordPart character = true := by
  obtain ⟨first, later, rfl, begins, inLater⟩ := isWord_iff.mp word
  intro character member
  rcases List.mem_cons.mp member with rfl | among
  · exact isWordPart_of_isWordStart dialect begins
  · exact inLater character among

/-- What a mark, a word or a number begins with is no stray. -/
theorem isStray_of_head?
    {lexeme : Lexeme}
    {character : Char}
    (spells : dialect.Spells lexeme)
    (first : lexeme.spelling.head? = some character) :
    isStray character = false := by
  cases lexeme with
  | mark sign =>
      obtain ⟨short, found⟩ := Mark.exists_ofChar?_of_head? first
      simp [isStray, found]
  | word letters =>
      obtain ⟨begin, later, rfl, begins, -⟩ := isWord_iff.mp spells
      obtain rfl : begin = character := by
        simpa [Lexeme.spelling] using first
      simp [isStray, begins]
  | number digits =>
      obtain ⟨begin, later, rfl, digit, -⟩ := isDigits_iff.mp spells
      obtain rfl : begin = character := by
        simpa [Lexeme.spelling] using first
      simp [isStray, digit]
  | stray other =>
      exact spells.elim

/-- The strays of a dialect do not depend on it: they are the characters of no class. -/
theorem admits_stray_iff {character : Char} :
    dialect.Admits (.stray character) ↔ isStray character = true := by
  constructor
  · rintro ⟨solid, begun⟩
    have noMark : Mark.ofChar? character = none := by
      cases found : Mark.ofChar? character with
      | none =>
          rfl
      | some sign =>
          refine (begun (.mark sign) trivial ?_).elim
          simp [Lexeme.spelling, Mark.spelling_of_ofChar? found]
    have noLetter : isWordStart character = false := by
      apply Bool.eq_false_iff.mpr
      intro begins
      refine begun (.word [character]) ?_ rfl
      simp [Spells, isWord, begins]
    have noDigit : character.isDigit = false := by
      apply Bool.eq_false_iff.mpr
      intro digit
      refine begun (.number [character]) ?_ rfl
      simp [Spells, Text.Decimal.isDigits, digit]
    simp [isStray, solid, noMark, noLetter, noDigit]
  · intro stray
    refine ⟨by simp_all [isStray], ?_⟩
    intro lexeme spells first
    simp [isStray_of_head? spells first] at stray

/-- No lexeme is empty. -/
theorem spelling_ne_nil_of_admits
    {lexeme : Lexeme}
    (admitted : dialect.Admits lexeme) :
    lexeme.spelling ≠ [] := by
  cases lexeme with
  | mark sign =>
      exact sign.spelling_ne_nil
  | word letters =>
      obtain ⟨first, later, rfl, -⟩ := isWord_iff.mp admitted
      simp [Lexeme.spelling]
  | number digits =>
      obtain ⟨first, later, rfl, -⟩ := isDigits_iff.mp admitted
      simp [Lexeme.spelling]
  | stray character =>
      simp [Lexeme.spelling]

theorem isSpacing_of_admits
    {lexeme : Lexeme}
    (admitted : dialect.Admits lexeme) :
    ∀ character ∈ lexeme.spelling, isSpacing character = false := by
  intro character member
  apply Bool.eq_false_iff.mpr
  intro spacing
  have classes := classes_of_isSpacing spacing
  cases lexeme with
  | mark sign =>
      obtain ⟨short, found⟩ | equal := sign.mem_spelling member
      · simp [classes] at found
      · exact classes.2.2.2.2 equal
  | word letters =>
      obtain ⟨first, later, rfl, begins, inside⟩ :=
        isWord_iff.mp admitted
      rcases List.mem_cons.mp member with rfl | inLater
      · simp [classes] at begins
      · have continued := inside character inLater
        simp [isWordPart, classes] at continued
  | number digits =>
      obtain ⟨first, later, rfl, digit, inside⟩ :=
        isDigits_iff.mp admitted
      rcases List.mem_cons.mp member with rfl | inLater
      · simp [classes] at digit
      · have continued := inside character inLater
        simp [classes] at continued
  | stray other =>
      obtain rfl : character = other := by
        simpa [Lexeme.spelling] using member
      simp [admitted.1] at spacing

/-- Spacing continues no lexeme. -/
theorem continues_of_isSpacing
    (lexeme : Lexeme)
    {character : Char}
    (spacing : isSpacing character = true) :
    dialect.continues lexeme character = false := by
  have classes := classes_of_isSpacing spacing
  cases lexeme <;> simp [continues, isWordPart, classes]

/-! ## One lexeme, by the class of its first character -/

/-- An operator and the equals sign behind it are read together. -/
theorem lexemeAt_of_joined?
    {head : Char}
    {joined : Mark}
    (joins : Mark.joined? head = some joined)
    (after : List Char) :
    dialect.lexemeAt head ('=' :: after) = (.mark joined, after) := by
  simp [lexemeAt, joins]

/-- An operator or delimiter is read alone unless the rest continues it. -/
theorem lexemeAt_of_ofChar?
    {head : Char}
    {sign : Mark}
    {rest : List Char}
    (found : Mark.ofChar? head = some sign)
    (ends : dialect.EndsBefore (.mark sign) rest) :
    dialect.lexemeAt head rest = (.mark sign, rest) := by
  unfold lexemeAt
  split
  · rename_i joined after joins
    have closed := ends '=' rfl
    simp [continues, Mark.isOpen_of_ofChar? found, joins] at closed
  · simp [found]

/-- A letter is read with all word characters behind it. -/
theorem lexemeAt_of_isWordStart
    {head : Char}
    (begins : isWordStart head = true)
    (rest : List Char) :
    dialect.lexemeAt head rest =
      (.word (head :: rest.takeWhile dialect.isWordPart),
        rest.dropWhile dialect.isWordPart) := by
  have missing := (classes_of_begins (.inl begins)).1
  simp [lexemeAt, Mark.joined?_eq_none missing, missing, begins]

/-- A digit is read with all digits behind it. -/
theorem lexemeAt_of_isDigit
    {head : Char}
    (digit : head.isDigit = true)
    (rest : List Char) :
    dialect.lexemeAt head rest =
      (.number (head :: rest.takeWhile Char.isDigit),
        rest.dropWhile Char.isDigit) := by
  have missing := (classes_of_begins (.inr digit)).1
  have noLetter := isWordStart_of_isDigit digit
  simp [lexemeAt, Mark.joined?_eq_none missing, missing, noLetter, digit]

/-- A stray character is read alone. -/
theorem lexemeAt_of_isStray
    {head : Char}
    (stray : isStray head = true)
    (rest : List Char) :
    dialect.lexemeAt head rest = (.stray head, rest) := by
  simp only [isStray, Bool.and_eq_true, Bool.not_eq_true',
    Option.isNone_iff_eq_none] at stray
  obtain ⟨⟨⟨-, missing⟩, noLetter⟩, noDigit⟩ := stray
  simp [lexemeAt, Mark.joined?_eq_none missing, missing, noLetter, noDigit]

/-! ## The characterization -/

/-- A run ends in front of a character that does not belong to it. -/
theorem class_of_head?_dropWhile
    {holds : Char → Bool}
    {rest : List Char} :
    ∀ character ∈ (rest.dropWhile holds).head?, holds character = false := by
  intro character first
  have stopped := List.head?_dropWhile_not holds rest
  rw [Option.mem_def.mp first] at stopped
  simpa using stopped

/-- A mark that is not joined to an equals sign behind it ends there. -/
theorem endsBefore_of_ofChar?
    {head : Char}
    {sign : Mark}
    {rest : List Char}
    (found : Mark.ofChar? head = some sign)
    (apart : Mark.joined? head = none ∨ rest.head? ≠ some '=') :
    dialect.EndsBefore (.mark sign) rest := by
  intro character first
  rcases apart with unjoined | different
  · simp [continues, Mark.isOpen_of_ofChar? found, unjoined]
  · have noEqual : character ≠ '=' := by
      rintro rfl
      exact different first
    simp [continues, noEqual]

/-- What is read is a lexeme of the dialect, and it is read to its end. -/
theorem admits_lexemeAt
    {head : Char}
    (solid : isSpacing head = false)
    (rest : List Char) :
    dialect.Admits (dialect.lexemeAt head rest).1 ∧
      dialect.EndsBefore (dialect.lexemeAt head rest).1
        (dialect.lexemeAt head rest).2 := by
  cases found : Mark.ofChar? head with
  | some sign =>
      cases joins : Mark.joined? head with
      | none =>
          have ends : dialect.EndsBefore (.mark sign) rest :=
            endsBefore_of_ofChar? found (.inl joins)
          rw [lexemeAt_of_ofChar? found ends]
          exact ⟨trivial, ends⟩
      | some joined =>
          by_cases equal : rest.head? = some '='
          · obtain ⟨after, rfl⟩ := List.head?_eq_some_iff.mp equal
            rw [lexemeAt_of_joined? joins]
            refine ⟨trivial, ?_⟩
            intro character _
            simp [continues, Mark.isOpen_of_joined? joins]
          · have ends : dialect.EndsBefore (.mark sign) rest :=
              endsBefore_of_ofChar? found (.inr equal)
            rw [lexemeAt_of_ofChar? found ends]
            exact ⟨trivial, ends⟩
  | none =>
      by_cases begins : isWordStart head = true
      · rw [lexemeAt_of_isWordStart begins]
        refine ⟨isWord_iff.mpr ⟨_, _, rfl, begins, ?_⟩,
          class_of_head?_dropWhile⟩
        exact List.all_eq_true.mp List.all_takeWhile
      by_cases digit : head.isDigit = true
      · rw [lexemeAt_of_isDigit digit]
        refine ⟨isDigits_iff.mpr ⟨_, _, rfl, digit, ?_⟩,
          class_of_head?_dropWhile⟩
        exact List.all_eq_true.mp List.all_takeWhile
      have stray : isStray head = true := by
        simp [isStray, solid, found, begins, digit]
      rw [lexemeAt_of_isStray stray]
      refine ⟨admits_stray_iff.mpr stray, ?_⟩
      intro character _
      rfl

/-- A run of a class that ends before a text is taken whole from in front of it. -/
theorem takeWhile_dropWhile_of_class
    {holds : Char → Bool}
    {run rest : List Char}
    (inside : ∀ character ∈ run, holds character = true)
    (outside : ∀ character ∈ rest.head?, holds character = false) :
    (run ++ rest).takeWhile holds = run ∧
      (run ++ rest).dropWhile holds = rest := by
  rw [List.takeWhile_append_of_pos inside,
    List.dropWhile_append_of_pos inside]
  cases rest with
  | nil =>
      simp
  | cons first later =>
      simp [outside first rfl]

/-- A lexeme of the dialect that ends before a text is read off in front of it. -/
theorem lexemeAt_eq
    {lexeme : Lexeme}
    {head : Char}
    {tail rest : List Char}
    (admitted : dialect.Admits lexeme)
    (ends : dialect.EndsBefore lexeme rest)
    (shape : lexeme.spelling ++ rest = head :: tail) :
    dialect.lexemeAt head tail = (lexeme, rest) := by
  cases lexeme with
  | mark sign =>
      rcases sign.spelling_cases with
          ⟨character, spelled, found⟩ | ⟨character, spelled, joins⟩
      · simp only [Lexeme.spelling, spelled, List.cons_append,
          List.nil_append, List.cons.injEq] at shape
        obtain ⟨rfl, rfl⟩ := shape
        exact lexemeAt_of_ofChar? found ends
      · simp only [Lexeme.spelling, spelled, List.cons_append,
          List.nil_append, List.cons.injEq] at shape
        obtain ⟨rfl, rfl⟩ := shape
        exact lexemeAt_of_joined? joins rest
  | word letters =>
      obtain ⟨begin, later, rfl, begins, inside⟩ :=
        isWord_iff.mp admitted
      simp only [Lexeme.spelling, List.cons_append,
        List.cons.injEq] at shape
      obtain ⟨rfl, rfl⟩ := shape
      obtain ⟨taken, dropped⟩ :=
        takeWhile_dropWhile_of_class inside ends
      rw [lexemeAt_of_isWordStart begins, taken, dropped]
  | number digits =>
      obtain ⟨begin, later, rfl, digit, inside⟩ :=
        isDigits_iff.mp admitted
      simp only [Lexeme.spelling, List.cons_append,
        List.cons.injEq] at shape
      obtain ⟨rfl, rfl⟩ := shape
      obtain ⟨taken, dropped⟩ :=
        takeWhile_dropWhile_of_class inside ends
      rw [lexemeAt_of_isDigit digit, taken, dropped]
  | stray character =>
      simp only [Lexeme.spelling, List.cons_append, List.nil_append,
        List.cons.injEq] at shape
      obtain ⟨rfl, rfl⟩ := shape
      exact lexemeAt_of_isStray (admits_stray_iff.mp admitted) rest

end Dialect

end MonkeyTokens
