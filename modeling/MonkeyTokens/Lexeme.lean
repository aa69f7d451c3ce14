import MonkeyTokens.Token

namespace MonkeyTokens

/-!
# Lexemes

Three classes of characters decide where a token ends: spacing separates tokens
and belongs to none, letters make words and digits make numbers.  All of them
are ASCII characters.  A dialect settles whether a dash may continue a word; a
dash never begins one.

A lexeme is a stretch of a text that makes one token: a mark, a word, a number,
or a single character that fits nowhere.  Reading takes the longest lexeme at
the head of a text.  It keeps every character: the spelling of the lexeme
followed by what is left over is the text again, and a spelling is never empty.
-/

/-- Spacing between tokens: blank, tab, line feed, vertical tab, form feed and carriage return. -/
def isSpacing (character : Char) : Bool :=
  character == ' ' || character == '\t' || character == '\n' ||
    character == '\x0b' || character == '\x0c' || character == '\r'

/-- A word begins with an ASCII letter or an underscore. -/
def isWordStart (character : Char) : Bool :=
  character.isAlpha || character == '_'

/-- The choice that the language leaves open. -/
structure Dialect where
  dashInWords : Bool := false
  deriving Repr, DecidableEq

namespace Dialect

/-- A word continues with whatever may begin it and, where the dialect says so, with a dash. -/
def isWordPart
    (dialect : Dialect)
    (character : Char) :
    Bool :=
  isWordStart character || (dialect.dashInWords && character == '-')

/-- Whatever begins a word may also continue it. -/
theorem isWordPart_of_isWordStart
    (dialect : Dialect)
    {character : Char}
    (begins : isWordStart character = true) :
    dialect.isWordPart character = true := by
  simp [isWordPart, begins]

end Dialect

/-- A stretch of text that makes one token. -/
inductive Lexeme where
  | mark : Mark → Lexeme
  | word : List Char → Lexeme
  | number : List Char → Lexeme
  | stray : Char → Lexeme
  deriving Repr, DecidableEq

namespace Lexeme

/-- The characters that a lexeme takes up in a text. -/
def spelling : Lexeme → List Char
  | .mark sign => sign.spelling
  | .word letters => letters
  | .number digits => digits
  | .stray character => [character]

/-- The kind of a lexeme; for a word it depends on the whole word. -/
def kind : Lexeme → Kind
  | .mark sign => .mark sign
  | .word letters => Kind.ofWord (String.ofList letters)
  | .number _ => .integer
  | .stray _ => .illegal

/-- The text that a lexeme leaves in its token: its spelling, unless it is a stray character. -/
def literal : Lexeme → String
  | .stray _ => ""
  | lexeme => String.ofList lexeme.spelling

/-- The token that a lexeme makes. -/
def token (lexeme : Lexeme) : Token :=
  { kind := lexeme.kind, literal := lexeme.literal }

end Lexeme

namespace Dialect

/--
The longest lexeme that begins with a character, and the text left over.  Marks
come before words, so a leading dash is a mark in every dialect.
-/
def lexemeAt
    (dialect : Dialect)
    (head : Char)
    (rest : List Char) :
    Lexeme × List Char :=
  match Mark.joined? head, rest with
  | some joined, '=' :: after =>
      (.mark joined, after)
  | _, _ =>
      match Mark.ofChar? head with
      | some sign =>
          (.mark sign, rest)
      | none =>
          if isWordStart head then
            (.word (head :: rest.takeWhile dialect.isWordPart),
              rest.dropWhile dialect.isWordPart)
          else if head.isDigit then
            (.number (head :: rest.takeWhile Char.isDigit),
              rest.dropWhile Char.isDigit)
          else
            (.stray head, rest)

/-- The lexeme and the text left over make up the text that was read. -/
theorem spelling_append_lexemeAt
    (dialect : Dialect)
    (head : Char)
    (rest : List Char) :
    (dialect.lexemeAt head rest).1.spelling ++
        (dialect.lexemeAt head rest).2 =
      head :: rest := by
  unfold lexemeAt
  split
  · rename_i joined after joins
    simp [Lexeme.spelling, Mark.spelling_of_joined? joins]
  · split
    · rename_i sign found
      simp [Lexeme.spelling, Mark.spelling_of_ofChar? found]
    · split
      · simp [Lexeme.spelling]
      · split <;> simp [Lexeme.spelling]

/-- A lexeme that was read takes up at least one character. -/
theorem spelling_lexemeAt_ne_nil
    (dialect : Dialect)
    (head : Char)
    (rest : List Char) :
    (dialect.lexemeAt head rest).1.spelling ≠ [] := by
  unfold lexemeAt
  split
  · exact Mark.spelling_ne_nil _
  · split
    · exact Mark.spelling_ne_nil _
    · split
      · simp [Lexeme.spelling]
      · split <;> simp [Lexeme.spelling]

/-- The text left over is shorter than the text that was read. -/
theorem length_lexemeAt_lt
    (dialect : Dialect)
    (head : Char)
    (rest : List Char) :
    (dialect.lexemeAt head rest).2.length < (head :: rest).length := by
  have total :=
    congrArg List.length (dialect.spelling_append_lexemeAt head rest)
  have positive :=
    List.length_pos_iff.mpr (dialect.spelling_lexemeAt_ne_nil head rest)
  rw [List.length_append] at total
  omega

end Dialect

end MonkeyTokens
