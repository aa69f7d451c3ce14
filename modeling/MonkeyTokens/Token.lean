import MonkeyTokens.Text.Quoted

namespace MonkeyTokens

/-!
# Tokens

A token of the Monkey language is a mark with one fixed spelling, a reserved
word, a name, a number, a character that belongs to no token, or the end of the
text.  Every kind has a name, by which records of tokens refer to it, and a
label, which stands at the start of its line in a listing.

A token pairs a kind with the text that it was read from.  It is shown in two
forms: as a line of a listing and as a record with named fields.
-/

/-- An operator or delimiter, written in exactly one way. -/
inductive Mark where
  | assign
  | plus
  | minus
  | bang
  | asterisk
  | slash
  | lessThan
  | greaterThan
  | equal
  | notEqual
  | comma
  | semicolon
  | leftParen
  | rightParen
  | leftBrace
  | rightBrace
  deriving Repr, DecidableEq

namespace Mark

/-- The characters that write a mark. -/
def spelling : Mark → List Char
  | .assign => ['=']
  | .plus => ['+']
  | .minus => ['-']
  | .bang => ['!']
  | .asterisk => ['*']
  | .slash => ['/']
  | .lessThan => ['<']
  | .greaterThan => ['>']
  | .equal => ['=', '=']
  | .notEqual => ['!', '=']
  | .comma => [',']
  | .semicolon => [';']
  | .leftParen => ['(']
  | .rightParen => [')']
  | .leftBrace => ['{']
  | .rightBrace => ['}']

/-- The name of a mark. -/
def name : Mark → String
  | .assign => "Assign"
  | .plus => "Plus"
  | .minus => "Minus"
  | .bang => "Bang"
  | .asterisk => "Asterisk"
  | .slash => "Slash"
  | .lessThan => "LessThan"
  | .greaterThan => "GreaterThan"
  | .equal => "Equal"
  | .notEqual => "NotEqual"
  | .comma => "Comma"
  | .semicolon => "Semicolon"
  | .leftParen => "LParen"
  | .rightParen => "RParen"
  | .leftBrace => "LBrace"
  | .rightBrace => "RBrace"

/-- All marks: operators first, delimiters after them. -/
def all : List Mark :=
  [.assign, .plus, .minus, .bang, .asterisk, .slash, .lessThan, .greaterThan,
    .equal, .notEqual, .comma, .semicolon, .leftParen, .rightParen, .leftBrace,
    .rightBrace]

/-- The mark that a single character writes when nothing joins it. -/
def ofChar? : Char → Option Mark
  | '=' => some .assign
  | '+' => some .plus
  | '-' => some .minus
  | '!' => some .bang
  | '*' => some .asterisk
  | '/' => some .slash
  | '<' => some .lessThan
  | '>' => some .greaterThan
  | ',' => some .comma
  | ';' => some .semicolon
  | '(' => some .leftParen
  | ')' => some .rightParen
  | '{' => some .leftBrace
  | '}' => some .rightBrace
  | _ => none

/-- The mark that an equals sign forms with the character before it. -/
def joined? : Char → Option Mark
  | '=' => some .equal
  | '!' => some .notEqual
  | _ => none

/-- Every mark is listed. -/
theorem mem_all (mark : Mark) : mark ∈ all := by
  cases mark <;> decide

/-- No mark is written with nothing. -/
theorem spelling_ne_nil (mark : Mark) : mark.spelling ≠ [] := by
  cases mark <;> decide

/-- A mark found by its character is spelled with that character alone. -/
theorem spelling_of_ofChar?
    {character : Char}
    {mark : Mark}
    (found : ofChar? character = some mark) :
    mark.spelling = [character] := by
  unfold ofChar? at found
  split at found <;> simp_all <;> subst found <;> rfl

/-- A joined mark is spelled with its first character and an equals sign. -/
theorem spelling_of_joined?
    {character : Char}
    {mark : Mark}
    (joins : joined? character = some mark) :
    mark.spelling = [character, '='] := by
  unfold joined? at joins
  split at joins <;> simp_all <;> subst joins <;> rfl

end Mark

/-- A word that names a construct of the language and cannot name anything else. -/
inductive Keyword where
  | functionWord
  | letWord
  | trueWord
  | falseWord
  | ifWord
  | elseWord
  | returnWord
  deriving Repr, DecidableEq

namespace Keyword

/-- The word itself, as it stands in a text. -/
def spelling : Keyword → String
  | .functionWord => "fn"
  | .letWord => "let"
  | .trueWord => "true"
  | .falseWord => "false"
  | .ifWord => "if"
  | .elseWord => "else"
  | .returnWord => "return"

/-- The name of a reserved word. -/
def name : Keyword → String
  | .functionWord => "Function"
  | .letWord => "Let"
  | .trueWord => "True"
  | .falseWord => "False"
  | .ifWord => "If"
  | .elseWord => "Else"
  | .returnWord => "Return"

/-- The label of a reserved word in a listing. -/
def label : Keyword → String
  | .functionWord => "FUNCTION"
  | .letWord => "LET"
  | .trueWord => "TRUE"
  | .falseWord => "FALSE"
  | .ifWord => "IF"
  | .elseWord => "ELSE"
  | .returnWord => "RETURN"

/-- All reserved words. -/
def all : List Keyword :=
  [.functionWord, .letWord, .trueWord, .falseWord, .ifWord, .elseWord,
    .returnWord]

/-- The reserved word with a given spelling; letter case counts. -/
def ofSpelling? (word : String) : Option Keyword :=
  all.find? fun keyword => keyword.spelling == word

/-- Every reserved word is listed. -/
theorem mem_all (keyword : Keyword) : keyword ∈ all := by
  cases keyword <;> decide

end Keyword

/-- What a token is. -/
inductive Kind where
  | illegal
  | endOfInput
  | identifier
  | integer
  | mark : Mark → Kind
  | keyword : Keyword → Kind
  deriving Repr, DecidableEq

namespace Kind

/-- All kinds, in the order in which they are numbered. -/
def all : List Kind :=
  [.illegal, .endOfInput, .identifier, .integer] ++
    Mark.all.map .mark ++ Keyword.all.map .keyword

/-- The name of a kind. -/
def name : Kind → String
  | .illegal => "Illegal"
  | .endOfInput => "EndOfInput"
  | .identifier => "Identifier"
  | .integer => "IntegerLiteral"
  | .mark sign => sign.name
  | .keyword word => word.name

/-- The kind with a given name. -/
def ofName? (name : String) : Option Kind :=
  all.find? fun kind => kind.name == name

/-- The label of a kind in a listing; a mark is labelled with its spelling. -/
def label : Kind → String
  | .illegal => "ILLEGAL"
  | .endOfInput => "EOF"
  | .identifier => "IDENT"
  | .integer => "INT"
  | .mark sign => String.ofList sign.spelling
  | .keyword word => word.label

/-- Reserved words are keywords, and nothing else is. -/
def isKeyword : Kind → Bool
  | .keyword _ => true
  | _ => false

/-- A word is a reserved word if it is spelled like one, else an identifier. -/
def ofWord (word : String) : Kind :=
  match Keyword.ofSpelling? word with
  | some reserved => .keyword reserved
  | none => .identifier

/-- Every kind is listed. -/
theorem mem_all (kind : Kind) : kind ∈ all := by
  cases kind with
  | mark sign =>
      simp [all, Mark.mem_all]
  | keyword word =>
      simp [all, Keyword.mem_all]
  | _ =>
      simp [all]

end Kind

/-- A kind and the text of the token; an illegal character leaves the text empty. -/
structure Token where
  kind : Kind
  literal : String
  deriving Repr, DecidableEq

namespace Token

/-- The token that closes every text. -/
def endOfInput : Token :=
  { kind := .endOfInput, literal := "" }

/-- Only the closing token is of the end kind. -/
def isEnd (token : Token) : Bool :=
  token.kind == .endOfInput

/-- The label of the kind, a blank and the quoted text, for some choice of unprintable characters. -/
def displayWith
    (unprintable : Char → Bool)
    (token : Token) :
    String :=
  token.kind.label ++ " " ++ Text.Quoted.string unprintable token.literal

/-- The token as a record, for some choice of unprintable characters. -/
def debugWith
    (unprintable : Char → Bool)
    (token : Token) :
    String :=
  "Token \x7b kind: " ++ token.kind.name ++ ", literal: " ++
    Text.Quoted.string unprintable token.literal ++ " \x7d"

/-- The token as a line shows it. -/
def display (token : Token) : String :=
  token.displayWith Text.Unprintable.holds

/-- The token as a record. -/
def debug (token : Token) : String :=
  token.debugWith Text.Unprintable.holds

end Token

end MonkeyTokens
