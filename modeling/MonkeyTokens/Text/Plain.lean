namespace MonkeyTokens.Text.Plain

/-!
# Text without terminal control

A text for a terminal holds control sequences, its own and those that a user
typed.  For a channel that is no terminal the sequences and the control
characters are left out.  Spacing is kept, also inside a sequence that has no
payload.

The characters that follow one that is shown are taken as plain text until one of
them is left out.  The sequence that was broken off then goes on, unless one of
the shown characters was not ASCII.
-/

/-- The part of a control sequence in which a text stands. -/
inductive Mode where
  | ground
  | escape
  | escapeIntermediate
  | control
  | device
  | deviceParameters
  | deviceIntermediate
  | command
  | payload
  deriving Repr, DecidableEq

/-- A character lies between two others, both included. -/
def between
    (first last character : Char) :
    Bool :=
  first ≤ character && character ≤ last

/-- A character is not ASCII. -/
def isWide (character : Char) : Bool :=
  '\x7f' < character

/-- Control characters that are spacing. -/
def isSpacingControl (character : Char) : Bool :=
  character == '\t' || character == '\n' || character == '\x0c' ||
    character == '\r'

/-- A character is shown in plain text. -/
def isShown (character : Char) : Bool :=
  between ' ' '~' character || isWide character || isSpacingControl character

/-- A character is one that ends a payload: a byte of it is the terminator of strings. -/
def holdsTerminator (character : Char) : Bool :=
  isWide character && (String.utf8EncodeChar character).contains 0x9C

namespace Mode

/-- A character is shown in a mode. -/
def shows
    (mode : Mode)
    (character : Char) :
    Bool :=
  match mode with
  | .ground => isShown character
  | .escape => isSpacingControl character
  | .escapeIntermediate => isSpacingControl character
  | .control => isSpacingControl character
  | _ => false

/-- The mode after the character that follows an escape. -/
def afterEscape (character : Char) : Mode :=
  if character = '[' then
    .control
  else if character = ']' then
    .command
  else if character = 'P' then
    .device
  else if character ∈ ['X', '^', '_'] then
    .payload
  else if between ' ' '/' character then
    .escapeIntermediate
  else if between '0' '~' character then
    .ground
  else
    .escape

/-- The mode after a character that is not shown and does not break a sequence off. -/
def within
    (mode : Mode)
    (character : Char) :
    Mode :=
  match mode with
  | .ground =>
      .ground
  | .escape =>
      afterEscape character
  | .escapeIntermediate =>
      if between '0' '~' character then .ground else mode
  | .control =>
      if between '@' '~' character then .ground else mode
  | .device =>
      if between ' ' '/' character then
        .deviceIntermediate
      else if between '0' '?' character then
        .deviceParameters
      else if between '@' '~' character then
        .payload
      else
        mode
  | .deviceParameters =>
      if between ' ' '/' character then
        .deviceIntermediate
      else if between '<' '~' character then
        .payload
      else
        mode
  | .deviceIntermediate =>
      if between '0' '~' character then .payload else mode
  | .command =>
      if character = '\x07' then .ground else mode
  | .payload =>
      if holdsTerminator character then .ground else mode

/-- The mode after a character that is not shown; an escape begins a new sequence anywhere. -/
def next
    (mode : Mode)
    (character : Char) :
    Mode :=
  if character = '\x1b' then
    .escape
  else if character = '\x18' ∨ character = '\x1a' then
    .ground
  else
    mode.within character

end Mode

/-- The characters of a text that are shown, from a mode on; `showing` says that the last one was. -/
def keep
    (mode : Mode)
    (showing : Bool) :
    List Char → List Char
  | [] =>
      []
  | character :: later =>
      if (if showing then isShown character else mode.shows character) then
        character ::
          keep (if isWide character then .ground else mode) true later
      else
        keep (mode.next character) false later

/-- A text without its control sequences and control characters. -/
def text (styled : String) : String :=
  String.ofList (keep .ground false styled.toList)

end MonkeyTokens.Text.Plain
