import MonkeyTokens.Lexeme
import MonkeyTokens.Reading

namespace MonkeyTokens

/-!
# Scanning by index

A scanner keeps its whole text and moves an index over it.  It holds the character
under the index, and a NUL stands for one where there is none, so only the index tells
whether a NUL belongs to the text.  Nothing keeps the index from moving past the end
but the conditions under which a scan reads on.

Characters are looked up and slices are cut with a check: an access outside the text
is a breach and ends the scan.  Reading on over a run of characters ends in every
state, for no index comes back.  Reading token after token need not, so these loops are
followed for a number of rounds and give nothing if they go on for longer.
-/

/-- An index over a text, with the start of the token read last. -/
structure Scanner where
  characters : List Char
  position : Nat
  readPosition : Nat
  current : Char
  start : Nat
  dialect : Dialect
  finished : Bool
  deriving Repr, DecidableEq

namespace Scanner

/-- What a scanner holds in place of a character when there is none. -/
def nothing : Char :=
  '\x00'

/-- The scanner before it has read the first character of its text. -/
def ofText
    (dialect : Dialect)
    (text : String) :
    Scanner where
  characters := text.toList
  position := 0
  readPosition := 0
  current := nothing
  start := 0
  dialect := dialect
  finished := false

/-- No character is left under the index. -/
def atEnd (scanner : Scanner) : Bool :=
  scanner.position ≥ scanner.characters.length

/-- Let a token start at the index, or at the end of the text if the index is past it. -/
def marked (scanner : Scanner) : Scanner :=
  { scanner with
    start := min scanner.position scanner.characters.length }

/-- Note that the closing token has been given. -/
def closed (scanner : Scanner) : Scanner :=
  { scanner with finished := true }

/-- The scanner behind the character to be read next, whether there is one or not. -/
def stepped (scanner : Scanner) : Scanner :=
  { scanner with
    current :=
      scanner.characters[scanner.readPosition]?.getD nothing
    position := scanner.readPosition
    readPosition := scanner.readPosition + 1 }

/-- A bound on the steps that a scanner takes until it is at the end of its text. -/
def stepsLeft (scanner : Scanner) : Nat :=
  (scanner.characters.length - scanner.readPosition) +
    if scanner.atEnd then 0 else 1

/-- A step of a scanner that is not at the end brings it closer. -/
theorem stepsLeft_stepped_lt
    {scanner : Scanner}
    (unended : scanner.atEnd = false) :
    scanner.stepped.stepsLeft < scanner.stepsLeft := by
  simp only [atEnd, ge_iff_le, decide_eq_false_iff_not, Nat.not_le] at unended
  simp only [stepsLeft, stepped, atEnd, ge_iff_le, decide_eq_true_eq]
  split <;> split <;> omega

end Scanner

/-- An access outside the text. -/
inductive Breach where
  | index (index length : Nat)
  | slice (start stop length : Nat)
  deriving Repr, DecidableEq

/--
A scanner on its way.  The trail records the scanner as it was each time that it read
on; no scan looks at it.
-/
structure Walk where
  scanner : Scanner
  trail : List Scanner
  deriving Repr, DecidableEq

namespace Walk

/-- A walk that has not begun. -/
def ofText
    (dialect : Dialect)
    (text : String) :
    Walk where
  scanner := .ofText dialect text
  trail := []

/-- The walk after one more step. -/
def stepped (walk : Walk) : Walk where
  scanner := walk.scanner.stepped
  trail := walk.trail ++ [walk.scanner]

end Walk

/-- A computation that moves a scanner and may end in a breach. -/
abbrev Scan := StateT Walk (Except Breach)

/-- What is still to be read of a token that has been classified. -/
inductive Consumed where
  | fixed (width : Nat)
  | scanned
  | nothing
  deriving Repr, DecidableEq

namespace Scan

/-- A scan ends with a value and a walk, and without a breach. -/
def Runs
    {α : Type}
    (scan : Scan α)
    (before : Walk)
    (value : α)
    (after : Walk) :
    Prop :=
  scan.run before = .ok (value, after)

/-- Giving a value leaves the walk as it is. -/
theorem Runs.pure
    {α : Type}
    (value : α)
    (walk : Walk) :
    Runs (Pure.pure value) walk value walk :=
  rfl

/-- Scans run one behind the other. -/
theorem Runs.bind
    {α β : Type}
    {scan : Scan α}
    {next : α → Scan β}
    {before between after : Walk}
    {value : α}
    {result : β}
    (runs : scan.Runs before value between)
    (runsOn : (next value).Runs between result after) :
    (scan >>= next).Runs before result after := by
  unfold Runs at runs ⊢
  rw [StateT.run_bind, runs]
  exact runsOn

/-- The scanner as it is. -/
def scanner : Scan Scanner := do
  return (← get).scanner

theorem scanner_runs (walk : Walk) :
    scanner.Runs walk walk.scanner walk :=
  rfl

/-- Change the scanner without reading on. -/
def update (change : Scanner → Scanner) : Scan Unit :=
  modify fun walk => { walk with scanner := change walk.scanner }

theorem update_runs
    (change : Scanner → Scanner)
    (walk : Walk) :
    (update change).Runs walk ()
      { walk with scanner := change walk.scanner } :=
  rfl

/-- The character at an index of the text. -/
def characterAt (index : Nat) : Scan Char := do
  let characters := (← scanner).characters
  match characters[index]? with
  | some character => return character
  | none => throw (.index index characters.length)

/-- A character that the source holds is looked up without a breach. -/
theorem characterAt_runs
    {walk : Walk}
    {index : Nat}
    {character : Char}
    (found : walk.scanner.characters[index]? = some character) :
    (characterAt index).Runs walk character walk := by
  refine (scanner_runs walk).bind ?_
  simp only [found]
  exact .pure character walk

/-- The characters of the text from one index up to another. -/
def slice (start stop : Nat) : Scan (List Char) := do
  let characters := (← scanner).characters
  if start ≤ stop ∧ stop ≤ characters.length then
    return (characters.drop start).take (stop - start)
  else
    throw (.slice start stop characters.length)

/-- A slice within the source is taken without a breach. -/
theorem slice_runs
    {walk : Walk}
    {start stop : Nat}
    (ordered : start ≤ stop)
    (within : stop ≤ walk.scanner.characters.length) :
    (slice start stop).Runs walk
      ((walk.scanner.characters.drop start).take (stop - start)) walk := by
  refine (scanner_runs walk).bind ?_
  rw [if_pos ⟨ordered, within⟩]
  exact .pure _ walk

/-- The character behind the one under the index. -/
def peekChar : Scan Char := do
  let scanner ← scanner
  if scanner.readPosition ≥ scanner.characters.length then
    return Scanner.nothing
  else
    characterAt scanner.readPosition

/-- Looking ahead is no breach in any state, for the index is compared with the length first. -/
theorem peekChar_runs (walk : Walk) :
    peekChar.Runs walk
      (walk.scanner.characters[walk.scanner.readPosition]?.getD
        Scanner.nothing)
      walk := by
  refine (scanner_runs walk).bind ?_
  split
  · rename_i past
    rw [List.getElem?_eq_none past]
    exact .pure _ walk
  · rename_i within
    have found := List.getElem?_eq_getElem (Nat.lt_of_not_le within)
    rw [found]
    exact characterAt_runs found

/-- Read on to the next character, wherever the index stands. -/
def readChar : Scan Unit := do
  let character ← peekChar
  modify fun walk =>
    { scanner :=
        { walk.scanner with
          current := character
          position := walk.scanner.readPosition
          readPosition := walk.scanner.readPosition + 1 }
      trail := walk.trail ++ [walk.scanner] }

/-- Reading a character steps on, whatever is there. -/
theorem readChar_runs (walk : Walk) :
    readChar.Runs walk () walk.stepped :=
  (peekChar_runs walk).bind rfl

/-- Read on a number of times. -/
def readChars : Nat → Scan Unit
  | 0 => return
  | count + 1 => do
      readChar
      readChars count

/-- Read on for as long as the text has not ended and its characters are of a class. -/
def readWhile (holds : Char → Bool) : Scan Unit := fun walk =>
  if !walk.scanner.atEnd && holds walk.scanner.current then
    match _ : readChar.run walk with
    | .error breach => .error breach
    | .ok ((), next) => readWhile holds next
  else
    .ok ((), walk)
termination_by walk => walk.scanner.stepsLeft
decreasing_by
  rename_i going stepped
  cases (readChar_runs _).symm.trans stepped
  simp only [Bool.and_eq_true, Bool.not_eq_true'] at going
  exact Scanner.stepsLeft_stepped_lt going.1

/-- Read a run of a class of characters. -/
def readRun (holds : Char → Bool) : Scan (List Char) := do
  let start := (← scanner).position
  readWhile holds
  slice start (← scanner).position

/-- Classify the character under the index, and read its whole run where it begins one. -/
def classify : Scan (Token × Consumed) := do
  let scanner ← scanner
  let current := scanner.current
  match Mark.ofChar? current, Mark.joined? current with
  | some sign, some joined =>
      if (← peekChar) == '=' then
        return ((Lexeme.mark joined).token, .fixed 2)
      else
        return ((Lexeme.mark sign).token, .fixed 1)
  | some sign, none =>
      return ((Lexeme.mark sign).token, .fixed 1)
  | none, _ =>
      if current == Scanner.nothing && scanner.atEnd then
        return (.endOfInput, .nothing)
      else if scanner.dialect.isWordPart current then
        let letters ← readRun scanner.dialect.isWordPart
        return ((Lexeme.word letters).token, .scanned)
      else if current.isDigit then
        let digits ← readRun Char.isDigit
        return ((Lexeme.number digits).token, .scanned)
      else
        return ((Lexeme.stray current).token, .fixed 1)

/-- Read what has been classified to its end. -/
def consume : Consumed → Scan Unit
  | .fixed width => readChars width
  | .scanned => return
  | .nothing => return

/-- The next token; at the end of the text it is the closing token, however often it is read. -/
def nextToken : Scan Token := do
  readWhile isSpacing
  update Scanner.marked
  let (token, consumed) ← classify
  consume consumed
  return token

/-- The next token up to the first closing token, and nothing from there on. -/
def next? : Scan (Option Token) := do
  if (← scanner).finished then
    return none
  else
    let token ← nextToken
    if token.isEnd then
      update Scanner.closed
    return some token

/-- Set the index on the first character of the text; the trail begins behind it. -/
def begin : Scan Unit := do
  readChar
  modify fun walk => { walk with trail := [] }

/-- All tokens of `nextToken` through the first closing token, behind those read before. -/
def drain : Nat → List Placed → Scan (Option (List Placed))
  | 0, _ => return none
  | rounds + 1, earlier => do
      let token ← nextToken
      let tokens := earlier ++ [{ offset := (← scanner).start, token }]
      if token.isEnd then
        return some tokens
      else
        drain rounds tokens

/-- All tokens that `next?` still gives, behind those read before. -/
def collect : Nat → List Token → Scan (Option (List Token))
  | 0, _ => return none
  | rounds + 1, earlier => do
      match ← next? with
      | none => return some earlier
      | some token => collect rounds (earlier ++ [token])

/--
Read as `drain` does, behind the tokens read before, but stop at the first illegal
token; its character is looked up in the text.
-/
def strictly :
    Nat → List Token → Scan (Option (Except IllegalCharacter (List Token)))
  | 0, _ => return none
  | rounds + 1, earlier => do
      let token ← nextToken
      if token.kind == .illegal then
        let scanner ← scanner
        let character ← characterAt scanner.start
        return some
          (.error
            (.within scanner.characters scanner.start character))
      else if token.isEnd then
        return some (.ok (earlier ++ [token]))
      else
        strictly rounds (earlier ++ [token])

end Scan

end MonkeyTokens
