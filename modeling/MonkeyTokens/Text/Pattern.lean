import MonkeyTokens.Text.Alphanumeric
import MonkeyTokens.Text.Pattern.Escape
import MonkeyTokens.Text.Pattern.Nesting

namespace MonkeyTokens.Text.Pattern

/-!
# Patterns

A pattern is a regular expression.  Nothing is ever matched against one here, so
all that is asked of a text is whether it is a pattern.  The patterns come from
places where a closing brace would end them.  A brace can thus be opened only
where it stands for itself, and there are no counted repetitions.
-/

/-- How far a pattern has been read. -/
structure Progress where
  switches : Switches := {}
  sequence : Sequence := {}
  groups : List (Switches × Sequence) := []
  brackets : List Brackets := []
  names : List (List Char) := []
  deriving Repr, DecidableEq

/-- The names of classes that may be listed between colons in brackets. -/
def classNames : List String :=
  ["alnum", "alpha", "ascii", "blank", "cntrl", "digit", "graph", "lower",
    "print", "punct", "space", "upper", "word", "xdigit"]

/-- A class between colons, whether it is negated, and what follows it; the bracket has been read. -/
def listed? : List Char → Option (Atom × List Char)
  | ':' :: written =>
      let negated := written.head? = some '^'
      let named := if negated then written.tail else written
      match named.dropWhile (· != ':') with
      | ':' :: ']' :: rest =>
          if classNames.contains (String.ofList (named.takeWhile (· != ':'))) then
            some (.listed negated, rest)
          else
            none
      | _ =>
          none
  | _ =>
      none

/-- A group may have a name: a letter or an underscore, and then numbers, dots and brackets too. -/
def isName : List Char → Bool
  | [] =>
      false
  | first :: later =>
      (first == '_' || Alphanumeric.isLetter first) &&
        later.all fun character =>
          ['_', '.', '[', ']'].contains character ||
            Alphanumeric.holds character

/--
The character behind a dash, as far as it matters for the dash.  White space and
one number sign are passed over where they do not count, unless nothing follows.
-/
def behindDash
    (spaced : Bool)
    (text : List Char) :
    Option Char :=
  if spaced then
    let visible := text.dropWhile WhiteSpace.holds
    let later :=
      match visible with
      | '#' :: comment => comment.dropWhile WhiteSpace.holds
      | _ => visible
    later.head? <|> text.head?
  else
    text.head?

/-- An item of brackets, and what follows it. -/
def listedItem?
    (spaced : Bool)
    (first : Char)
    (rest : List Char) :
    Option (Atom × List Char) :=
  if first = '\\' then
    Escape.read? spaced rest
  else
    some (.character first false, rest)

namespace Progress

/-- Add an item to the group that is being read. -/
def push
    (progress : Progress)
    (item : Option Nat) :
    Progress :=
  { progress with sequence := progress.sequence.push item }

/-- Add an atom that the switches allow. -/
def atom?
    (progress : Progress)
    (atom : Atom) :
    Option Progress :=
  if progress.switches.allows atom then
    some (progress.push (some 0))
  else
    none

/-- Begin a group under some switches. -/
def enter
    (progress : Progress)
    (switches : Switches) :
    Progress :=
  { progress with
    switches
    sequence := {}
    groups := (progress.switches, progress.sequence) :: progress.groups }

/-- End a group, if there is one; the switches are again as they were before it. -/
def leave? (progress : Progress) : Option Progress :=
  match progress.groups with
  | [] =>
      none
  | (switches, outer) :: groups =>
      some
        { progress with
          switches
          sequence := outer.push (some (progress.sequence.depth + 1))
          groups }

/-- Begin a group with a name, which no other group may have. -/
def enterNamed?
    (progress : Progress)
    (written : List Char) :
    Option (Progress × List Char) :=
  let name := written.takeWhile (· != '>')
  match written.dropWhile (· != '>') with
  | _ :: rest =>
      if isName name ∧ name ∉ progress.names then
        some
          ({ progress.enter progress.switches with
              names := name :: progress.names },
            rest)
      else
        none
  | [] =>
      none

/-- Change the switches, for a new group before a colon and else for the rest of this one. -/
def switch?
    (progress : Progress)
    (written : List Char) :
    Option (Progress × List Char) := do
  let isLetter (character : Char) : Bool :=
    character != ':' && character != ')'
  let letters := written.takeWhile isLetter
  let switches ← progress.switches.change? letters
  match written.dropWhile isLetter with
  | ':' :: rest =>
      some (progress.enter switches, rest)
  | ')' :: rest =>
      if letters = [] then
        none
      else
        some (({ progress with switches } : Progress).push none, rest)
  | _ =>
      none

/-- Begin a group or change the switches; the bracket has been read. -/
def open?
    (progress : Progress)
    (written : List Char) :
    Option (Progress × List Char) :=
  match skip progress.switches.spaced written with
  | '?' :: 'P' :: '<' :: named => progress.enterNamed? named
  | '?' :: '<' :: named => progress.enterNamed? named
  | '?' :: letters => progress.switch? letters
  | rest => some (progress.enter progress.switches, rest)

/-- Begin brackets; without Unicode they may not be negated. -/
def openBrackets?
    (progress : Progress)
    (written : List Char) :
    Option (Progress × List Char) :=
  let opened := { progress with brackets := {} :: progress.brackets }
  match skip progress.switches.spaced written with
  | '^' :: rest =>
      if progress.switches.unicode then some (opened, rest) else none
  | rest =>
      some (opened, rest)

/-- Take the next item outside of brackets. -/
def item?
    (progress : Progress)
    (first : Char)
    (rest : List Char) :
    Option (Progress × List Char) :=
  match first with
  | '(' =>
      progress.open? rest
  | ')' =>
      progress.leave?.map fun left => (left, rest)
  | '|' =>
      some ({ progress with sequence := progress.sequence.branch }, rest)
  | '[' =>
      progress.openBrackets? rest
  | '\x7b' =>
      none
  | '\\' => do
      let (atom, later) ← Escape.read? progress.switches.spaced rest
      let taken ← progress.atom? atom
      some (taken, later)
  | '.' =>
      (progress.atom? .anything).map fun taken => (taken, rest)
  | '^' =>
      (progress.atom? (.bound false)).map fun taken => (taken, rest)
  | '$' =>
      (progress.atom? (.bound false)).map fun taken => (taken, rest)
  | _ =>
      if first ∈ ['?', '*', '+'] then do
        let sequence ← progress.sequence.repeat?
        some
          ({ progress with sequence },
            if rest.head? = some '?' then rest.tail else rest)
      else
        (progress.atom? (.character first false)).map fun taken => (taken, rest)

/-- Go on within brackets. -/
def within
    (progress : Progress)
    (brackets : Brackets)
    (outer : List Brackets) :
    Progress :=
  { progress with brackets := brackets :: outer }

/-- End brackets. -/
def closeBrackets
    (progress : Progress)
    (brackets : Brackets) :
    List Brackets → Progress
  | [] =>
      { progress with brackets := [] }.push (some brackets.depth)
  | parent :: outer =>
      progress.within (parent.push brackets.depth) outer

/-- Take one character or class between brackets, or a range of characters. -/
def range?
    (progress : Progress)
    (first : Char)
    (rest : List Char) :
    Option (List Char) := do
  let spaced := progress.switches.spaced
  let (lowest, afterLowest) ← listedItem? spaced first rest
  if !progress.switches.allowsListed lowest then
    none
  match skip spaced afterLowest with
  | [] =>
      none
  | '-' :: afterDash =>
      if behindDash spaced afterDash ∈ [some ']', some '-'] then
        some ('-' :: afterDash)
      else
        match skip spaced afterDash with
        | [] =>
            none
        | second :: more => do
            let (highest, later) ← listedItem? spaced second more
            if !progress.switches.allowsListed highest then
              none
            match lowest, highest with
            | .character low _, .character high _ =>
                if low ≤ high then some later else none
            | _, _ =>
                none
  | later =>
      some later

/-- Take the next item between brackets; at the beginning dashes and a bracket are plain. -/
def bracketItem?
    (progress : Progress)
    (brackets : Brackets)
    (outer : List Brackets)
    (first : Char)
    (rest : List Char) :
    Option (Progress × List Char) :=
  let begun := { brackets with starting := false }
  if brackets.starting && (first = '-' || (first = ']' && brackets.items = [])) then
    if progress.switches.allowsListed (.character first false) then
      let next := { brackets with starting := first = '-' }
      some (progress.within (next.push 0) outer, rest)
    else
      none
  else
    match first, rest with
    | '[', _ =>
        match listed? rest with
        | some (atom, later) =>
            if progress.switches.allowsListed atom then
              some (progress.within (begun.push 0) outer, later)
            else
              none
        | none =>
            (progress.within begun outer).openBrackets? rest
    | ']', _ =>
        some (progress.closeBrackets begun outer, rest)
    | '&', '&' :: later =>
        some (progress.within begun.operate outer, later)
    | '-', '-' :: later =>
        some (progress.within begun.operate outer, later)
    | '~', '~' :: later =>
        some (progress.within begun.operate outer, later)
    | _, _ =>
        (progress.range? first rest).map fun later =>
          (progress.within (begun.push 0) outer, later)

/-- Read the rest of a pattern; an item has a character at least, so there are no more steps than that. -/
def readAll?
    (steps : Nat)
    (progress : Progress)
    (text : List Char) :
    Option Progress :=
  match steps with
  | 0 =>
      some progress
  | steps + 1 =>
      match skip progress.switches.spaced text with
      | [] =>
          some progress
      | first :: rest => do
          let (next, later) ←
            match progress.brackets with
            | [] => progress.item? first rest
            | brackets :: outer => progress.bracketItem? brackets outer first rest
          readAll? steps next later

end Progress

/-- How deep a pattern may be nested. -/
def depthLimit : Nat := 250

/-- A text is a pattern: it can be read, and it leaves nothing open. -/
def holds (text : List Char) : Bool :=
  match Progress.readAll? (text.length + 1) {} text with
  | none =>
      false
  | some progress =>
      progress.groups.isEmpty && progress.brackets.isEmpty &&
        progress.sequence.depth ≤ depthLimit

end MonkeyTokens.Text.Pattern
