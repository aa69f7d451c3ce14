import MonkeyTokens.Listing
import MonkeyTokens.Proofs.Quoting

namespace MonkeyTokens

/-!
# Reading listings back

No label holds a blank and nothing in a line holds a line feed.  So a listing falls
into its lines, a line into its label and its quoted text, and one decoder reads the
tokens back, whichever characters are unprintable.  Two tokens that are shown alike,
as lines or as records, are therefore equal.
-/

/-- Lines that each end with a line feed, and hold no other, are cut apart again. -/
theorem Text.splitOn_join_lines
    {lines : List String}
    (unbroken : ∀ line ∈ lines, '\n' ∉ line.toList) :
    (String.join (lines.map (· ++ "\n"))).toList.splitOn '\n' =
      lines.map String.toList ++ [[]] := by
  induction lines with
  | nil =>
      rfl
  | cons line later inductionHypothesis =>
      obtain ⟨first, others⟩ := List.forall_mem_cons.mp unbroken
      have shape :
          (String.join ((line :: later).map (· ++ "\n"))).toList =
            line.toList ++
              '\n' :: (String.join (later.map (· ++ "\n"))).toList := by
        simp
      rw [shape, List.splitOn_append_cons_self_of_not_mem first,
        inductionHypothesis others]
      rfl

namespace Kind

/-- The kind with a given label. -/
def ofLabel? (label : String) : Option Kind :=
  all.find? fun kind => kind.label == label

/-- A kind is found by its label, which holds neither a blank nor a line feed. -/
theorem ofLabel?_label (kind : Kind) :
    ofLabel? kind.label = some kind ∧ ' ' ∉ kind.label.toList ∧
      '\n' ∉ kind.label.toList := by
  cases kind with
  | mark sign =>
      cases sign <;> decide
  | keyword word =>
      cases word <;> decide
  | _ =>
      decide

/-- A kind is found by its name, which holds no comma. -/
theorem ofName?_name (kind : Kind) :
    ofName? kind.name = some kind ∧ ',' ∉ kind.name.toList := by
  cases kind with
  | mark sign =>
      cases sign <;> decide
  | keyword word =>
      cases word <;> decide
  | _ =>
      decide

end Kind

namespace Token

/-- The token that a line without its line feed shows. -/
def ofDisplay? (line : List Char) : Option Token := do
  let kind ← Kind.ofLabel? (String.ofList (line.takeWhile (· != ' ')))
  let literal ←
    Text.Quoted.decode? '"' (line.dropWhile (· != ' ')).tail
  some { kind, literal := String.ofList literal }

variable {unprintable : Char → Bool}

theorem toList_displayWith (token : Token) :
    (token.displayWith unprintable).toList =
      token.kind.label.toList ++
        ' ' :: Text.Quoted.encode unprintable '"' token.literal.toList := by
  simp [displayWith, Text.Quoted.string]

/-- A token is read back from the line that shows it. -/
theorem ofDisplay?_displayWith (token : Token) :
    ofDisplay? (token.displayWith unprintable).toList = some token := by
  obtain ⟨found, unspaced, -⟩ := token.kind.ofLabel?_label
  have label :
      ∀ character ∈ token.kind.label.toList, (character != ' ') = true := by
    intro character member
    simp only [bne_iff_ne, ne_eq]
    rintro rfl
    exact unspaced member
  have read :
      Text.Quoted.decode? '"'
          (Text.Quoted.encode unprintable '"' token.literal.toList) =
        some token.literal.toList :=
    Text.Quoted.decode?_encode (by simp [Text.Quoted.marks]) _
  rw [toList_displayWith, ofDisplay?,
    List.takeWhile_append_of_pos label, List.dropWhile_append_of_pos label]
  simp [found, read]

/-- A token is shown on one line. -/
theorem feed_not_mem_displayWith (token : Token) :
    '\n' ∉ (token.displayWith unprintable).toList := by
  obtain ⟨-, -, unbroken⟩ := token.kind.ofLabel?_label
  have quoted :
      '\n' ∉ Text.Quoted.encode unprintable '"' token.literal.toList :=
    Text.Quoted.feed_not_mem_encode (by simp [Text.Quoted.marks]) _
  simp [toList_displayWith, unbroken, quoted]

/-- Different tokens are displayed differently. -/
theorem displayWith_injective :
    Function.Injective (displayWith unprintable) := by
  intro first second same
  have read := congrArg (ofDisplay? ∘ String.toList) same
  simp only [Function.comp_apply, ofDisplay?_displayWith] at read
  exact Option.some.inj read

/-- The debugging view names the fields of a token and shows the value of each. -/
theorem toList_debugWith (token : Token) :
    (token.debugWith unprintable).toList =
      "Token \x7b kind: ".toList ++
        (token.kind.name.toList ++
          (", literal: ".toList ++
            ((Text.Quoted.string unprintable token.literal).toList ++
              " \x7d".toList))) := by
  delta debugWith
  rw [String.toList_append, String.toList_append,
    String.toList_append, String.toList_append, List.append_assoc,
    List.append_assoc, List.append_assoc]

/-- The name of a kind ends at the comma behind it. -/
theorem takeWhile_name
    (kind : Kind)
    (rest : List Char) :
    (kind.name.toList ++ (", literal: ".toList ++ rest)).takeWhile
        (· != ',') =
      kind.name.toList := by
  have ordinary :
      ∀ character ∈ kind.name.toList, (character != ',') = true := by
    intro character member
    simp only [bne_iff_ne, ne_eq]
    rintro rfl
    exact kind.ofName?_name.2 member
  have comma : ", literal: ".toList = ',' :: " literal: ".toList := rfl
  rw [List.takeWhile_append_of_pos ordinary, comma, List.cons_append,
    List.takeWhile_cons_of_neg (by decide), List.append_nil]

theorem debugWith_injective :
    Function.Injective (debugWith unprintable) := by
  intro first second same
  have texts := congrArg String.toList same
  rw [toList_debugWith, toList_debugWith] at texts
  have named := List.append_cancel_left texts
  have names := congrArg (List.takeWhile (· != ',')) named
  rw [takeWhile_name, takeWhile_name] at names
  have kinds : first.kind = second.kind := by
    have found := congrArg Kind.ofName? (String.toList_injective names)
    rw [first.kind.ofName?_name.1, second.kind.ofName?_name.1] at found
    exact Option.some.inj found
  rw [names] at named
  have quoted :=
    List.append_cancel_right
      (List.append_cancel_left (List.append_cancel_left named))
  have literals : first.literal = second.literal :=
    Text.Quoted.string_injective (String.toList_injective quoted)
  cases first
  cases second
  rw [mk.injEq]
  exact ⟨kinds, literals⟩

end Token

namespace Listing

variable {unprintable : Char → Bool}

/-- The tokens that the lines of a listing show. -/
def decode? (listing : String) : Option (List Token) :=
  (listing.toList.splitOn '\n').dropLast.mapM Token.ofDisplay?

/-- A listing falls into the lines that show its tokens. -/
theorem splitOn_renderWith (tokens : List Token) :
    (renderWith unprintable tokens).toList.splitOn '\n' =
      tokens.map (fun token => (token.displayWith unprintable).toList) ++
        [[]] := by
  have unbroken :
      ∀ line ∈ tokens.map (Token.displayWith unprintable),
        '\n' ∉ line.toList := by
    intro line member
    obtain ⟨token, -, rfl⟩ := List.mem_map.mp member
    exact token.feed_not_mem_displayWith
  have lines := Text.splitOn_join_lines unbroken
  simp only [List.map_map] at lines
  exact lines

/-- The lines of a listing are its tokens as they are shown, one line for each. -/
theorem splitOn_render (tokens : List Token) :
    (render tokens).toList.splitOn '\n' =
      tokens.map (fun token => token.display.toList) ++ [[]] :=
  splitOn_renderWith tokens

/-- A listing has as many line feeds as tokens. -/
theorem count_feed_renderWith (tokens : List Token) :
    (renderWith unprintable tokens).toList.count '\n' = tokens.length := by
  induction tokens with
  | nil =>
      rfl
  | cons token later inductionHypothesis =>
      rw [toList_renderWith_cons, List.count_append, List.count_cons_self,
        inductionHypothesis,
        List.count_eq_zero_of_not_mem token.feed_not_mem_displayWith,
        Nat.zero_add, List.length_cons]

/-- The tokens are read back from their listing. -/
theorem decode?_renderWith (tokens : List Token) :
    decode? (renderWith unprintable tokens) = some tokens := by
  have each :
      (Token.ofDisplay? ∘ fun token : Token =>
          (token.displayWith unprintable).toList) =
        fun token => pure token := by
    funext token
    exact token.ofDisplay?_displayWith
  rw [decode?, splitOn_renderWith, List.dropLast_concat, List.mapM_map, each,
    List.mapM_pure, List.map_id']
  rfl

/-- Different tokens are listed differently. -/
theorem renderWith_injective :
    Function.Injective (renderWith unprintable) := by
  intro first second same
  have read := congrArg decode? same
  rw [decode?_renderWith, decode?_renderWith] at read
  exact Option.some.inj read

/--
Listings are uniquely decodable: one decoder reads the tokens back from their
listing, whichever characters are unprintable.  So equal listings list equal tokens,
a listing has one line feed for each token, and two tokens are equal exactly if
their lines are, and exactly if their records are.
-/
theorem listings_uniquely_decodable :
    (∀ (unprintable : Char → Bool) (tokens : List Token),
      decode? (renderWith unprintable tokens) = some tokens) ∧
    decode? ∘ render = some ∧
    ∀ unprintable : Char → Bool,
      Function.Injective (renderWith unprintable) ∧
      (∀ tokens : List Token,
        (renderWith unprintable tokens).toList.count '\n' =
          tokens.length) ∧
      ∀ first second : Token,
        (first = second ↔
          first.displayWith unprintable = second.displayWith unprintable) ∧
        (first = second ↔
          first.debugWith unprintable = second.debugWith unprintable) := by
  refine ⟨fun _ => decode?_renderWith, ?_, ?_⟩
  · funext tokens
    exact decode?_renderWith tokens
  · intro unprintable
    refine ⟨renderWith_injective, count_feed_renderWith, ?_⟩
    intro first second
    exact ⟨Token.displayWith_injective.eq_iff.symm,
      Token.debugWith_injective.eq_iff.symm⟩

example :
    decode? "IDENT \"\\u\x7be9\x7d\\n\"\n== \"= \\\"\"\n" =
      some
        [{ kind := .identifier, literal := "é\n" },
          { kind := .mark .equal, literal := "= \"" }] := by
  decide +kernel

end Listing

end MonkeyTokens
