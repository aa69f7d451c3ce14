import MonkeyTokens.Token

namespace MonkeyTokens.Listing

/-!
# Listings of tokens

A listing shows every token on a line of its own.  The quoted text of a token
holds no line feed, so lines and tokens correspond one to one.  Listings join as
their tokens do.
-/

/-- One token with the line feed that ends its line. -/
def lineWith
    (unprintable : Char → Bool)
    (token : Token) :
    String :=
  token.displayWith unprintable ++ "\n"

/-- The lines of all tokens, in order, for some choice of unprintable characters. -/
def renderWith
    (unprintable : Char → Bool)
    (tokens : List Token) :
    String :=
  String.join (tokens.map (lineWith unprintable))

/-- The lines of all tokens, in order. -/
def render (tokens : List Token) : String :=
  renderWith Text.Unprintable.holds tokens

/-- A listing shows its first token on a line of its own and then the others. -/
theorem toList_renderWith_cons
    {unprintable : Char → Bool}
    (token : Token)
    (later : List Token) :
    (renderWith unprintable (token :: later)).toList =
      (token.displayWith unprintable).toList ++
        '\n' :: (renderWith unprintable later).toList := by
  simp [renderWith, lineWith]

/-- A listing of tokens goes on with the listing of those behind them. -/
theorem render_append (first second : List Token) :
    render (first ++ second) = render first ++ render second := by
  simp only [render, renderWith, List.map_append, String.join_append]

/-- Listings one after another are the listing of all their tokens. -/
theorem join_map_render
    (tokensOf : String → List Token)
    (texts : List String) :
    String.join (texts.map fun text => render (tokensOf text)) =
      render (texts.flatMap tokensOf) := by
  induction texts with
  | nil =>
      rfl
  | cons text later inductionHypothesis =>
      rw [List.map_cons, String.join_cons, inductionHypothesis,
        List.flatMap_cons, render_append]

end MonkeyTokens.Listing
