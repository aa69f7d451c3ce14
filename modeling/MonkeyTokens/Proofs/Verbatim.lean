import MonkeyTokens.Proofs.Alphabet
import MonkeyTokens.Proofs.Escaping
import MonkeyTokens.Proofs.Listings
import MonkeyTokens.Proofs.Strictness
import MonkeyTokens.Session

namespace MonkeyTokens

/-!
# What is shown of a text

Only visible characters of ASCII come into the literal of a token, whatever the text
holds.  They stand in a listing as they are, without an escape, and in the log, which
quotes nothing, they break no line.  So every token takes one line in either, and the
notes of a reading are its tokens with their offsets, one after another.
-/

/-! ## Literals -/

/-- Apart from the spacing the alphabet is visible, and quoting leaves it alone. -/
theorem isVerbatim_of_inAlphabet
    {character : Char}
    (inside : inAlphabet character = true)
    (solid : isSpacing character = false) :
    Text.isVerbatim character = true :=
  Text.forall_of_toNat_lt
    (motive := fun other =>
      inAlphabet other = true → isSpacing other = false →
        Text.isVerbatim other = true)
    (by decide +kernel) (toNat_of_inAlphabet inside).2 inside solid

/-- Every character of the literal is visible and needs no escape. -/
def Token.IsVerbatim (token : Token) : Prop :=
  ∀ character ∈ token.literal.toList, Text.isVerbatim character = true

theorem Token.isVerbatim_endOfInput : endOfInput.IsVerbatim :=
  List.forall_mem_nil _

/-- A stray leaves no literal, and all other lexemes are written with the alphabet. -/
theorem Lexeme.isVerbatim_token
    {dialect : Dialect}
    {lexeme : Lexeme}
    (admitted : dialect.Admits lexeme) :
    lexeme.token.IsVerbatim := by
  intro character member
  obtain ⟨spelled, legal⟩ :
      character ∈ lexeme.spelling ∧ lexeme ≠ .stray character := by
    cases lexeme with
    | stray other =>
        exact (List.not_mem_nil member).elim
    | _ =>
        simpa [token, literal, spelling] using member
  have solid := Dialect.isSpacing_of_admits admitted character spelled
  refine isVerbatim_of_inAlphabet ?_ solid
  cases inside : inAlphabet character with
  | true =>
      rfl
  | false =>
      have stray : isStray character = true := by
        rw [isStray_eq_not_inAlphabet, inside]
        rfl
      exact (legal (Dialect.eq_stray_of_isStray admitted spelled stray)).elim

/-- Whatever is read from a cursor is shown as it is. -/
theorem Cursor.isVerbatim_of_mem_drain
    {dialect : Dialect}
    {source : List Char}
    {cursor : Cursor}
    {placed : Placed}
    (stands : cursor.Stands dialect source)
    (member : placed ∈ cursor.drain.1) :
    placed.token.IsVerbatim := by
  rcases exists_lexeme_of_mem_drain stands member with
      rfl | ⟨lexeme, same, admitted, -⟩
  · exact Token.isVerbatim_endOfInput
  · rw [same]
    exact Lexeme.isVerbatim_token admitted

/-! ## Listings -/

theorem Kind.backslash_not_mem_label (kind : Kind) :
    '\\' ∉ kind.label.toList := by
  cases kind with
  | mark sign =>
      cases sign <;> decide
  | keyword word =>
      cases word <;> decide
  | _ =>
      decide

/-- The line of a listing that quotes a literal as it is. -/
def Token.shown (token : Token) : String :=
  token.kind.label ++ " \"" ++ token.literal ++ "\""

namespace Token.IsVerbatim

variable {token : Token}

/-- A token that needs no escapes is displayed between quotes as it is. -/
theorem display_eq
    (verbatim : token.IsVerbatim) :
    token.display = token.shown := by
  rw [display, displayWith, Text.Quoted.string_of_isVerbatim verbatim, shown]
  apply String.toList_injective
  simp

theorem backslash_not_mem_shown
    (verbatim : token.IsVerbatim) :
    '\\' ∉ token.shown.toList := by
  have literal : '\\' ∉ token.literal.toList := by
    intro member
    have impossible := verbatim '\\' member
    cases impossible
  simp [shown, token.kind.backslash_not_mem_label, literal]

/-- A literal that needs no escapes is a single line. -/
theorem feed_not_mem_literal
    (verbatim : token.IsVerbatim) :
    '\n' ∉ token.literal.toList := by
  intro member
  have impossible := verbatim '\n' member
  cases impossible

end Token.IsVerbatim

namespace Listing

variable {tokens : List Token}

/-- A listing of tokens with verbatim literals shows every literal as it is. -/
theorem splitOn_render_of_verbatim
    (verbatim : ∀ token ∈ tokens, token.IsVerbatim) :
    (render tokens).toList.splitOn '\n' =
      tokens.map (fun token => token.shown.toList) ++ [[]] := by
  have shown :
      tokens.map (fun token => token.display.toList) =
        tokens.map fun token => token.shown.toList := by
    refine List.map_congr_left ?_
    intro token member
    rw [(verbatim token member).display_eq]
  rw [← shown]
  exact splitOn_renderWith tokens

/-- Tokens that need no escapes are listed without a backslash. -/
theorem backslash_not_mem_render
    (verbatim : ∀ token ∈ tokens, token.IsVerbatim) :
    '\\' ∉ (render tokens).toList := by
  induction tokens with
  | nil =>
      exact List.not_mem_nil
  | cons token later inductionHypothesis =>
      obtain ⟨first, others⟩ := List.forall_mem_cons.mp verbatim
      have line : '\\' ∉ token.display.toList := by
        rw [first.display_eq]
        exact first.backslash_not_mem_shown
      rw [render, toList_renderWith_cons, List.mem_append, List.mem_cons]
      rintro (inLine | feed | below)
      · exact line inLine
      · cases feed
      · exact inductionHypothesis others below

end Listing

/-! ## Logs -/

namespace Log

/-- Whether the note of a token is written does not depend on the token. -/
theorem Filter.admits_token
    (filter : Filter)
    (first second : Placed) :
    filter.admits (.token first) = filter.admits (.token second) :=
  rfl

namespace Settings

/-- The note of a token in the log, with nothing quoted and without a line feed at its end. -/
def shown
    (settings : Settings)
    (placed : Placed) :
    String :=
  settings.styled "35" "TRACE" ++ " token" ++
    settings.field ("kind", placed.token.kind.label) ++
    settings.field ("literal", placed.token.literal) ++
    settings.field ("offset", toString placed.offset)

/-- A note about a token is one line of the log. -/
theorem line_token
    (settings : Settings)
    (placed : Placed) :
    settings.line (.token placed) = settings.shown placed ++ "\n" := by
  apply String.toList_injective
  simp [line, shown, Note.level, Note.message, Note.fields, Level.colour, Level.label]

/-- Styling breaks no line. -/
theorem feed_not_mem_styled
    (settings : Settings)
    (style text : String)
    (styleUnbroken : '\n' ∉ style.toList)
    (unbroken : '\n' ∉ text.toList) :
    '\n' ∉ (settings.styled style text).toList := by
  unfold styled
  split
  · simp [styleUnbroken, unbroken]
  · exact unbroken

theorem feed_not_mem_field
    (settings : Settings)
    (name value : String)
    (nameUnbroken : '\n' ∉ name.toList)
    (unbroken : '\n' ∉ value.toList) :
    '\n' ∉ (settings.field (name, value)).toList := by
  have styledName :=
    settings.feed_not_mem_styled "3" name (by decide) nameUnbroken
  have sign := settings.feed_not_mem_styled "2" "=" (by decide) (by decide)
  simp [field, styledName, sign, unbroken]

/-- A token whose literal is verbatim breaks no line of the log, although it is not quoted there. -/
theorem feed_not_mem_shown
    (settings : Settings)
    {placed : Placed}
    (verbatim : placed.token.IsVerbatim) :
    '\n' ∉ (settings.shown placed).toList := by
  have level :=
    settings.feed_not_mem_styled "35" "TRACE" (by decide) (by decide)
  have kind :=
    settings.feed_not_mem_field "kind" placed.token.kind.label (by decide)
      placed.token.kind.ofLabel?_label.2.2
  have literal :=
    settings.feed_not_mem_field "literal" placed.token.literal (by decide)
      verbatim.feed_not_mem_literal
  have offset :=
    settings.feed_not_mem_field "offset" (toString placed.offset) (by decide)
      (Text.IsControlFree.toString placed.offset).feed_not_mem
  have name : '\n' ∉ " token".toList := by
    decide
  simp only [shown, String.toList_append, List.mem_append, not_or]
  exact ⟨⟨⟨⟨level, name⟩, kind⟩, literal⟩, offset⟩

/-- The log of tokens with verbatim literals has one line for each, or none at all. -/
theorem splitOn_write_tokens
    {tokens : List Placed}
    (settings : Settings)
    (verbatim : ∀ placed ∈ tokens, placed.token.IsVerbatim)
    (admitted : ∀ placed, settings.filter.admits (.token placed) = true) :
    (settings.write (tokens.map .token)).toList.splitOn '\n' =
      tokens.map (fun placed => (settings.shown placed).toList) ++ [[]] := by
  have unbroken :
      ∀ line ∈ tokens.map settings.shown, '\n' ∉ line.toList := by
    intro line member
    obtain ⟨placed, inside, rfl⟩ := List.mem_map.mp member
    exact settings.feed_not_mem_shown (verbatim placed inside)
  have kept :
      (tokens.map Note.token).filter settings.filter.admits =
        tokens.map Note.token := by
    rw [List.filter_eq_self]
    intro note member
    obtain ⟨placed, -, rfl⟩ := List.mem_map.mp member
    exact admitted placed
  have lines := Text.splitOn_join_lines unbroken
  rw [write, kept]
  simp only [List.map_map, Function.comp_def, line_token] at lines ⊢
  exact lines

/-- A filter that refuses notes about tokens leaves no trace of them. -/
theorem write_tokens_of_refused
    (settings : Settings)
    (tokens : List Placed)
    (refused : ∀ placed, settings.filter.admits (.token placed) = false) :
    settings.write (tokens.map .token) = "" := by
  have none : (tokens.map Note.token).filter settings.filter.admits = [] := by
    rw [List.filter_eq_nil_iff]
    intro note member
    obtain ⟨placed, -, rfl⟩ := List.mem_map.mp member
    simp [refused placed]
  rw [write, none]
  rfl

end Settings

end Log

/-! ## Readings -/

/-- A token that strict reading goes on behind. -/
def Placed.isLegal (placed : Placed) : Bool :=
  placed.token.kind != .illegal

/-- Strict reading notes the tokens through the first illegal one, or all if there is none. -/
theorem ReadsStrictly.tokens_eq
    {source : List Char}
    {tokens : List Placed}
    {reading : Reading}
    (reads : ReadsStrictly source tokens reading) :
    reading.tokens =
      tokens.takeWhile Placed.isLegal ++
        (tokens.dropWhile Placed.isLegal).take 1 := by
  have legal_iff {others : List Placed} :
      firstIllegal? others = none ↔
        ∀ placed ∈ others, placed.isLegal = true := by
    simp [firstIllegal?_eq_none_iff, Placed.isLegal]
  cases reads with
  | completed legal =>
      have all := legal_iff.mp legal
      rw [List.takeWhile_eq_self_iff.mpr all,
        List.dropWhile_eq_nil_iff.mpr all]
      simp
  | stopped earlier later placed character legal illegal found =>
      have all := legal_iff.mp legal
      have stops : placed.isLegal = false := by
        simp [Placed.isLegal, illegal]
      rw [List.takeWhile_append_of_pos all, List.dropWhile_append_of_pos all]
      simp [stops]

/--
A strict reading keeps the tokens up to the first illegal one, that one included, and a
lenient one keeps them all.
-/
theorem Options.tokens_read
    (options : Options)
    (text : String) :
    let all := (Cursor.ofText options.dialect text).drain.1
    (options.read text).tokens =
      if options.strict then
        all.takeWhile Placed.isLegal ++
          (all.dropWhile Placed.isLegal).take 1
      else
        all := by
  intro all
  rw [read]
  split
  · exact
      (Cursor.readsStrictly_drain
        (Cursor.Stands.ofText options.dialect text)).tokens_eq
  · exact Cursor.remaining_ofText options.dialect text

/-- Whatever is read under some options is shown as it is. -/
theorem Options.isVerbatim_of_mem_read
    {options : Options}
    {text : String}
    {placed : Placed}
    (member : placed ∈ (options.read text).tokens) :
    placed.token.IsVerbatim := by
  have stands := Cursor.Stands.ofText options.dialect text
  refine Cursor.isVerbatim_of_mem_drain stands ?_
  rw [tokens_read] at member
  split at member
  · rcases List.mem_append.mp member with before | first
    · exact List.takeWhile_subset _ before
    · exact List.dropWhile_subset _ (List.mem_of_mem_take first)
  · exact member

/--
No text forges or distorts what is shown of it.  The literals of its tokens are made of
visible characters of ASCII other than quotation marks and the backslash.  So in their
listing no escape occurs, and each line is a label, a blank and the literal as it is,
in quotation marks.  Reading notes the tokens with their offsets in order: all of them,
as they are listed, or through the first illegal one where strict reading fails.  In the
log each of these notes takes one line, unless the log leaves such notes out.
-/
theorem hostile_text_shown_verbatim
    (session : Session)
    (text : String) :
    let tokens := (Cursor.ofText session.options.dialect text).drain.1
    let listing := Listing.render (tokens.map Placed.token)
    let reading := session.options.read text
    let log := (session.logOf reading).stderr
    (∀ placed ∈ tokens, ∀ character ∈ placed.token.literal.toList,
      0x20 < character.toNat ∧ character.toNat < 0x7F ∧
        character ≠ '"' ∧ character ≠ '\'' ∧ character ≠ '\\') ∧
    ('\\' ∉ listing.toList ∧
      listing.toList.splitOn '\n' =
        tokens.map
            (fun placed =>
              (placed.token.kind.label ++ " \"" ++ placed.token.literal ++
                "\"").toList) ++
          [[]]) ∧
    reading.tokens =
      (if session.options.strict then
        tokens.takeWhile (fun placed => placed.token.kind != .illegal) ++
          (tokens.dropWhile
            (fun placed => placed.token.kind != .illegal)).take 1
      else
        tokens) ∧
    (((∀ placed, session.log.filter.admits (.token placed) = true) ∧
        log.toList.splitOn '\n' =
          reading.tokens.map
              (fun placed => (session.log.shown placed).toList) ++
            [[]]) ∨
      ((∀ placed, session.log.filter.admits (.token placed) = false) ∧
        log = "")) := by
  intro tokens listing reading log
  have verbatim : ∀ token ∈ tokens.map Placed.token, token.IsVerbatim := by
    intro token member
    obtain ⟨placed, inside, rfl⟩ := List.mem_map.mp member
    exact
      Cursor.isVerbatim_of_mem_drain
        (Cursor.Stands.ofText session.options.dialect text) inside
  refine
    ⟨?_, ⟨Listing.backslash_not_mem_render verbatim, ?_⟩,
      session.options.tokens_read text, ?_⟩
  · intro placed member character inside
    have visible :=
      verbatim placed.token (List.mem_map_of_mem member) character inside
    simp only [Text.isVerbatim, Bool.and_eq_true, decide_eq_true_eq,
      bne_iff_ne] at visible
    obtain ⟨⟨⟨⟨low, high⟩, double⟩, single⟩, backslash⟩ := visible
    exact ⟨low, high, double, single, backslash⟩
  · have lines := Listing.splitOn_render_of_verbatim verbatim
    rw [List.map_map] at lines
    exact lines
  · have same := session.log.filter.admits_token
    cases admitted :
        session.log.filter.admits
          (.token { offset := 0, token := .endOfInput }) with
    | true =>
        have all (placed : Placed) :
            session.log.filter.admits (.token placed) = true :=
          (same placed _).trans admitted
        refine .inl ⟨all, ?_⟩
        exact
          session.log.splitOn_write_tokens
            (fun placed member => Options.isVerbatim_of_mem_read member) all
    | false =>
        have none (placed : Placed) :
            session.log.filter.admits (.token placed) = false :=
          (same placed _).trans admitted
        exact
          .inr ⟨none, session.log.write_tokens_of_refused reading.tokens none⟩

theorem hostile_text_shown_verbatim_escape :
    let session : Session :=
      { options := { strict := true }
        log :=
          { filter := Log.Filter.everywhere (some .trace)
            coloured := false } }
    let text := "let\n\"\x1b[2J"
    let first : Placed :=
      { offset := 0, token := { kind := .keyword .letWord, literal := "let" } }
    (first ∈ (Cursor.ofText session.options.dialect text).drain.1 ∧
      't' ∈ first.token.literal.toList ∧
      0x20 < 't'.toNat ∧ 't'.toNat < 0x7F ∧
        't' ≠ '"' ∧ 't' ≠ '\'' ∧ 't' ≠ '\\') ∧
    (session.options.read text).tokens = [first, .strayAt 4] ∧
    (session.logOf (session.options.read text)).stderr.toList.splitOn '\n' =
      ["TRACE token kind=LET literal=let offset=0".toList,
        "TRACE token kind=ILLEGAL literal= offset=4".toList, []] := by
  intro session text first
  have member :
      first ∈ (Cursor.ofText session.options.dialect text).drain.1 := by
    decide +kernel
  have letter : 't' ∈ first.token.literal.toList := by
    decide
  have read : (session.options.read text).tokens = [first, .strayAt 4] := by
    decide +kernel
  obtain ⟨literals, -, -, log⟩ := hostile_text_shown_verbatim session text
  refine ⟨⟨member, letter, literals first member 't' letter⟩, read, ?_⟩
  rcases log with ⟨-, lines⟩ | ⟨refused, -⟩
  · rw [lines, read]
    decide +kernel
  · cases refused first

end MonkeyTokens
