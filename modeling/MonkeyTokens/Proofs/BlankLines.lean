import MonkeyTokens.Proofs.Alphabet
import MonkeyTokens.Proofs.Escaping
import MonkeyTokens.Proofs.LineByLine

namespace MonkeyTokens

/-!
# Lines without an answer

A session is silent about a line if nothing is left of the line once the white space
around it is set aside.  Spacing is white space, so it is silent about every line
without a token.  But white space is more than spacing: what else there is of it makes
illegal tokens, and a line of white space alone is passed over with them.
-/

namespace Text.WhiteSpace

theorem holds_of_isSpacing
    {character : Char}
    (spacing : isSpacing character = true) :
    holds character = true := by
  have white : spacings.all holds = true := by
    decide
  exact
    List.all_eq_true.mp white character (isSpacing_iff_mem_spacings.mp spacing)

/-- White space that is no spacing is outside the alphabet. -/
theorem isStray_of_holds
    {character : Char}
    (white : holds character = true)
    (solid : isSpacing character = false) :
    isStray character = true := by
  rw [isStray_eq_not_inAlphabet, Bool.not_eq_true']
  apply Bool.eq_false_iff.mpr
  intro inside
  have spacing :=
    forall_of_toNat_lt
      (motive := fun other =>
        holds other = true → inAlphabet other = true → isSpacing other = true)
      (by decide +kernel) (toNat_of_inAlphabet inside).2 white inside
  rw [solid] at spacing
  cases spacing

/-- Nothing is left of a text exactly if it is all white space. -/
theorem trim_eq_nil_iff {text : List Char} :
    trim text = [] ↔ ∀ character ∈ text, holds character = true := by
  rw [trim, List.reverse_eq_nil_iff, List.dropWhile_eq_nil_iff]
  simp only [List.mem_reverse]
  constructor
  · intro white character member
    rw [← List.takeWhile_append_dropWhile (p := holds) (l := text),
      List.mem_append] at member
    rcases member with taken | dropped
    · exact List.all_eq_true.mp List.all_takeWhile character taken
    · exact white character dropped
  · intro white character member
    exact white character ((List.dropWhile_sublist holds).subset member)

end Text.WhiteSpace

/-- Nothing of a gap is left without its spacing. -/
theorem IsGap.filter_eq_nil
    {gap : List Char}
    (spaced : IsGap gap) :
    (gap.filter fun character => !isSpacing character) = [] := by
  rw [List.filter_eq_nil_iff]
  intro character member
  simp [spaced character member]

/-- Where all but the spacing is stray, a text gives one illegal token for each stray. -/
theorem Layout.tokens_of_strays
    {dialect : Dialect}
    {layout : Layout dialect}
    (strays :
      ∀ character ∈ layout.text,
        isSpacing character = false → isStray character = true)
    (start : Nat) :
    (layout.placedFrom start).map Placed.token =
      (layout.text.filter fun character => !isSpacing character).map
          (fun _ => { kind := .illegal, literal := "" }) ++
        [.endOfInput] := by
  induction layout generalizing start with
  | ending gap spaced =>
      rw [text, spaced.filter_eq_nil]
      rfl
  | cons piece later inductionHypothesis =>
      obtain ⟨head, tail, spelled⟩ :=
        List.exists_cons_of_ne_nil
          (Dialect.spelling_ne_nil_of_admits piece.admitted)
      have inside : head ∈ piece.lexeme.spelling := by
        simp [spelled]
      have solid : isSpacing head = false :=
        Dialect.isSpacing_of_admits piece.admitted head inside
      have stray : isStray head = true :=
        strays head (by simp [text, Piece.text, inside]) solid
      have single : piece.lexeme = .stray head :=
        Dialect.eq_stray_of_isStray piece.admitted inside stray
      have below :=
        inductionHypothesis
          (fun character member =>
            strays character (List.mem_append_right _ member))
          (start + piece.text.length)
      rw [placedFrom, List.map_cons, below, text, Piece.text, single]
      simp only [List.filter_append, piece.spaced.filter_eq_nil,
        Lexeme.spelling, List.nil_append, List.filter_singleton, solid]
      rw [Piece.placed, single]
      rfl

namespace Dialect

variable {dialect : Dialect} {text : String}

/-- A text gives no token but the closing one exactly if it is a gap. -/
theorem tokens_eq_closing_iff :
    dialect.tokens text = [.endOfInput] ↔ IsGap text.toList := by
  refine ⟨?_, tokens_of_gap⟩
  intro closing
  obtain ⟨layout, written, placed⟩ :=
    (Cursor.ofText dialect text).exists_layout
  rw [tokens, placed] at closing
  cases layout with
  | ending gap spaced =>
      obtain rfl : gap = text.toList := written
      exact spaced
  | cons piece later =>
      have ended :=
        congrArg Token.kind (List.cons.inj closing).1
      exact (piece.lexeme.kind_ne_endOfInput ended).elim

/-- A text of white space gives one illegal token for each character that is no spacing. -/
theorem tokens_of_white
    (white :
      ∀ character ∈ text.toList, Text.WhiteSpace.holds character = true) :
    dialect.tokens text =
      (text.toList.filter fun character => !isSpacing character).map
          (fun _ => { kind := .illegal, literal := "" }) ++
        [.endOfInput] := by
  obtain ⟨layout, written, placed⟩ :=
    (Cursor.ofText dialect text).exists_layout
  have shape : layout.text = text.toList :=
    written
  rw [tokens, placed, ← shape]
  refine Layout.tokens_of_strays ?_ _
  intro character member solid
  rw [shape] at member
  exact Text.WhiteSpace.isStray_of_holds (white character member) solid

end Dialect

namespace Session

variable
  {session : Session}
  {line : Text.Line}
  {text : String}

/-- What is read without an error is listed. -/
theorem outputOf_of_legal
    (legal :
      session.options.strict = false ∨
        ∀ token ∈ session.options.dialect.tokens text,
          token.kind ≠ .illegal) :
    session.outputOf (session.options.read text) =
      session.logOf (session.options.read text) ++
        { stdout :=
            Listing.render (session.options.dialect.tokens text) } := by
  rw [outputOf, Options.result_read_of_legal legal]

/-- Where reading is strict, an illegal token is answered with an error. -/
theorem exists_outputOf_of_illegal
    (strict : session.options.strict = true)
    (illegal :
      ∃ token ∈ session.options.dialect.tokens text,
        token.kind = .illegal) :
    ∃ fault,
      session.options.dialect.readStrictly text = .error fault ∧
        session.outputOf (session.options.read text) =
          session.logOf (session.options.read text) ++
            Output.error fault.message := by
  obtain ⟨fault, fails⟩ := Dialect.exists_fault_of_illegal illegal
  refine ⟨fault, fails, ?_⟩
  rw [outputOf, Options.result_read_of_strict strict, fails]
  rfl

/-- Whatever is read is answered with something. -/
theorem outputOf_ne_empty :
    session.outputOf (session.options.read text) ≠ {} := by
  by_cases legal :
      session.options.strict = false ∨
        ∀ token ∈ session.options.dialect.tokens text,
          token.kind ≠ .illegal
  · rw [outputOf_of_legal legal]
    intro silent
    have unlisted :
        Listing.render (session.options.dialect.tokens text) =
          Listing.render [] :=
      String.empty_append.symm.trans (congrArg Output.stdout silent)
    exact
      Dialect.tokens_ne_nil _ _ (Listing.renderWith_injective unlisted)
  · push Not at legal
    obtain ⟨strict, illegal⟩ := legal
    obtain ⟨fault, -, answer⟩ :=
      exists_outputOf_of_illegal (by simpa using strict) illegal
    rw [answer]
    intro silent
    have unreported := congrArg Output.stderr silent
    simp [Output.error] at unreported

/-- A session is silent about a line exactly if the line is all white space. -/
theorem turn_eq_silent_iff (asks : line.Asks text) :
    session.turn line = .on {} ↔
      ∀ character ∈ text.toList, Text.WhiteSpace.holds character = true := by
  rw [turn_of_asks asks, Turn.on.injEq, ← Text.WhiteSpace.trim_eq_nil_iff,
    replyTo]
  split
  · rename_i blank
    simp [blank]
  · rename_i present
    simp [present, outputOf_ne_empty]

/-- A line that holds anything but white space is answered with what is read of it. -/
theorem turn_of_visible
    (asks : line.Asks text)
    (visible :
      ∃ character ∈ text.toList,
        Text.WhiteSpace.holds character = false) :
    session.turn line =
      .on (session.outputOf (session.options.read text)) := by
  have present : Text.WhiteSpace.trim text.toList ≠ [] := by
    intro blank
    obtain ⟨character, member, solid⟩ := visible
    have white :=
      Text.WhiteSpace.trim_eq_nil_iff.mp blank character member
    rw [solid] at white
    cases white
  rw [turn_of_asks asks, replyTo, if_neg present]

/--
A session is silent about a line exactly if the line is white space and nothing else.
So it is silent about every line without a token, but white space is more than spacing,
and with a line of white space it passes over one illegal token for each character that
is no spacing.  Every other line is answered: with all its tokens or, where reading is
strict and one of them is illegal, with the error of the first such token.
-/
theorem silent_exactly_about_white_space
    (asks : line.Asks text) :
    let dialect := session.options.dialect
    let log := session.logOf (session.options.read text)
    let illegal : Token := { kind := .illegal, literal := "" }
    (session.turn line = .on {} ↔
      ∀ character ∈ text.toList, Text.WhiteSpace.holds character = true) ∧
    (dialect.tokens text = [.endOfInput] ↔
      ∀ character ∈ text.toList, character ∈ spacings) ∧
    (dialect.tokens text = [.endOfInput] → session.turn line = .on {}) ∧
    (session.turn line = .on {} →
      dialect.tokens text =
        (text.toList.filter (· ∉ spacings)).map (fun _ => illegal) ++
          [.endOfInput]) ∧
    ((∃ character ∈ text.toList,
        Text.WhiteSpace.holds character = false) →
      ((session.options.strict = false ∨
          ∀ token ∈ dialect.tokens text, token.kind ≠ .illegal) →
        session.turn line =
          .on (log ++ { stdout := Listing.render (dialect.tokens text) })) ∧
      (session.options.strict = true →
        (∃ token ∈ dialect.tokens text, token.kind = .illegal) →
          ∃ fault,
            dialect.readStrictly text = .error fault ∧
              session.turn line = .on (log ++ Output.error fault.message))) := by
  intro dialect log illegal
  have gap :
      IsGap text.toList ↔ ∀ character ∈ text.toList, character ∈ spacings := by
    simp only [IsGap, isSpacing_iff_mem_spacings]
  have silent := session.turn_eq_silent_iff asks
  refine ⟨silent, Dialect.tokens_eq_closing_iff.trans gap, ?_, ?_, ?_⟩
  · intro closing
    have spaced := Dialect.tokens_eq_closing_iff.mp closing
    exact silent.mpr fun character member =>
      Text.WhiteSpace.holds_of_isSpacing (spaced character member)
  · intro unanswered
    have lost := dialect.tokens_of_white (silent.mp unanswered)
    simpa [← isSpacing_iff_mem_spacings] using lost
  · intro visible
    rw [turn_of_visible asks visible]
    refine ⟨fun legal => congrArg _ (outputOf_of_legal legal), ?_⟩
    intro strict found
    obtain ⟨fault, fails, answer⟩ := exists_outputOf_of_illegal strict found
    exact ⟨fault, fails, congrArg _ answer⟩

theorem silent_exactly_about_white_space_no_break :
    let session : Session :=
      { options := { strict := true }
        log := { filter := .choose none false, coloured := true } }
    let spaces : Text.Line :=
      { bytes := Text.utf8 "\t\u00a0\u2003\r", ended := true }
    let word : Text.Line :=
      { bytes := Text.utf8 "\u00a0x", ended := true }
    let illegal : Token := { kind := .illegal, literal := "" }
    (spaces.Asks "\t\u00a0\u2003" ∧
      session.turn spaces = .on {} ∧
      Dialect.tokens {} "\t\u00a0\u2003" = [illegal, illegal, .endOfInput]) ∧
    (word.Asks "\u00a0x" ∧
      (∃ token ∈ Dialect.tokens {} "\u00a0x", token.kind = .illegal) ∧
      ∃ fault,
        Dialect.readStrictly {} "\u00a0x" = .error fault ∧
          session.turn word =
            .on
              (session.logOf (session.options.read "\u00a0x") ++
                Output.error fault.message)) := by
  intro session spaces word illegal
  have asksSpaces : spaces.Asks "\t\u00a0\u2003" :=
    Text.Line.asks_utf8 (by decide : '\x08' ∉ "\t\u00a0\u2003\r".toList)
      (by decide +kernel)
  have asksWord : word.Asks "\u00a0x" :=
    Text.Line.asks_utf8 (by decide : '\x08' ∉ "\u00a0x".toList)
      (by decide +kernel)
  have found :
      ∃ token ∈ Dialect.tokens {} "\u00a0x", token.kind = .illegal :=
    ⟨illegal, by decide +kernel, rfl⟩
  obtain ⟨white, -, -, lost, -⟩ :=
    session.silent_exactly_about_white_space asksSpaces
  obtain ⟨-, -, -, -, answered⟩ :=
    session.silent_exactly_about_white_space asksWord
  have blank : "\t\u00a0\u2003".toList.all Text.WhiteSpace.holds = true := by
    decide
  have unanswered : session.turn spaces = .on {} :=
    white.mpr (List.all_eq_true.mp blank)
  exact
    ⟨⟨asksSpaces, unanswered, lost unanswered⟩,
      asksWord, found,
      (answered ⟨'x', by decide, by decide⟩).2 rfl found⟩

/-- A line of a no-break space has a token, but a session is silent about it. -/
theorem silent_about_some_tokens :
    ¬ ∀ (session : Session) (line : Text.Line) (text : String),
      line.Asks text → '\n' ∉ text.toList → '\x08' ∉ text.toList →
        (session.turn line = .on {} ↔
          session.options.dialect.tokens text = [.endOfInput]) := by
  intro agree
  let session : Session :=
    { options := {}
      log := { filter := .choose none false, coloured := true } }
  let line : Text.Line := { bytes := Text.utf8 "\u00a0", ended := true }
  have asks : line.Asks "\u00a0" :=
    Text.Line.asks_utf8 (by decide : '\x08' ∉ "\u00a0".toList)
      (by decide +kernel)
  have blank : "\u00a0".toList.all Text.WhiteSpace.holds = true := by
    decide
  have silent : session.turn line = .on {} :=
    (session.turn_eq_silent_iff asks).mpr (List.all_eq_true.mp blank)
  have closing :=
    (agree session line "\u00a0" asks (by decide) (by decide)).mp silent
  have given :
      Dialect.tokens {} "\u00a0" =
        [{ kind := .illegal, literal := "" }, .endOfInput] := by
    decide +kernel
  rw [given] at closing
  cases closing

end Session

end MonkeyTokens
