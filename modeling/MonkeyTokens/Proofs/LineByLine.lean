import MonkeyTokens.Proofs.Listings
import MonkeyTokens.Proofs.Sessions

namespace MonkeyTokens

/-!
# A text as a session and as a file

A session reads every line by itself, and a run with a file reads the whole text at
once.  A line feed is spacing, and so is a carriage return that is taken off the end
of a line.  So both give the same tokens, except that a session closes every line
that it answers.
-/

/-- The closing token of a text is shown as the end of the file. -/
theorem Token.display_endOfInput :
    Token.endOfInput.display = "EOF \"\"" := by
  decide +kernel

namespace Listing

/-- The lines of a listing that do not close a text are those of the tokens that do not. -/
theorem filter_map_display (tokens : List Token) :
    (tokens.map fun token => token.display.toList).filter
        (· ≠ "EOF \"\"".toList) =
      (tokens.filter (· ≠ .endOfInput)).map
        fun token => token.display.toList := by
  have same (token : Token) :
      token.display.toList = "EOF \"\"".toList ↔ token = .endOfInput := by
    rw [← Token.display_endOfInput, String.toList_inj]
    exact Token.displayWith_injective.eq_iff
  rw [List.filter_map]
  congr 1
  refine List.filter_congr ?_
  intro token _
  simp only [Function.comp_apply, ne_eq, same]

end Listing

namespace Dialect

variable {dialect : Dialect}

theorem tokens_of_gap
    {text : String}
    (spaced : IsGap text.toList) :
    dialect.tokens text = [.endOfInput] := by
  have indented := dialect.tokens_indent spaced ""
  rwa [String.append_empty, tokens_nil] at indented

/-- The closing token of a text is its last one and no other. -/
theorem filter_tokens
    (dialect : Dialect)
    (text : String) :
    (dialect.tokens text).filter (· ≠ .endOfInput) =
      (dialect.tokens text).dropLast := by
  obtain ⟨earlier, shape, unended⟩ :=
    Cursor.drain_closed (Cursor.Stands.ofText dialect text)
  have kept :
      (earlier.map Placed.token).filter (· ≠ .endOfInput) =
        earlier.map Placed.token := by
    rw [List.filter_eq_self]
    intro token member
    obtain ⟨placed, inside, rfl⟩ := List.mem_map.mp member
    rw [decide_eq_true_eq]
    intro closing
    exact unended placed inside (congrArg Token.kind closing)
  rw [tokens, shape, List.map_append, List.map_singleton,
    List.dropLast_concat, List.filter_append, kept]
  exact List.append_nil _

/-- The tokens that a session lists for a text. -/
def answered
    (dialect : Dialect)
    (text : String) :
    List Token :=
  if Text.WhiteSpace.trim text.toList = [] then
    []
  else
    dialect.tokens text

/-- What is not answered holds no token where blank texts are spacing. -/
theorem filter_answered
    {text : String}
    (blank :
      Text.WhiteSpace.trim text.toList = [] → IsGap text.toList) :
    (dialect.answered text).filter (· ≠ .endOfInput) =
      (dialect.tokens text).dropLast := by
  by_cases trimmed : Text.WhiteSpace.trim text.toList = []
  · rw [answered, if_pos trimmed, tokens_of_gap (blank trimmed)]
    rfl
  · rw [answered, if_neg trimmed, filter_tokens]

/-- What is taken off a line at its end does not matter to what is answered. -/
theorem filter_answered_dropReturn
    {text : String}
    (blank :
      Text.WhiteSpace.trim text.toList = [] → IsGap text.toList) :
    (dialect.answered
        (String.ofList (Text.Line.dropReturn text.toList))).filter
        (· ≠ .endOfInput) =
      (dialect.tokens text).dropLast := by
  rw [filter_answered, tokens_dropReturn]
  intro trimmed
  rw [String.toList_ofList, Text.Line.trim_dropReturn] at trimmed
  obtain ⟨gap, -, shape⟩ := Text.Line.exists_gap_of_dropReturn text
  intro character member
  refine blank trimmed character ?_
  rw [shape, String.toList_append]
  exact List.mem_append_left _ member

/--
The lines of a text all ask, and the tokens that answer them are those of the text
but for the closing ones.
-/
theorem exists_texts_of_lines
    (dialect : Dialect)
    (text : String)
    (unerased : '\x08' ∉ text.toList)
    (stays :
      ∀ line ∈ text.toList.splitOn '\n',
        Text.WhiteSpace.trim line ∉ Session.farewells)
    (blank :
      ∀ line ∈ text.toList.splitOn '\n',
        Text.WhiteSpace.trim line = [] → IsGap line) :
    ∃ texts,
      List.Forall₂ Text.Line.Asks
          (Text.Line.split (Text.utf8 text)) texts ∧
        (texts.flatMap dialect.answered).filter (· ≠ .endOfInput) =
          (dialect.tokens text).dropLast := by
  induction text using Text.line_induction with
  | last text unbroken =>
      rw [List.splitOn_eq_singleton unbroken, List.forall_mem_singleton]
        at stays blank
      by_cases absent : text = ""
      · refine ⟨[], ?_, ?_⟩
        · rw [absent, Text.utf8_nil, Text.Line.split_nil]
          exact .nil
        · rw [absent, tokens_nil]
          rfl
      · have present : Text.utf8 text ≠ [] := by
          intro nothing
          exact absent (Text.utf8_injective (nothing.trans Text.utf8_nil.symm))
        refine ⟨[text], ?_, ?_⟩
        · rw [Text.Line.split_of_not_mem
            (Text.feed_not_mem_utf8 unbroken) present]
          exact .cons (Text.Line.asks_utf8_last unerased stays) .nil
        · rw [List.flatMap_singleton, filter_answered blank]
  | more line rest unbroken inductionHypothesis =>
      rw [toList_line, List.splitOn_append_cons_self_of_not_mem unbroken,
        List.forall_mem_cons] at stays blank
      rw [toList_line, List.mem_append, List.mem_cons, not_or, not_or]
        at unerased
      obtain ⟨texts, ask, tokens⟩ :=
        inductionHypothesis unerased.2.2 stays.2 blank.2
      refine
        ⟨String.ofList (Text.Line.dropReturn line.toList) :: texts, ?_, ?_⟩
      · rw [Text.utf8_append, Text.Line.split_utf8_line unbroken]
        exact .cons (Text.Line.asks_utf8 unerased.1 stays.1) ask
      · rw [List.flatMap_cons, List.filter_append, tokens,
          filter_answered_dropReturn blank.1,
          dialect.tokens_join (by decide) isGap_feed,
          List.dropLast_append_of_ne_nil (dialect.tokens_ne_nil rest)]

end Dialect

/-- Lenient answers list the tokens that are answered. -/
theorem Options.answer_of_lenient
    {options : Options}
    (lenient : options.strict = false)
    (text : String) :
    options.answer text = Listing.render (options.dialect.answered text) := by
  rw [answer, Dialect.answered, result_read_of_lenient lenient]
  split <;> rfl

namespace Invocation

variable
  {words : List String}
  {environment : CommandLine.Environment}
  {fileAt : String → Except InputFault (List UInt8)}
  {arguments : CommandLine.Arguments}

/-- A run without a source greets its user and answers its lines, all of which ask. -/
theorem stdout_run_of_all_ask
    {input : List UInt8}
    {texts : List String}
    (accepted : CommandLine.start environment words = .ok arguments)
    (none : arguments.source = none)
    (unprompted : environment.dumbTerminal = false)
    (ask : List.Forall₂ Text.Line.Asks (Text.Line.split input) texts) :
    (run { words, environment, fileAt, input }).output.stdout =
      Session.banner.stdout ++
        String.join (texts.map arguments.options.answer) := by
  have reached :
      (arguments.opening (arguments.session environment)
        fileAt).continuation = .session := by
    simp only [CommandLine.Arguments.opening, none]
  have unwritten :
      (arguments.opening (arguments.session environment)
        fileAt).output.stdout = "" := by
    simp only [CommandLine.Arguments.opening, none]
  have answers :=
    (arguments.session environment).stdout_replies unprompted texts
  have silent :=
    (arguments.session environment).stdout_awaiting unprompted
  rw [run_of_session accepted reached, Session.loop_of_all_ask ask]
  simp only [Outcome.after, Output.stdout_append, unwritten, answers, silent,
    Session.closing, String.empty_append, String.append_empty]
  rfl

/-- A run with a file that it reads leniently lists all tokens of the file. -/
theorem stdout_run_of_file
    {path text : String}
    (accepted : CommandLine.start environment words = .ok arguments)
    (given : arguments.source = some (.file path))
    (alone : arguments.interactive = false)
    (lenient : arguments.options.strict = false)
    (found : fileAt path = .ok (Text.utf8 text))
    (input : List UInt8) :
    (run { words, environment, fileAt, input }).output.stdout =
      Listing.render (arguments.options.dialect.tokens text) := by
  have read :
      ((arguments.session environment).options.read text).result =
        .ok (arguments.options.dialect.tokens text) :=
    Options.result_read_of_lenient lenient
  have text :
      CommandLine.Arguments.sourceText fileAt (.file path) = .ok text := by
    simp only [CommandLine.Arguments.sourceText, found,
      Text.ofUtf8?_eq_some_iff.mpr rfl]
  simp only [run, accepted, proceed, CommandLine.Arguments.opening, given,
    text, read, alone, Session.outputOf, Outcome.ofEnding,
    Output.stdout_append, Session.logOf, String.empty_append,
    Bool.false_eq_true, ↓reduceIte]

/--
A session that is fed the lines of a text lists what a run with the text in a file
lists, if no line is a farewell and no white space but spacing stands alone on a line.
The session only adds its greeting and closes every line that it answers.  It is not
prompted for its lines, which it would be if `TERM` named a dumb terminal.
-/
theorem session_agrees_with_file
    {fileWords : List String}
    {path text : String}
    (accepted :
      CommandLine.start environment words =
        .ok { arguments with source := none })
    (acceptedFile :
      CommandLine.start environment fileWords =
        .ok { arguments with source := some (.file path) })
    (alone : arguments.interactive = false)
    (lenient : arguments.options.strict = false)
    (unprompted : environment.dumbTerminal = false)
    (found : fileAt path = .ok (Text.utf8 text))
    (unerased : '\x08' ∉ text.toList)
    (stays :
      ∀ line ∈ text.toList.splitOn '\n',
        Text.WhiteSpace.trim line ∉ ["exit".toList, "quit".toList])
    (blank :
      ∀ line ∈ text.toList.splitOn '\n',
        Text.WhiteSpace.trim line = [] →
          ∀ character ∈ line, character ∈ spacings)
    (input : List UInt8) :
    let linesOf (outcome : Outcome) : List (List Char) :=
      outcome.output.stdout.toList.splitOn '\n'
    let closing := "EOF \"\"".toList
    ∃ answers listing,
      linesOf (run { words, environment, fileAt, input := Text.utf8 text }) =
          "Welcome to the Monkey Language".toList :: answers ++ [[]] ∧
        linesOf (run { words := fileWords, environment, fileAt, input }) =
          listing ++ [closing, []] ∧
        answers.filter (· ≠ closing) = listing := by
  intro linesOf closing
  obtain ⟨texts, ask, tokens⟩ :=
    arguments.options.dialect.exists_texts_of_lines text unerased stays
      fun line member trimmed =>
        isGap_of_mem_spacings (blank line member trimmed)
  refine
    ⟨(texts.flatMap arguments.options.dialect.answered).map
        fun token => token.display.toList,
      (arguments.options.dialect.tokens text).dropLast.map
        fun token => token.display.toList, ?_, ?_, ?_⟩
  · have answer :
        arguments.options.answer = fun text =>
          Listing.render (arguments.options.dialect.answered text) :=
      funext (Options.answer_of_lenient lenient)
    have greeting :
        Session.banner.stdout =
          "Welcome to the Monkey Language" ++ "\n" := by
      decide +kernel
    have unbroken : '\n' ∉ "Welcome to the Monkey Language".toList := by
      decide +kernel
    simp only [linesOf]
    rw [stdout_run_of_all_ask accepted rfl unprompted ask, answer,
      Listing.join_map_render, greeting, toList_line,
      List.splitOn_append_cons_self_of_not_mem unbroken,
      Listing.splitOn_render, List.cons_append]
  · simp only [linesOf]
    rw [stdout_run_of_file acceptedFile rfl alone lenient found,
      Listing.splitOn_render, ← Dialect.dropLast_tokens_append_end,
      List.map_append, List.map_singleton, Token.display_endOfInput,
      List.dropLast_concat, List.append_assoc]
    rfl
  · rw [Listing.filter_map_display, tokens]

theorem session_agrees_with_file_crlf :
    let text := "let a\r\n\r\n =\r= 1\n \t\nx!="
    let environment : CommandLine.Environment := []
    let directory : Directory := [("prose", .file (Text.utf8 text))]
    let fileAt := directory.bytesAt
    let linesOf (outcome : Outcome) : List (List Char) :=
      outcome.output.stdout.toList.splitOn '\n'
    let closing := "EOF \"\"".toList
    (CommandLine.start environment [] = .ok {} ∧
      CommandLine.start environment ["prose"] =
        .ok { source := some (.file "prose") } ∧
      environment.dumbTerminal = false ∧
      fileAt "prose" = .ok (Text.utf8 text) ∧
      '\x08' ∉ text.toList ∧
      (∀ line ∈ text.toList.splitOn '\n',
        Text.WhiteSpace.trim line ∉ ["exit".toList, "quit".toList]) ∧
      ∀ line ∈ text.toList.splitOn '\n',
        Text.WhiteSpace.trim line = [] →
          ∀ character ∈ line, character ∈ spacings) ∧
    ∃ answers listing,
      linesOf (run { words := [], environment, fileAt, input := Text.utf8 text }) =
          "Welcome to the Monkey Language".toList :: answers ++ [[]] ∧
        linesOf (run { words := ["prose"], environment, fileAt, input := [] }) =
          listing ++ [closing, []] ∧
        answers.filter (· ≠ closing) = listing := by
  intro text environment directory fileAt linesOf closing
  let arguments : CommandLine.Arguments := {}
  have accepted :
      CommandLine.start environment [] =
        .ok { arguments with source := none } := by
    decide +kernel
  have acceptedFile :
      CommandLine.start environment ["prose"] =
        .ok { arguments with source := some (.file "prose") } := by
    decide +kernel
  have found : fileAt "prose" = .ok (Text.utf8 text) :=
    directory.bytesAt_of_isName
      (show Directory.IsName "prose" by decide +kernel)
  have unerased : '\x08' ∉ text.toList := by
    decide +kernel
  have stays :
      ∀ line ∈ text.toList.splitOn '\n',
        Text.WhiteSpace.trim line ∉ ["exit".toList, "quit".toList] := by
    decide +kernel
  have blank :
      ∀ line ∈ text.toList.splitOn '\n',
        Text.WhiteSpace.trim line = [] →
          ∀ character ∈ line, character ∈ spacings := by
    have spaced :
        ∀ line ∈ text.toList.splitOn '\n',
          Text.WhiteSpace.trim line = [] →
            line.all spacings.contains = true := by
      decide +kernel
    intro line member trimmed character inside
    exact
      List.contains_iff_mem.mp
        (List.all_eq_true.mp (spaced line member trimmed) character inside)
  exact
    ⟨⟨accepted, acceptedFile, rfl, found, unerased, stays, blank⟩,
      session_agrees_with_file accepted acceptedFile rfl rfl rfl found
        unerased stays blank []⟩

end Invocation

end MonkeyTokens
