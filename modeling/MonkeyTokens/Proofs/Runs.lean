import MonkeyTokens.Directory
import MonkeyTokens.Proofs.Input
import MonkeyTokens.Proofs.Lines
import MonkeyTokens.Proofs.Listings
import MonkeyTokens.Run

namespace MonkeyTokens

/-!
# One-shot runs

A run that is given a source writes to the output channel only when the whole source
has been read.  If it cannot be read, or strict reading meets an illegal character,
the error is all that the run writes.  Otherwise the listing is followed by nothing,
or by everything that a session on the same input writes.
-/

namespace Log

/-- At the default level nothing that a run notes is urgent enough. -/
theorem Filter.admits_default (note : Note) :
    (Filter.choose none false).admits note = false := by
  have deciding :
      (Filter.choose none false).deciding? note =
        some { threshold := some .warn } := by
    simp [choose, everywhere, deciding?, Directive.covers, better]
  rw [admits, deciding]
  cases note <;> rfl

/-- By default nothing is logged. -/
theorem Settings.write_default
    (coloured : Bool)
    (notes : List Note) :
    ({ filter := .choose none false, coloured } : Settings).write notes =
      "" := by
  have none :
      notes.filter (Filter.choose Option.none false).admits = [] := by
    simp [List.filter_eq_nil_iff, Filter.admits_default]
  rw [write, none]
  rfl

end Log

namespace Dialect

/-- Strict reading gives all tokens of a text without an illegal one. -/
theorem readStrictly_of_legal
    {dialect : Dialect}
    {text : String}
    (legal : ∀ token ∈ dialect.tokens text, token.kind ≠ .illegal) :
    dialect.readStrictly text = .ok (dialect.tokens text) := by
  refine ((dialect.agreement_readStrictly text).accepts _).mpr ⟨?_, rfl⟩
  intro placed member
  exact legal placed.token (List.mem_map_of_mem member)

/-- Strict reading fails on a text with an illegal token. -/
theorem exists_fault_of_illegal
    {dialect : Dialect}
    {text : String}
    (illegal : ∃ token ∈ dialect.tokens text, token.kind = .illegal) :
    ∃ fault, dialect.readStrictly text = .error fault := by
  cases result : dialect.readStrictly text with
  | error fault =>
      exact ⟨fault, rfl⟩
  | ok tokens =>
      have legal :=
        (((dialect.agreement_readStrictly text).accepts _).mp result).1
      obtain ⟨token, member, kind⟩ := illegal
      obtain ⟨placed, inside, rfl⟩ := List.mem_map.mp member
      exact (legal placed inside kind).elim

end Dialect

namespace Options

variable {options : Options} {text : String}

theorem result_read_of_strict
    (strict : options.strict = true) :
    (options.read text).result = options.dialect.readStrictly text := by
  simp only [read, strict, ↓reduceIte]
  rfl

/-- Other options give all the tokens of a text. -/
theorem result_read_of_lenient
    (lenient : options.strict = false) :
    (options.read text).result = .ok (options.dialect.tokens text) := by
  simp only [read, lenient, Bool.false_eq_true, ↓reduceIte,
    Cursor.remaining_ofText]
  rfl

/-- A reading gives all tokens unless it is strict and one of them is illegal. -/
theorem result_read_of_legal
    (legal :
      options.strict = false ∨
        ∀ token ∈ options.dialect.tokens text, token.kind ≠ .illegal) :
    (options.read text).result = .ok (options.dialect.tokens text) := by
  cases strictness : options.strict with
  | false =>
      exact result_read_of_lenient strictness
  | true =>
      rw [strictness] at legal
      rw [result_read_of_strict strictness]
      exact Dialect.readStrictly_of_legal (by simpa using legal)

end Options

namespace Invocation

open CommandLine.Arguments (sourceText)

variable
  {invocation : Invocation}
  {arguments : CommandLine.Arguments}
  {source : CommandLine.Source}
  {text : String}

/-- Neither the environment nor a flag asks for another log than the default one. -/
structure LogsByDefault
    (environment : CommandLine.Environment)
    (arguments : CommandLine.Arguments) :
    Prop where
  unfiltered : environment.logFilter? = none
  terse : arguments.verbose = false

/-- A session with the default log writes no notes. -/
theorem LogsByDefault.write_session
    {environment : CommandLine.Environment}
    (quiet : LogsByDefault environment arguments)
    (notes : List Log.Note) :
    (arguments.session environment).log.write notes = "" := by
  simp only [CommandLine.Arguments.session, quiet.unfiltered, quiet.terse]
  exact Log.Settings.write_default _ notes

/-- No reading leaves anything in the default log. -/
theorem LogsByDefault.logOf
    {environment : CommandLine.Environment}
    (quiet : LogsByDefault environment arguments)
    (reading : Reading) :
    (arguments.session environment).logOf reading = {} := by
  rw [Session.logOf, quiet.write_session]

@[simp]
theorem options_session (environment : CommandLine.Environment) :
    (arguments.session environment).options = arguments.options :=
  rfl

@[simp]
theorem dumbTerminal_session (environment : CommandLine.Environment) :
    (arguments.session environment).dumbTerminal = environment.dumbTerminal :=
  rfl

/-- Without a source a run is its session. -/
theorem proceed_of_no_source
    (quiet : LogsByDefault invocation.environment arguments)
    (none : arguments.source = none) :
    invocation.proceed arguments =
      (arguments.session invocation.environment).outcome
        invocation.input := by
  simp only [proceed, CommandLine.Arguments.opening, none,
    quiet.write_session]
  exact Outcome.after_empty _

/-- A source that cannot be read leaves the error alone. -/
theorem proceed_of_unread
    {failure : Failure}
    (quiet : LogsByDefault invocation.environment arguments)
    (given : arguments.source = some source)
    (unread : sourceText invocation.fileAt source = .error failure) :
    invocation.proceed arguments =
      { exit := 1, output := Output.error failure.message } := by
  simp only [proceed, CommandLine.Arguments.opening, given, unread,
    quiet.write_session]
  rfl

/-- Strict reading that fails leaves the error alone. -/
theorem proceed_of_illegal
    {fault : IllegalCharacter}
    (quiet : LogsByDefault invocation.environment arguments)
    (given : arguments.source = some source)
    (found : sourceText invocation.fileAt source = .ok text)
    (fails : (arguments.options.read text).result = .error fault) :
    invocation.proceed arguments =
      { exit := 1, output := Output.error fault.message } := by
  have silent := quiet.logOf (arguments.options.read text)
  simp only [proceed, CommandLine.Arguments.opening, given, found,
    options_session, fails, silent, quiet.write_session]
  rfl

/-- A source that is read is listed, and then a session follows or nothing does. -/
theorem proceed_of_read
    {tokens : List Token}
    (quiet : LogsByDefault invocation.environment arguments)
    (given : arguments.source = some source)
    (found : sourceText invocation.fileAt source = .ok text)
    (read : (arguments.options.read text).result = .ok tokens) :
    invocation.proceed arguments =
      if arguments.interactive then
        ((arguments.session invocation.environment).outcome
          invocation.input).after { stdout := Listing.render tokens }
      else
        { exit := 0, output := { stdout := Listing.render tokens } } := by
  have silent := quiet.logOf (arguments.options.read text)
  have listed :
      (arguments.session invocation.environment).outputOf
          (arguments.options.read text) =
        { stdout := Listing.render tokens } := by
    simp only [Session.outputOf, silent, read, Output.empty_append]
  simp only [proceed, CommandLine.Arguments.opening, given, found,
    options_session, read, listed, quiet.write_session, Output.empty_append]
  cases arguments.interactive <;> rfl

end Invocation

end MonkeyTokens
