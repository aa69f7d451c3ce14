import Mathlib.Data.List.Forall2
import MonkeyTokens.Proofs.ErrorTexts
import MonkeyTokens.Proofs.Runs

namespace MonkeyTokens

/-!
# Sessions line by line

A line either asks about its text, and then the session answers it and goes on as if
the line had never been there, or it ends the session: by itself if the line is a
farewell, with a failure if it is no text, and without a word if it is broken.  So
what a session writes is what it writes for the lines that ask, one after another,
and nothing behind the line that ends it matters.
-/

namespace Text.Line

/-- A line whose text is a farewell once the white space around it is set aside. -/
def IsFarewell (line : Line) : Prop :=
  ∃ text,
    line.text = .ok text ∧
      WhiteSpace.trim text.toList ∈ Session.farewells

/-- A line that has some text and is no farewell. -/
structure Asks
    (line : Line)
    (text : String) :
    Prop where
  found : line.text = .ok text
  stays : WhiteSpace.trim text.toList ∉ Session.farewells

/-- A line that ends a session in a certain way. -/
inductive Ends : Line → Ending → Prop where
  | farewell
      {line : Line}
      (farewell : line.IsFarewell) :
      Ends line .finished
  | notText
      {line : Line}
      (notText : ¬ IsUtf8 line.bytes) :
      Ends line (.failed (.lineUnread (.input .notUnicode)))
  | broken
      {line : Line}
      (broken : line.IsBroken) :
      Ends line .aborted

/-- Every line asks or ends the session. -/
theorem asks_or_ends (line : Line) :
    (∃ text, line.Asks text) ∨ ∃ ending, line.Ends ending := by
  cases found : line.text with
  | error refusal =>
      cases refusal with
      | notUnicode =>
          exact .inr ⟨_, .notText (line.text_eq_notUnicode_iff.mp found)⟩
      | brokenCharacter =>
          exact .inr ⟨_, .broken found⟩
  | ok text =>
      by_cases farewell : WhiteSpace.trim text.toList ∈ Session.farewells
      · exact .inr ⟨_, .farewell ⟨text, found, farewell⟩⟩
      · exact .inl ⟨text, found, farewell⟩

/-- A line that asks is none of those that end a session. -/
theorem Asks.goes_on
    {line : Line}
    {text : String}
    (asks : line.Asks text) :
    ¬ line.IsFarewell ∧ IsUtf8 line.bytes ∧ ¬ line.IsBroken := by
  refine ⟨?_, ?_, ?_⟩
  · rintro ⟨other, found, farewell⟩
    obtain rfl : text = other := by
      simpa [asks.found] using found
    exact asks.stays farewell
  · by_contra notText
    have refused := line.text_eq_notUnicode_iff.mpr notText
    rw [asks.found] at refused
    cases refused
  · intro broken
    have refused := asks.found.symm.trans broken
    cases refused

/-- No line that asks ends a session. -/
theorem goes_on_of_mem
    {asking : List Line}
    {texts : List String}
    (ask : List.Forall₂ Asks asking texts) :
    ∀ line ∈ asking,
      ¬ line.IsFarewell ∧ IsUtf8 line.bytes ∧ ¬ line.IsBroken := by
  induction ask with
  | nil =>
      simp
  | cons asks _ inductionHypothesis =>
      simpa using ⟨asks.goes_on, inductionHypothesis⟩

/-- Lines that do not end a session ask. -/
theorem exists_asks_of_mem
    {lines : List Line}
    (goOn :
      ∀ line ∈ lines,
        ¬ line.IsFarewell ∧ IsUtf8 line.bytes ∧ ¬ line.IsBroken) :
    ∃ texts, List.Forall₂ Asks lines texts := by
  induction lines with
  | nil =>
      exact ⟨[], .nil⟩
  | cons line later inductionHypothesis =>
      rw [List.forall_mem_cons] at goOn
      obtain ⟨⟨staying, isText, whole⟩, below⟩ := goOn
      obtain ⟨texts, ask⟩ := inductionHypothesis below
      rcases line.asks_or_ends with ⟨text, asks⟩ | ⟨ending, ends⟩
      · exact ⟨text :: texts, .cons asks ask⟩
      · cases ends with
        | farewell farewell => exact (staying farewell).elim
        | notText notText => exact (notText isText).elim
        | broken broken => exact (whole broken).elim

/-- Either all lines ask about their texts, or a first one ends the session. -/
theorem all_ask_or_first_ends (lines : List Line) :
    (∃ texts, List.Forall₂ Asks lines texts) ∨
      ∃ asking texts line later ending,
        lines = asking ++ line :: later ∧
          List.Forall₂ Asks asking texts ∧
          line.Ends ending := by
  induction lines with
  | nil =>
      exact .inl ⟨[], .nil⟩
  | cons line later inductionHypothesis =>
      rcases line.asks_or_ends with ⟨text, asks⟩ | ⟨ending, ends⟩
      · rcases inductionHypothesis with
            ⟨texts, ask⟩ |
            ⟨asking, texts, last, below, ending, rfl, ask, ends⟩
        · exact .inl ⟨text :: texts, .cons asks ask⟩
        · exact .inr
            ⟨line :: asking, text :: texts, last, below, ending, rfl,
              .cons asks ask, ends⟩
      · exact .inr ⟨[], [], line, later, ending, rfl, .nil, ends⟩

/--
Without backspaces a line of a text asks about the text, less a carriage return,
unless it is a farewell.
-/
theorem asks_utf8
    {text : String}
    (unerased : '\x08' ∉ text.toList)
    (stays : WhiteSpace.trim text.toList ∉ Session.farewells) :
    Asks { bytes := utf8 text, ended := true }
      (String.ofList (dropReturn text.toList)) where
  found := text_utf8 unerased true
  stays := by
    rwa [String.toList_ofList, trim_dropReturn]

/-- A last line without a line feed asks about all of its text. -/
theorem asks_utf8_last
    {text : String}
    (unerased : '\x08' ∉ text.toList)
    (stays : WhiteSpace.trim text.toList ∉ Session.farewells) :
    Asks { bytes := utf8 text, ended := false } text where
  found :=
    (text_utf8 unerased false).trans (congrArg Except.ok String.ofList_toList)
  stays := stays

/-- What is taken off a line at its end is spacing. -/
theorem exists_gap_of_dropReturn (text : String) :
    ∃ gap : String,
      IsGap gap.toList ∧
        text = String.ofList (dropReturn text.toList) ++ gap := by
  rcases dropReturn_cases text.toList with same | returned
  · refine ⟨"", IsGap.nil, ?_⟩
    rw [same, String.ofList_toList, String.append_empty]
  · have spaced : IsGap "\r".toList :=
      isGap_of_mem_spacings (by simp [spacings])
    refine ⟨"\r", spaced, String.toList_inj.mp ?_⟩
    simpa using returned

/-- What is taken off a line at its end does not matter where spacing there does not. -/
theorem congr_dropReturn
    {Value : Type}
    {value : String → Value}
    (trails :
      ∀ gap text : String,
        IsGap gap.toList → value (text ++ gap) = value text)
    (text : String) :
    value (String.ofList (dropReturn text.toList)) = value text := by
  obtain ⟨gap, spaced, shape⟩ := exists_gap_of_dropReturn text
  have trailed := trails gap (String.ofList (dropReturn text.toList)) spaced
  rw [← shape] at trailed
  exact trailed.symm

end Text.Line

/-- The error of a single line stands on its first line. -/
theorem Dialect.message_of_unbroken
    {dialect : Dialect}
    {line : String}
    {fault : IllegalCharacter}
    (unbroken : '\n' ∉ line.toList)
    (fails : dialect.readStrictly line = .error fault) :
    fault.message =
      "Illegal character " ++ Text.Quoted.character fault.character ++
        " at line 1, column " ++ toString (fault.offset + 1) := by
  have first :
      " at line 1, column " = " at line " ++ toString 1 ++ ", column " := by
    decide +kernel
  delta IllegalCharacter.message
  rw [place_of_unbroken unbroken fails, first]
  simp only [String.append_assoc]

/-- An error is a single line. -/
theorem IllegalCharacter.feed_not_mem_message (fault : IllegalCharacter) :
    '\n' ∉ fault.message.toList :=
  fault.isControlFree_message.feed_not_mem

/-- A carriage return at the end of a line does not change its tokens. -/
theorem Dialect.tokens_dropReturn
    (dialect : Dialect)
    (text : String) :
    dialect.tokens (String.ofList (Text.Line.dropReturn text.toList)) =
      dialect.tokens text :=
  Text.Line.congr_dropReturn
    (fun _ front spaced => dialect.tokens_trail spaced front) text

theorem Dialect.readStrictly_dropReturn
    (dialect : Dialect)
    (text : String) :
    dialect.readStrictly
        (String.ofList (Text.Line.dropReturn text.toList)) =
      dialect.readStrictly text :=
  Text.Line.congr_dropReturn
    (fun _ front spaced => dialect.readStrictly_trail spaced front) text

/-- What is listed for a line with a text: nothing if it is blank or refused. -/
def Options.answer
    (options : Options)
    (text : String) :
    String :=
  if Text.WhiteSpace.trim text.toList = [] then
    ""
  else
    match (options.read text).result with
    | .ok tokens => Listing.render tokens
    | .error _ => ""

namespace Session

variable
  {session : Session}
  {line : Text.Line}
  {text : String}

/-- The outcome of a session from some line of its input on. -/
def loop
    (session : Session)
    (lines : List Text.Line) :
    Outcome :=
  let transcript := session.answers lines
  .ofEnding (Output.join transcript.outputs) transcript.ending

/-- What a session writes for a text that is no farewell. -/
def replyTo
    (session : Session)
    (text : String) :
    Output :=
  if Text.WhiteSpace.trim text.toList = [] then
    {}
  else
    session.outputOf (session.options.read text)

/-- What a session writes in all for some texts that are no farewells. -/
def replies
    (session : Session)
    (texts : List String) :
    Output :=
  Output.join (texts.map fun text => session.awaiting ++ session.replyTo text)

/-- A session greets and then goes through the lines of its input. -/
theorem outcome_eq_loop
    (session : Session)
    (input : List UInt8) :
    session.outcome input =
      (session.loop (Text.Line.split input)).after banner := by
  rw [outcome, loop, ← Outcome.ofEnding_append, ← Output.join_cons]
  rfl

theorem replyTo_of_blank
    (session : Session)
    (blank : Text.WhiteSpace.trim text.toList = []) :
    session.replyTo text = {} :=
  if_pos blank

/-- The listing of a reply is the answer to its text. -/
theorem stdout_replyTo
    (session : Session)
    (text : String) :
    (session.replyTo text).stdout = session.options.answer text := by
  rw [replyTo, Options.answer]
  split
  · rfl
  · rw [outputOf, Output.stdout_append, logOf, String.empty_append]
    cases (session.options.read text).result <;> rfl

theorem stdout_awaiting
    (unprompted : session.dumbTerminal = false) :
    session.awaiting.stdout = "" := by
  rw [awaiting, unprompted]
  rfl

/-- The replies of a session that is not prompted for list the answers to its texts. -/
theorem stdout_replies
    (unprompted : session.dumbTerminal = false)
    (texts : List String) :
    (session.replies texts).stdout =
      String.join (texts.map session.options.answer) := by
  simp only [replies, Output.join, List.map_map, Function.comp_def,
    Output.stdout_append, stdout_awaiting unprompted, String.empty_append,
    stdout_replyTo]

/-- A line that asks is replied to. -/
theorem turn_of_asks
    (asks : line.Asks text) :
    session.turn line = .on (session.replyTo text) := by
  have going :
      farewells.contains (Text.WhiteSpace.trim text.toList) = false := by
    simpa using asks.stays
  have replied :
      session.reply text =
        if Text.WhiteSpace.trim text.toList = [] then
          .silence
        else
          .answer (session.options.read text) := by
    simp only [reply, going, Bool.false_eq_true, ↓reduceIte]
  by_cases blank : Text.WhiteSpace.trim text.toList = [] <;>
    simp only [turn, asks.found, replied, blank, replyTo, ↓reduceIte]

/-- A line that ends the session ends it the way it says. -/
theorem turn_of_ends
    {ending : Ending}
    (ends : line.Ends ending) :
    session.turn line = .over ending := by
  cases ends with
  | farewell farewell =>
      obtain ⟨text, found, stops⟩ := farewell
      have stopping :
          farewells.contains (Text.WhiteSpace.trim text.toList) = true := by
        simpa using stops
      simp only [turn, found, reply, stopping, ↓reduceIte]
  | notText notText =>
      simp only [turn, line.text_eq_notUnicode_iff.mpr notText]
  | broken broken =>
      have refused : line.text = .error .brokenCharacter := broken
      simp only [turn, refused]

/-- After a line that asks about a text the session goes on with the lines below. -/
theorem loop_of_asks
    (asks : line.Asks text)
    (later : List Text.Line) :
    session.loop (line :: later) =
      (session.loop later).after
        (session.awaiting ++ session.replyTo text) := by
  rw [loop, answers, turn_of_asks asks, loop, ← Outcome.ofEnding_append,
    ← Output.join_cons]
  rfl

/-- A line that ends the session ends it whatever is below. -/
theorem loop_of_ends
    {ending : Ending}
    (ends : line.Ends ending)
    (later : List Text.Line) :
    session.loop (line :: later) = .ofEnding session.awaiting ending := by
  rw [loop, answers, turn_of_ends ends]
  simp only [Output.join_cons, Output.join_nil, Output.append_empty]

theorem loop_nil (session : Session) :
    session.loop [] =
      { exit := 0, output := session.awaiting ++ session.closing } := by
  simp only [loop, answers, Output.join_cons, Output.join_nil,
    Output.append_empty]
  rfl

/-- Lines that ask are answered, and the session goes on as it would without them. -/
theorem loop_append
    {asking : List Text.Line}
    {texts : List String}
    (ask : List.Forall₂ Text.Line.Asks asking texts)
    (later : List Text.Line) :
    session.loop (asking ++ later) =
      (session.loop later).after (session.replies texts) := by
  induction ask with
  | nil =>
      exact (Outcome.after_empty _).symm
  | cons asks others inductionHypothesis =>
      rw [List.cons_append, loop_of_asks asks, inductionHypothesis,
        Outcome.after_after, replies, replies, List.map_cons,
        Output.join_cons]

/-- A session whose lines all ask replies to each of them and ends by itself. -/
theorem loop_of_all_ask
    {asking : List Text.Line}
    {texts : List String}
    (ask : List.Forall₂ Text.Line.Asks asking texts) :
    session.loop asking =
      { exit := 0
        output :=
          session.replies texts ++ (session.awaiting ++ session.closing) } := by
  have whole := session.loop_append ask []
  rw [List.append_nil, loop_nil] at whole
  exact whole

/-- What stands below a line that ends the session does not matter, whatever stands above it. -/
theorem loop_append_ends
    {ending : Ending}
    (ends : line.Ends ending)
    (earlier later other : List Text.Line) :
    session.loop (earlier ++ line :: later) =
      session.loop (earlier ++ line :: other) := by
  induction earlier with
  | nil =>
      rw [List.nil_append, List.nil_append, loop_of_ends ends,
        loop_of_ends ends]
  | cons above others inductionHypothesis =>
      rw [List.cons_append, List.cons_append]
      rcases above.asks_or_ends with ⟨text, asks⟩ | ⟨first, endsFirst⟩
      · rw [loop_of_asks asks, loop_of_asks asks, inductionHypothesis]
      · rw [loop_of_ends endsFirst, loop_of_ends endsFirst]

/-- Where nothing is prompted for, a blank line anywhere is as none. -/
theorem loop_append_blank
    (silent : session.awaiting = {})
    (asks : line.Asks text)
    (blank : Text.WhiteSpace.trim text.toList = [])
    (earlier later : List Text.Line) :
    session.loop (earlier ++ line :: later) =
      session.loop (earlier ++ later) := by
  induction earlier with
  | nil =>
      rw [List.nil_append, List.nil_append, loop_of_asks asks, silent,
        replyTo_of_blank session blank, Output.append_empty,
        Outcome.after_empty]
  | cons above others inductionHypothesis =>
      rw [List.cons_append, List.cons_append]
      rcases above.asks_or_ends with ⟨other, asksOther⟩ | ⟨ending, ends⟩
      · rw [loop_of_asks asksOther, loop_of_asks asksOther,
          inductionHypothesis]
      · rw [loop_of_ends ends, loop_of_ends ends]

/-- A session comes to a line that ends it, or a line above has ended it. -/
theorem exit_loop_of_ends
    {earlier : List Text.Line}
    {ending : Ending}
    (ends : line.Ends ending)
    (later : List Text.Line) :
    (session.loop (earlier ++ line :: later)).exit = ending.status ∨
      ∃ above ∈ earlier, ∃ other,
        above.Ends other ∧
          (session.loop (earlier ++ line :: later)).exit = other.status := by
  induction earlier with
  | nil =>
      left
      rw [List.nil_append, loop_of_ends ends]
      rfl
  | cons above others inductionHypothesis =>
      rw [List.cons_append]
      rcases above.asks_or_ends with ⟨text, asks⟩ | ⟨first, endsFirst⟩
      · rw [loop_of_asks asks]
        rcases inductionHypothesis with reached | ⟨stop, member, stopped⟩
        · exact .inl reached
        · exact .inr ⟨stop, List.mem_cons_of_mem above member, stopped⟩
      · refine .inr ⟨above, List.mem_cons_self, first, endsFirst, ?_⟩
        rw [loop_of_ends endsFirst]
        rfl

/--
A session that does not end by itself has replied to some lines, all of which ask,
and then met one that ended it.
-/
theorem loop_of_exit_ne_zero
    {lines : List Text.Line}
    (failed : (session.loop lines).exit ≠ 0) :
    ∃ asking texts line later ending,
      lines = asking ++ line :: later ∧
        List.Forall₂ Text.Line.Asks asking texts ∧
        line.Ends ending ∧
        session.loop lines =
          .ofEnding (session.replies texts ++ session.awaiting) ending := by
  rcases Text.Line.all_ask_or_first_ends lines with
      ⟨texts, ask⟩ | ⟨asking, texts, line, later, ending, rfl, ask, ends⟩
  · rw [loop_of_all_ask ask] at failed
    exact (failed rfl).elim
  · refine ⟨asking, texts, line, later, ending, rfl, ask, ends, ?_⟩
    rw [loop_append ask, loop_of_ends ends, Outcome.ofEnding_append]

/--
A session that does not end by itself has listed the answers to the lines above the one
that ended it, which is no text or broken.
-/
theorem listed_of_exit_ne_zero
    {lines : List Text.Line}
    (failed : (session.loop lines).exit ≠ 0) :
    ∃ asking texts line later,
      lines = asking ++ line :: later ∧
        List.Forall₂ Text.Line.Asks asking texts ∧
        (¬ Text.IsUtf8 line.bytes ∨ line.IsBroken) ∧
        (session.dumbTerminal = false →
          (session.loop lines).output.stdout =
            String.join (texts.map session.options.answer)) := by
  obtain ⟨asking, texts, line, later, ending, shape, ask, ends, settled⟩ :=
    session.loop_of_exit_ne_zero failed
  refine ⟨asking, texts, line, later, shape, ask, ?_, ?_⟩
  · cases ends with
    | notText notText =>
        exact .inl notText
    | broken broken =>
        exact .inr broken
    | farewell _ =>
        rw [settled] at failed
        exact (failed rfl).elim
  · intro unprompted
    rw [settled, Outcome.stdout_ofEnding, Output.stdout_append,
      stdout_awaiting unprompted, String.append_empty,
      session.stdout_replies unprompted]

/-- A session that is not aborted fails exactly if a line above the first farewell is no text. -/
theorem exit_loop_eq_one_iff
    {lines : List Text.Line}
    (unaborted : (session.loop lines).exit ≠ 101) :
    (session.loop lines).exit = 1 ↔
      ∃ earlier line later,
        lines = earlier ++ line :: later ∧
          (∀ above ∈ earlier, ¬ above.IsFarewell) ∧
          ¬ Text.IsUtf8 line.bytes := by
  constructor
  · intro failed
    obtain ⟨asking, texts, line, later, ending, shape, ask, ends, settled⟩ :=
      session.loop_of_exit_ne_zero (by rw [failed]; exact Nat.one_ne_zero)
    rw [settled] at failed
    cases ends with
    | notText notText =>
        refine ⟨asking, line, later, shape, ?_, notText⟩
        intro above member
        exact (Text.Line.goes_on_of_mem ask above member).1
    | farewell _ => cases failed
    | broken _ => cases failed
  · rintro ⟨earlier, line, later, rfl, staying, notText⟩
    rcases session.exit_loop_of_ends (.notText notText) later with
        failed | ⟨above, member, other, ends, ended⟩
    · exact failed
    · cases ends with
      | notText _ => exact ended
      | farewell farewell => exact (staying above member farewell).elim
      | broken _ => exact (unaborted ended).elim

/--
A session is aborted exactly if a line above the first farewell and above the first
line that is no text is broken.
-/
theorem exit_loop_eq_aborted_iff
    (session : Session)
    (lines : List Text.Line) :
    (session.loop lines).exit = 101 ↔
      ∃ earlier line later,
        lines = earlier ++ line :: later ∧
          (∀ above ∈ earlier,
            ¬ above.IsFarewell ∧ Text.IsUtf8 above.bytes) ∧
          line.IsBroken := by
  constructor
  · intro failed
    obtain ⟨asking, texts, line, later, ending, shape, ask, ends, settled⟩ :=
      session.loop_of_exit_ne_zero (by rw [failed]; decide)
    rw [settled] at failed
    cases ends with
    | broken broken =>
        refine ⟨asking, line, later, shape, ?_, broken⟩
        intro above member
        have goesOn := Text.Line.goes_on_of_mem ask above member
        exact ⟨goesOn.1, goesOn.2.1⟩
    | farewell _ => cases failed
    | notText _ => cases failed
  · rintro ⟨earlier, line, later, rfl, goOn, broken⟩
    rcases session.exit_loop_of_ends (.broken broken) later with
        aborted | ⟨above, member, other, ends, ended⟩
    · exact aborted
    · cases ends with
      | broken _ => exact ended
      | farewell farewell => exact ((goOn above member).1 farewell).elim
      | notText notText => exact (notText (goOn above member).2).elim

/-- A session ends by itself, fails or is aborted. -/
theorem exit_loop_cases
    (session : Session)
    (lines : List Text.Line) :
    (session.loop lines).exit = 0 ∨ (session.loop lines).exit = 1 ∨
      (session.loop lines).exit = 101 := by
  by_cases failed : (session.loop lines).exit = 0
  · exact .inl failed
  · obtain ⟨_, _, _, _, ending, -, -, -, settled⟩ :=
      session.loop_of_exit_ne_zero failed
    rw [settled]
    cases ending with
    | finished => exact .inl rfl
    | failed _ => exact .inr (.inl rfl)
    | aborted => exact .inr (.inr rfl)

/-- What stands below a farewell in the input does not matter. -/
theorem loop_split_farewell
    {front bytes : List UInt8}
    (ends : Text.Line.EndsLine front)
    (unbroken : Text.Line.feed ∉ bytes)
    (farewell : Text.Line.IsFarewell { bytes, ended := true })
    (rest other : List UInt8) :
    session.loop
        (Text.Line.split (front ++ bytes ++ Text.Line.feed :: rest)) =
      session.loop
        (Text.Line.split (front ++ bytes ++ Text.Line.feed :: other)) := by
  have cut (below : List UInt8) :
      Text.Line.split (front ++ bytes ++ Text.Line.feed :: below) =
        Text.Line.split front ++
          { bytes, ended := true } :: Text.Line.split below := by
    rw [List.append_assoc, Text.Line.split_append ends,
      Text.Line.split_append_feed unbroken]
  rw [cut, cut]
  exact loop_append_ends (.farewell farewell) _ _ _

/-- Input behind lines that ask goes on where they end. -/
theorem loop_split_append
    {front : List UInt8}
    {texts : List String}
    (ends : Text.Line.EndsLine front)
    (ask : List.Forall₂ Text.Line.Asks (Text.Line.split front) texts)
    (rest : List UInt8) :
    session.loop (Text.Line.split (front ++ rest)) =
      (session.loop (Text.Line.split rest)).after
        (session.replies texts) := by
  rw [Text.Line.split_append ends, loop_append ask]

/-- A line that is put behind lines that ask adds its reply to theirs. -/
theorem loop_split_insert
    {front : List UInt8}
    {texts : List String}
    (ends : Text.Line.EndsLine front)
    (ask : List.Forall₂ Text.Line.Asks (Text.Line.split front) texts)
    (unbroken : '\n' ∉ text.toList)
    (unerased : '\x08' ∉ text.toList)
    (stays : Text.WhiteSpace.trim text.toList ∉ farewells)
    (rest : List UInt8) :
    session.loop
        (Text.Line.split (front ++ Text.utf8 (text ++ "\n") ++ rest)) =
      ((session.loop (Text.Line.split rest)).after
        (session.awaiting ++
          session.replyTo
            (String.ofList (Text.Line.dropReturn text.toList)))).after
        (session.replies texts) := by
  rw [List.append_assoc, Text.Line.split_append ends,
    Text.Line.split_utf8_line unbroken, loop_append ask,
    loop_of_asks (Text.Line.asks_utf8 unerased stays)]

/-- Where nothing is prompted for, a blank line put in front of any line is as none. -/
theorem loop_split_blank
    {front : List UInt8}
    (silent : session.awaiting = {})
    (ends : Text.Line.EndsLine front)
    (unbroken : '\n' ∉ text.toList)
    (unerased : '\x08' ∉ text.toList)
    (blank : Text.WhiteSpace.trim text.toList = [])
    (rest : List UInt8) :
    session.loop
        (Text.Line.split (front ++ Text.utf8 (text ++ "\n") ++ rest)) =
      session.loop (Text.Line.split (front ++ rest)) := by
  have stays : Text.WhiteSpace.trim text.toList ∉ farewells := by
    rw [blank]
    decide
  have blankToo :
      Text.WhiteSpace.trim
          (String.ofList (Text.Line.dropReturn text.toList)).toList = [] := by
    rw [String.toList_ofList, Text.Line.trim_dropReturn, blank]
  rw [List.append_assoc, Text.Line.split_append ends,
    Text.Line.split_utf8_line unbroken, Text.Line.split_append ends]
  exact
    loop_append_blank silent (Text.Line.asks_utf8 unerased stays) blankToo
      _ _

end Session

namespace Invocation

variable
  {words : List String}
  {environment : CommandLine.Environment}
  {fileAt : String → Except InputFault (List UInt8)}
  {arguments : CommandLine.Arguments}

/-- A session that is not prompted for writes nothing of its own by default. -/
theorem LogsByDefault.awaiting
    (quiet : LogsByDefault environment arguments)
    (unprompted : environment.dumbTerminal = false) :
    (arguments.session environment).awaiting = {} := by
  simp only [Session.awaiting, dumbTerminal_session, unprompted,
    quiet.write_session]
  rfl

theorem LogsByDefault.closing
    (quiet : LogsByDefault environment arguments) :
    (arguments.session environment).closing = {} := by
  rw [Session.closing, quiet.write_session]

/-- The reply to a line that strict reading refuses is the error alone. -/
theorem LogsByDefault.replyTo_of_refused
    {text : String}
    {fault : IllegalCharacter}
    (quiet : LogsByDefault environment arguments)
    (strict : arguments.options.strict = true)
    (present : Text.WhiteSpace.trim text.toList ≠ [])
    (fails : arguments.options.dialect.readStrictly text = .error fault) :
    (arguments.session environment).replyTo
        (String.ofList (Text.Line.dropReturn text.toList)) =
      Output.error fault.message := by
  have presentToo :
      Text.WhiteSpace.trim
          (String.ofList (Text.Line.dropReturn text.toList)).toList ≠ [] := by
    rwa [String.toList_ofList, Text.Line.trim_dropReturn]
  have refused :
      ((arguments.session environment).options.read
          (String.ofList (Text.Line.dropReturn text.toList))).result =
        .error fault := by
    rw [← fails, ← arguments.options.dialect.readStrictly_dropReturn]
    exact Options.result_read_of_strict strict
  rw [Session.replyTo, if_neg presentToo, Session.outputOf, quiet.logOf,
    refused, Output.empty_append]
  rfl

/-- By default lines that ask leave nothing behind but the replies to them. -/
theorem LogsByDefault.loop_of_all_ask
    {asking : List Text.Line}
    {texts : List String}
    (quiet : LogsByDefault environment arguments)
    (unprompted : environment.dumbTerminal = false)
    (ask : List.Forall₂ Text.Line.Asks asking texts) :
    (arguments.session environment).loop asking =
      { exit := 0
        output := (arguments.session environment).replies texts } := by
  rw [Session.loop_of_all_ask ask, quiet.awaiting unprompted, quiet.closing,
    Output.append_empty, Output.append_empty]

/-- A line that strict reading refuses adds its error behind what the lines above leave. -/
theorem LogsByDefault.loop_split_refused
    {front : List UInt8}
    {texts : List String}
    {text : String}
    {fault : IllegalCharacter}
    (quiet : LogsByDefault environment arguments)
    (unprompted : environment.dumbTerminal = false)
    (ends : Text.Line.EndsLine front)
    (ask : List.Forall₂ Text.Line.Asks (Text.Line.split front) texts)
    (unbroken : '\n' ∉ text.toList)
    (unerased : '\x08' ∉ text.toList)
    (strict : arguments.options.strict = true)
    (present : Text.WhiteSpace.trim text.toList ≠ [])
    (stays : Text.WhiteSpace.trim text.toList ∉ Session.farewells)
    (fails : arguments.options.dialect.readStrictly text = .error fault)
    (rest : List UInt8) :
    (arguments.session environment).loop
        (Text.Line.split (front ++ Text.utf8 (text ++ "\n") ++ rest)) =
      (((arguments.session environment).loop
        (Text.Line.split rest)).after (Output.error fault.message)).after
        ((arguments.session environment).replies texts) := by
  rw [Session.loop_split_insert ends ask unbroken unerased stays,
    quiet.awaiting unprompted,
    quiet.replyTo_of_refused strict present fails, Output.empty_append]

/-- A run that comes to its session is that session, behind what was written before. -/
theorem run_of_session
    (accepted : CommandLine.start environment words = .ok arguments)
    (reached :
      (arguments.opening (arguments.session environment)
        fileAt).continuation = .session)
    (input : List UInt8) :
    run { words, environment, fileAt, input } =
      ((arguments.session environment).loop (Text.Line.split input)).after
        ((arguments.opening (arguments.session environment) fileAt).output ++
          Session.banner) := by
  simp only [run, accepted, proceed, reached, Session.outcome_eq_loop,
    Outcome.after_after]

end Invocation

end MonkeyTokens
