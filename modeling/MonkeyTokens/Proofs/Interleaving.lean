import MonkeyTokens.Proofs.Calls

namespace MonkeyTokens

/-!
# Interleaved calls

`nextToken` and `next?` share the position of a cursor but not its end.  Whatever
order they are called in, and whatever is built on `next?`, a cursor answers as a
machine does that knows nothing but the stream of its tokens, how many of them it
has handed out, and whether `next?` has handed out a closing one.
-/

/-- The tokens of a text: those that do not close it, and the one that does. -/
structure Stream where
  earlier : List Placed
  closing : Placed
  unended : ∀ placed ∈ earlier, placed.token.isEnd = false
  ended : closing.token.isEnd = true

namespace Stream

/-- All tokens of a stream, in order. -/
def tokens (stream : Stream) : List Placed :=
  stream.earlier ++ [stream.closing]

/-- The token with a number, counted from zero; after the closing token it is that one again. -/
def get
    (stream : Stream)
    (number : Nat) :
    Placed :=
  stream.earlier.getD number stream.closing

/-- The tokens from a number on; the closing token is always among them. -/
def behind
    (stream : Stream)
    (number : Nat) :
    List Placed :=
  stream.earlier.drop number ++ [stream.closing]

/-- The stream of a text, as a fresh cursor gives it. -/
def ofText
    (dialect : Dialect)
    (text : String) :
    Stream where
  earlier := (Cursor.ofText dialect text).drain.1.dropLast
  closing := { offset := text.length, token := .endOfInput }
  unended := by
    obtain ⟨earlier, shape, unended⟩ :=
      Cursor.drain_closed (Cursor.Stands.ofText dialect text)
    rw [shape, List.dropLast_concat]
    simpa [Token.isEnd] using unended
  ended := rfl

theorem tokens_ofText
    (dialect : Dialect)
    (text : String) :
    (ofText dialect text).tokens =
      (Cursor.ofText dialect text).drain.1 := by
  obtain ⟨earlier, shape, -⟩ :=
    Cursor.drain_closed (Cursor.Stands.ofText dialect text)
  simp [tokens, ofText, shape, String.length_toList]

/-- The closing token ends what is behind a number, and nothing before it does. -/
theorem behind_eq_cons
    (stream : Stream)
    (number : Nat) :
    stream.behind number =
      stream.get number ::
        if (stream.get number).token.isEnd then
          []
        else
          stream.behind (number + 1) := by
  by_cases within : number < stream.earlier.length
  · have found : stream.get number = stream.earlier[number] := by
      simp [get, within]
    have unended := stream.unended _ (List.getElem_mem within)
    rw [behind, List.drop_eq_getElem_cons within, found, unended]
    rfl
  · have dropped : stream.earlier.drop number = [] :=
      List.drop_eq_nil_of_le (by omega)
    have beyond : stream.earlier[number]? = none :=
      List.getElem?_eq_none (by omega)
    simp [behind, get, dropped, beyond, stream.ended]

/-- Behind the closing token the stream is as before it. -/
theorem behind_succ_of_isEnd
    {stream : Stream}
    {number : Nat}
    (ends : (stream.get number).token.isEnd = true) :
    stream.behind (number + 1) = stream.behind number := by
  by_cases within : number < stream.earlier.length
  · have unended := stream.unended _ (List.getElem_mem within)
    simp [get, List.getElem?_eq_getElem within, unended] at ends
  · simp only [behind]
    rw [List.drop_eq_nil_of_le (by omega),
      List.drop_eq_nil_of_le (by omega)]

/-- Numbers past the closing token find it again. -/
theorem get_of_le
    {stream : Stream}
    {number : Nat}
    (past : stream.tokens.length ≤ number) :
    stream.get number = stream.closing := by
  have beyond : stream.earlier[number]? = none := by
    apply List.getElem?_eq_none
    simp only [tokens, List.length_append, List.length_singleton] at past
    omega
  simp [get, beyond]

theorem getElem?_tokens
    {stream : Stream}
    {number : Nat}
    (within : number < stream.tokens.length) :
    stream.tokens[number]? = some (stream.get number) := by
  simp only [tokens, List.length_append, List.length_singleton] at within
  rcases Nat.lt_succ_iff_lt_or_eq.mp within with early | rfl
  · rw [tokens, List.getElem?_append_left early]
    simp [get, early]
  · simp [tokens, get]

/-- Counting on from zero goes through the stream and stays at its closing token. -/
theorem map_get_range
    (stream : Stream)
    (count : Nat) :
    (List.range count).map stream.get =
      stream.tokens.take count ++
        List.replicate (count - stream.tokens.length) stream.closing := by
  induction count with
  | zero =>
      simp
  | succ count inductionHypothesis =>
      rw [List.range_succ, List.map_append, inductionHypothesis,
        List.take_add_one]
      by_cases within : count < stream.tokens.length
      · have unrepeated : count - stream.tokens.length = 0 := by omega
        have still : count + 1 - stream.tokens.length = 0 := by omega
        simp [getElem?_tokens within, unrepeated, still]
      · have past : stream.tokens.length ≤ count := by omega
        have again :
            count + 1 - stream.tokens.length =
              count - stream.tokens.length + 1 := by
          omega
        simp [List.getElem?_eq_none past, get_of_le past, again,
          List.replicate_succ']

end Stream

/-- How many tokens of a stream have been handed out, and which; and whether `next?` is at its end. -/
structure Machine (stream : Stream) where
  count : Nat
  finished : Bool
  handed : List Placed

namespace Machine

variable {stream : Stream}

/-- The machine that has handed out nothing. -/
def start (stream : Stream) : Machine stream where
  count := 0
  finished := false
  handed := []

/-- Hand out the next token of the stream, or the closing one again. -/
def hand (machine : Machine stream) : Machine stream :=
  { machine with
    count := machine.count + 1
    handed := machine.handed ++ [stream.get machine.count] }

/-- The next token, whether a closing one has been given or not. -/
def nextToken (machine : Machine stream) : Token × Machine stream :=
  ((stream.get machine.count).token, machine.hand)

/-- The next token, and nothing once this has given a closing one. -/
def next? (machine : Machine stream) : Option Token × Machine stream :=
  if machine.finished then
    (none, machine)
  else
    let token := (stream.get machine.count).token
    (some token, { machine.hand with finished := token.isEnd })

/-- The offset of the token handed out last, zero before the first one. -/
def offset (machine : Machine stream) : Nat :=
  match machine.handed.getLast? with
  | none => 0
  | some placed => placed.offset

/-- The tokens that `next?` still gives. -/
def left (machine : Machine stream) : List Token :=
  if machine.finished then
    []
  else
    (stream.behind machine.count).map Placed.token

/-- Ask `next?` some times and look at none of its answers. -/
def draw : Nat → Machine stream → Machine stream
  | 0, machine => machine
  | times + 1, machine => draw times machine.next?.2

/-- A machine hands out the first of what is left. -/
theorem next?_fst (machine : Machine stream) :
    machine.next?.1 = machine.left.head? := by
  cases finished : machine.finished with
  | true =>
      simp [next?, left, finished]
  | false =>
      have shape := stream.behind_eq_cons machine.count
      simp [next?, left, finished, shape]

theorem left_next? (machine : Machine stream) :
    machine.next?.2.left = machine.left.tail := by
  cases finished : machine.finished with
  | true =>
      simp [next?, left, finished]
  | false =>
      have shape := stream.behind_eq_cons machine.count
      cases ends : (stream.get machine.count).token.isEnd <;>
        simp [next?, left, finished, shape, ends, hand]

theorem draw_of_left_eq_nil
    {machine : Machine stream}
    (nothing : machine.left = [])
    (times : Nat) :
    machine.draw times = machine := by
  have finished : machine.finished = true := by
    cases finished : machine.finished with
    | true =>
        rfl
    | false =>
        simp [left, finished, Stream.behind] at nothing
  induction times with
  | zero =>
      rfl
  | succ times inductionHypothesis =>
      simpa [draw, next?, finished] using inductionHypothesis

/-- Drawing hands out as many of the tokens that are left. -/
theorem handed_draw
    (machine : Machine stream)
    (times : Nat) :
    (machine.draw times).handed.map Placed.token =
      machine.handed.map Placed.token ++ machine.left.take times := by
  induction times generalizing machine with
  | zero =>
      simp [draw]
  | succ times inductionHypothesis =>
      cases finished : machine.finished with
      | true =>
          have nothing : machine.left = [] := by
            simp [left, finished]
          rw [draw_of_left_eq_nil nothing, nothing]
          simp
      | false =>
          have shape := stream.behind_eq_cons machine.count
          rw [draw, inductionHypothesis, left_next?]
          simp [next?, left, finished, shape, hand]

end Machine

/-- What a client asks of a reader of tokens. -/
inductive Request where
  | nextToken
  | next
  | offset
  | nth (dropped : Nat)
  | take (limit : Nat)
  | skipWhile (skipped : Token → Bool)
  | rest

namespace Request

/-- The client is given every token that is taken for it. -/
def keepsAll : Request → Bool
  | .nth _ => false
  | .skipWhile _ => false
  | _ => true

end Request

/-- What a client is answered. -/
inductive Response where
  | token (token : Token)
  | token? (token : Option Token)
  | tokens (tokens : List Token)
  | offset (offset : Nat)
  deriving Repr, DecidableEq

namespace Response

/-- The tokens in an answer. -/
def given : Response → List Token
  | .token one => [one]
  | .token? perhaps => perhaps.toList
  | .tokens several => several
  | .offset _ => []

end Response

namespace Machine

variable {stream : Stream}

/--
The machine answers from the tokens that are left.  Of the requests that are built
on `next?` it takes as many tokens as they look at.
-/
def answer
    (machine : Machine stream) :
    Request → Response × Machine stream
  | .nextToken =>
      (.token machine.nextToken.1, machine.nextToken.2)
  | .next =>
      (.token? machine.next?.1, machine.next?.2)
  | .offset =>
      (.offset machine.offset, machine)
  | .nth dropped =>
      (.token? machine.left[dropped]?, machine.draw (dropped + 1))
  | .take limit =>
      (.tokens (machine.left.take limit), machine.draw limit)
  | .skipWhile skipped =>
      (.token? (machine.left.dropWhile skipped).head?,
        machine.draw ((machine.left.takeWhile skipped).length + 1))
  | .rest =>
      (.tokens machine.left, machine.draw machine.left.length)

/-- The answers to some requests, in order. -/
def answers
    (machine : Machine stream) :
    List Request → List Response × Machine stream
  | [] =>
      ([], machine)
  | request :: later =>
      let (response, after) := machine.answer request
      let (responses, last) := after.answers later
      (response :: responses, last)

/-- A request that keeps all its tokens hands out exactly those in its answer. -/
theorem handed_answer
    (machine : Machine stream)
    {request : Request}
    (keeps : request.keepsAll = true) :
    (machine.answer request).2.handed.map Placed.token =
      machine.handed.map Placed.token ++
        (machine.answer request).1.given := by
  cases request with
  | nextToken =>
      simp [answer, nextToken, hand, Response.given]
  | next =>
      have drawn := machine.handed_draw 1
      rw [List.take_one, ← machine.next?_fst] at drawn
      exact drawn
  | offset =>
      simp [answer, Response.given]
  | nth dropped =>
      cases keeps
  | take limit =>
      exact machine.handed_draw limit
  | skipWhile skipped =>
      cases keeps
  | rest =>
      have drawn := machine.handed_draw machine.left.length
      rw [List.take_length] at drawn
      exact drawn

/-- Requests that keep all tokens are given, one after another, what is handed out. -/
theorem handed_answers
    (machine : Machine stream)
    {requests : List Request}
    (keep : ∀ request ∈ requests, request.keepsAll = true) :
    (machine.answers requests).2.handed.map Placed.token =
      machine.handed.map Placed.token ++
        (machine.answers requests).1.flatMap Response.given := by
  induction requests generalizing machine with
  | nil =>
      simp [answers]
  | cons request later inductionHypothesis =>
      have first := machine.handed_answer (keep request (by simp))
      have rest :=
        inductionHypothesis (machine.answer request).2
          (fun other member => keep other (by simp [member]))
      simp [answers, rest, first]

end Machine

namespace Cursor

/-- A cursor answers with its two interfaces and the forms of `next?`. -/
def answer
    (cursor : Cursor) :
    Request → Response × Cursor
  | .nextToken =>
      (.token cursor.nextToken.1, cursor.nextToken.2)
  | .next =>
      (.token? cursor.next?.1, cursor.next?.2)
  | .offset =>
      (.offset cursor.offset, cursor)
  | .nth dropped =>
      (.token? (cursor.nth dropped).1, (cursor.nth dropped).2)
  | .take limit =>
      (.tokens (cursor.take limit).1, (cursor.take limit).2)
  | .skipWhile skipped =>
      (.token? (cursor.skipWhile skipped).1, (cursor.skipWhile skipped).2)
  | .rest =>
      (.tokens (cursor.remaining.1.map Placed.token), cursor.remaining.2)

/-- The answers to some requests, in order. -/
def answers
    (cursor : Cursor) :
    List Request → List Response × Cursor
  | [] =>
      ([], cursor)
  | request :: later =>
      let (response, after) := cursor.answer request
      let (responses, last) := after.answers later
      (response :: responses, last)

/-- A cursor that gives the closing token would give it again. -/
theorem drain_nextToken_of_isEnd
    {cursor : Cursor}
    (ends : cursor.nextToken.1.isEnd = true) :
    cursor.nextToken.2.drain.1 = cursor.drain.1 := by
  rcases cursor.advance_cases with
      ⟨spaced, stopped⟩ | ⟨piece, after, -, -, found⟩
  · have moved : cursor.nextToken.2 = cursor.atEnd := by
      simp [nextToken, stopped]
    have closed : IsGap cursor.atEnd.rest := IsGap.nil
    rw [moved, drain_of_gap closed, drain_of_gap spaced]
    rfl
  · simp [nextToken, found] at ends

/-- Before its first closing token `next?` gives what `nextToken` gives. -/
theorem next?_of_unfinished
    {cursor : Cursor}
    (unfinished : cursor.finished = false) :
    cursor.next? =
      (some cursor.nextToken.1,
        { cursor.nextToken.2 with
          finished := cursor.nextToken.1.isEnd }) := by
  rcases cursor.advance_cases with
      ⟨-, stopped⟩ | ⟨piece, after, -, -, found⟩
  · simp [next?, nextToken, unfinished, stopped, Token.isEnd,
      Token.endOfInput]
  · simp [next?, nextToken, unfinished, found, past]

theorem skipWhile_of_none
    {cursor after : Cursor}
    (skipped : Token → Bool)
    (stopped : cursor.next? = (none, after)) :
    cursor.skipWhile skipped = (none, after) := by
  rw [skipWhile]
  split <;> rename_i given <;> rw [stopped] at given <;> cases given
  rfl

/-- Skipping goes on behind a token to be skipped and stops at any other. -/
theorem skipWhile_of_some
    {cursor after : Cursor}
    {token : Token}
    (skipped : Token → Bool)
    (found : cursor.next? = (some token, after)) :
    cursor.skipWhile skipped =
      if skipped token then
        after.skipWhile skipped
      else
        (some token, after) := by
  rw [skipWhile]
  split <;> rename_i given <;> rw [found] at given <;> cases given
  rfl

/-- A cursor and a machine have handed out the same tokens and have the same ones left. -/
structure Follows
    {stream : Stream}
    (cursor : Cursor)
    (machine : Machine stream) :
    Prop where
  finished_eq : cursor.finished = machine.finished
  offset_eq : cursor.offset = machine.offset
  drain_eq : cursor.drain.1 = stream.behind machine.count
  handed_eq :
    machine.handed =
      (List.range machine.count).map stream.get

/-- A cursor answers as the machine does, and follows it on. -/
def Agrees
    {α : Type}
    {stream : Stream}
    (answered : α × Cursor)
    (expected : α × Machine stream) :
    Prop :=
  answered.1 = expected.1 ∧ answered.2.Follows expected.2

namespace Follows

variable {stream : Stream} {cursor : Cursor} {machine : Machine stream}

/-- A cursor at the start of a text follows the machine at the start of its stream. -/
theorem ofText
    (dialect : Dialect)
    (text : String) :
    (Cursor.ofText dialect text).Follows
      (.start (.ofText dialect text)) where
  finished_eq := rfl
  offset_eq := rfl
  drain_eq := (Stream.tokens_ofText dialect text).symm
  handed_eq := rfl

/--
A cursor and the machine that it follows agree on the token at hand.

At the closing token the count goes on, but the stream does not.
-/
theorem nextToken (follows : cursor.Follows machine) :
    Agrees cursor.nextToken machine.nextToken := by
  have given :
      cursor.drain.1 =
        { offset := cursor.nextToken.2.offset
          token := cursor.nextToken.1 } ::
          if cursor.nextToken.1.isEnd then
            []
          else
            cursor.nextToken.2.drain.1 := by
    rw [drain_eq_nextToken]
    split <;> rfl
  rw [follows.drain_eq, stream.behind_eq_cons] at given
  obtain ⟨head, tail⟩ := List.cons.inj given
  have same :
      (stream.get machine.count).token = cursor.nextToken.1 :=
    congrArg Placed.token head
  refine ⟨same.symm, ?_, ?_, ?_, ?_⟩
  · rw [nextToken_snd, finished_advance]
    exact follows.finished_eq
  · have reached := congrArg Placed.offset head
    simp [Machine.nextToken, Machine.hand, Machine.offset, reached]
  · rw [same] at tail
    cases ends : cursor.nextToken.1.isEnd with
    | true =>
        have stays := Stream.behind_succ_of_isEnd (same ▸ ends)
        rw [drain_nextToken_of_isEnd ends, follows.drain_eq, ← stays]
        rfl
    | false =>
        simpa [ends, Machine.nextToken, Machine.hand] using tail.symm
  · simp [Machine.nextToken, Machine.hand, List.range_succ,
      follows.handed_eq]

/-- A cursor and the machine that it follows agree on whether there is a next token. -/
theorem next? (follows : cursor.Follows machine) :
    Agrees cursor.next? machine.next? := by
  cases finished : machine.finished with
  | true =>
      have finishedToo := follows.finished_eq.trans finished
      rw [Agrees, Cursor.next?, Machine.next?, if_pos finishedToo,
        if_pos finished]
      exact ⟨rfl, follows⟩
  | false =>
      obtain ⟨same, moved⟩ := follows.nextToken
      have answered :=
        next?_of_unfinished (follows.finished_eq.trans finished)
      have expected :
          machine.next? =
            (some machine.nextToken.1,
              { machine.nextToken.2 with
                finished := machine.nextToken.1.isEnd }) := by
        simp [Machine.next?, Machine.nextToken, finished]
      have kept (finished : Bool) :
          ({ cursor.nextToken.2 with finished } : Cursor).drain.1 =
            cursor.nextToken.2.drain.1 :=
        drain_congr rfl rfl rfl
      rw [Agrees, answered, expected, same]
      exact ⟨rfl, rfl, moved.offset_eq, (kept _).trans moved.drain_eq,
        moved.handed_eq⟩

/--
Asked for a token more, both have none, or both give the same one.  With nothing left
the machine stays where it is.
-/
theorem next?_cases (follows : cursor.Follows machine) :
    (∃ after,
      cursor.next? = (none, after) ∧ after.Follows machine ∧
        machine.left = []) ∨
    ∃ token after later,
      cursor.next? = (some token, after) ∧
        after.Follows machine.next?.2 ∧
        machine.left = token :: later ∧ machine.next?.2.left = later := by
  obtain ⟨same, moved⟩ := follows.next?
  rw [machine.next?_fst] at same
  cases remain : machine.left with
  | nil =>
      have stays : machine.next?.2 = machine :=
        Machine.draw_of_left_eq_nil remain 1
      rw [remain] at same
      rw [stays] at moved
      exact .inl ⟨cursor.next?.2, Prod.ext same rfl, moved, rfl⟩
  | cons token later =>
      rw [remain] at same
      refine .inr
        ⟨token, cursor.next?.2, later, Prod.ext same rfl, moved, rfl, ?_⟩
      rw [machine.left_next?, remain, List.tail_cons]

/-- Leaving out some tokens and giving the next one draws them all. -/
theorem nth
    (follows : cursor.Follows machine)
    (dropped : Nat) :
    Agrees (cursor.nth dropped)
      (machine.left[dropped]?, machine.draw (dropped + 1)) := by
  induction dropped generalizing cursor machine with
  | zero =>
      obtain ⟨same, moved⟩ := follows.next?
      rw [machine.next?_fst, List.head?_eq_getElem?] at same
      exact ⟨same, moved⟩
  | succ dropped inductionHypothesis =>
      rcases follows.next?_cases with
          ⟨after, given, moved, nothing⟩ |
          ⟨token, after, later, given, moved, remain, rest⟩
      · rw [nothing, Machine.draw_of_left_eq_nil nothing]
        simp only [Cursor.nth, given]
        exact ⟨rfl, moved⟩
      · simp only [Cursor.nth, given, remain, List.getElem?_cons_succ]
        rw [← rest]
        exact inductionHypothesis moved

/-- Taking tokens draws as many as asked for, or as there are. -/
theorem take
    (follows : cursor.Follows machine)
    (limit : Nat) :
    Agrees (cursor.take limit)
      (machine.left.take limit, machine.draw limit) := by
  induction limit generalizing cursor machine with
  | zero =>
      exact ⟨rfl, follows⟩
  | succ limit inductionHypothesis =>
      rcases follows.next?_cases with
          ⟨after, given, moved, nothing⟩ |
          ⟨token, after, later, given, moved, remain, rest⟩
      · rw [nothing, Machine.draw_of_left_eq_nil nothing]
        simp only [Cursor.take, given]
        exact ⟨rfl, moved⟩
      · obtain ⟨same, last⟩ := inductionHypothesis moved
        rw [rest] at same
        simp only [Cursor.take, given, remain, List.take_succ_cons]
        exact ⟨congrArg (token :: ·) same, last⟩

/-- Skipping draws the skipped tokens and the one behind them. -/
theorem skipWhile
    {cursor : Cursor}
    {machine : Machine stream}
    (follows : cursor.Follows machine)
    (skipped : Token → Bool) :
    Agrees (cursor.skipWhile skipped)
      ((machine.left.dropWhile skipped).head?,
        machine.draw ((machine.left.takeWhile skipped).length + 1)) := by
  rcases follows.next?_cases with
      ⟨after, given, moved, nothing⟩ |
      ⟨token, after, later, given, moved, remain, rest⟩
  · rw [nothing, Machine.draw_of_left_eq_nil nothing,
      skipWhile_of_none skipped given]
    exact ⟨rfl, moved⟩
  · rw [skipWhile_of_some skipped given, remain]
    cases matched : skipped token with
    | true =>
        rw [List.dropWhile_cons_of_pos matched,
          List.takeWhile_cons_of_pos matched, ← rest]
        exact moved.skipWhile skipped
    | false =>
        simp only [List.dropWhile_cons, List.takeWhile_cons, matched]
        exact ⟨rfl, moved⟩
termination_by cursor.tokensLeft
decreasing_by exact tokensLeft_lt_of_next? given

/-- Asked for the rest, a cursor gives all that the machine has left. -/
theorem remaining
    {cursor : Cursor}
    {machine : Machine stream}
    (follows : cursor.Follows machine) :
    Agrees
      (cursor.remaining.1.map Placed.token, cursor.remaining.2)
      (machine.left, machine.draw machine.left.length) := by
  rcases follows.next?_cases with
      ⟨after, given, moved, nothing⟩ |
      ⟨token, after, later, given, moved, remain, rest⟩
  · rw [nothing, Machine.draw_of_left_eq_nil nothing,
      remaining_of_stopped given]
    exact ⟨rfl, moved⟩
  · obtain ⟨same, last⟩ := moved.remaining
    rw [rest] at same last
    rw [remaining_of_next? given, remain]
    exact ⟨congrArg (token :: ·) same, last⟩
termination_by cursor.tokensLeft
decreasing_by exact tokensLeft_lt_of_next? given

/-- Whatever a client asks, the cursor answers as the machine does. -/
theorem answer
    (follows : cursor.Follows machine)
    (request : Request) :
    Agrees (cursor.answer request) (machine.answer request) := by
  cases request with
  | nextToken =>
      obtain ⟨same, moved⟩ := follows.nextToken
      exact ⟨congrArg Response.token same, moved⟩
  | next =>
      obtain ⟨same, moved⟩ := follows.next?
      exact ⟨congrArg Response.token? same, moved⟩
  | offset =>
      exact ⟨congrArg Response.offset follows.offset_eq, follows⟩
  | nth dropped =>
      obtain ⟨same, moved⟩ := follows.nth dropped
      exact ⟨congrArg Response.token? same, moved⟩
  | take limit =>
      obtain ⟨same, moved⟩ := follows.take limit
      exact ⟨congrArg Response.tokens same, moved⟩
  | skipWhile skipped =>
      obtain ⟨same, moved⟩ := follows.skipWhile skipped
      exact ⟨congrArg Response.token? same, moved⟩
  | rest =>
      obtain ⟨same, moved⟩ := follows.remaining
      exact ⟨congrArg Response.tokens same, moved⟩

/-- A cursor and the machine that it follows agree on any requests. -/
theorem answers
    (follows : cursor.Follows machine)
    (requests : List Request) :
    Agrees (cursor.answers requests) (machine.answers requests) := by
  induction requests generalizing cursor machine with
  | nil =>
      exact ⟨rfl, follows⟩
  | cons request later inductionHypothesis =>
      obtain ⟨same, moved⟩ := follows.answer request
      obtain ⟨sameLater, last⟩ := inductionHypothesis moved
      exact ⟨congrArg₂ List.cons same sameLater, last⟩

end Follows

end Cursor

/--
However the two interfaces of a fresh cursor and the forms of `next?` are mixed, the
cursor answers as the machine on the stream of its text.  All tokens that were handed
out, to the client or past it, are those of the stream in order, and then its closing
token for every one too many; a client that drops none of them is given them all.
-/
theorem cursor_refines_machine
    (dialect : Dialect)
    (text : String) :
    let stream := Stream.ofText dialect text
    stream.tokens = (Cursor.ofText dialect text).drain.1 ∧
      ∀ requests : List Request,
        let answered := (Cursor.ofText dialect text).answers requests
        let expected := (Machine.start stream).answers requests
        answered.1 = expected.1 ∧
          expected.2.handed =
            stream.tokens.take expected.2.count ++
              List.replicate (expected.2.count - stream.tokens.length)
                stream.closing ∧
          ((∀ request ∈ requests, request.keepsAll = true) →
            answered.1.flatMap Response.given =
              expected.2.handed.map Placed.token) := by
  refine ⟨Stream.tokens_ofText dialect text, ?_⟩
  intro requests
  obtain ⟨same, follows⟩ :=
    (Cursor.Follows.ofText dialect text).answers requests
  refine ⟨same, ?_, ?_⟩
  · rw [follows.handed_eq, Stream.map_get_range]
  · intro keep
    rw [same, Machine.handed_answers _ keep]
    rfl

theorem cursor_refines_machine_past_end :
    (∀ request ∈
        [Request.next, .offset, .take 2, .next, .nextToken, .rest, .nextToken],
      request.keepsAll = true) ∧
      ((Cursor.ofText {} "x !").answers
          [.next, .offset, .take 2, .next, .nextToken, .rest,
            .nextToken]).1.flatMap Response.given =
        [{ kind := .identifier, literal := "x" },
          { kind := .mark .bang, literal := "!" },
          .endOfInput, .endOfInput, .endOfInput] := by
  have keep :
      ∀ request ∈
          [Request.next, .offset, .take 2, .next, .nextToken, .rest,
            .nextToken],
        request.keepsAll = true := by
    decide
  refine ⟨keep, ?_⟩
  rw [((cursor_refines_machine {} "x !").2 _).2.2 keep]
  decide +kernel

end MonkeyTokens
