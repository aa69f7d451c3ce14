import MonkeyTokens.Failure

namespace MonkeyTokens

/-!
# What a run writes

A run writes to two channels and ends with an exit status.  The order between
the channels is not kept, the order within each is.
-/

/-- Text for the output channel and text for the error channel. -/
structure Output where
  stdout : String := ""
  stderr : String := ""
  deriving Repr, DecidableEq

namespace Output

/-- One output after another. -/
def append
    (first second : Output) :
    Output where
  stdout := first.stdout ++ second.stdout
  stderr := first.stderr ++ second.stderr

instance : Append Output where
  append := append

/-- All outputs of a list, in order. -/
def join (outputs : List Output) : Output where
  stdout := String.join (outputs.map stdout)
  stderr := String.join (outputs.map stderr)

/-- An error message on a line of its own. -/
def error (message : String) : Output where
  stderr := "Error: " ++ message ++ "\n"

/-- What is listed first stands in front. -/
@[simp]
theorem stdout_append (first second : Output) :
    (first ++ second).stdout = first.stdout ++ second.stdout :=
  rfl

/-- What is reported first stands in front. -/
@[simp]
theorem stderr_append (first second : Output) :
    (first ++ second).stderr = first.stderr ++ second.stderr :=
  rfl

/-- Two outputs are equal if they write the same to both channels. -/
theorem ext
    {first second : Output}
    (sameStdout : first.stdout = second.stdout)
    (sameStderr : first.stderr = second.stderr) :
    first = second := by
  cases first
  cases second
  rw [mk.injEq]
  exact ⟨sameStdout, sameStderr⟩

theorem append_assoc (first second third : Output) :
    first ++ second ++ third = first ++ (second ++ third) :=
  ext (String.append_assoc ..) (String.append_assoc ..)

@[simp]
theorem empty_append (output : Output) : {} ++ output = output :=
  ext String.empty_append String.empty_append

/-- Writing nothing more leaves an output as it is. -/
@[simp]
theorem append_empty (output : Output) : output ++ {} = output :=
  ext String.append_empty String.append_empty

@[simp]
theorem join_nil : join [] = {} :=
  rfl

/-- The parts of an output follow one another. -/
theorem join_cons
    (first : Output)
    (later : List Output) :
    join (first :: later) = first ++ join later :=
  ext String.join_cons String.join_cons

end Output

/--
How a run ends: by itself, with a failure, or because a part that it relies on breaks
off.  What that part says about it names places in its own code and is left out.
-/
inductive Ending where
  | finished
  | failed : Failure → Ending
  | aborted
  deriving Repr, DecidableEq

/-- The exit status of a run that ends in a certain way. -/
def Ending.status : Ending → Nat
  | .finished => 0
  | .failed _ => 1
  | .aborted => 101

/-- The outputs of a finished run and its exit status. -/
structure Outcome where
  exit : Nat
  output : Output
  deriving Repr, DecidableEq

namespace Outcome

/-- The outcome of a run that wrote something and then ended; a failure is reported. -/
def ofEnding
    (output : Output)
    (ending : Ending) :
    Outcome where
  exit := ending.status
  output :=
    match ending with
    | .failed failure => output ++ Output.error failure.message
    | _ => output

/-- The outcome of a run that began with an output. -/
def after
    (output : Output)
    (outcome : Outcome) :
    Outcome :=
  { outcome with output := output ++ outcome.output }

/-- However a run ends, its output channel holds what it wrote before. -/
@[simp]
theorem stdout_ofEnding
    (output : Output)
    (ending : Ending) :
    (ofEnding output ending).output.stdout = output.stdout := by
  cases ending with
  | failed failure =>
      exact String.append_empty
  | _ =>
      rfl

/-- What a run wrote first does not depend on how it ends. -/
theorem ofEnding_append
    (first second : Output)
    (ending : Ending) :
    ofEnding (first ++ second) ending =
      (ofEnding second ending).after first := by
  cases ending with
  | failed failure =>
      simp only [ofEnding, after, Output.append_assoc]
  | _ =>
      rfl

/-- What was written first stands in front of what was written second. -/
theorem after_after
    (first second : Output)
    (outcome : Outcome) :
    (outcome.after second).after first =
      outcome.after (first ++ second) := by
  simp only [after, Output.append_assoc]

@[simp]
theorem after_empty (outcome : Outcome) : outcome.after {} = outcome := by
  simp only [after, Output.empty_append]

end Outcome

end MonkeyTokens
