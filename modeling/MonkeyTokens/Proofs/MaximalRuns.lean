import Mathlib.Data.List.DropRight
import MonkeyTokens.Proofs.Finding

namespace MonkeyTokens

/-!
# Maximal runs

A run of a class of characters is maximal if no other character of the class stands
beside it.  Every character of the class lies in exactly one maximal run.  Where a
lexeme takes in all characters of a class that it can, and no other lexeme has any of
them, what is read are the maximal runs, however reading comes to them.
-/

/-- Neighbouring characters of a class, with no other character of the class beside them. -/
structure MaximalRun
    (holds : Char → Bool)
    (source : List Char)
    (start : Nat)
    (run : List Char) :
    Prop where
  present : run ≠ []
  stands : run <+: source.drop start
  inside : ∀ character ∈ run, holds character = true
  before :
    ∀ position character,
      position + 1 = start →
      source[position]? = some character →
        holds character = false
  behind :
    ∀ character,
      source[start + run.length]? = some character →
        holds character = false

namespace MaximalRun

variable
  {holds : Char → Bool}
  {source run other : List Char}
  {start otherStart position : Nat}

/-- A run that the rest of the text does not go on with, and nothing of its class stands in front of. -/
theorem of_drop_eq
    {rest : List Char}
    (shape : source.drop start = run ++ rest)
    (present : run ≠ [])
    (inside : ∀ character ∈ run, holds character = true)
    (outside : ∀ character ∈ rest.head?, holds character = false)
    (before :
      ∀ position character,
        position + 1 = start →
        source[position]? = some character →
          holds character = false) :
    MaximalRun holds source start run where
  present := present
  stands := ⟨rest, shape.symm⟩
  inside := inside
  before := before
  behind character held := by
    apply outside
    rwa [← List.getElem?_drop, shape,
      List.getElem?_append_right (Nat.le_refl _), Nat.sub_self,
      ← List.head?_eq_getElem?] at held

/-- Every position of a run holds a character of the class. -/
theorem exists_held
    (maximal : MaximalRun holds source start run)
    (reached : start ≤ position)
    (within : position < start + run.length) :
    ∃ character, source[position]? = some character ∧
      holds character = true := by
  obtain ⟨index, rfl⟩ := Nat.exists_eq_add_of_le reached
  have inside : index < run.length := by
    omega
  have held := List.getElem?_eq_getElem inside
  exact ⟨run[index], getElem?_of_stands maximal.stands held,
    maximal.inside _ (List.getElem_mem inside)⟩

/-- Of two maximal runs over one position none starts in front of the other. -/
theorem start_le
    (first : MaximalRun holds source start run)
    (second : MaximalRun holds source otherStart other)
    (within : position < start + run.length)
    (reached : otherStart ≤ position) :
    otherStart ≤ start := by
  by_contra later
  have adjacent : otherStart - 1 + 1 = otherStart := by
    omega
  have reachedBefore : start ≤ otherStart - 1 := by
    omega
  obtain ⟨character, held, belongs⟩ :=
    first.exists_held reachedBefore (by omega)
  rw [second.before _ character adjacent held] at belongs
  cases belongs

/-- Of two maximal runs with one start none ends behind the other. -/
theorem length_le
    (first : MaximalRun holds source start run)
    (second : MaximalRun holds source start other) :
    run.length ≤ other.length := by
  by_contra longer
  have within : start + other.length < start + run.length := by
    omega
  obtain ⟨character, held, belongs⟩ :=
    first.exists_held (Nat.le_add_right start other.length) within
  rw [second.behind character held] at belongs
  cases belongs

/-- A position lies in at most one maximal run. -/
theorem unique
    (first : MaximalRun holds source start run)
    (second : MaximalRun holds source otherStart other)
    (reached : start ≤ position)
    (within : position < start + run.length)
    (otherReached : otherStart ≤ position)
    (otherWithin : position < otherStart + other.length) :
    start = otherStart ∧ run = other := by
  obtain rfl : start = otherStart :=
    Nat.le_antisymm (second.start_le first otherWithin reached)
      (first.start_le second within otherReached)
  have sameLength : run.length = other.length :=
    Nat.le_antisymm (first.length_le second) (second.length_le first)
  have shorter :=
    List.prefix_of_prefix_length_le first.stands second.stands
      (Nat.le_of_eq sameLength)
  exact ⟨rfl, shorter.eq_of_length sameLength⟩

/-- A position that holds a character of the class lies in a maximal run. -/
theorem exists_around
    {character : Char}
    (held : source[position]? = some character)
    (belongs : holds character = true) :
    ∃ start run, MaximalRun holds source start run ∧
      start ≤ position ∧ position < start + run.length := by
  obtain ⟨earlier, inFront, parts, ends, inside⟩ :
      ∃ earlier inFront, earlier ++ inFront = source.take position ∧
        (∀ last ∈ earlier.getLast?, holds last = false) ∧
        ∀ member ∈ inFront, holds member = true := by
    refine ⟨_, _, List.rdropWhile_append_rtakeWhile (p := holds), ?_, ?_⟩
    · intro last isLast
      obtain ⟨present, rfl⟩ := List.mem_getLast?_eq_getLast isLast
      simpa using List.rdropWhile_last_not holds _ present
    · intro member inFront
      exact List.mem_rtakeWhile_imp inFront
  have within := (List.getElem?_eq_some_iff.mp held).1
  have lengths := congrArg List.length parts
  simp only [List.length_append, List.length_take] at lengths
  have onward : (source.drop position).takeWhile holds ≠ [] := by
    rw [List.drop_eq_getElem_cons within]
    simp [(List.getElem?_eq_some_iff.mp held).2, belongs]
  have shape :
      source.drop earlier.length =
        (inFront ++ (source.drop position).takeWhile holds) ++
          (source.drop position).dropWhile holds := by
    have whole := List.take_append_drop position source
    rw [← parts, List.append_assoc] at whole
    rw [List.append_assoc, List.takeWhile_append_dropWhile]
    conv_lhs => rw [← whole, List.drop_left]
  refine ⟨earlier.length, _,
    of_drop_eq shape (by simp [onward]) ?_
      Dialect.class_of_head?_dropWhile ?_, by omega, ?_⟩
  · intro member inRun
    rcases List.mem_append.mp inRun with before | behind
    · exact inside member before
    · exact List.mem_takeWhile_imp behind
  · intro before last adjacent heldBefore
    apply ends
    have isLast : earlier.length - 1 = before := by
      omega
    rw [Option.mem_def, List.getLast?_eq_getElem?, isLast, ← heldBefore,
      ← List.getElem?_append_left (by omega), parts,
      List.getElem?_take_of_lt (by omega)]
  · have reaches := List.length_pos_iff.mpr onward
    rw [List.length_append]
    omega

end MaximalRun

/-- The lexemes of one shape are what reading makes of the runs of a class. -/
structure Dialect.ReadsRuns
    (dialect : Dialect)
    (holds : Char → Bool)
    (shape : List Char → Lexeme) :
    Prop where
  solid : ∀ character, holds character = true → isSpacing character = false
  spelled : ∀ run, (shape run).spelling = run
  inside :
    ∀ run, dialect.Admits (shape run) →
      ∀ character ∈ run, holds character = true
  /-- The characters of the class stand in no other lexemes. -/
  alone :
    ∀ lexeme character,
      dialect.Admits lexeme →
      character ∈ lexeme.spelling →
      holds character = true →
        ∃ run, lexeme = shape run
  continued :
    ∀ run character,
      dialect.continues (shape run) character = holds character

namespace Dialect

variable {dialect : Dialect} {text : String} {offset : Nat}

namespace ReadsRuns

variable
  {holds : Char → Bool}
  {shape : List Char → Lexeme}
  {run : List Char}

/--
What is found in the shape of a run goes as far as the run does: a neighbour of the
same shape would have been read with it.
-/
theorem maximalRun
    (reads : dialect.ReadsRuns holds shape)
    (found : dialect.Finds text offset (shape run)) :
    MaximalRun holds text.toList offset run := by
  have present := spelling_ne_nil_of_admits found.admitted
  have stands := found.stands
  rw [reads.spelled] at present stands
  refine ⟨present, stands, reads.inside run found.admitted, ?_, ?_⟩
  · intro position character adjacent held
    apply Bool.eq_false_iff.mpr
    intro belongs
    obtain ⟨_, neighbour, beside, -, member, apart⟩ :=
      found.exists_neighbour adjacent held (reads.solid _ belongs)
    obtain ⟨others, rfl⟩ :=
      reads.alone neighbour character beside.admitted member belongs
    obtain ⟨first, later, rfl⟩ := List.exists_cons_of_ne_nil present
    have stopped := apart first (by simp [reads.spelled])
    rw [reads.continued,
      reads.inside _ found.admitted first (by simp)] at stopped
    cases stopped
  · intro character held
    rw [← reads.continued run]
    apply found.not_continued
    rw [reads.spelled]
    exact held

/--
What is read from the runs of a class are exactly its maximal runs.  Around the start
of a maximal run one is found, and there is only one.
-/
theorem finds_iff
    (reads : dialect.ReadsRuns holds shape) :
    dialect.Finds text offset (shape run) ↔
      MaximalRun holds text.toList offset run := by
  refine ⟨reads.maximalRun, ?_⟩
  intro given
  have present := List.length_pos_iff.mpr given.present
  obtain ⟨character, held, belongs⟩ :=
    given.exists_held (Nat.le_refl offset) (by omega)
  obtain ⟨start, index, lexeme, rfl, spelled, found⟩ :=
    dialect.exists_finds_of_solid held (reads.solid _ belongs)
  obtain ⟨letters, rfl⟩ :=
    reads.alone lexeme character found.admitted
      (List.mem_of_getElem? spelled) belongs
  rw [reads.spelled] at spelled
  have inside := (List.getElem?_eq_some_iff.mp spelled).1
  obtain ⟨sameStart, rfl⟩ :=
    (reads.maximalRun found).unique given (Nat.le_add_right start index)
      (by omega) (Nat.le_refl _) (by omega)
  rw [← sameStart]
  exact found

end ReadsRuns

end Dialect

end MonkeyTokens
