import Mathlib.Algebra.GroupWithZero.Nat
import Mathlib.Data.List.Induction
import MonkeyTokens.Proofs.Input
import MonkeyTokens.Proofs.Place

namespace MonkeyTokens.Text.Place

/-!
# Places as coordinates

The place of an offset is where a walk over the characters in front of it leads.  Each
character leads on to a later place, so no two offsets of a text have the same one,
and the lines of the text turn a place back into its offset.
-/

/-- The place behind a character: a line feed begins a line, any other character takes up a column. -/
def step
    (place : Place)
    (character : Char) :
    Place :=
  if character = '\n' then
    { line := place.line + 1, column := 1 }
  else
    { line := place.line, column := place.column + 1 }

/-- The place that a walk over some characters leads to from the first one. -/
def walk (text : List Char) : Place :=
  text.foldl step { line := 1, column := 1 }

/-- Places in the order of reading: first by lines, and within a line by columns. -/
def Precedes (first second : Place) : Prop :=
  first.line < second.line ∨
    first.line = second.line ∧ first.column < second.column

/-- The offset of a place: the lines above it with their line feeds, and the columns in front of it. -/
def toOffset
    (place : Place)
    (text : List Char) :
    Nat :=
  (((text.splitOn '\n').take (place.line - 1)).map
      fun line => line.length + 1).sum +
    (place.column - 1)

/-! ## Walking -/

theorem lastLine_concat
    (text : List Char)
    (character : Char) :
    lastLine (text ++ [character]) =
      if character = '\n' then [] else lastLine text ++ [character] := by
  unfold lastLine
  rw [List.reverse_concat, List.takeWhile_cons]
  by_cases feed : character = '\n' <;> simp [feed]

/-- A walk counts the line feeds behind it and the characters of the line it is in. -/
theorem walk_eq (text : List Char) :
    walk text =
      { line := text.count '\n' + 1
        column := (lastLine text).length + 1 } := by
  induction text using List.reverseRecOn with
  | nil =>
      rfl
  | append_singleton earlier character inductionHypothesis =>
      rw [walk, List.foldl_concat, ← walk, inductionHypothesis, step,
        lastLine_concat, List.count_append]
      by_cases feed : character = '\n' <;> simp [feed]

/-- Within a text the place of an offset is where a walk over the characters in front ends. -/
theorem ofOffset_eq_walk
    {text : List Char}
    {offset : Nat}
    (within : offset ≤ text.length) :
    ofOffset text offset = walk (text.take offset) := by
  have shorter := length_lastLine_le (text.take offset)
  have taken := List.length_take_of_le within
  simp only [ofOffset, walk_eq, lastLineStart, taken, mk.injEq,
    true_and] at shorter ⊢
  omega

/-- The last line of a text starts behind its last line feed, or with the text if it has none. -/
theorem lastLineStart_spec (text : List Char) :
    lastLineStart text ≤ text.length ∧
      '\n' ∉ text.drop (lastLineStart text) ∧
      (lastLineStart text = 0 ∨
        text[lastLineStart text - 1]? = some '\n') := by
  induction text using List.reverseRecOn with
  | nil =>
      exact ⟨Nat.le_refl 0, List.not_mem_nil, .inl rfl⟩
  | append_singleton earlier character inductionHypothesis =>
      obtain ⟨bound, unbroken, start⟩ := inductionHypothesis
      by_cases feed : character = '\n'
      · have behind :
            lastLineStart (earlier ++ [character]) =
              (earlier ++ [character]).length := by
          simp [lastLineStart, lastLine_concat, feed]
        rw [behind, feed]
        simp
      · have same :
            lastLineStart (earlier ++ [character]) =
              lastLineStart earlier := by
          simp [lastLineStart, lastLine_concat, feed]
        rw [same, List.drop_append_of_le_length bound]
        refine ⟨?_, ?_, ?_⟩
        · rw [List.length_append]
          exact Nat.le_add_right_of_le bound
        · simpa [unbroken] using Ne.symm feed
        · rcases start with first | broken
          · exact .inl first
          · have inside := (List.getElem?_eq_some_iff.mp broken).1
            rw [List.getElem?_append_left inside]
            exact .inr broken

/-! ## The order of places -/

theorem Precedes.trans
    {first second third : Place}
    (before : first.Precedes second)
    (after : second.Precedes third) :
    first.Precedes third := by
  unfold Precedes at *
  omega

/-- Each character leads to a later place. -/
theorem precedes_step
    (place : Place)
    (character : Char) :
    place.Precedes (place.step character) := by
  unfold Precedes step
  split
  · exact .inl (Nat.lt_succ_self _)
  · exact .inr ⟨rfl, Nat.lt_succ_self _⟩

/-- Walking on leads to later places. -/
theorem precedes_foldl
    (place : Place)
    {text : List Char}
    (present : text ≠ []) :
    place.Precedes (text.foldl step place) := by
  induction text generalizing place with
  | nil =>
      exact (present rfl).elim
  | cons character later inductionHypothesis =>
      have first := place.precedes_step character
      by_cases last : later = []
      · subst last
        exact first
      · exact first.trans (inductionHypothesis (place.step character) last)

/-- A later offset has a later place, since the walk to it goes on from the earlier one. -/
theorem precedes_ofOffset
    {text : List Char}
    {first second : Nat}
    (earlier : first < second)
    (within : second ≤ text.length) :
    (ofOffset text first).Precedes (ofOffset text second) := by
  have onward :
      text.take second =
        text.take first ++ (text.drop first).take (second - first) := by
    rw [← List.take_add, Nat.add_sub_cancel' (Nat.le_of_lt earlier)]
  rw [ofOffset_eq_walk within,
    ofOffset_eq_walk (Nat.le_trans (Nat.le_of_lt earlier) within), onward,
    walk, walk, List.foldl_append]
  apply precedes_foldl
  rw [← List.length_pos_iff, List.length_take, List.length_drop]
  omega

/-- Different offsets within a text have different places. -/
theorem ofOffset_injective
    {text : List Char}
    {first second : Nat}
    (firstWithin : first ≤ text.length)
    (secondWithin : second ≤ text.length)
    (same : ofOffset text first = ofOffset text second) :
    first = second := by
  rcases Nat.lt_trichotomy first second with earlier | equal | later
  · have ordered := precedes_ofOffset earlier secondWithin
    rw [same, Precedes] at ordered
    omega
  · exact equal
  · have ordered := precedes_ofOffset later firstWithin
    rw [same, Precedes] at ordered
    omega

/-! ## Places and lines -/

/-- A place lies in a text: in one of its lines, at most one column behind its last character. -/
def LiesIn
    (place : Place)
    (text : List Char) :
    Prop :=
  0 < place.line ∧ 0 < place.column ∧
    ∃ line, (text.splitOn '\n')[place.line - 1]? = some line ∧
      place.column - 1 ≤ line.length

/-- A place in the rest of a text is one line further down in the text, and as much further on. -/
theorem LiesIn.below
    {line rest : List Char}
    {place : Place}
    (lies : place.LiesIn rest)
    (unbroken : '\n' ∉ line) :
    LiesIn { line := place.line + 1, column := place.column }
        (line ++ '\n' :: rest) ∧
      toOffset { line := place.line + 1, column := place.column }
          (line ++ '\n' :: rest) =
        place.toOffset rest + (line.length + 1) := by
  obtain ⟨counted, columnCounted, own, found, inside⟩ := lies
  obtain ⟨above, shape⟩ := Nat.exists_eq_add_of_lt counted
  rw [shape, Nat.zero_add, Nat.add_sub_cancel] at found
  simp only [LiesIn, toOffset, shape,
    List.splitOn_append_cons_self_of_not_mem unbroken, Nat.zero_add,
    Nat.add_sub_cancel, List.getElem?_cons_succ, List.take_succ_cons,
    List.map_cons, List.sum_cons]
  exact ⟨⟨Nat.succ_pos _, columnCounted, own, found, inside⟩, by omega⟩

/--
The place of an offset lies in the text, and the lines of the text turn it back into
the offset.  The induction is on the lines: a place is in the first one or below it.
-/
theorem ofOffset_recovered
    (text : String)
    {offset : Nat}
    (within : offset ≤ text.toList.length) :
    (ofOffset text.toList offset).LiesIn text.toList ∧
      (ofOffset text.toList offset).toOffset text.toList = offset := by
  induction text using line_induction generalizing offset with
  | last text unbroken =>
      rw [ofOffset_of_not_mem unbroken]
      simp [LiesIn, toOffset, List.splitOn_eq_singleton unbroken, within]
  | more line rest unbroken inductionHypothesis =>
      have shape :
          (line ++ "\n" ++ rest).toList =
            line.toList ++ '\n' :: rest.toList := by
        simp
      rw [shape] at within ⊢
      by_cases inLine : offset ≤ line.toList.length
      · rw [ofOffset_append _ _ inLine, ofOffset_of_not_mem unbroken]
        simp [LiesIn, toOffset, inLine,
          List.splitOn_append_cons_self_of_not_mem unbroken]
      · obtain ⟨distance, rfl⟩ :
            ∃ distance, offset = distance + (line.toList.length + 1) :=
          ⟨offset - (line.toList.length + 1), by omega⟩
        rw [List.length_append, List.length_cons] at within
        obtain ⟨lies, recovered⟩ :=
          @inductionHypothesis distance (by omega)
        obtain ⟨liesBelow, offset_eq⟩ := lies.below unbroken
        rw [ofOffset_append_feed unbroken, offset_eq, recovered]
        exact ⟨liesBelow, rfl⟩

end MonkeyTokens.Text.Place

namespace MonkeyTokens.Text

/--
The place of an offset is where walking over the characters in front of it leads.  The
start of its line, which its column is counted from, stands at or in front of the
offset, directly behind the last line feed there.  The place lies in the text, and the
lines of the text give its offset back.  Later offsets have later places, and so no two
offsets have one place.
-/
theorem places_are_coordinates (text : String) :
    (∀ offset, offset ≤ text.toList.length →
      let before := text.toList.take offset
      let place := Place.ofOffset text.toList offset
      (Place.lastLineStart before ≤ offset ∧
        '\n' ∉ before.drop (Place.lastLineStart before) ∧
        (Place.lastLineStart before = 0 ∨
          before[Place.lastLineStart before - 1]? = some '\n')) ∧
      place = Place.walk before ∧
      place.LiesIn text.toList ∧
      place.toOffset text.toList = offset) ∧
    (∀ first second, first < second → second ≤ text.toList.length →
      (Place.ofOffset text.toList first).Precedes
        (Place.ofOffset text.toList second)) ∧
    ∀ first second,
      first ≤ text.toList.length → second ≤ text.toList.length →
      (Place.ofOffset text.toList first =
          Place.ofOffset text.toList second ↔
        first = second) := by
  refine ⟨?_, ?_, ?_⟩
  · intro offset within before place
    obtain ⟨bound, unbroken, start⟩ := Place.lastLineStart_spec before
    obtain ⟨lies, recovered⟩ := Place.ofOffset_recovered text within
    refine ⟨⟨?_, unbroken, start⟩, Place.ofOffset_eq_walk within, lies,
      recovered⟩
    rwa [List.length_take_of_le within] at bound
  · intro first second earlier within
    exact Place.precedes_ofOffset earlier within
  · intro first second firstWithin secondWithin
    refine ⟨Place.ofOffset_injective firstWithin secondWithin, ?_⟩
    rintro rfl
    rfl

theorem places_are_coordinates_at_end :
    let text := "é\r\n\n@\n"
    let place := Place.ofOffset text.toList 6
    (place = Place.walk (text.toList.take 6) ∧
      place.LiesIn text.toList ∧
      place.toOffset text.toList = 6) ∧
    (Place.ofOffset text.toList 3).Precedes place ∧
    (Place.ofOffset text.toList 3 = place ↔ 3 = 6) := by
  intro text place
  obtain ⟨faithful, increasing, injective⟩ := places_are_coordinates text
  have within : 6 ≤ text.toList.length := by
    decide
  have earlier : 3 ≤ text.toList.length := by
    decide
  obtain ⟨-, walked, lies, recovered⟩ := faithful 6 within
  exact ⟨⟨walked, lies, recovered⟩, increasing 3 6 (by decide) within,
    injective 3 6 earlier within⟩

end MonkeyTokens.Text
