import MonkeyTokens.Proofs.MaximalRuns

namespace MonkeyTokens

/-!
# Equals signs in pairs

An equals sign is a mark, joins another one, or is joined to an exclamation mark.
Which it is depends on a whole run of them: an exclamation mark in front of the run
takes its first one, the rest pair off from the front, and one may be left over at
the end.
-/

/-- An operator has a first character and at most an equals sign that joined it. -/
theorem Mark.index_eq_zero_or_joined
    {sign : Mark}
    {index : Nat}
    {character : Char}
    (spelled : sign.spelling[index]? = some character) :
    index = 0 ∨
      index = 1 ∧ character = '=' ∧
        ∃ first, sign.spelling = [first, '='] ∧
          joined? first = some sign := by
  have inside := (List.getElem?_eq_some_iff.mp spelled).1
  rcases sign.spelling_cases with
      ⟨first, shape, -⟩ | ⟨first, shape, joins⟩
  · rw [shape, List.length_singleton] at inside
    exact .inl (Nat.lt_one_iff.mp inside)
  · rw [shape] at inside spelled
    match index, inside, spelled with
    | 0, _, _ =>
        exact .inl rfl
    | 1, _, same =>
        exact .inr ⟨rfl, (Option.some.inj same).symm, first, shape, joins⟩

theorem Mark.eq_of_joined?
    {character : Char}
    {joined : Mark}
    (joins : joined? character = some joined) :
    character = '=' ∨ character = '!' := by
  unfold joined? at joins
  split at joins
  · exact .inl rfl
  · exact .inr rfl
  · cases joins

namespace Dialect

variable
  {dialect : Dialect}
  {text : String}
  {offset position : Nat}

/-- No lexeme of a text lies across a position. -/
def Splits
    (dialect : Dialect)
    (text : String)
    (position : Nat) :
    Prop :=
  ∀ offset lexeme, dialect.Finds text offset lexeme →
    offset + lexeme.spelling.length ≤ position ∨ position ≤ offset

/-- The reading of a text splits in front of every lexeme and behind it. -/
theorem Finds.splits
    {lexeme : Lexeme}
    (found : dialect.Finds text offset lexeme) :
    dialect.Splits text offset ∧
      dialect.Splits text (offset + lexeme.spelling.length) := by
  constructor <;> intro other beside otherFound
  · rcases found.apart otherFound with ⟨same, -⟩ | ends | ends <;> omega
  · rcases found.apart otherFound with ⟨rfl, rfl⟩ | ends | ends <;> omega

/-- A lexeme begins at each position that splits the lexemes, unless spacing stands there. -/
theorem Splits.exists_finds
    {character : Char}
    (splits : dialect.Splits text position)
    (held : text.toList[position]? = some character)
    (solid : isSpacing character = false) :
    ∃ lexeme, dialect.Finds text position lexeme ∧
      lexeme.spelling[0]? = some character := by
  obtain ⟨offset, index, lexeme, rfl, spelled, found⟩ :=
    dialect.exists_finds_of_solid held solid
  have inside := (List.getElem?_eq_some_iff.mp spelled).1
  obtain rfl : index = 0 := by
    rcases splits offset lexeme found with ends | starts <;> omega
  exact ⟨lexeme, found, spelled⟩

/-- Characters that join an equals sign stand in marks alone. -/
theorem exists_mark_of_joined?
    {lexeme : Lexeme}
    {character : Char}
    {joined : Mark}
    (admitted : dialect.Admits lexeme)
    (member : character ∈ lexeme.spelling)
    (joins : Mark.joined? character = some joined) :
    ∃ sign, lexeme = .mark sign := by
  obtain ⟨short, found⟩ := Mark.exists_ofChar?_of_joined? joins
  rcases exists_mark_or_word_of_ofChar? admitted member found with
      mark | ⟨rfl, -⟩
  · exact mark
  · cases joins

/--
Where no lexeme lies across its position, a character that joins an equals sign makes
the joined mark if one stands behind it, and the mark of its own if none does.
-/
theorem Splits.finds_of_joined?
    {character : Char}
    {short joined : Mark}
    (splits : dialect.Splits text position)
    (held : text.toList[position]? = some character)
    (found : Mark.ofChar? character = some short)
    (joins : Mark.joined? character = some joined) :
    dialect.Finds text position
      (.mark
        (if text.toList[position + 1]? = some '=' then
          joined
        else
          short)) := by
  obtain ⟨lexeme, begun, spelled⟩ :=
    splits.exists_finds held (Mark.classes_of_ofChar? found).1
  obtain ⟨sign, rfl⟩ :=
    exists_mark_of_joined? begun.admitted (List.mem_of_getElem? spelled)
      joins
  rcases sign.spelling_cases with
      ⟨first, shape, single⟩ | ⟨first, shape, double⟩
  · obtain rfl : first = character := by
      simpa [Lexeme.spelling, shape] using spelled
    obtain rfl : sign = short := Option.some.inj (single.symm.trans found)
    have apart : text.toList[position + 1]? ≠ some '=' := by
      intro behind
      have atEnd :
          text.toList[position + sign.spelling.length]? = some '=' := by
        rwa [shape]
      have closed := begun.not_continued atEnd
      simp [continues, Mark.isOpen_of_ofChar? found, joins] at closed
    rwa [if_neg apart]
  · obtain rfl : first = character := by
      simpa [Lexeme.spelling, shape] using spelled
    obtain rfl : sign = joined := Option.some.inj (double.symm.trans joins)
    have behind : text.toList[position + 1]? = some '=' :=
      begun.getElem?_of_spelling (by simp [Lexeme.spelling, shape])
    rwa [if_pos behind]

/-! ## Exclamation marks -/

/-- An exclamation mark is the first character of its mark. -/
theorem splits_of_exclamation
    (dialect : Dialect)
    (held : text.toList[position]? = some '!') :
    dialect.Splits text position := by
  obtain ⟨offset, index, lexeme, rfl, spelled, found⟩ :=
    dialect.exists_finds_of_solid held (by decide)
  obtain ⟨sign, rfl⟩ :=
    exists_mark_of_joined? found.admitted (List.mem_of_getElem? spelled)
      (rfl : Mark.joined? '!' = some .notEqual)
  rcases Mark.index_eq_zero_or_joined spelled with rfl | ⟨-, different, -⟩
  · exact found.splits.1
  · cases different

/-- An exclamation mark is found with the equals sign behind it, or else alone. -/
theorem finds_exclamation
    (dialect : Dialect)
    (held : text.toList[position]? = some '!') :
    dialect.Finds text position
      (.mark
        (if text.toList[position + 1]? = some '=' then
          .notEqual
        else
          .bang)) :=
  (splits_of_exclamation dialect held).finds_of_joined? held rfl rfl

/-- Inequality is found exactly where an exclamation mark and an equals sign stand. -/
theorem finds_notEqual_iff :
    dialect.Finds text offset (.mark .notEqual) ↔
      text.toList[offset]? = some '!' ∧
        text.toList[offset + 1]? = some '=' := by
  constructor
  · intro found
    have first : (Lexeme.mark .notEqual).spelling[0]? = some '!' := rfl
    have second : (Lexeme.mark .notEqual).spelling[1]? = some '=' := rfl
    exact ⟨found.getElem?_of_spelling first,
      found.getElem?_of_spelling second⟩
  · rintro ⟨held, behind⟩
    simpa only [if_pos behind] using finds_exclamation dialect held

/-- Negation is found exactly where no equals sign is behind the exclamation mark. -/
theorem finds_bang_iff :
    dialect.Finds text offset (.mark .bang) ↔
      text.toList[offset]? = some '!' ∧
        text.toList[offset + 1]? ≠ some '=' := by
  constructor
  · intro found
    have first : (Lexeme.mark .bang).spelling[0]? = some '!' := rfl
    refine ⟨found.getElem?_of_spelling first, ?_⟩
    intro behind
    have closed := found.not_continued behind
    cases closed
  · rintro ⟨held, apart⟩
    simpa only [if_neg apart] using finds_exclamation dialect held

/-! ## Runs of equals signs -/

end Dialect

/--
The offset from which the equals signs of a run pair off: behind its first one, if an
exclamation mark in front takes that.
-/
def pairingStart
    (source : List Char)
    (start : Nat) :
    Nat :=
  if 0 < start ∧ source[start - 1]? = some '!' then start + 1 else start

namespace Dialect

variable
  {dialect : Dialect}
  {text : String}
  {start offset : Nat}
  {run : List Char}

theorem getElem?_of_equals
    (maximal : MaximalRun (· == '=') text.toList start run)
    (reached : start ≤ offset)
    (within : offset < start + run.length) :
    text.toList[offset]? = some '=' := by
  obtain ⟨character, held, equal⟩ := maximal.exists_held reached within
  rw [held, beq_iff_eq.mp equal]

/-- No lexeme lies across the offset from which a run pairs off. -/
theorem splits_pairingStart
    (dialect : Dialect)
    (maximal : MaximalRun (· == '=') text.toList start run) :
    dialect.Splits text (pairingStart text.toList start) := by
  have present := List.length_pos_iff.mpr maximal.present
  have held :=
    getElem?_of_equals maximal (Nat.le_refl start) (by omega)
  unfold pairingStart
  split
  · rename_i taken
    obtain ⟨before, rfl⟩ := Nat.exists_eq_add_of_lt taken.1
    simp only [Nat.zero_add, Nat.add_sub_cancel] at taken held ⊢
    have joined : dialect.Finds text before (.mark .notEqual) :=
      finds_notEqual_iff.mpr ⟨taken.2, held⟩
    exact joined.splits.2
  · rename_i free
    obtain ⟨offset, index, lexeme, rfl, spelled, found⟩ :=
      dialect.exists_finds_of_solid held (by decide)
    obtain ⟨sign, rfl⟩ :=
      exists_mark_of_joined? found.admitted (List.mem_of_getElem? spelled)
        (rfl : Mark.joined? '=' = some .equal)
    rcases Mark.index_eq_zero_or_joined spelled with
        rfl | ⟨rfl, -, first, shape, joins⟩
    · exact found.splits.1
    · -- The sign would be joined to an equals sign or an exclamation mark in front of the run.
      have begins : (Lexeme.mark sign).spelling[0]? = some first := by
        simp [Lexeme.spelling, shape]
      have heldBefore := found.getElem?_of_spelling begins
      rcases Mark.eq_of_joined? joins with rfl | rfl
      · have outside := maximal.before offset '=' rfl heldBefore
        cases outside
      · exact (free ⟨Nat.succ_pos offset, heldBefore⟩).elim

theorem start_le_pairingStart
    (source : List Char)
    (start : Nat) :
    start ≤ pairingStart source start := by
  unfold pairingStart
  split <;> omega

/-- An offset in front of the pairs of a run is the second character of a mark. -/
theorem exists_notEqual_in_front
    (dialect : Dialect)
    (maximal : MaximalRun (· == '=') text.toList start run)
    (reached : start ≤ offset)
    (early : offset < pairingStart text.toList start) :
    ∃ before, before + 1 = offset ∧
      dialect.Finds text before (.mark .notEqual) := by
  have present := List.length_pos_iff.mpr maximal.present
  unfold pairingStart at early
  split at early
  · rename_i taken
    obtain rfl : offset = start := by
      omega
    have adjacent : offset - 1 + 1 = offset := by
      omega
    refine ⟨offset - 1, adjacent, finds_notEqual_iff.mpr ⟨taken.2, ?_⟩⟩
    rw [adjacent]
    exact getElem?_of_equals maximal reached (by omega)
  · omega

/--
An equals sign of a run that no lexeme lies across joins the next one of the run, or is
a mark of its own if it is the last.
-/
theorem Splits.finds_equals
    (splits : dialect.Splits text offset)
    (maximal : MaximalRun (· == '=') text.toList start run)
    (reached : start ≤ offset)
    (within : offset < start + run.length) :
    dialect.Finds text offset
      (.mark
        (if offset + 1 < start + run.length then .equal else .assign)) := by
  have held := getElem?_of_equals maximal reached within
  have found :
      dialect.Finds text offset
        (.mark
          (if text.toList[offset + 1]? = some '=' then
            .equal
          else
            .assign)) :=
    splits.finds_of_joined? held rfl rfl
  have goesOn :
      text.toList[offset + 1]? = some '=' ↔
        offset + 1 < start + run.length := by
    constructor
    · intro behind
      by_contra last
      obtain ends : offset + 1 = start + run.length := by
        omega
      rw [ends] at behind
      have outside := maximal.behind '=' behind
      cases outside
    · exact getElem?_of_equals maximal (Nat.le_succ_of_le reached)
  simpa only [goesOn] using found

/--
The lexemes of a run part at every second offset from where it pairs off.  One pair
leads to the next: its two characters lie in the run, so it is found whole.
-/
theorem splits_pairs
    (dialect : Dialect)
    (maximal : MaximalRun (· == '=') text.toList start run)
    {pair : Nat}
    (within :
      pairingStart text.toList start + 2 * pair ≤ start + run.length) :
    dialect.Splits text (pairingStart text.toList start + 2 * pair) := by
  induction pair with
  | zero =>
      exact splits_pairingStart dialect maximal
  | succ pair inductionHypothesis =>
      have reached := start_le_pairingStart text.toList start
      have found :=
        (inductionHypothesis (by omega)).finds_equals maximal (by omega)
          (by omega)
      rw [if_pos (by omega)] at found
      exact found.splits.2

/--
The lexemes of a run begin at every second offset from where it pairs off: pairs as
far as they are full, and one equals sign if it is left over.  At the other offsets
stands the second character of a lexeme that has begun before.
-/
theorem finds_in_run_iff
    (maximal : MaximalRun (· == '=') text.toList start run)
    (reached : start ≤ offset)
    (within : offset < start + run.length)
    {lexeme : Lexeme} :
    dialect.Finds text offset lexeme ↔
      (∃ pair, offset = pairingStart text.toList start + 2 * pair) ∧
        lexeme =
          .mark
            (if offset + 1 < start + run.length then
              .equal
            else
              .assign) := by
  have begins
      (pair : Nat)
      (inRun :
        pairingStart text.toList start + 2 * pair < start + run.length) :=
    (splits_pairs dialect maximal (Nat.le_of_lt inRun)).finds_equals
      maximal
      (Nat.le_add_right_of_le (start_le_pairingStart text.toList start))
      inRun
  constructor
  · intro found
    have paired :
        ∃ pair, offset = pairingStart text.toList start + 2 * pair := by
      rcases Nat.lt_or_ge offset (pairingStart text.toList start) with
          early | late
      · obtain ⟨before, rfl, joined⟩ :=
          exists_notEqual_in_front dialect maximal reached early
        have ends : before + 2 ≤ before + 1 :=
          joined.end_le_of_lt found (Nat.lt_succ_self before)
        omega
      · obtain ⟨distance, rfl⟩ := Nat.exists_eq_add_of_le late
        obtain ⟨pair, rfl | rfl⟩ :
            ∃ pair, distance = 2 * pair ∨ distance = 2 * pair + 1 :=
          ⟨distance / 2, by omega⟩
        · exact ⟨pair, rfl⟩
        · have beside := begins pair (by omega)
          rw [if_pos (by omega)] at beside
          have ends :
              pairingStart text.toList start + 2 * pair + 2 ≤
                pairingStart text.toList start + (2 * pair + 1) :=
            beside.end_le_of_lt found (by omega)
          omega
    refine ⟨paired, ?_⟩
    obtain ⟨pair, rfl⟩ := paired
    exact found.lexeme_eq (begins pair within)
  · rintro ⟨⟨pair, rfl⟩, rfl⟩
    exact begins pair within

/-- The token given at an offset of a run of equals signs is the one of the lexeme found there. -/
theorem gives_at_iff
    (maximal : MaximalRun (· == '=') text.toList start run)
    (reached : start ≤ offset)
    (within : offset < start + run.length)
    {kind : Kind}
    {literal : String} :
    dialect.Gives text offset kind literal ↔
      (∃ pair, offset = pairingStart text.toList start + 2 * pair) ∧
        (Lexeme.mark
          (if offset + 1 < start + run.length then
            .equal
          else
            .assign)).token = { kind, literal } := by
  have held := getElem?_of_equals maximal reached within
  rw [gives_iff (.inr (List.getElem?_eq_some_iff.mp held).1)]
  constructor
  · rintro ⟨lexeme, found, same⟩
    obtain ⟨paired, rfl⟩ := (finds_in_run_iff maximal reached within).mp found
    exact ⟨paired, same⟩
  · rintro ⟨paired, same⟩
    exact ⟨_,
      (finds_in_run_iff maximal reached within).mpr ⟨paired, rfl⟩, same⟩

/-- The tokens that start in a run of equals signs. -/
theorem gives_in_run_iff
    (maximal : MaximalRun (· == '=') text.toList start run)
    {kind : Kind}
    {literal : String} :
    (start ≤ offset ∧ offset < start + run.length ∧
        dialect.Gives text offset kind literal) ↔
      (kind = .mark .equal ∧ literal = "==" ∧
          offset + 1 < start + run.length ∧
          ∃ pair, offset = pairingStart text.toList start + 2 * pair) ∨
        kind = .mark .assign ∧ literal = "=" ∧
          offset + 1 = start + run.length ∧
          (start + run.length - pairingStart text.toList start) % 2 = 1 := by
  have early := start_le_pairingStart text.toList start
  constructor
  · rintro ⟨reached, within, given⟩
    obtain ⟨⟨pair, position⟩, same⟩ :=
      (gives_at_iff maximal reached within).mp given
    split at same
    · rename_i full
      obtain ⟨rfl, rfl⟩ := Token.mk.inj same
      exact .inl ⟨rfl, rfl, full, pair, position⟩
    · rename_i last
      obtain ⟨rfl, rfl⟩ := Token.mk.inj same
      exact .inr ⟨rfl, rfl, by omega, by omega⟩
  · rintro (⟨rfl, rfl, full, pair, position⟩ | ⟨rfl, rfl, last, odd⟩)
    · have reached : start ≤ offset := by
        omega
      have within : offset < start + run.length := by
        omega
      refine ⟨reached, within,
        (gives_at_iff maximal reached within).mpr ⟨⟨pair, position⟩, ?_⟩⟩
      rw [if_pos full]
      rfl
    · have reached : start ≤ offset := by
        omega
      have within : offset < start + run.length := by
        omega
      have paired :
          ∃ pair, offset = pairingStart text.toList start + 2 * pair :=
        ⟨(offset - pairingStart text.toList start) / 2, by omega⟩
      refine ⟨reached, within,
        (gives_at_iff maximal reached within).mpr ⟨paired, ?_⟩⟩
      rw [if_neg (by omega)]
      rfl

/-- The sign of an assignment, and of an equation, stands in a run of equals signs. -/
theorem Gives.exists_run
    {kind : Kind}
    {literal : String}
    (given : dialect.Gives text offset kind literal)
    (sign : kind = .mark .assign ∨ kind = .mark .equal) :
    ∃ start run, MaximalRun (· == '=') text.toList start run ∧
      start ≤ offset ∧ offset < start + run.length := by
  have held : text.toList[offset]? = some '=' := by
    rcases sign with rfl | rfl
    · have begins : (Lexeme.mark .assign).spelling[0]? = some '=' := rfl
      exact (gives_mark_iff.mp given).2.getElem?_of_spelling begins
    · have begins : (Lexeme.mark .equal).spelling[0]? = some '=' := rfl
      exact (gives_mark_iff.mp given).2.getElem?_of_spelling begins
  exact MaximalRun.exists_around held rfl

end Dialect

/--
Every exclamation mark starts a token, joined to an equals sign directly behind it if
there is one.  The equals signs of a maximal run pair off from its start, or from
behind its first one if an exclamation mark stands in front of the run; one that is
left over at the end of the run is a token of its own.  No other token is one of these.
-/
theorem equals_signs_pair_off
    (dialect : Dialect)
    (text : String) :
    (∀ (offset : Nat) (literal : String),
      (dialect.Gives text offset (.mark .notEqual) literal ↔
        literal = "!=" ∧ text.toList[offset]? = some '!' ∧
          text.toList[offset + 1]? = some '=') ∧
      (dialect.Gives text offset (.mark .bang) literal ↔
        literal = "!" ∧ text.toList[offset]? = some '!' ∧
          text.toList[offset + 1]? ≠ some '=')) ∧
    (∀ (start : Nat) (run : List Char),
      MaximalRun (· == '=') text.toList start run →
        let first := pairingStart text.toList start
        let stop := start + run.length
        ∀ (offset : Nat) (kind : Kind) (literal : String),
          (start ≤ offset ∧ offset < stop ∧
              dialect.Gives text offset kind literal) ↔
            (kind = .mark .equal ∧ literal = "==" ∧ offset + 1 < stop ∧
                ∃ pair, offset = first + 2 * pair) ∨
              kind = .mark .assign ∧ literal = "=" ∧ offset + 1 = stop ∧
                (stop - first) % 2 = 1) ∧
    ∀ (offset : Nat) (kind : Kind) (literal : String),
      kind = .mark .assign ∨ kind = .mark .equal →
      dialect.Gives text offset kind literal →
        ∃ start run, MaximalRun (· == '=') text.toList start run ∧
          start ≤ offset ∧ offset < start + run.length := by
  refine ⟨?_, ?_, ?_⟩
  · intro offset literal
    rw [Dialect.gives_mark_iff, Dialect.gives_mark_iff,
      Dialect.finds_notEqual_iff, Dialect.finds_bang_iff]
    exact ⟨Iff.rfl, Iff.rfl⟩
  · intro start run maximal first stop offset kind literal
    exact Dialect.gives_in_run_iff maximal
  · intro offset kind literal sign given
    exact given.exists_run sign

theorem equals_signs_pair_off_behind_exclamation :
    let text := "a !===="
    let dialect : Dialect := { dashInWords := true }
    MaximalRun (· == '=') text.toList 3 ['=', '=', '=', '='] ∧
      dialect.Gives text 4 (.mark .equal) "==" ∧
      dialect.Gives text 6 (.mark .assign) "=" ∧
      ∃ start run, MaximalRun (· == '=') text.toList start run ∧
        start ≤ 6 ∧ 6 < start + run.length := by
  intro text dialect
  obtain ⟨-, pairs, runs⟩ := equals_signs_pair_off dialect text
  have maximal :
      MaximalRun (· == '=') text.toList 3 ['=', '=', '=', '='] := by
    refine MaximalRun.of_drop_eq (by decide : _ = _ ++ []) (by decide)
      (by simp) (by simp) ?_
    intro position character adjacent held
    obtain rfl : position = 2 := by
      omega
    have exclamation : text.toList[2]? = some '!' := by
      decide
    obtain rfl : '!' = character :=
      Option.some.inj (exclamation.symm.trans held)
    rfl
  have pair :=
    (pairs 3 _ maximal 4 (.mark .equal) "==").mpr
      (.inl ⟨rfl, rfl, by decide, 0, by decide⟩)
  have left :=
    (pairs 3 _ maximal 6 (.mark .assign) "=").mpr
      (.inr ⟨rfl, rfl, by decide, by decide⟩)
  exact ⟨maximal, pair.2.2, left.2.2,
    runs 6 (.mark .assign) "=" (.inl rfl) left.2.2⟩

end MonkeyTokens
