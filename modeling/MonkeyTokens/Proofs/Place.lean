import Mathlib.Data.List.TakeWhile
import MonkeyTokens.Reading

namespace MonkeyTokens.Text.Place

/-!
# Places in a text of several lines

The place of an offset depends on nothing behind it.  Within the first line it is
the column alone, and below the first line it is the place in the rest of the text,
one line further down.
-/

/-- What stands in front of a line feed does not belong to the last line. -/
theorem lastLine_append_feed (line rest : List Char) :
    lastLine (line ++ '\n' :: rest) = lastLine rest := by
  have reversed :
      (line ++ '\n' :: rest).reverse =
        rest.reverse ++ '\n' :: line.reverse := by
    simp
  unfold lastLine
  rw [reversed, List.takeWhile_append]
  split
  · rename_i full
    have kept :=
      List.IsPrefix.eq_of_length (List.takeWhile_prefix _) full
    simp [kept]
  · rfl

/-- A text without line feeds is its own last line. -/
theorem lastLine_of_not_mem
    {text : List Char}
    (unbroken : '\n' ∉ text) :
    lastLine text = text := by
  have ordinary :
      ∀ character ∈ text.reverse, (character != '\n') = true := by
    intro character member
    simp only [bne_iff_ne, ne_eq]
    rintro rfl
    exact unbroken (List.mem_reverse.mp member)
  rw [lastLine, List.takeWhile_eq_self_iff.mpr ordinary,
    List.reverse_reverse]

theorem length_lastLine_le (text : List Char) :
    (lastLine text).length ≤ text.length := by
  have shorter :=
    (List.takeWhile_prefix (· != '\n') (l := text.reverse)).length_le
  simpa [lastLine] using shorter

/-- The place of an offset depends on the characters in front of it alone. -/
theorem ofOffset_append
    (text later : List Char)
    {offset : Nat}
    (within : offset ≤ text.length) :
    ofOffset (text ++ later) offset = ofOffset text offset := by
  simp only [ofOffset, List.take_append_of_le_length within]

/-- In front of the first line feed a place is a column of the first line. -/
theorem ofOffset_of_not_mem
    {text : List Char}
    (unbroken : '\n' ∉ text)
    (offset : Nat) :
    ofOffset text offset = { line := 1, column := offset + 1 } := by
  have unbrokenBefore : '\n' ∉ text.take offset := by
    intro member
    exact unbroken (List.mem_of_mem_take member)
  simp [ofOffset, lastLineStart, lastLine_of_not_mem unbrokenBefore,
    List.count_eq_zero_of_not_mem unbrokenBefore]

/-- Below a line a place is one line further down, in the same column. -/
theorem ofOffset_append_feed
    {line : List Char}
    (unbroken : '\n' ∉ line)
    (rest : List Char)
    (offset : Nat) :
    ofOffset (line ++ '\n' :: rest) (offset + (line.length + 1)) =
      { line := (ofOffset rest offset).line + 1
        column := (ofOffset rest offset).column } := by
  have before :
      (line ++ '\n' :: rest).take (offset + (line.length + 1)) =
        line ++ '\n' :: rest.take offset := by
    have order :
        offset + (line.length + 1) = line.length + (offset + 1) := by
      omega
    rw [order, List.take_length_add_append, List.take_succ_cons]
  have shorter := length_lastLine_le (rest.take offset)
  simp only [ofOffset, before, lastLineStart, lastLine_append_feed,
    List.count_append, List.count_cons_self,
    List.count_eq_zero_of_not_mem unbroken, List.length_append,
    List.length_cons, mk.injEq]
  omega

end MonkeyTokens.Text.Place
