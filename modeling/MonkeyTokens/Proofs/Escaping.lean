import Mathlib.Data.List.Basic
import MonkeyTokens.Proofs.Quoting

namespace MonkeyTokens.Text

/-!
# What is escaped and what is not

A control character never stands in a quoted text, neither as itself nor in an escape.
The visible characters of ASCII stand for themselves, apart from the two quotation
marks and the backslash.  So a text made of them is quoted without an escape.
-/

/-- A control character: one of the first 32 code points, or one from 127 to 159. -/
def isControl (character : Char) : Bool :=
  character.toNat < 0x20 ||
    (0x7F ≤ character.toNat && character.toNat < 0xA0)

/-- A visible character of ASCII that quoting leaves alone. -/
def isVerbatim (character : Char) : Bool :=
  0x20 < character.toNat && character.toNat < 0x7F &&
    character != '"' && character != '\'' && character != '\\'

/-- What holds of the first code points holds of every character among them. -/
theorem forall_of_toNat_lt
    {motive : Char → Prop}
    {bound : Nat}
    (checked : ∀ number < bound, motive (Char.ofNat number))
    {character : Char}
    (below : character.toNat < bound) :
    motive character := by
  have held := checked character.toNat below
  rwa [Char.ofNat_toNat] at held

/-- No control character is printable. -/
theorem Unprintable.holds_of_isControl
    {character : Char}
    (control : isControl character = true) :
    holds character = true := by
  have below : character.toNat < 0xA0 := by
    simp only [isControl, Bool.or_eq_true, Bool.and_eq_true,
      decide_eq_true_eq] at control
    omega
  exact
    forall_of_toNat_lt
      (motive := fun other => isControl other = true → holds other = true)
      (by decide +kernel) below control

/-- A character that is shown as it is can be printed. -/
theorem Unprintable.holds_of_isVerbatim
    {character : Char}
    (verbatim : isVerbatim character = true) :
    holds character = false := by
  have below : character.toNat < 0x7F := by
    simp only [isVerbatim, Bool.and_eq_true, decide_eq_true_eq] at verbatim
    omega
  exact
    forall_of_toNat_lt
      (motive := fun other => isVerbatim other = true → holds other = false)
      (by decide +kernel) below verbatim

theorem isControl_of_isVerbatim
    {character : Char}
    (verbatim : isVerbatim character = true) :
    isControl character = false := by
  apply Bool.eq_false_iff.mpr
  intro control
  have unprintable := Unprintable.holds_of_isControl control
  rw [Unprintable.holds_of_isVerbatim verbatim] at unprintable
  cases unprintable

theorem isControl_of_isDigit
    {character : Char}
    (digit : character.isDigit = true) :
    isControl character = false := by
  simp only [Char.isDigit, Bool.and_eq_true, decide_eq_true_eq,
    UInt32.le_iff_toNat_le] at digit
  simp only [isControl, Bool.or_eq_false_iff, Bool.and_eq_false_iff,
    decide_eq_false_iff_not]
  simp at digit
  omega

/-- A text without a control character, and so without an end of line. -/
def IsControlFree (text : List Char) : Prop :=
  ∀ character ∈ text, isControl character = false

instance (text : List Char) : Decidable (IsControlFree text) :=
  List.decidableBAll (fun character => isControl character = false) text

namespace IsControlFree

@[simp]
theorem append_iff {first second : List Char} :
    IsControlFree (first ++ second) ↔
      IsControlFree first ∧ IsControlFree second :=
  List.forall_mem_append

/-- Decimal digits are all that a number is written with. -/
theorem toString (number : Nat) : IsControlFree (toString number).toList := by
  intro digit member
  rw [Nat.toString_eq_repr, Nat.toList_repr] at member
  exact
    isControl_of_isDigit
      (Nat.isDigit_of_mem_toDigits (by decide) (by decide) member)

/-- A text without control characters is a single line. -/
theorem feed_not_mem
    {text : List Char}
    (free : IsControlFree text) :
    '\n' ∉ text := by
  intro member
  have control := free '\n' member
  cases control

end IsControlFree

namespace Quoted

variable {unprintable : Char → Bool} {delimiter : Char}

theorem isControl_of_mem_marks
    (mark : delimiter ∈ marks) :
    isControl delimiter = false := by
  simp only [marks, List.mem_cons, List.not_mem_nil, or_false] at mark
  rcases mark with rfl | rfl <;> rfl

/-- Only control characters have a letter of their own. -/
theorem controlLetter?_of_isControl
    {character : Char}
    (visible : isControl character = false) :
    controlLetter? character = none := by
  cases found : controlLetter? character with
  | none =>
      rfl
  | some letter =>
      unfold controlLetter? at found
      split at found <;> cases found <;> cases visible

/-- No escape holds a control character if the control characters are unprintable. -/
theorem isControlFree_escape
    (controls :
      ∀ character, isControl character = true → unprintable character = true)
    (mark : delimiter ∈ marks)
    (character : Char) :
    IsControlFree (escape unprintable delimiter character) := by
  unfold escape
  split
  · rename_i letter found
    unfold controlLetter? at found
    split at found <;> cases found <;> decide
  · split
    · rename_i special
      have backslash : isControl '\\' = false := rfl
      intro written member
      rcases List.mem_cons.mp member with rfl | second
      · exact backslash
      · obtain rfl := List.mem_singleton.mp second
        rcases special with rfl | rfl
        · exact backslash
        · exact isControl_of_mem_marks mark
    · split
      · have brace : IsControlFree ['}'] := by decide
        have opening : IsControlFree ['\\', 'u', '{'] := by decide
        rw [numbered, IsControlFree.append_iff, IsControlFree.append_iff]
        refine ⟨⟨opening, ?_⟩, brace⟩
        intro digit member
        obtain ⟨value, bound, rfl⟩ := digitChar_of_mem_hexDigits member
        have digits :
            ∀ value < 16, isControl (Nat.digitChar value) = false := by
          decide
        exact digits value bound
      · rename_i printable
        intro other member
        obtain rfl := List.mem_singleton.mp member
        apply Bool.eq_false_iff.mpr
        intro control
        exact printable (controls other control)

/-- Quoting a text leaves no control character, if all of them count as unprintable. -/
theorem isControlFree_encode
    (controls :
      ∀ character, isControl character = true → unprintable character = true)
    (mark : delimiter ∈ marks)
    (text : List Char) :
    IsControlFree (encode unprintable delimiter text) := by
  have quotation : IsControlFree [delimiter] :=
    List.forall_mem_singleton.mpr (isControl_of_mem_marks mark)
  rw [encode, ← List.singleton_append, List.append_assoc,
    IsControlFree.append_iff, IsControlFree.append_iff]
  refine ⟨quotation, ?_, quotation⟩
  intro written member
  obtain ⟨character, -, inside⟩ := List.mem_flatMap.mp member
  exact isControlFree_escape controls mark character written inside

/-- A quoted character is shown without control characters, also if it is one itself. -/
theorem isControlFree_character (single : Char) :
    IsControlFree (character single).toList := by
  rw [character, String.toList_ofList]
  exact
    isControlFree_encode (fun _ => Unprintable.holds_of_isControl)
      (by decide) [single]

/-- Different characters are quoted differently. -/
theorem character_injective : Function.Injective character := by
  intro first second same
  have quoted : [first] = [second] :=
    encode_injective (by decide) (String.ofList_injective same)
  exact List.singleton_injective quoted

/-! ## Texts that are quoted without an escape -/

/-- A character that is shown as it is needs no escape. -/
theorem escape_of_isVerbatim
    {character : Char}
    (mark : delimiter ∈ marks)
    (verbatim : isVerbatim character = true) :
    escape Unprintable.holds delimiter character = [character] := by
  have printable := Unprintable.holds_of_isVerbatim verbatim
  have visible := isControl_of_isVerbatim verbatim
  have unlettered := controlLetter?_of_isControl visible
  have ordinary : ¬ (character = '\\' ∨ character = delimiter) := by
    simp only [marks, List.mem_cons, List.not_mem_nil, or_false] at mark
    simp only [isVerbatim, Bool.and_eq_true, bne_iff_ne] at verbatim
    rintro (rfl | rfl)
    · exact verbatim.2 rfl
    · rcases mark with rfl | rfl
      · exact verbatim.1.1.2 rfl
      · exact verbatim.1.2 rfl
  simp [escape, unlettered, ordinary, printable]

/-- A text of visible characters that need no escape stands as it is between two quotation marks. -/
theorem string_of_isVerbatim
    {text : String}
    (verbatim : ∀ character ∈ text.toList, isVerbatim character = true) :
    string Unprintable.holds text = "\"" ++ text ++ "\"" := by
  have alone :
      text.toList.flatMap (escape Unprintable.holds '"') = text.toList := by
    have each :
        ∀ character ∈ text.toList,
          escape Unprintable.holds '"' character = [character] := by
      intro character member
      exact escape_of_isVerbatim (by decide) (verbatim character member)
    rw [List.flatMap_congr each]
    exact List.flatMap_singleton' text.toList
  rw [string, encode, alone]
  apply String.toList_injective
  simp

end Quoted

end MonkeyTokens.Text
