import Mathlib.Data.List.Basic
import MonkeyTokens.Text.Line
import MonkeyTokens.Text.Ranges

namespace MonkeyTokens.Text

/-!
# Texts as input

The bytes of a text are read back as the text.  Only a line feed has the byte of a
line feed in it, so the lines of the bytes are the bytes of the lines, and input that
ends with a line is cut where it ends.  A carriage return at the end of a line is
white space, and so it does not matter to what is left of the line when the white
space around it is set aside.  Without backspaces every line of a text has its text.
-/

/-- The bytes of a text in UTF-8. -/
def utf8 (text : String) : List UInt8 :=
  text.toUTF8.data.toList

/-- Some text has these bytes. -/
def IsUtf8 (bytes : List UInt8) : Prop :=
  ∃ text, utf8 text = bytes

/-- A text is encoded character by character. -/
theorem utf8_eq_flatMap (text : String) :
    utf8 text = text.toList.flatMap String.utf8EncodeChar := by
  have whole := String.toByteArray_ofList (l := text.toList)
  rw [String.ofList_toList] at whole
  rw [utf8, String.toUTF8_eq_toByteArray, whole, List.utf8Encode,
    List.data_toByteArray]

theorem utf8_append (first second : String) :
    utf8 (first ++ second) = utf8 first ++ utf8 second := by
  simp [utf8_eq_flatMap]

theorem utf8_nil : utf8 "" = [] := by
  simp [utf8_eq_flatMap]

theorem utf8_feed : utf8 "\n" = [Line.feed] := by
  simp [utf8_eq_flatMap, String.utf8EncodeChar, Line.feed]

/-- The bytes of a text are read as that text, and bytes that are read as a text are its bytes. -/
theorem ofUtf8?_eq_some_iff
    {bytes : List UInt8}
    {text : String} :
    ofUtf8? bytes = some text ↔ utf8 text = bytes := by
  rw [ofUtf8?, String.fromUTF8?, utf8, String.toUTF8_eq_toByteArray]
  constructor
  · intro read
    split at read
    · cases read
      rfl
    · cases read
  · rintro rfl
    exact dif_pos text.isValidUTF8

theorem utf8_injective : Function.Injective utf8 := by
  intro first second same
  have read := ofUtf8?_eq_some_iff.mpr same
  rw [ofUtf8?_eq_some_iff.mpr rfl] at read
  exact (Option.some.inj read).symm

theorem ofUtf8?_eq_none_iff {bytes : List UInt8} :
    ofUtf8? bytes = none ↔ ¬ IsUtf8 bytes := by
  rw [Option.eq_none_iff_forall_ne_some, IsUtf8, not_exists]
  simp only [ne_eq, ofUtf8?_eq_some_iff]

instance (bytes : List UInt8) : Decidable (IsUtf8 bytes) :=
  decidable_of_iff (ofUtf8? bytes ≠ none)
    (not_congr ofUtf8?_eq_none_iff |>.trans not_not)

/-- Below 256 only the number 10 is the byte of a line feed. -/
theorem feed_ne_ofNat
    {number : Nat}
    (bound : number < 256)
    (other : number ≠ 10) :
    Line.feed ≠ UInt8.ofNat number := by
  intro same
  have numbers := congrArg UInt8.toNat same
  rw [UInt8.toNat_ofNat_of_lt' bound] at numbers
  exact other numbers.symm

/-- A byte of a character that takes several lies above the ASCII ones. -/
theorem feed_ne_offset
    {number size offset : Nat}
    (positive : 0 < size)
    (high : 128 ≤ offset)
    (fits : size + offset ≤ 256) :
    ¬ Line.feed = UInt8.ofNat (number % size + offset) := by
  have small := Nat.mod_lt number positive
  exact feed_ne_ofNat (by omega) (by omega)

/-- A character other than the line feed is written without its byte. -/
theorem feed_not_mem_utf8EncodeChar
    {character : Char}
    (other : character ≠ '\n') :
    Line.feed ∉ String.utf8EncodeChar character := by
  have otherNumber : character.val.toNat ≠ 10 := by
    intro same
    exact other (Char.toNat_inj.mp same)
  simp only [String.utf8EncodeChar]
  split
  · rename_i single
    simpa using feed_ne_ofNat (by omega) otherNumber
  · split
    · simp (disch := decide) only [List.mem_cons, feed_ne_offset,
        List.not_mem_nil, or_self, not_false_eq_true]
    · split <;>
        simp (disch := decide) only [List.mem_cons, feed_ne_offset,
          List.not_mem_nil, or_self, not_false_eq_true]

/-- A text without a line feed has no byte that looks like one. -/
theorem feed_not_mem_utf8
    {text : String}
    (unbroken : '\n' ∉ text.toList) :
    Line.feed ∉ utf8 text := by
  rw [utf8_eq_flatMap, List.mem_flatMap]
  rintro ⟨character, member, inside⟩
  refine feed_not_mem_utf8EncodeChar ?_ inside
  rintro rfl
  exact unbroken member

/-- A text is its last line, or a line in front of a text with fewer lines. -/
theorem line_induction
    {motive : String → Prop}
    (last : ∀ text : String, '\n' ∉ text.toList → motive text)
    (more :
      ∀ line rest : String,
        '\n' ∉ line.toList → motive rest → motive (line ++ "\n" ++ rest))
    (text : String) :
    motive text := by
  by_cases broken : '\n' ∈ text.toList
  · obtain ⟨line, rest, shape, unbroken⟩ :=
      List.eq_append_cons_of_mem broken
    have whole :
        text = String.ofList line ++ "\n" ++ String.ofList rest := by
      rw [← String.toList_inj, shape]
      simp
    rw [whole]
    have below := line_induction last more (String.ofList rest)
    exact more _ _ (by rwa [String.toList_ofList]) below
  · exact last text broken
termination_by text.length
decreasing_by
  rw [← String.length_toList, ← String.length_toList, shape,
    String.toList_ofList, List.length_append, List.length_cons]
  omega

namespace Line

/-- Bytes that are nothing or end with a line feed. -/
def EndsLine (bytes : List UInt8) : Prop :=
  bytes = [] ∨ ∃ earlier, bytes = earlier ++ [feed]

/-- Input that ends with a line is cut there. -/
theorem split_append
    {front : List UInt8}
    (ends : EndsLine front)
    (rest : List UInt8) :
    split (front ++ rest) = split front ++ split rest := by
  rcases ends with rfl | ⟨earlier, rfl⟩
  · simp [split_nil]
  by_cases broken : feed ∈ earlier
  · obtain ⟨line, later, rfl, unbroken⟩ :=
      List.eq_append_cons_of_mem broken
    have below := split_append (.inr ⟨later, rfl⟩) rest
    have shape (after : List UInt8) :
        line ++ feed :: later ++ [feed] ++ after =
          line ++ feed :: (later ++ [feed] ++ after) := by
      simp
    have front := shape []
    rw [List.append_nil, List.append_nil] at front
    rw [shape, front, split_append_feed unbroken,
      split_append_feed unbroken, below]
    rfl
  · rw [List.append_assoc, List.singleton_append,
      split_append_feed broken, split_append_feed broken, split_nil]
    rfl
termination_by front.length

/-- A line of a text stands in front of the lines below it. -/
theorem split_utf8_line
    {line : String}
    (unbroken : '\n' ∉ line.toList)
    (rest : List UInt8) :
    split (utf8 (line ++ "\n") ++ rest) =
      { bytes := utf8 line, ended := true } :: split rest := by
  rw [utf8_append, utf8_feed, List.append_assoc, List.singleton_append,
    split_append_feed (feed_not_mem_utf8 unbroken)]

/-- A line keeps all its text, or all but the carriage return at its end. -/
theorem dropReturn_cases (text : List Char) :
    dropReturn text = text ∨ text = dropReturn text ++ ['\r'] := by
  unfold dropReturn
  split
  · rename_i returned
    obtain ⟨earlier, rfl⟩ := List.getLast?_eq_some_iff.mp returned
    simp
  · exact .inl rfl

/-- A carriage return at the end does not matter once white space is set aside. -/
theorem trim_dropReturn (text : List Char) :
    WhiteSpace.trim (dropReturn text) = WhiteSpace.trim text := by
  rcases dropReturn_cases text with same | returned
  · rw [same]
  · have white :
        WhiteSpace.trim (dropReturn text ++ ['\r']) =
          WhiteSpace.trim (dropReturn text) :=
      WhiteSpace.trim_append_of_holds (by decide) (dropReturn text)
    rw [← returned] at white
    exact white.symm

/-- A line is refused as no text exactly if its bytes are none. -/
theorem text_eq_notUnicode_iff (line : Line) :
    line.text = .error .notUnicode ↔ ¬ IsUtf8 line.bytes := by
  rw [← ofUtf8?_eq_none_iff, text]
  split
  · rename_i missing
    simp [missing]
  · rename_i written found
    split <;> simp [found]

/-- What is left of a line without its end is part of it. -/
theorem mem_of_mem_withoutEnd
    {line : Line}
    {character : Char}
    {text : List Char}
    (member : character ∈ line.withoutEnd text) :
    character ∈ text := by
  unfold withoutEnd at member
  split at member
  · rcases dropReturn_cases text with same | returned
    · rwa [same] at member
    · rw [returned]
      exact List.mem_append_left _ member
  · exact member

/-- Without backspaces a line has its text, less its end. -/
theorem text_utf8
    {text : String}
    (unerased : '\x08' ∉ text.toList)
    (ended : Bool) :
    ({ bytes := utf8 text, ended } : Line).text =
      .ok
        (String.ofList
          (if ended then dropReturn text.toList else text.toList)) := by
  have kept :
      '\x08' ∉
        ({ bytes := utf8 text, ended } : Line).withoutEnd text.toList :=
    fun member => unerased (mem_of_mem_withoutEnd member)
  simp only [Line.text, ofUtf8?_eq_some_iff.mpr rfl,
    Cluster.applyBackspaces?_of_not_mem kept]
  rfl

/-- The backspaces of a line would cut a character, and so no text is given for it. -/
def IsBroken (line : Line) : Prop :=
  line.text = .error .brokenCharacter

instance (line : Line) : Decidable line.IsBroken :=
  inferInstanceAs (Decidable (line.text = .error .brokenCharacter))

/-- Of a line that is a text only the backspaces decide whether it is broken. -/
theorem isBroken_utf8_iff
    {text : String}
    {ended : Bool} :
    ({ bytes := utf8 text, ended } : Line).IsBroken ↔
      Cluster.applyBackspaces?
          (({ bytes := utf8 text, ended } : Line).withoutEnd text.toList) =
        none := by
  simp only [IsBroken, Line.text, ofUtf8?_eq_some_iff.mpr rfl]
  split <;> simp_all

/-- A broken line is a text with a backspace and a cluster whose size fits in no byte. -/
theorem IsBroken.exists_large
    {line : Line}
    (broken : line.IsBroken) :
    ∃ written,
      utf8 written = line.bytes ∧
        '\x08' ∈ written.toList ∧
        ∃ cluster ∈ Cluster.clusters (line.withoutEnd written.toList),
          256 ≤ byteSize cluster := by
  unfold IsBroken text at broken
  split at broken
  · cases broken
  · rename_i written found
    split at broken
    · rename_i given
      obtain ⟨erased, large⟩ :=
        Cluster.exists_large_of_applyBackspaces?_eq_none given
      exact
        ⟨written, ofUtf8?_eq_some_iff.mp found,
          mem_of_mem_withoutEnd erased, large⟩
    · cases broken

end Line

end MonkeyTokens.Text
