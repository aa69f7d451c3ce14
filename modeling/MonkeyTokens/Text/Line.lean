import MonkeyTokens.Text.Cluster

namespace MonkeyTokens.Text

/-!
# Lines of input

Input arrives as bytes.  It is cut at every line feed, each line is read as
UTF-8 by itself, and the marks of its end and its backspaces are worked off
before anyone sees the line.  A line has no text if its bytes are no UTF-8, or if
its backspaces would cut a character.
-/

/-- The bytes of a text in UTF-8, if they are that. -/
def ofUtf8? (bytes : List UInt8) : Option String :=
  String.fromUTF8? ⟨bytes.toArray⟩

/-- The bytes between two line feeds, and whether the second is there. -/
structure Line where
  bytes : List UInt8
  ended : Bool
  deriving Repr, DecidableEq

namespace Line

/-- Why a line has no text. -/
inductive Refusal where
  | notUnicode
  | brokenCharacter
  deriving Repr, DecidableEq

/-- The byte that ends a line. -/
def feed : UInt8 := 10

/-- The lines of some bytes; nothing after the last line feed is no line. -/
def split (bytes : List UInt8) : List Line :=
  match _ : bytes.dropWhile (· != feed) with
  | [] =>
      if bytes.isEmpty then
        []
      else
        [{ bytes, ended := false }]
  | _ :: rest =>
      { bytes := bytes.takeWhile (· != feed), ended := true } :: split rest
termination_by bytes.length
decreasing_by
  have dropped :=
    (List.dropWhile_sublist (· != feed) (l := bytes)).length_le
  rename_i shape
  rw [shape] at dropped
  exact dropped

/-- Bytes without a line feed all differ from it. -/
theorem bne_feed_of_not_mem
    {bytes : List UInt8}
    (unbroken : feed ∉ bytes) :
    ∀ byte ∈ bytes, (byte != feed) = true := by
  intro byte member
  simp only [bne_iff_ne, ne_eq]
  rintro rfl
  exact unbroken member

/-- No bytes hold no line. -/
theorem split_nil : split [] = [] := by
  rw [split]
  rfl

/-- Up to its first line feed a text is one ended line. -/
theorem split_append_feed
    {bytes : List UInt8}
    (unbroken : feed ∉ bytes)
    (rest : List UInt8) :
    split (bytes ++ feed :: rest) =
      { bytes, ended := true } :: split rest := by
  have ordinary := bne_feed_of_not_mem unbroken
  have dropped :
      (bytes ++ feed :: rest).dropWhile (· != feed) = feed :: rest := by
    rw [List.dropWhile_append_of_pos ordinary]
    simp
  have taken : (bytes ++ feed :: rest).takeWhile (· != feed) = bytes := by
    rw [List.takeWhile_append_of_pos ordinary]
    simp
  rw [split]
  split <;> simp_all

/-- Bytes without a line feed are one line that is not ended. -/
theorem split_of_not_mem
    {bytes : List UInt8}
    (unbroken : feed ∉ bytes)
    (present : bytes ≠ []) :
    split bytes = [{ bytes, ended := false }] := by
  have ordinary := bne_feed_of_not_mem unbroken
  have followed :
      (bytes ++ []).dropWhile (· != feed) = [].dropWhile (· != feed) :=
    List.dropWhile_append_of_pos ordinary
  have dropped : bytes.dropWhile (· != feed) = [] := by
    simpa using followed
  rw [split]
  split <;> simp_all

/-- A text without one carriage return at its end. -/
def dropReturn (text : List Char) : List Char :=
  if text.getLast? = some '\r' then
    text.dropLast
  else
    text

/-- A text of a line; a carriage return before the line feed belongs to the end of the line. -/
def withoutEnd
    (line : Line)
    (text : List Char) :
    List Char :=
  if line.ended then dropReturn text else text

/-- The text of a line without its end, after backspaces have taken back what they follow. -/
def text (line : Line) : Except Refusal String :=
  match ofUtf8? line.bytes with
  | none =>
      .error .notUnicode
  | some written =>
      match Cluster.applyBackspaces? (line.withoutEnd written.toList) with
      | none => .error .brokenCharacter
      | some kept => .ok (String.ofList kept)

end Line

end MonkeyTokens.Text
