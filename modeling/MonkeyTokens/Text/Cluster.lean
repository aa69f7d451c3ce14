import MonkeyTokens.Text.Bytes
import MonkeyTokens.Text.Cluster.Properties

namespace MonkeyTokens.Text.Cluster

/-!
# Extended grapheme clusters

What a reader takes for one character may be written with several: a letter with
its marks, a syllable of Hangul, a flag, a joined pictograph, a conjunct.  A text
is divided into such clusters by looking at each pair of neighbours and at a
summary of what stands before them.  Nothing is lost: the clusters in order are
the text.

A backspace character takes back the cluster before it, and itself.  Of a cluster
only its size is noted, in one byte, so of one that has 256 bytes or more only as
much is taken back as the byte says.  If that cuts a character nothing can be taken
back, and the text is given up.
-/

/-- The part that a character plays at the bounds of clusters. -/
inductive Role where
  | carriageReturn
  | lineFeed
  | control
  | extend
  | joiner
  | regional
  | prepend
  | spacingMark
  | leading
  | vowel
  | trailing
  | openSyllable
  | closedSyllable
  | other
  deriving Repr, DecidableEq

/-- Code points between two bounds, both included. -/
def between
    (first last point : Nat) :
    Bool :=
  first ≤ point && point ≤ last

/-- The role of a Hangul letter or syllable. -/
def hangulRole? (point : Nat) : Option Role :=
  if between 0x1100 0x115F point || between 0xA960 0xA97C point then
    some .leading
  else if
      between 0x1160 0x11A7 point || between 0xD7B0 0xD7C6 point ||
        point == 0x16D63 || between 0x16D67 0x16D6A point then
    some .vowel
  else if between 0x11A8 0x11FF point || between 0xD7CB 0xD7FB point then
    some .trailing
  else if between 0xAC00 0xD7A3 point then
    if (point - 0xAC00) % 28 == 0 then
      some .openSyllable
    else
      some .closedSyllable
  else
    none

/-- The role of a character; most characters of most scripts have none in particular. -/
def role (character : Char) : Role :=
  let point := character.toNat
  if point == 0x0D then
    .carriageReturn
  else if point == 0x0A then
    .lineFeed
  else if point == 0x200D then
    .joiner
  else if between 0x1F1E6 0x1F1FF point then
    .regional
  else
    match hangulRole? point with
    | some hangul =>
        hangul
    | none =>
        if controlRanges.contains point then
          .control
        else if extendRanges.contains point then
          .extend
        else if prependRanges.contains point then
          .prepend
        else if spacingMarkRanges.contains point then
          .spacingMark
        else
          .other

/-- How much of a conjunct stands before the next character. -/
inductive Conjunct where
  | none
  | consonant
  | linked
  deriving Repr, DecidableEq

/-- How much of a joined pictograph stands before the next character. -/
inductive Pictograph where
  | none
  | begun
  | joined
  deriving Repr, DecidableEq

/-- What has to be known of the text before a character to bound its cluster. -/
structure Context where
  role : Role
  oddRegionals : Bool
  conjunct : Conjunct
  pictograph : Pictograph
  deriving Repr, DecidableEq

namespace Context

/-- The conjunct after one more character. -/
def nextConjunct
    (before : Conjunct)
    (character : Char) :
    Conjunct :=
  if consonantRanges.containsChar character then
    .consonant
  else
    match before with
    | .none =>
        .none
    | begun =>
        if linkerRanges.containsChar character then
          .linked
        else if
            (Cluster.role character == .extend && character != '\u200c') ||
              Cluster.role character == .joiner then
          begun
        else
          .none

/-- The pictograph after one more character. -/
def nextPictograph
    (before : Pictograph)
    (character : Char) :
    Pictograph :=
  if pictographicRanges.containsChar character then
    .begun
  else
    match before, Cluster.role character with
    | .begun, .extend => .begun
    | .begun, .joiner => .joined
    | _, _ => .none

/-- The context after the first character of a text. -/
def first (character : Char) : Context where
  role := Cluster.role character
  oddRegionals := Cluster.role character == .regional
  conjunct := nextConjunct .none character
  pictograph := nextPictograph .none character

/-- The context after one more character. -/
def next
    (before : Context)
    (character : Char) :
    Context where
  role := Cluster.role character
  oddRegionals :=
    Cluster.role character == .regional && !before.oddRegionals
  conjunct := nextConjunct before.conjunct character
  pictograph := nextPictograph before.pictograph character

/-- A character belongs to the cluster before it. -/
def joins
    (before : Context)
    (character : Char) :
    Bool :=
  match before.role, Cluster.role character with
  | .carriageReturn, .lineFeed => true
  | .carriageReturn, _ => false
  | .lineFeed, _ => false
  | .control, _ => false
  | _, .carriageReturn => false
  | _, .lineFeed => false
  | _, .control => false
  | .leading, .leading => true
  | .leading, .vowel => true
  | .leading, .openSyllable => true
  | .leading, .closedSyllable => true
  | .openSyllable, .vowel => true
  | .openSyllable, .trailing => true
  | .vowel, .vowel => true
  | .vowel, .trailing => true
  | .closedSyllable, .trailing => true
  | .trailing, .trailing => true
  | _, .extend => true
  | _, .joiner => true
  | _, .spacingMark => true
  | .prepend, _ => true
  | .regional, .regional => before.oddRegionals
  | _, _ =>
      (before.conjunct == .linked &&
          consonantRanges.containsChar character) ||
        (before.pictograph == .joined &&
          pictographicRanges.containsChar character)

end Context

/-- Put a character at the front of the first cluster. -/
def prependChar
    (character : Char) :
    List (List Char) → List (List Char)
  | [] => [[character]]
  | cluster :: clusters => (character :: cluster) :: clusters

/--
The clusters of the text that follows a context.  The first of them continues
the cluster before the text and may be empty.
-/
def clustersAfter
    (before : Context) :
    List Char → List (List Char)
  | [] =>
      [[]]
  | character :: rest =>
      let later :=
        prependChar character (clustersAfter (before.next character) rest)
      if before.joins character then
        later
      else
        [] :: later

/-- The clusters of a text. -/
def clusters : List Char → List (List Char)
  | [] =>
      []
  | character :: rest =>
      prependChar character (clustersAfter (.first character) rest)

/-- A character put in front of some clusters is the first of their text. -/
theorem flatten_prependChar
    (character : Char)
    (clusters : List (List Char)) :
    (prependChar character clusters).flatten =
      character :: clusters.flatten := by
  cases clusters <;> rfl

/-- The clusters after a context hold all characters of the text, in order. -/
theorem flatten_clustersAfter
    (before : Context)
    (text : List Char) :
    (clustersAfter before text).flatten = text := by
  induction text generalizing before with
  | nil =>
      rfl
  | cons character rest inductionHypothesis =>
      simp only [clustersAfter]
      split <;> simp [flatten_prependChar, inductionHypothesis]

/-- The clusters of a text hold all its characters, in order. -/
theorem flatten_clusters (text : List Char) :
    (clusters text).flatten = text := by
  cases text with
  | nil =>
      rfl
  | cons character rest =>
      simp [clusters, flatten_prependChar, flatten_clustersAfter]

/-- One more than the largest size of a cluster that is told apart from smaller ones. -/
def sizeLimit : Nat := 256

/-- The text that is kept while backspaces take effect, and the sizes of its clusters; the last come first. -/
structure Kept where
  characters : List Char := []
  sizes : List Nat := []
  deriving Repr, DecidableEq

namespace Kept

/-- The kept text, in order. -/
def text (kept : Kept) : List Char :=
  kept.characters.reverse

/-- Keep a cluster; its size is noted in a single byte. -/
def push
    (kept : Kept)
    (cluster : List Char) :
    Kept where
  characters := cluster.reverse ++ kept.characters
  sizes := byteSize cluster % sizeLimit :: kept.sizes

/--
Take back as many bytes as were noted for the last cluster that has not been taken
back, unless they begin inside a character.
-/
def pop? (kept : Kept) : Option Kept :=
  match kept.sizes with
  | [] =>
      some kept
  | size :: sizes =>
      (dropBytes? kept.characters size).map fun characters =>
        { characters, sizes }

end Kept

/-- Keep every cluster, and take one back for every backspace. -/
def takeBack?
    (kept : Kept) :
    List (List Char) → Option Kept
  | [] =>
      some kept
  | cluster :: later =>
      if cluster = ['\x08'] then
        match kept.pop? with
        | some shorter => takeBack? shorter later
        | none => none
      else
        takeBack? (kept.push cluster) later

/-- The text after its backspaces have taken effect, unless one of them cuts a character. -/
def applyBackspaces? (text : List Char) : Option (List Char) :=
  (takeBack? {} (clusters text)).map Kept.text

/-- A kept cluster stands at the end of the kept text. -/
theorem text_push
    (kept : Kept)
    (cluster : List Char) :
    (kept.push cluster).text = kept.text ++ cluster := by
  simp [Kept.text, Kept.push]

/-- Clusters among which no backspace stands alone are all kept. -/
theorem map_text_takeBack?_of_not_mem
    {clusters : List (List Char)}
    (absent : ['\x08'] ∉ clusters)
    (kept : Kept) :
    (takeBack? kept clusters).map Kept.text =
      some (kept.text ++ clusters.flatten) := by
  induction clusters generalizing kept with
  | nil =>
      simp [takeBack?]
  | cons cluster later inductionHypothesis =>
      rw [List.mem_cons, not_or] at absent
      rw [takeBack?, if_neg (Ne.symm absent.1), inductionHypothesis absent.2,
        text_push]
      simp

/-- A text without backspaces stays as it is. -/
theorem applyBackspaces?_of_not_mem
    {text : List Char}
    (absent : '\x08' ∉ text) :
    applyBackspaces? text = some text := by
  have alone : ['\x08'] ∉ clusters text := by
    intro member
    apply absent
    rw [← flatten_clusters text]
    exact List.mem_flatten.mpr ⟨_, member, by simp⟩
  rw [applyBackspaces?, map_text_takeBack?_of_not_mem alone,
    flatten_clusters]
  rfl

/-- A kept text whose clusters all have a size that fits in the byte that notes it. -/
inductive Kept.Small : Kept → Prop where
  | nothing : Small {}
  | push
      {kept : Kept}
      (cluster : List Char)
      (small : kept.Small)
      (fits : byteSize cluster < sizeLimit) :
      Small (kept.push cluster)

/-- Of small clusters the last one is taken back as a whole. -/
theorem Kept.Small.exists_pop?
    {kept : Kept}
    (small : kept.Small) :
    ∃ shorter, kept.pop? = some shorter ∧ shorter.Small := by
  cases small with
  | nothing =>
      exact ⟨{}, rfl, .nothing⟩
  | @push earlier cluster small fits =>
      refine ⟨earlier, ?_, small⟩
      simp only [Kept.push, Kept.pop?, Nat.mod_eq_of_lt fits]
      rw [← byteSize_reverse, dropBytes?_append]
      rfl

/-- Small clusters are kept and taken back without a cut inside a character. -/
theorem exists_takeBack?_of_small
    {kept : Kept}
    {clusters : List (List Char)}
    (small : kept.Small)
    (fit : ∀ cluster ∈ clusters, byteSize cluster < sizeLimit) :
    ∃ last, takeBack? kept clusters = some last := by
  induction clusters generalizing kept with
  | nil =>
      exact ⟨kept, rfl⟩
  | cons cluster later inductionHypothesis =>
      rw [List.forall_mem_cons] at fit
      rw [takeBack?]
      split
      · obtain ⟨shorter, popped, smaller⟩ := small.exists_pop?
        rw [popped]
        exact inductionHypothesis smaller fit.2
      · exact inductionHypothesis (.push cluster small fit.1) fit.2

/-- A text is given up only if it holds a backspace and a cluster whose size fits in no byte. -/
theorem exists_large_of_applyBackspaces?_eq_none
    {text : List Char}
    (broken : applyBackspaces? text = none) :
    '\x08' ∈ text ∧
      ∃ cluster ∈ clusters text, sizeLimit ≤ byteSize cluster := by
  refine
    ⟨Decidable.byContradiction fun absent => ?_,
      Classical.byContradiction fun small => ?_⟩
  · rw [applyBackspaces?_of_not_mem absent] at broken
    cases broken
  · have fit :
        ∀ cluster ∈ clusters text, byteSize cluster < sizeLimit := by
      intro cluster member
      exact Nat.lt_of_not_le fun large => small ⟨cluster, member, large⟩
    obtain ⟨last, taken⟩ := exists_takeBack?_of_small .nothing fit
    rw [applyBackspaces?, taken] at broken
    cases broken

end MonkeyTokens.Text.Cluster
