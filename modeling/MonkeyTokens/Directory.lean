import MonkeyTokens.Failure

namespace MonkeyTokens

/-!
# A flat working directory

A run reads at most one file.  This module says what it finds at a path when its
working directory holds files and empty directories and nothing else: the bytes
of a file, or the number of the error that the system reports.  Outside of that
directory only what every system has is found: the null device, which is empty,
and the directories at the root.
-/

/-- What a name of the directory stands for. -/
inductive Entry where
  | file : List UInt8 → Entry
  | directory
  deriving Repr, DecidableEq

/-- The names of a directory with what they stand for. -/
abbrev Directory := List (String × Entry)

namespace Directory

/-- Where a path has led so far. -/
inductive Location where
  | here
  | within
  | above
  | fromRoot (names : List String)
  | atFile : List UInt8 → Location
  deriving Repr, DecidableEq

/-- The error of a name that does not exist. -/
def absent : InputFault := .system 2

/-- The error of a path that goes on after a file. -/
def throughFile : InputFault := .system 20

/-- The error of reading a directory. -/
def isDirectory : InputFault := .system 21

/-- The error of a name or a path that is too long. -/
def tooLong : InputFault := .system 36

/-- The number of bytes that a name may have. -/
def nameLimit : Nat := 255

/-- The number of bytes that a path must stay below. -/
def pathLimit : Nat := 4096

/-- What every system has, by its names from the last one back to the root. -/
def system : List (List String × Entry) :=
  [(["dev"], .directory), (["null", "dev"], .file []), (["etc"], .directory),
    (["proc"], .directory), (["tmp"], .directory), (["usr"], .directory),
    (["var"], .directory)]

/-- Follow one part of a path; an empty part and a dot stay in place. -/
def follow
    (directory : Directory)
    (location : Location)
    (part : String) :
    Except InputFault Location :=
  match location with
  | .atFile _ =>
      .error throughFile
  | _ =>
      if part = "" ∨ part = "." then
        .ok location
      else if part = ".." then
        match location with
        | .within => .ok .here
        | .fromRoot names => .ok (.fromRoot names.tail)
        | _ => .ok .above
      else if nameLimit < part.utf8ByteSize then
        .error tooLong
      else
        match location with
        | .here =>
            match directory.lookup part with
            | some (.file bytes) => .ok (.atFile bytes)
            | some .directory => .ok .within
            | none => .error absent
        | .fromRoot names =>
            match system.lookup (part :: names) with
            | some (.file bytes) => .ok (.atFile bytes)
            | some .directory => .ok (.fromRoot (part :: names))
            | none => .error absent
        | _ =>
            .error absent

/-- The bytes of the file at a path. -/
def bytesAt
    (directory : Directory)
    (path : String) :
    Except InputFault (List UInt8) := do
  if pathLimit ≤ path.utf8ByteSize then
    .error tooLong
  let start : Location :=
    if path.toList.head? = some '/' then .fromRoot [] else .here
  let parts := (path.toList.splitOn '/').map String.ofList
  match ← parts.foldlM directory.follow start with
  | .atFile bytes => .ok bytes
  | _ => .error isDirectory

/-- A path of one part that neither stays in place nor goes up. -/
def IsName (path : String) : Prop :=
  '/' ∉ path.toList ∧ path ∉ ["", ".", ".."] ∧ path.utf8ByteSize ≤ nameLimit

instance (path : String) : Decidable (IsName path) :=
  inferInstanceAs (Decidable (_ ∧ _ ∧ _))

/-- From the working directory a name leads to what the directory lists under it. -/
theorem follow_here_of_isName
    (directory : Directory)
    {path : String}
    (named : IsName path) :
    directory.follow .here path =
      match directory.lookup path with
      | some (.file bytes) => .ok (.atFile bytes)
      | some .directory => .ok .within
      | none => .error absent := by
  obtain ⟨-, proper, short⟩ := named
  simp only [List.mem_cons, List.not_mem_nil, or_false, not_or] at proper
  obtain ⟨nonempty, undotted, descending⟩ := proper
  simp only [follow, nonempty, undotted, descending, or_self, if_false,
    Nat.not_lt.mpr short]

/-- At a name are the bytes of the file that the directory lists under it; a
directory has none, and what is not listed does not exist. -/
theorem bytesAt_of_isName
    (directory : Directory)
    {path : String}
    (named : IsName path) :
    directory.bytesAt path =
      match directory.lookup path with
      | some (.file bytes) => .ok bytes
      | some .directory => .error isDirectory
      | none => .error absent := by
  have short : ¬ pathLimit ≤ path.utf8ByteSize :=
    Nat.not_le.mpr (Nat.lt_of_le_of_lt named.2.2 (by decide))
  have relative : path.toList.head? ≠ some '/' :=
    fun first => named.1 (List.mem_of_mem_head? first)
  have whole : (path.toList.splitOn '/').map String.ofList = [path] := by
    rw [List.splitOn_eq_singleton named.1, List.map_singleton,
      String.ofList_toList]
  simp only [bytesAt, short, relative, whole, if_false, List.foldlM_cons,
    List.foldlM_nil, follow_here_of_isName directory named, bind_pure]
  match directory.lookup path with
  | some (.file _) => rfl
  | some .directory => rfl
  | none => rfl

end Directory

end MonkeyTokens
