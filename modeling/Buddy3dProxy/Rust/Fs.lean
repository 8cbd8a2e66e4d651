import Buddy3dProxy.Rust.Lines
import Mathlib.Logic.Function.Basic

/-!
# Files

Paths as `std::path` takes them apart, and the operations of `std::fs` on the files they name. The
directories of a path are taken to be there.
-/

namespace Rust

/-- A component of a path, as `Path::components` gives them. -/
inductive Component where
  | rootDir
  | curDir
  | parentDir
  | normal (name : List Char)
  deriving DecidableEq, Repr

/-- A path. Two paths with the same components are equal. -/
abbrev Path := List Component

namespace Path

/-- The component of a piece between separators. -/
def component : List Char → Option Component
  | [] => none
  | ['.'] => none
  | ['.', '.'] => some .parentDir
  | name => some (.normal name)

def ofText (text : List Char) : Path :=
  let start : Path :=
    if text.head? = some '/' then [.rootDir]
    else if (split ['/'] text).head? = some ['.'] then [.curDir]
    else []
  start ++ (split ['/'] text).filterMap component

/-- `file_name`. -/
def fileName (p : Path) : Option (List Char) :=
  match p.getLast? with
  | some (.normal name) => some name
  | _ => none

/-- A file name before and after its last dot. A dot at its start does not count, and without one there
is nothing before it. -/
def rsplitFileAtDot (name : List Char) : Option (List Char) × Option (List Char) :=
  if name = ['.', '.'] then (some name, none)
  else
    match rsplitOnce '.' name with
    | none => (none, some name)
    | some ([], _) => (some name, none)
    | some (before, after) => (some before, some after)

def fileStem (p : Path) : Option (List Char) :=
  (p.fileName.map rsplitFileAtDot).bind fun (before, after) => before.or after

def extension (p : Path) : Option (List Char) :=
  (p.fileName.map rsplitFileAtDot).bind fun (before, after) => before.bind fun _ => after

/-- `set_extension`. It leaves a path without a file name as it is. -/
def setExtension (p : Path) (ext : List Char) : Path :=
  match p.fileStem with
  | none => p
  | some stem => p.dropLast ++ [.normal (stem ++ if ext = [] then [] else '.' :: ext)]

variable {p : Path} {name ext : List Char}

theorem eq_of_fileName (h : p.fileName = some name) : p = p.dropLast ++ [.normal name] := by
  unfold fileName at h
  split at h
  · rename_i last hlast
    obtain rfl : last = name := Option.some.inj h
    exact (List.dropLast_append_getLast? _ hlast).symm
  · cases h

theorem extension_of_fileName_eq_none (h : p.fileName = none) : p.extension = none := by
  simp [extension, h]

/-- A stem and an extension make up the file name, and without an extension the stem is all of it. -/
theorem fileStem_cases (h : p.fileName = some name) :
    (p.extension = none ∧ p.fileStem = some name) ∨
      ∃ stem ext, p.extension = some ext ∧ p.fileStem = some stem ∧ name = stem ++ '.' :: ext := by
  have hext : p.extension = (rsplitFileAtDot name).1.bind fun _ => (rsplitFileAtDot name).2 := by
    simp [extension, h]
  have hstem : p.fileStem = (rsplitFileAtDot name).1.or (rsplitFileAtDot name).2 := by
    simp [fileStem, h]
  rw [hext, hstem]
  unfold rsplitFileAtDot
  by_cases hparent : name = ['.', '.']
  · left
    simp [hparent]
  · rw [if_neg hparent]
    cases hsplit : rsplitOnce '.' name with
    | none =>
      left
      simp
    | some pair =>
      obtain ⟨before, after⟩ := pair
      cases before with
      | nil =>
        left
        simp
      | cons c before =>
        right
        exact ⟨c :: before, after, by simp, by simp, (eq_of_rsplitOnce hsplit).1⟩

/-- Setting the extension that a path has changes nothing, and any other one names another file. -/
theorem setExtension_eq_self_iff (hext : ext ≠ []) (h : p.fileName = some name) :
    p.setExtension ext = p ↔ p.extension = some ext := by
  have hp := eq_of_fileName h
  have hself : ∀ new, p.dropLast ++ [Component.normal new] = p ↔ new = name := by
    intro new
    constructor
    · intro heq
      rw [hp] at heq
      simpa using heq
    · rintro rfl
      exact hp.symm
  rcases fileStem_cases h with ⟨hnone, hstem⟩ | ⟨stem, old, hold, hstem, rfl⟩
  · simp only [setExtension, hstem, if_neg hext, hself, hnone]
    simp
  · simp only [setExtension, hstem, if_neg hext, hself, hold]
    simp [eq_comm]

end Path

/-- The kinds of I/O errors that are told apart. -/
inductive IoError where
  | notFound
  | other (text : String)
  deriving DecidableEq, Repr

/-- The files that paths name. -/
abbrev FileSystem := Path → Option (List UInt8)

namespace FileSystem

variable (fs : FileSystem) (p : Path)

/-- `fs::read`. A path without a file name is that of a directory, unless it is empty. -/
def read : Except IoError (List UInt8) :=
  match fs p with
  | some bytes => .ok bytes
  | none =>
    if p.fileName = none ∧ p ≠ [] then .error (.other "Is a directory (os error 21)")
    else .error .notFound

/-- Open a file for writing: it is created if need be, and emptied. -/
def openTruncate : Option FileSystem :=
  if p.fileName.isSome then some (Function.update fs p (some [])) else none

/-- More bytes are written to an open file. -/
def write (bytes : List UInt8) : FileSystem :=
  Function.update fs p ((fs p).map (· ++ bytes))

/-- `fs::rename`, which replaces the file at `dst`. -/
def rename (src dst : Path) : FileSystem :=
  Function.update (Function.update fs src none) dst (fs src)

end FileSystem

end Rust
