import Mathlib.Data.Nat.Notation
import Mathlib.Logic.Function.Basic

/-!
# Directories

A directory gives names to files.  A file is known by a number, so that a file that is open keeps
its identity when it is renamed or removed.
-/

/-- The files of a directory, of contents `γ`, and the number of the next file. -/
structure Directory (ν γ : Type) where
  names : ν → Option ℕ
  files : ℕ → γ
  next : ℕ

namespace Directory

variable {ν γ : Type} [DecidableEq ν] (d : Directory ν γ)

/-- No names; the contents of files that are not there do not matter. -/
def empty [Inhabited γ] : Directory ν γ := ⟨fun _ => none, fun _ => default, 0⟩

/-- What a name stands for. -/
def content (n : ν) : Option γ := (d.names n).map d.files

/-- The file `old` gets the name `new`; a file that had this name loses it. -/
def rename (old new : ν) : Directory ν γ :=
  { d with names := Function.update (Function.update d.names new (d.names old)) old none }

/-- Remove a name. -/
def remove (n : ν) : Directory ν γ := { d with names := Function.update d.names n none }

/-- Change an open file. -/
def modify (file : ℕ) (f : γ → γ) : Directory ν γ :=
  { d with files := Function.update d.files file (f (d.files file)) }

/-- Open a file, which is created with contents `fresh` if it is not there. -/
def openOrCreate (n : ν) (fresh : γ) : ℕ × Directory ν γ :=
  match d.names n with
  | some file => (file, d)
  | none =>
    (d.next,
      { names := Function.update d.names n (some d.next)
        files := Function.update d.files d.next fresh
        next := d.next + 1 })

variable {d} {old new n : ν} {file : ℕ} {fresh : γ}

theorem names_rename_of_ne (hold : n ≠ old) (hnew : n ≠ new) :
    (d.rename old new).names n = d.names n := by
  simp [rename, Function.update_of_ne hold, Function.update_of_ne hnew]

theorem names_rename_new (h : new ≠ old) : (d.rename old new).names new = d.names old := by
  simp [rename, Function.update_of_ne h]

theorem names_rename_old : (d.rename old new).names old = none := by
  simp [rename]

/-- A rename gives no name to a file that had none. -/
theorem exists_of_names_rename (h : (d.rename old new).names n = some file) :
    ∃ m, d.names m = some file := by
  by_cases hold : n = old
  · rw [hold, names_rename_old] at h
    cases h
  · by_cases hnew : n = new
    · rw [hnew, names_rename_new (hnew ▸ hold)] at h
      exact ⟨old, h⟩
    · rw [names_rename_of_ne hold hnew] at h
      exact ⟨n, h⟩

omit [DecidableEq ν] in
/-- A change of an open file is seen under its names only. -/
theorem content_modify_of_ne {f : γ → γ} (h : d.names n ≠ some file) :
    (d.modify file f).content n = d.content n := by
  cases hn : d.names n with
  | none => simp [content, modify, hn]
  | some other =>
    have hne : other ≠ file := fun heq => h (heq ▸ hn)
    simp [content, modify, hn, Function.update_of_ne hne]

end Directory
