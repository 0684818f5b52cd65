import FtpServer.Library.FileImage

/-!
# Files by name, and the descriptors they are open under

A disk maps names to the contents of files, and open descriptors to a name and a position. While a
file is open under one descriptor only, what is done through the descriptor is what `OpenFile` says
(`Shows`).
-/

/-- Files by name, and open descriptors. -/
structure Disk (ν δ : Type) where
  files : ν → Option Bytes
  opened : δ → Option (ν × ℕ)

namespace Disk

variable {ν δ : Type} [DecidableEq ν] [DecidableEq δ]

/-- The file is opened, at its start. -/
def attach (d : Disk ν δ) (name : ν) (fd : δ) : Disk ν δ :=
  { d with opened := Function.update d.opened fd (some (name, 0)) }

/-- The file is created, or made empty, and opened. -/
def create (d : Disk ν δ) (name : ν) (fd : δ) : Disk ν δ :=
  { d.attach name fd with files := Function.update d.files name (some []) }

/-- The file is removed. -/
def remove (d : Disk ν δ) (name : ν) : Disk ν δ :=
  { d with files := Function.update d.files name none }

/-- The descriptor is set to a position. -/
def seek (d : Disk ν δ) (fd : δ) (pos : ℕ) : Disk ν δ :=
  match d.opened fd with
  | some (name, _) => { d with opened := Function.update d.opened fd (some (name, pos)) }
  | none => d

/-- Bytes are written through the descriptor. -/
def write (d : Disk ν δ) (fd : δ) (bs : Bytes) : Disk ν δ :=
  match d.opened fd with
  | some (name, pos) =>
    match d.files name with
    | some s =>
      { files := Function.update d.files name (some (OpenFile.overwrite s pos bs))
        opened := Function.update d.opened fd (some (name, pos + bs.length)) }
    | none => d
  | none => d

/-- The descriptor is closed. -/
def close (d : Disk ν δ) (fd : δ) : Disk ν δ :=
  { d with opened := Function.update d.opened fd none }

omit [DecidableEq ν] in
@[simp] theorem close_files (d : Disk ν δ) (fd : δ) : (d.close fd).files = d.files := rfl

@[simp] theorem create_files (d : Disk ν δ) (name : ν) (fd : δ) :
    (d.create name fd).files = Function.update d.files name (some []) := rfl

/-- The one descriptor that is open is `fd`, and under it there is `f`, named `name`. -/
structure Shows (d : Disk ν δ) (name : ν) (fd : δ) (f : OpenFile) : Prop where
  files : d.files name = some f.contents
  opened : d.opened = Function.update (fun _ ↦ none) fd (some (name, f.pos))

variable {d : Disk ν δ} {name : ν} {fd : δ} {f : OpenFile}

/-- A file that was just created is empty and open at its start. -/
theorem shows_create (hd : d.opened = fun _ ↦ none) (name : ν) (fd : δ) :
    (d.create name fd).Shows name fd ⟨[], 0⟩ where
  files := Function.update_self ..
  opened := by
    show Function.update d.opened fd _ = _
    rw [hd]

omit [DecidableEq ν] in
/-- The descriptor is open on the file. -/
theorem Shows.opened_self (h : d.Shows name fd f) : d.opened fd = some (name, f.pos) := by
  rw [h.opened, Function.update_self]

omit [DecidableEq ν] in
/-- No other descriptor is open. -/
theorem Shows.opened_ne (h : d.Shows name fd f) {fd' : δ} (hne : fd' ≠ fd) :
    d.opened fd' = none := by
  rw [h.opened, Function.update_of_ne hne]

omit [DecidableEq ν] in
/-- A seek does to the disk what it does to the open file, if it is one on its descriptor. -/
theorem Shows.seek (h : d.Shows name fd f) (fd' : δ) (pos : ℕ) :
    (d.seek fd' pos).Shows name fd (if fd' = fd then f.seek pos else f) := by
  by_cases hfd : fd' = fd
  · subst hfd
    rw [if_pos rfl, Disk.seek, h.opened_self]
    refine ⟨h.files, ?_⟩
    show Function.update d.opened fd' _ = _
    rw [h.opened, Function.update_idem]
    rfl
  · rwa [if_neg hfd, Disk.seek, h.opened_ne hfd]

/-- So does a write. -/
theorem Shows.write (h : d.Shows name fd f) (fd' : δ) (bs : Bytes) :
    (d.write fd' bs).Shows name fd (if fd' = fd then f.write bs else f) := by
  by_cases hfd : fd' = fd
  · subst hfd
    rw [if_pos rfl, Disk.write, h.opened_self]
    dsimp only
    rw [h.files]
    refine ⟨Function.update_self .., ?_⟩
    show Function.update d.opened fd' _ = _
    rw [h.opened, Function.update_idem]
    rfl
  · rwa [if_neg hfd, Disk.write, h.opened_ne hfd]

end Disk
