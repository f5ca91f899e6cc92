import Mathlib
import GoOptional.Proofs.FileTree.Target

/-!
# Other files

What is found where a path leads, and what takes new content, is one entry of one directory, if the
path ends with the name of a file or of nothing. So files at other locations can come and go: the
directory is still there, and the entry is the same.

## Main definitions

* `FileTree.NamesFile`: a path that ends with the name of a file, or of nothing, in a directory
* `FileTree.putFile`: a tree in which a file may have come to a location

## Main results

* `FileTree.putFile_comm`: files come to different locations in any order
* `FileTree.NamesFile.putFile`: a path still ends with the name of a file when another one came
* `FileTree.NamesFile.resolve_eq`, `FileTree.NamesFile.replace_cases`: only the entry of the name
  tells what is found, and what becomes of new content
-/

namespace GoOptional.FileTree

/-- A path that ends with a name in a directory, of a file or of nothing. Nothing is said of its
length, so it may still lead nowhere. -/
structure NamesFile (t : FileTree) (p : Path) (name : Bytes) (directory : Location) : Prop where
  endsWithName : p.EndsWithName name
  parent_eq : t.resolveDirectory p.parent = .ok directory
  takesFile : TakesFile t (name :: directory)

/-- The tree in which a file with the mode and the content came to a location, if any did. -/
def putFile (t : FileTree) (l : Location) : Option (Nat × Bytes) → FileTree
  | none => t
  | some (mode, content) => t.insert l (.file mode content)

variable {t t' : FileTree} {l k : Location} {p : Path} {name : Bytes} {directory : Location}
  {content : Bytes}

/-! ## Files that come to other locations -/

theorem get?_putFile_of_ne (h : k ≠ l) (file : Option (Nat × Bytes)) :
    (t.putFile l file).get? k = t.get? k := by
  cases file with
  | none => rfl
  | some file => exact get?_insert_of_ne t _ h

/-- **Files come to different locations** in any order. -/
theorem putFile_comm (h : l ≠ k) (file file' : Option (Nat × Bytes)) :
    (t.putFile l file).putFile k file' = (t.putFile k file').putFile l file := by
  cases file with
  | none => rfl
  | some file =>
    cases file' with
    | none => rfl
    | some file' => exact insert_comm t _ _ h

theorem keepsDirectories_putFile (h : TakesFile t l) (file : Option (Nat × Bytes)) :
    KeepsDirectories t (t.putFile l file) := by
  cases file with
  | none => exact ⟨rfl, id⟩
  | some file => exact keepsDirectories_of_takesFile h file.1 file.2

theorem workingDirectory_putFile (t : FileTree) (l : Location) (file : Option (Nat × Bytes)) :
    (t.putFile l file).workingDirectory = t.workingDirectory := by
  cases file <;> rfl

namespace NamesFile

/-- **A path still ends with the name of a file** when another file came to another location. -/
theorem putFile (h : NamesFile t p name directory) (hl : TakesFile t l)
    (hne : name :: directory ≠ l) (file : Option (Nat × Bytes)) :
    NamesFile (t.putFile l file) p name directory where
  endsWithName := h.endsWithName
  parent_eq := (keepsDirectories_putFile hl file).resolveDirectory_eq h.parent_eq
  takesFile := by
    intro e he
    rw [get?_putFile_of_ne hne] at he
    exact h.takesFile e he

/-! ## What is found, and what takes new content -/

/-- **Only the entry of the name** tells what is found. In both trees the last step starts in the
directory, perhaps with other links left. -/
theorem resolve_eq (h : NamesFile t p name directory) (h' : NamesFile t' p name directory)
    (hentry : t'.get? (name :: directory) = t.get? (name :: directory)) :
    t'.resolve p = t.resolve p := by
  by_cases hzero : 0 ∈ p
  · rw [resolve, resolve, if_pos hzero, if_pos hzero]
  by_cases hlong : pathLimit < p.length
  · rw [resolve, resolve, if_neg hzero, if_neg hzero, if_pos hlong, if_pos hlong]
  have hlength := Nat.not_lt.1 hlong
  obtain ⟨m, hm⟩ := exists_resolve_eq_of_parent h.endsWithName hzero hlength h.parent_eq
  obtain ⟨m', hm'⟩ := exists_resolve_eq_of_parent h'.endsWithName hzero hlength h'.parent_eq
  rw [hm, hm']
  by_cases hname : nameLimit < name.length
  · rw [walk_of_nameLimit_lt hname, walk_of_nameLimit_lt hname]
  have hname := Nat.not_lt.1 hname
  cases he : t.get? (name :: directory) with
  | none => rw [walk_of_none hname he, walk_of_none hname (hentry.trans he)]
  | some e =>
    obtain ⟨mode, old, rfl⟩ := h.takesFile e he
    rw [walk_of_file hname he, walk_of_file hname (hentry.trans he)]

theorem temporaryDirectory_eq (h : NamesFile t p name directory) :
    t.temporaryDirectory p.parent =
      if pathLimit < (t.temporaryPath p.parent).length then .error .nameTooLong
      else .ok directory := by
  have hzero : 0 ∉ p.parent :=
    (resolve_eq_ok_iff.1 (resolveDirectory_eq_ok_iff.1 h.parent_eq)).1.1
  rw [temporaryDirectory, if_neg hzero, h.parent_eq]

theorem slot_eq (h : NamesFile t p name directory) :
    t.slot p =
      if 0 ∈ p then .error .zeroByte
      else if nameLimit < name.length then .error .nameTooLong
      else .ok (name :: directory) :=
  slot_eq_ite_of_parent h.endsWithName h.parent_eq

theorem slot_eq_ok (h : NamesFile t p name directory) (hslot : t.slot p = .ok l) :
    l = name :: directory := by
  rw [h.slot_eq] at hslot
  split_ifs at hslot
  exact (Except.ok.inj hslot).symm

theorem linkedFile?_eq_none (h : NamesFile t p name directory) : t.linkedFile? p = none :=
  linkedFile?_eq_none_of_takesFile (fun _ hk => h.slot_eq_ok hk) h.takesFile

theorem get?_ne_directory (h : NamesFile t p name directory) :
    t.get? (name :: directory) ≠ some .directory := by
  intro hentry
  exact h.takesFile.ne hentry (by simp) rfl

/-- **New content** finds no place for the path, or becomes the entry of the name. The entry tells
the mode. -/
theorem replace_cases (h : NamesFile t p name directory) :
    (∃ f, ∀ t', t'.workingDirectory = t.workingDirectory → NamesFile t' p name directory →
      ∀ content, t'.replace p content = .error f) ∨
    ∃ mode, ∀ t', t'.workingDirectory = t.workingDirectory → NamesFile t' p name directory →
      t'.get? (name :: directory) = t.get? (name :: directory) →
        Places t' p (name :: directory) mode := by
  have htemporary {t' : FileTree} (hd : t'.workingDirectory = t.workingDirectory)
      (h' : NamesFile t' p name directory) :
      t'.temporaryDirectory p.parent = t.temporaryDirectory p.parent := by
    rw [h'.temporaryDirectory_eq, h.temporaryDirectory_eq, temporaryPath, temporaryPath, hd]
  have hslot {t' : FileTree} (h' : NamesFile t' p name directory) : t'.slot p = t.slot p := by
    rw [h'.slot_eq, h.slot_eq]
  cases hparent : t.temporaryDirectory p.parent with
  | error f =>
    refine Or.inl ⟨.temporary p.parent f, fun t' hd h' => ?_⟩
    exact replace_of_temporaryDirectory_eq_error h'.linkedFile?_eq_none
      ((htemporary hd h').trans hparent)
  | ok k =>
    cases hlast : t.slot p with
    | error f =>
      refine Or.inl ⟨.rename p f, fun t' hd h' => ?_⟩
      exact replace_of_slot_eq_error h'.linkedFile?_eq_none ((htemporary hd h').trans hparent)
        ((hslot h').trans hlast)
    | ok l =>
      cases h.slot_eq_ok hlast
      refine Or.inr ⟨t.modeOf p, fun t' hd h' hentry => ?_⟩
      have hmode : t'.modeOf p = t.modeOf p := by rw [modeOf, modeOf, h.resolve_eq h' hentry]
      rw [← hmode]
      exact places_of_slot h'.linkedFile?_eq_none ((htemporary hd h').trans hparent)
        ((hslot h').trans hlast) h'.get?_ne_directory

end NamesFile

end GoOptional.FileTree
