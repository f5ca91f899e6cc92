import Mathlib
import GoOptional.Proofs.FileTree.Parent
import GoOptional.Proofs.FileTree.ReplaceTwice

/-!
# Paths that can be written

A path that can be read can be written, if it ends with the name of a file, the directory before the
name exists, and the system takes the path of the temporary file, which is longer than that of the
directory. It then leads to what was written, and can be written again.

## Main definitions

* `FileTree.HasRoom`: a path whose temporary file has a path that is not too long
* `FileTree.Target`: a path that can be written

## Main results

* `FileTree.target_of_takesFile`: a name in a directory, of a file or of nothing, is a target
* `FileTree.Target.exists_replace`: a target takes any content, and stays a target
-/

namespace GoOptional.FileTree

variable {t : FileTree} {l k : Location} {p : Path} {name : Bytes} {directory : Location}

/-- The directory in which the temporary file for a path is made, as the system gets it: the real
one of the file behind a link, or the parent as it is spelled. -/
def besideTarget (t : FileTree) (p : Path) : Path :=
  match t.linkedFile? p with
  | some l => realPath l.tail
  | none => p.parent

/-- The path of the temporary file for a path is not too long. -/
def HasRoom (t : FileTree) (p : Path) : Prop :=
  (t.temporaryPath (t.besideTarget p)).length ≤ pathLimit

/-- A path that leads to a file, or to nothing, and ends with a name in a directory, with room for a
temporary file. -/
structure Target (t : FileTree) (p : Path) (name : Bytes) (directory : Location) : Prop where
  isReadable : IsReadable t p
  endsWithName : p.EndsWithName name
  parent_eq : t.resolveDirectory p.parent = .ok directory
  hasRoom : t.HasRoom p

theorem hasRoom_iff_of_linkedFile? (h : t.linkedFile? p = some l) :
    t.HasRoom p ↔ (t.temporaryPath (realPath l.tail)).length ≤ pathLimit := by
  rw [HasRoom, besideTarget, h]

theorem hasRoom_iff_of_none (h : t.linkedFile? p = none) :
    t.HasRoom p ↔ (t.temporaryPath p.parent).length ≤ pathLimit := by
  rw [HasRoom, besideTarget, h]

/-- What does not stand for a link names no file behind one. -/
theorem linkedFile?_eq_none_of_takesFile (hslot : ∀ k, t.slot p = .ok k → k = l)
    (hentry : TakesFile t l) : t.linkedFile? p = none := by
  rw [Option.eq_none_iff_forall_not_mem]
  intro k hk
  obtain ⟨k, target, -, -, hk, hlink, -, -⟩ := linkedFile?_eq_some_iff.1 hk
  exact hentry.ne hlink (by simp) (hslot k hk)

/-! ## The entry of a target -/

/-- A path leads where its last name leads from the parent. -/
theorem exists_resolve_eq_of_parent (hp : p.EndsWithName name) (hzero : 0 ∉ p)
    (hlength : p.length ≤ pathLimit) (hparent : t.resolveDirectory p.parent = .ok directory) :
    ∃ m, t.resolve p = t.walk m directory [.down name] := by
  obtain ⟨before, hsteps, hslash, hleads⟩ := leads_of_parent hp hparent
  obtain ⟨m, -, hwalk⟩ := hleads.exists_walk_append
  have hne : p ≠ [] := by
    rintro rfl
    exact absurd hsteps.symm (List.append_ne_nil_of_right_ne_nil _ (List.cons_ne_nil _ _))
  refine ⟨m, ?_⟩
  rw [resolve, if_neg hzero, if_neg (Nat.not_lt.2 hlength), if_neg (by simpa using hne),
    steps_of_not_endsWithSlash hslash, hsteps, hwalk]

/-- **A name in a directory** that is the name of a file, or of nothing, is a target, if there is
room for a temporary file in the directory. -/
theorem target_of_takesFile (hp : p.EndsWithName name) (hzero : 0 ∉ p)
    (hlength : p.length ≤ pathLimit) (hname : name.length ≤ nameLimit)
    (hparent : t.resolveDirectory p.parent = .ok directory)
    (hentry : TakesFile t (name :: directory))
    (hroom : (t.temporaryPath p.parent).length ≤ pathLimit) : Target t p name directory := by
  have hslot := slot_eq_of_parent hp hzero hname hparent
  have hlinked := linkedFile?_eq_none_of_takesFile
    (fun k hk => Except.ok.inj (hk.symm.trans hslot)) hentry
  refine ⟨?_, hp, hparent, (hasRoom_iff_of_none hlinked).2 hroom⟩
  obtain ⟨m, hresolve⟩ := exists_resolve_eq_of_parent hp hzero hlength hparent
  cases hfound : t.get? (name :: directory) with
  | none =>
    rw [walk_of_none hname hfound] at hresolve
    exact Or.inr (by rw [read, hresolve]; rfl)
  | some e =>
    obtain ⟨mode, content, rfl⟩ := hentry e hfound
    rw [walk_of_file hname hfound] at hresolve
    exact Or.inl ⟨content, read_of_resolve_file hresolve⟩

namespace Target

variable (h : Target t p name directory)
include h

theorem exists_resolve_eq : ∃ m, t.resolve p = t.walk m directory [.down name] :=
  exists_resolve_eq_of_parent h.endsWithName h.isReadable.zero_not_mem h.isReadable.length_le
    h.parent_eq

theorem length_le : name.length ≤ nameLimit := by
  by_contra hlong
  obtain ⟨m, hresolve⟩ := h.exists_resolve_eq
  cases h.isReadable.eq_notFound (by
    rw [read, hresolve, walk_of_nameLimit_lt (Nat.not_le.1 hlong)])

theorem get?_ne_directory : t.get? (name :: directory) ≠ some .directory := by
  intro hentry
  obtain ⟨m, hresolve⟩ := h.exists_resolve_eq
  cases h.isReadable.eq_notFound (by
    rw [read, hresolve, walk_of_directory h.length_le hentry, walk_nil])

theorem slot_eq : t.slot p = .ok (name :: directory) :=
  slot_eq_of_parent h.endsWithName h.isReadable.zero_not_mem h.length_le h.parent_eq

end Target

/-! ## Writing to a target -/

/-- **A target takes any content**: it leads to the content afterwards, and stays a target. A file
behind a link takes the content itself; else it goes to the name in the directory. -/
theorem Target.exists_replace (h : Target t p name directory) (content : Bytes) :
    ∃ t', t.replace p content = .ok t' ∧ t'.read p = .ok content ∧
      Target t' p name directory := by
  obtain ⟨t', hreplace, hkeeps, hroom⟩ : ∃ t', t.replace p content = .ok t' ∧
      KeepsDirectories t t' ∧ t'.HasRoom p := by
    cases hlinked : t.linkedFile? p with
    | some l =>
      have hroom := (hasRoom_iff_of_linkedFile? hlinked).1 h.hasRoom
      obtain ⟨-, -, mode, old, -, -, hfile, -⟩ := linkedFile?_eq_some_iff.1 hlinked
      have hold := takesFile_of_file (resolve_eq_ok_iff.1 hfile).2.get?_of_file
      have hlinked' := linkedFile?_insert_of_link hlinked hfile content
      exact ⟨_, places_of_link hlinked hfile hroom content,
        keepsDirectories_of_takesFile hold _ _, (hasRoom_iff_of_linkedFile? hlinked').2 hroom⟩
    | none =>
      have hroom := (hasRoom_iff_of_none hlinked).1 h.hasRoom
      have hkeeps := keepsDirectories_of_slot h.isReadable h.slot_eq h.get?_ne_directory
        (t.modeOf p) content
      have hlinked' := linkedFile?_eq_none_of_file (hkeeps.slot_eq h.slot_eq)
        (get?_insert_self t _ (List.cons_ne_nil _ _))
      exact ⟨_, places_of_slot hlinked (temporaryDirectory_eq_ok_iff.2 ⟨hroom, h.parent_eq⟩)
        h.slot_eq h.get?_ne_directory content, hkeeps, (hasRoom_iff_of_none hlinked').2 hroom⟩
  obtain ⟨l, mode, hreplaced⟩ := exists_replaced_of_replace h.isReadable hreplace
  exact ⟨t', hreplace, hreplaced.read_eq, Or.inl ⟨content, hreplaced.read_eq⟩, h.endsWithName,
    hkeeps.resolveDirectory_eq h.parent_eq, hroom⟩

end GoOptional.FileTree
