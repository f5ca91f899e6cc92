import Mathlib
import GoOptional.Proofs.FileTree.Walk

/-!
# Walks after an entry was put in its place

When a file takes the place of a file, or of nothing, every walk leads where it led before, but to
the new file where it led to that place. When a file takes the place of a link that leads to no
directory, walks to directories stay as they are, since none of them came along the link.

## Main definitions

* `FileTree.Destination.withFile`: a destination once a file stands at a location
* `FileTree.Slot`: the location for which the last name of a path stands

## Main results

* `FileTree.Leads.insert_file`: walks after a file was put where no directory and no link was
* `FileTree.Leads.insert_of_link`: walks after a link that leads to no directory was replaced
* `FileTree.Slot.exists_resolve_eq`: a path leads where its last name leads from its directory
-/

namespace GoOptional.FileTree

open GoOptional.Path (Step)

/-- Where a walk leads once a file stands at a location. -/
def Destination.withFile (k : Location) (mode : Nat) (content : Bytes) :
    Destination → Destination
  | .directory l => .directory l
  | .file l m c => if l = k then .file k mode content else .file l m c
  | .vacant l => if l = k then .file k mode content else .vacant l

/-- There is nothing at a location, or a file. -/
def TakesFile (t : FileTree) (k : Location) : Prop :=
  ∀ e, t.get? k = some e → ∃ mode content, e = .file mode content

variable {t : FileTree} {n : Nat} {l k : Location} {steps : List Step} {d : Destination}
  {p : Path}

theorem takesFile_of_none (h : t.get? k = none) : TakesFile t k := by
  intro e he
  rw [h] at he
  cases he

theorem takesFile_of_file {mode : Nat} {content : Bytes}
    (h : t.get? k = some (.file mode content)) : TakesFile t k := by
  intro e he
  rw [h, Option.some.injEq] at he
  exact ⟨mode, content, he.symm⟩

/-- An entry that is no file is elsewhere. -/
theorem TakesFile.ne {e : Entry} (hk : TakesFile t k) (hl : t.get? l = some e)
    (he : ∀ mode content, e ≠ .file mode content) : l ≠ k := by
  rintro rfl
  obtain ⟨mode, content, h⟩ := hk e hl
  exact he mode content h

/-! ## Walks -/

/-- **A file in place of a file**, or of nothing, leaves all walks, but for what is found there. The
file may be met with the last step; a directory or a link on the way is an entry that stays. -/
theorem Leads.insert_file (hk : TakesFile t k) (mode : Nat) (content : Bytes)
    (h : Leads t n l steps d) :
    Leads (t.insert k (.file mode content)) n l steps (d.withFile k mode content) := by
  induction h with
  | done => exact .done
  | here _ ih => exact .here ih
  | up _ ih => exact .up ih
  | @vacant n l name hname hentry =>
    rw [Destination.withFile]
    split_ifs with he
    · subst he
      exact .file hname (get?_insert_self t _ (List.cons_ne_nil _ _))
    · exact .vacant hname ((get?_insert_of_ne t _ he).trans hentry)
  | @file n l name m c hname hentry =>
    rw [Destination.withFile]
    split_ifs with he
    · subst he
      exact .file hname (get?_insert_self t _ (List.cons_ne_nil _ _))
    · exact .file hname ((get?_insert_of_ne t _ he).trans hentry)
  | @directory n l name rest d hname hentry _ ih =>
    have he : name :: l ≠ k := hk.ne hentry (by simp)
    exact .directory hname ((get?_insert_of_ne t _ he).trans hentry) ih
  | @link n l name rest d target hname hentry _ ih =>
    have he : name :: l ≠ k := hk.ne hentry (by simp)
    exact .link hname ((get?_insert_of_ne t _ he).trans hentry) ih

/-- **A link that leads to no directory** is on no walk to a directory: beyond the link there would
be a directory with its own steps already. -/
theorem Leads.insert_of_link {target : Path} (hk : t.get? k = some (.link target))
    (hdead : ∀ m j, ¬ Leads t m (startOf target k.tail) target.steps (.directory j))
    (e : Entry) {j : Location} (h : Leads t n l steps (.directory j)) :
    Leads (t.insert k e) n l steps (.directory j) := by
  generalize hd : Destination.directory j = d at h
  induction h with
  | done => exact .done
  | here _ ih => exact .here (ih hd)
  | up _ ih => exact .up (ih hd)
  | vacant => cases hd
  | file => cases hd
  | @directory n l name rest d hname hentry _ ih =>
    have he : name :: l ≠ k := by
      rintro rfl
      rw [hentry] at hk
      cases hk
    exact .directory hname ((get?_insert_of_ne t _ he).trans hentry) (ih hd)
  | @link n l name rest d target' hname hentry h ih =>
    have he : name :: l ≠ k := by
      rintro rfl
      obtain rfl : target' = target := by simpa [hentry] using hk
      obtain ⟨j, hj⟩ := (hd ▸ h).of_append
      exact hdead _ j hj
    exact .link hname ((get?_insert_of_ne t _ he).trans hentry) (ih hd)

/-! ## Slots -/

theorem followToDirectory_eq_ok_iff :
    t.followToDirectory l steps = .ok k ↔ Leads t linkLimit l steps (.directory k) := by
  rw [← walk_eq_ok_iff, followToDirectory]
  cases t.walk linkLimit l steps with
  | error f => simp
  | ok d => cases d <;> simp

/-- The last name of a path stands for a location: the steps before it lead to the directory. -/
structure Slot (t : FileTree) (p : Path) (name : Bytes) (directory : Location) : Prop where
  zero_not_mem : 0 ∉ p
  length_le : name.length ≤ nameLimit
  exists_steps : ∃ before, p.steps = before ++ [.down name] ∧
    Leads t linkLimit (t.start p) before (.directory directory)

theorem steps_of_not_endsWithSlash (h : p.endsWithSlash = false) :
    p.steps = p.pieces.filterMap Path.step? := by
  rw [Path.steps, h, if_neg Bool.false_ne_true, List.append_nil]

/-- The last name of a path stands for a location if the names before it lead to a directory; there
is no slash at the end then, so that the steps are those of the names. -/
theorem exists_slot_of_slot_eq (h : t.slot p = .ok l) :
    ∃ name directory, l = name :: directory ∧ Slot t p name directory := by
  unfold slot at h
  split_ifs at h with hzero
  split at h
  · cases h
  case h_2 last before hsteps =>
    split at h
    · cases h
    case h_2 directory hfollow =>
      cases last with
      | here => cases h
      | up => cases h
      | down name =>
        rw [lastSlot] at h
        split_ifs at h with hname hslash
        refine ⟨name, directory, (Except.ok.inj h).symm, hzero, Nat.not_lt.1 hname, before.reverse,
          ?_, followToDirectory_eq_ok_iff.1 hfollow⟩
        rw [steps_of_not_endsWithSlash (by simpa using hslash), ← List.reverse_reverse
          (p.pieces.filterMap Path.step?), hsteps, List.reverse_cons]

namespace Slot

variable {name : Bytes}

theorem ne_nil (h : Slot t p name k) : p ≠ [] := by
  rintro rfl
  obtain ⟨before, hsteps, -⟩ := h.exists_steps
  have hnil : Path.steps [] = [] := rfl
  rw [hnil] at hsteps
  exact absurd hsteps (by simp)

theorem resolve_eq (h : Slot t p name k) (hlength : p.length ≤ pathLimit) (u : FileTree) :
    u.resolve p = u.walk linkLimit (u.start p) p.steps := by
  rw [resolve, if_neg h.zero_not_mem, if_neg (Nat.not_lt.2 hlength),
    if_neg (by simpa using h.ne_nil)]

/-- A path leads where its last name leads from the directory of its slot. -/
theorem exists_resolve_eq (h : Slot t p name k) (hlength : p.length ≤ pathLimit) :
    ∃ m ≤ linkLimit, t.resolve p = t.walk m k [.down name] := by
  obtain ⟨before, hsteps, hbefore⟩ := h.exists_steps
  obtain ⟨m, hm, hwalk⟩ := hbefore.exists_walk_append
  exact ⟨m, hm, by rw [h.resolve_eq hlength, hsteps, hwalk]⟩

end Slot

end GoOptional.FileTree
