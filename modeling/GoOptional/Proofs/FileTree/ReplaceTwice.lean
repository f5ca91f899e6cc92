import Mathlib
import GoOptional.Proofs.FileTree.Replace

/-!
# Replacing twice

A replacement changes the entry to which its path leads, and no walk to a directory. So a second
one finds the same place for its content: it looks up the same directories, and where it finds a
file now that was missing before, or that took the place of a link, it keeps the mode that the first
one gave to it. Nothing is left of the first content then.

What the system looks up to find out a real path stays as well, since a file is looked up like the
one whose place it took.

## Main definitions

* `FileTree.KeepsDirectories`: the walks of a tree to directories are there in another tree
* `FileTree.Places`: the entry that new content for a path takes

## Main results

* `FileTree.lookups_insert_file`: a file in place of a file is looked up in the same way
* `FileTree.exists_places_of_replace`: a replacement that succeeds takes an entry, and one after it
  takes the same
* `FileTree.replace_replace`: the second of two replacements leaves nothing of the first one
-/

namespace GoOptional.FileTree

variable {t t' : FileTree} {n : Nat} {l k : Location} {steps rest : List Path.Step} {p : Path}
  {name : Bytes} {mode : Nat} {content : Bytes}

/-! ## Walks to directories -/

/-- All walks to directories in one tree lead to the same directories in the other, and paths lead
from the same directory. -/
structure KeepsDirectories (t t' : FileTree) : Prop where
  workingDirectory_eq : t'.workingDirectory = t.workingDirectory
  leads : ∀ {n l steps j}, Leads t n l steps (.directory j) → Leads t' n l steps (.directory j)

theorem keepsDirectories_of_takesFile (hk : TakesFile t k) (mode : Nat) (content : Bytes) :
    KeepsDirectories t (t.insert k (.file mode content)) where
  workingDirectory_eq := rfl
  leads := fun h => h.insert_file hk mode content

namespace KeepsDirectories

variable (h : KeepsDirectories t t')
include h

theorem start_eq (p : Path) : t'.start p = t.start p := by
  rw [start, start, h.workingDirectory_eq]

theorem temporaryPath_eq (directory : Path) :
    t'.temporaryPath directory = t.temporaryPath directory := by
  rw [temporaryPath, temporaryPath, h.workingDirectory_eq]

theorem resolveDirectory_eq (hp : t.resolveDirectory p = .ok l) :
    t'.resolveDirectory p = .ok l := by
  rw [resolveDirectory_eq_ok_iff, resolve_eq_ok_iff] at hp ⊢
  rw [h.start_eq]
  exact ⟨hp.1, h.leads hp.2⟩

theorem temporaryDirectory_eq (hp : t.temporaryDirectory p = .ok l) :
    t'.temporaryDirectory p = .ok l := by
  rw [temporaryDirectory_eq_ok_iff] at hp ⊢
  rw [h.temporaryPath_eq]
  exact ⟨hp.1, h.resolveDirectory_eq hp.2⟩

/-- The last name of a path stands for the same location. -/
theorem slot_eq (hp : t.slot p = .ok l) : t'.slot p = .ok l := by
  unfold slot at hp ⊢
  split_ifs at hp ⊢
  split at hp
  · cases hp
  case h_2 last before hsteps =>
    rw [h.start_eq]
    cases hfollow : t.followToDirectory (t.start p) before.reverse with
    | error f =>
      rw [hfollow] at hp
      cases hp
    | ok directory =>
      have hfollow' : t'.followToDirectory (t.start p) before.reverse = .ok directory :=
        followToDirectory_eq_ok_iff.2 (h.leads (followToDirectory_eq_ok_iff.1 hfollow))
      rw [hfollow] at hp
      simp only [hfollow']
      exact hp

end KeepsDirectories

/-! ## Where new content goes -/

/-- New content for a path becomes a file at a location, with a mode. -/
def Places (t : FileTree) (p : Path) (l : Location) (mode : Nat) : Prop :=
  ∀ content, t.replace p content = .ok (t.insert l (.file mode content))

/-- The file behind a link takes the content. -/
theorem places_of_link {old : Bytes} (hlinked : t.linkedFile? p = some l)
    (hfile : t.resolve p = .ok (.file l mode old))
    (hroom : (t.temporaryPath (realPath l.tail)).length ≤ pathLimit) : Places t p l mode := by
  have hold : t.get? l = some (.file mode old) := (resolve_eq_ok_iff.1 hfile).2.get?_of_file
  intro content
  rw [replace_of_linkedFile? hlinked hroom, modeOf_of_file hfile]
  exact rename_of_ne_directory (by simp [hold]) (realPath l) mode content

/-- Else what the last name of the path stands for does. -/
theorem places_of_slot {directory : Location} (hlinked : t.linkedFile? p = none)
    (hparent : t.temporaryDirectory p.parent = .ok directory) (hslot : t.slot p = .ok l)
    (hentry : t.get? l ≠ some .directory) : Places t p l (t.modeOf p) := by
  intro content
  rw [replace_of_slot hlinked hparent hslot]
  exact rename_of_ne_directory hentry p _ content

/-! ## What is looked up -/

theorem lookups_of_none (h : t.get? (name :: l) = none) :
    t.lookups n l (.down name :: rest) = [realPath (name :: l)] := by
  cases n <;> rw [lookups, lookupsWith, h]

theorem lookups_of_file (h : t.get? (name :: l) = some (.file mode content)) :
    t.lookups n l (.down name :: rest) = [realPath (name :: l)] := by
  cases n <;> rw [lookups, lookupsWith, h]

theorem lookups_of_directory (h : t.get? (name :: l) = some .directory) :
    t.lookups n l (.down name :: rest) = realPath (name :: l) ::
      ((if needDirectory rest then [realPath (name :: l) ++ [Path.slash]] else []) ++
        t.lookups n (name :: l) rest) := by
  cases n <;> rw [lookups, lookupsWith, h]

theorem lookups_zero_of_link {target : Path} (h : t.get? (name :: l) = some (.link target)) :
    t.lookups 0 l (.down name :: rest) = [realPath (name :: l)] := by
  rw [lookups, lookupsWith, h]

theorem lookups_succ_of_link {target : Path} (h : t.get? (name :: l) = some (.link target)) :
    t.lookups (n + 1) l (.down name :: rest) =
      realPath (name :: l) :: t.lookups n (startOf target l) (target.steps ++ rest) := by
  rw [lookups, lookupsWith, h]

/-- **A file in place of a file** is looked up in the same way. -/
theorem lookups_insert_file {old : Bytes} (hold : t.get? k = some (.file mode old))
    (content : Bytes) :
    (t.insert k (.file mode content)).lookups n l steps = t.lookups n l steps := by
  induction n, l, steps using walk_induction with
  | nil n l => cases n <;> rfl
  | here n l rest ih => cases n <;> exact ih
  | up n l rest ih => cases n <;> exact ih
  | down n l name rest ih ihlink =>
    by_cases he : name :: l = k
    · subst he
      rw [lookups_of_file hold, lookups_of_file (get?_insert_self t _ (List.cons_ne_nil _ _))]
    have hget := get?_insert_of_ne t (.file mode content) he
    cases hentry : t.get? (name :: l) with
    | none => rw [lookups_of_none hentry, lookups_of_none (hget.trans hentry)]
    | some e =>
      cases e with
      | directory =>
        rw [lookups_of_directory hentry, lookups_of_directory (hget.trans hentry), ih]
      | file m c => rw [lookups_of_file hentry, lookups_of_file (hget.trans hentry)]
      | link target =>
        cases n with
        | zero => rw [lookups_zero_of_link hentry, lookups_zero_of_link (hget.trans hentry)]
        | succ n =>
          rw [lookups_succ_of_link hentry, lookups_succ_of_link (hget.trans hentry),
            ihlink n rfl]

/-! ## A file in place of another entry -/

/-- A file behind a link is behind the same link after it was replaced. -/
theorem linkedFile?_insert_of_link {old : Bytes} (hlinked : t.linkedFile? p = some l)
    (hfile : t.resolve p = .ok (.file l mode old)) (content : Bytes) :
    (t.insert l (.file mode content)).linkedFile? p = some l := by
  obtain ⟨k, target, mode', old', hslot, hentry, -, hreal⟩ := linkedFile?_eq_some_iff.1 hlinked
  have hold := (resolve_eq_ok_iff.1 hfile).2.get?_of_file
  have htakes : TakesFile t l := takesFile_of_file hold
  have hfile' := resolve_insert_file htakes hfile mode content
  rw [Destination.withFile, if_pos rfl] at hfile'
  have hentry' : (t.insert l (.file mode content)).get? k = some (.link target) := by
    rw [get?_insert_of_ne t _ (htakes.ne hentry (by simp)), hentry]
  have hreal' : (t.insert l (.file mode content)).HasRealPath p := by
    intro q hq
    rw [lookups_insert_file hold] at hq
    exact hreal q hq
  exact linkedFile?_eq_some_iff.2 ⟨k, target, mode, content,
    (keepsDirectories_of_takesFile htakes mode content).slot_eq hslot, hentry', hfile', hreal'⟩

theorem places_insert_of_link {old : Bytes} (hlinked : t.linkedFile? p = some l)
    (hfile : t.resolve p = .ok (.file l mode old))
    (hroom : (t.temporaryPath (realPath l.tail)).length ≤ pathLimit) (content : Bytes) :
    Places (t.insert l (.file mode content)) p l mode := by
  have htakes : TakesFile t l :=
    takesFile_of_file (resolve_eq_ok_iff.1 hfile).2.get?_of_file
  have hfile' := resolve_insert_file htakes hfile mode content
  rw [Destination.withFile, if_pos rfl] at hfile'
  exact places_of_link (linkedFile?_insert_of_link hlinked hfile content) hfile' hroom

/-- The entry that the last name of a path stands for is on no walk to a directory, if content can
take its place: it is no directory, and a link to a file or to nothing leads to none. -/
theorem keepsDirectories_of_slot (hread : IsReadable t p) (hslot : t.slot p = .ok l)
    (hentry : t.get? l ≠ some .directory) (mode : Nat) (content : Bytes) :
    KeepsDirectories t (t.insert l (.file mode content)) := by
  cases he : t.get? l with
  | none => exact keepsDirectories_of_takesFile (takesFile_of_none he) mode content
  | some e =>
    cases e with
    | directory => exact absurd he hentry
    | file => exact keepsDirectories_of_takesFile (takesFile_of_file he) mode content
    | link target =>
      obtain ⟨name, k, rfl, hs⟩ := exists_slot_of_slot_eq hslot
      exact ⟨rfl, fun h => h.insert_of_link he (hs.not_leads_of_link he hread) _⟩

/-- A file that took the place of the last name of a path is found there. -/
theorem resolve_eq_of_slot (hslot : t.slot p = .ok l) (hlength : p.length ≤ pathLimit)
    (hentry : t.get? l = some (.file mode content)) :
    t.resolve p = .ok (.file l mode content) := by
  obtain ⟨name, k, rfl, hs⟩ := exists_slot_of_slot_eq hslot
  obtain ⟨m, -, hresolve⟩ := hs.exists_resolve_eq hlength
  rw [hresolve, walk_of_file hs.length_le hentry]
  rfl

/-- Where a file stands there is no link, whatever stood there before. -/
theorem linkedFile?_eq_none_of_file (hslot : t.slot p = .ok l)
    (hentry : t.get? l = some (.file mode content)) : t.linkedFile? p = none := by
  rw [linkedFile?, hslot]
  simp only [hentry]

theorem places_insert_of_slot {directory : Location} (hread : IsReadable t p)
    (hparent : t.temporaryDirectory p.parent = .ok directory) (hslot : t.slot p = .ok l)
    (hentry : t.get? l ≠ some .directory) (mode : Nat) (content : Bytes) :
    Places (t.insert l (.file mode content)) p l mode := by
  have hkeeps := keepsDirectories_of_slot hread hslot hentry mode content
  have hslot' := hkeeps.slot_eq hslot
  have hfile : (t.insert l (.file mode content)).get? l = some (.file mode content) := by
    obtain ⟨name, k, rfl, -⟩ := exists_slot_of_slot_eq hslot
    exact get?_insert_self t _ (List.cons_ne_nil _ _)
  have hresolve := resolve_eq_of_slot hslot' hread.length_le hfile
  have hplaces := places_of_slot (linkedFile?_eq_none_of_file hslot' hfile)
    (hkeeps.temporaryDirectory_eq hparent) hslot' (by simp [hfile])
  rwa [modeOf_of_file hresolve] at hplaces

/-! ## Replacements -/

/-- **A replacement that succeeds** takes an entry, and one after it takes the same: the file behind
a link, which stays a link to it, or what the last name stands for, which is a file from then on. -/
theorem exists_places_of_replace (hread : IsReadable t p) (h : t.replace p content = .ok t') :
    ∃ l mode, Places t p l mode ∧ Places t' p l mode := by
  rcases replace_cases h with
    ⟨l, hlinked, hroom, -, rfl⟩ | ⟨directory, l, hlinked, hparent, hslot, hentry, rfl⟩
  · obtain ⟨-, -, mode, old, -, -, hfile, -⟩ := linkedFile?_eq_some_iff.1 hlinked
    rw [modeOf_of_file hfile]
    exact ⟨l, mode, places_of_link hlinked hfile hroom,
      places_insert_of_link hlinked hfile hroom content⟩
  · exact ⟨l, t.modeOf p, places_of_slot hlinked hparent hslot hentry,
      places_insert_of_slot hread hparent hslot hentry _ content⟩

/-- **The second of two replacements** leaves nothing of the first one. -/
theorem replace_replace (hread : IsReadable t p) (h : t.replace p content = .ok t')
    (content' : Bytes) : t'.replace p content' = t.replace p content' := by
  obtain ⟨l, mode, hplaces, hplaces'⟩ := exists_places_of_replace hread h
  have ht' : t' = t.insert l (.file mode content) := by
    rw [hplaces content, Except.ok.injEq] at h
    exact h.symm
  rw [hplaces', hplaces, ht', insert_insert_self]

end GoOptional.FileTree
