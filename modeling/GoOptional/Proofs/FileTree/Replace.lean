import Mathlib
import GoOptional.FileTree.Replace
import GoOptional.Proofs.FileTree.Overwrite

/-!
# What a replacement leaves

The path is looked up several times when a file is replaced: for what it holds, for the file behind
a link, for the directory of the temporary file, for the mode, and for the place that is taken. If
the path could be read, or there was nothing to be read, then all of these mean the same entry, and
the path leads to the new content afterwards. There is one exception: the content behind a link can
be read where the real path of the file cannot be found out. Then the link is taken for one that
leads nowhere. It gives way to the new file, and the old one stays where it is.

## Main definitions

* `FileTree.IsReadable`: a path to a file, or to nothing
* `FileTree.IsHidden`: a link to a file of which the real path cannot be found out
* `FileTree.Replaced`: what became of a tree when new content was put where a path leads

## Main results

* `FileTree.exists_replaced_of_replace`: every replacement that succeeds does that
-/

namespace GoOptional.FileTree

variable {t t' : FileTree} {n : Nat} {l k : Location} {steps : List Path.Step} {d : Destination}
  {p : Path} {name : Bytes} {mode : Nat} {old content : Bytes}

/-- A path that leads to a file, or to nothing at all. -/
def IsReadable (t : FileTree) (p : Path) : Prop :=
  (∃ content, t.read p = .ok content) ∨ t.read p = .error .notFound

/-- The last name of a path is a link to a file of which the real path cannot be found out. -/
def IsHidden (t : FileTree) (p : Path) : Prop :=
  ∃ l target k mode old, t.slot p = .ok l ∧ t.get? l = some (.link target) ∧
    t.resolve p = .ok (.file k mode old) ∧ ¬ t.HasRealPath p

/-- What became of a tree when new content was put where a path leads: the entry at `l` is a file
with the content and the mode. -/
structure Replaced (t t' : FileTree) (p : Path) (content : Bytes) (l : Location) (mode : Nat) :
    Prop where
  /-- No other entry changes. -/
  get?_of_ne : ∀ k, k ≠ l → t'.get? k = t.get? k
  /-- Paths lead from where they led. -/
  workingDirectory_eq : t'.workingDirectory = t.workingDirectory
  /-- The path leads to the new file, -/
  resolve_eq : t'.resolve p = .ok (.file l mode content)
  /-- and the content is read from it. -/
  read_eq : t'.read p = .ok content
  /-- The mode is that of the file that was there before, and it keeps its place, -/
  of_file : ∀ k m old, t.resolve p = .ok (.file k m old) →
    m = mode ∧ (¬ t.IsHidden p → k = l ∧ t.get? l = some (.file mode old))
  /-- and all links that lead to it stay, -/
  of_link : ∀ old, t.read p = .ok old → ¬ t.IsHidden p → ∀ k target,
    t.get? k = some (.link target) → t'.get? k = some (.link target)
  /-- unless its real path cannot be found out. Then the link gave way to the new file, and the old
  one is still there. -/
  of_hidden : t.IsHidden p → t.slot p = .ok l ∧ (∃ target, t.get? l = some (.link target)) ∧
    ∀ k m old, t.resolve p = .ok (.file k m old) → k ≠ l ∧ t'.get? k = some (.file m old)
  /-- Where no file was, the last name of the path now stands for one with the mode of new files; a
  link that led nowhere gave way to it. -/
  of_missing : t.read p = .error .notFound → mode = defaultMode ∧ t.slot p = .ok l ∧
    (t.get? l = none ∨ ∃ target, t.get? l = some (.link target))

/-! ## Where a path leads -/

theorem read_of_resolve_file (h : t.resolve p = .ok (.file l mode content)) :
    t.read p = .ok content := by
  rw [read, h]

theorem exists_resolve_of_read (h : t.read p = .ok content) :
    ∃ l mode, t.resolve p = .ok (.file l mode content) := by
  unfold read at h
  split at h <;> cases h
  exact ⟨_, _, ‹_›⟩

theorem Leads.get?_of_file (h : Leads t n l steps (.file k mode content)) :
    t.get? k = some (.file mode content) := by
  generalize hd : Destination.file k mode content = d at h
  induction h with
  | done => cases hd
  | here _ ih => exact ih hd
  | up _ ih => exact ih hd
  | vacant => cases hd
  | file hname hentry =>
    cases hd
    exact hentry
  | directory _ _ _ ih => exact ih hd
  | link _ _ _ ih => exact ih hd

/-- A path that leads somewhere is spelled well, and its steps lead there. -/
theorem resolve_eq_ok_iff : t.resolve p = .ok d ↔
    (0 ∉ p ∧ p.length ≤ pathLimit ∧ p ≠ []) ∧ Leads t linkLimit (t.start p) p.steps d := by
  unfold resolve
  split_ifs with hzero hlength hempty
  · simp [hzero]
  · simp [hlength]
  · simp [List.isEmpty_iff.1 hempty]
  · rw [walk_eq_ok_iff]
    exact ⟨fun h => ⟨⟨hzero, Nat.not_lt.1 hlength, by simpa using hempty⟩, h⟩, And.right⟩

theorem resolveDirectory_eq_ok_iff :
    t.resolveDirectory p = .ok l ↔ t.resolve p = .ok (.directory l) := by
  rw [resolveDirectory]
  cases t.resolve p with
  | error f => simp
  | ok d => cases d <;> simp

/-- What is wrong with a path that is readable can only be that nothing is there. -/
theorem IsReadable.eq_notFound {f : Fault} (h : IsReadable t p) (hread : t.read p = .error f) :
    f = .notFound := by
  rcases h with ⟨content, h⟩ | h <;> rw [hread] at h <;> cases h
  rfl

theorem IsReadable.zero_not_mem (h : IsReadable t p) : 0 ∉ p := by
  intro hzero
  cases h.eq_notFound (by rw [read, resolve, if_pos hzero])

theorem IsReadable.length_le (h : IsReadable t p) : p.length ≤ pathLimit := by
  by_contra hlong
  cases h.eq_notFound (by
    rw [read, resolve, if_neg h.zero_not_mem, if_pos (Nat.not_le.1 hlong)])

theorem resolve_insert_file (hk : TakesFile t k) (h : t.resolve p = .ok d) (mode : Nat)
    (content : Bytes) :
    (t.insert k (.file mode content)).resolve p = .ok (d.withFile k mode content) := by
  rw [resolve_eq_ok_iff] at h ⊢
  exact ⟨h.1, h.2.insert_file hk mode content⟩

/-! ## A file in place of a file -/

theorem replaced_of_file (h : t.resolve p = .ok (.file l mode old)) (hshown : ¬ t.IsHidden p)
    (content : Bytes) : Replaced t (t.insert l (.file mode content)) p content l mode := by
  have hentry : t.get? l = some (.file mode old) := (resolve_eq_ok_iff.1 h).2.get?_of_file
  have hresolve := resolve_insert_file (takesFile_of_file hentry) h mode content
  rw [Destination.withFile, if_pos rfl] at hresolve
  exact {
    get?_of_ne := fun k hk => get?_insert_of_ne t _ hk
    workingDirectory_eq := rfl
    resolve_eq := hresolve
    read_eq := read_of_resolve_file hresolve
    of_file := by
      intro k m old' h'
      rw [h, Except.ok.injEq, Destination.file.injEq] at h'
      obtain ⟨rfl, rfl, rfl⟩ := h'
      exact ⟨rfl, fun _ => ⟨rfl, hentry⟩⟩
    of_link := by
      intro old' _ _ k target hk
      have hne : k ≠ l := by
        rintro rfl
        rw [hentry] at hk
        cases hk
      rw [get?_insert_of_ne t _ hne, hk]
    of_hidden := fun hhidden => absurd hhidden hshown
    of_missing := by
      intro hread
      rw [read_of_resolve_file h] at hread
      cases hread }

/-! ## A file in place of nothing, or of a link -/

theorem Slot.resolve_insert_of_none (hslot : Slot t p name k) (hlength : p.length ≤ pathLimit)
    (hentry : t.get? (name :: k) = none) (mode : Nat) (content : Bytes) :
    (t.insert (name :: k) (.file mode content)).resolve p =
      .ok (.file (name :: k) mode content) := by
  obtain ⟨m, -, hresolve⟩ := hslot.exists_resolve_eq hlength
  rw [walk_of_none hslot.length_le hentry] at hresolve
  have hinsert := resolve_insert_file (takesFile_of_none hentry) hresolve mode content
  rwa [Destination.withFile, if_pos rfl] at hinsert

/-- A link to a file, or to nothing, leads to no directory: the walk behind it may have other links
left, but it would lead there or run out of links. -/
theorem Slot.not_leads_of_link (hslot : Slot t p name k) {target : Path}
    (hentry : t.get? (name :: k) = some (.link target)) (hread : IsReadable t p)
    (m : Nat) (j : Location) : ¬ Leads t m (startOf target k) target.steps (.directory j) := by
  intro hleads
  obtain ⟨n, -, hresolve⟩ := hslot.exists_resolve_eq hread.length_le
  cases n with
  | zero =>
    rw [walk_zero_of_link hslot.length_le hentry] at hresolve
    cases hread.eq_notFound (by rw [read, hresolve])
  | succ n =>
    rw [walk_succ_of_link hslot.length_le hentry, List.append_nil] at hresolve
    rcases hleads.walk_eq_or (m := n) with hwalk | hwalk
    · cases hread.eq_notFound (by rw [read, hresolve, hwalk])
    · cases hread.eq_notFound (by rw [read, hresolve, hwalk])

/-- A file that takes the place of a link is found there: the way to the link does not go along it,
so it is still there without it. -/
theorem Slot.resolve_insert_of_link (hslot : Slot t p name k) {target : Path}
    (hentry : t.get? (name :: k) = some (.link target)) (hread : IsReadable t p)
    (mode : Nat) (content : Bytes) :
    (t.insert (name :: k) (.file mode content)).resolve p =
      .ok (.file (name :: k) mode content) := by
  obtain ⟨before, hsteps, hbefore⟩ := hslot.exists_steps
  obtain ⟨m, -, hwalk⟩ := (hbefore.insert_of_link hentry (hslot.not_leads_of_link hentry hread)
    (.file mode content)).exists_walk_append
  have hstart : (t.insert (name :: k) (.file mode content)).start p = t.start p := rfl
  rw [hslot.resolve_eq hread.length_le, hstart, hsteps, hwalk, walk_of_file hslot.length_le
    (get?_insert_self t _ (List.cons_ne_nil _ _))]
  rfl

theorem replaced_of_missing (hread : t.read p = .error .notFound) (hslot : t.slot p = .ok l)
    (hentry : t.get? l = none ∨ ∃ target, t.get? l = some (.link target)) (content : Bytes) :
    Replaced t (t.insert l (.file defaultMode content)) p content l defaultMode := by
  obtain ⟨name, k, rfl, hs⟩ := exists_slot_of_slot_eq hslot
  have hresolve : (t.insert (name :: k) (.file defaultMode content)).resolve p =
      .ok (.file (name :: k) defaultMode content) := by
    rcases hentry with hentry | ⟨target, hentry⟩
    · exact hs.resolve_insert_of_none (IsReadable.length_le (Or.inr hread))
        hentry _ _
    · exact hs.resolve_insert_of_link hentry (Or.inr hread) _ _
  exact {
    get?_of_ne := fun k hk => get?_insert_of_ne t _ hk
    workingDirectory_eq := rfl
    resolve_eq := hresolve
    read_eq := read_of_resolve_file hresolve
    of_file := by
      intro k m old h
      rw [read_of_resolve_file h] at hread
      cases hread
    of_link := by
      intro old h
      rw [h] at hread
      cases hread
    of_hidden := by
      rintro ⟨_, _, _, _, _, -, -, hfile, -⟩
      rw [read_of_resolve_file hfile] at hread
      cases hread
    of_missing := fun _ => ⟨rfl, hslot, hentry⟩ }

/-- A link gives way to the new file where the real path of the old one cannot be found out. -/
theorem replaced_of_hidden (hhidden : t.IsHidden p) (hslot : t.slot p = .ok l)
    (hfile : t.resolve p = .ok (.file k mode old)) (content : Bytes) :
    Replaced t (t.insert l (.file mode content)) p content l mode := by
  have hread : t.read p = .ok old := read_of_resolve_file hfile
  obtain ⟨l', target, -, -, -, hslot', hentry, -, -⟩ := id hhidden
  obtain rfl : l = l' := Except.ok.inj (hslot.symm.trans hslot')
  obtain ⟨name, directory, rfl, hs⟩ := exists_slot_of_slot_eq hslot
  have hresolve := hs.resolve_insert_of_link hentry (Or.inl ⟨old, hread⟩) mode content
  exact {
    get?_of_ne := fun k hk => get?_insert_of_ne t _ hk
    workingDirectory_eq := rfl
    resolve_eq := hresolve
    read_eq := read_of_resolve_file hresolve
    of_file := by
      intro k m old h
      rw [hfile, Except.ok.injEq, Destination.file.injEq] at h
      exact ⟨h.2.1.symm, fun hshown => absurd hhidden hshown⟩
    of_link := fun _ _ hshown => absurd hhidden hshown
    of_hidden := by
      refine fun _ => ⟨hslot, ⟨target, hentry⟩, fun k m old h => ?_⟩
      have hold := (resolve_eq_ok_iff.1 h).2.get?_of_file
      have hne : k ≠ name :: directory := by
        rintro rfl
        rw [hold] at hentry
        cases hentry
      exact ⟨hne, (get?_insert_of_ne t _ hne).trans hold⟩
    of_missing := by
      intro h
      rw [hread] at h
      cases h }

/-! ## Replacements -/

theorem linkedFile?_eq_some_iff : t.linkedFile? p = some l ↔ ∃ k target mode old,
    t.slot p = .ok k ∧ t.get? k = some (.link target) ∧ t.resolve p = .ok (.file l mode old) ∧
      t.HasRealPath p := by
  constructor
  · intro h
    unfold linkedFile? at h
    split at h
    · cases h
    · split at h
      · split_ifs at h with hreal
        cases h
        exact ⟨_, _, _, _, ‹_›, ‹_›, ‹_›, hreal⟩
      · cases h
  · rintro ⟨k, target, mode, old, hslot, hentry, hfile, hreal⟩
    rw [linkedFile?, hslot]
    simp only [hentry, hfile, if_pos hreal]

theorem not_isHidden_of_linkedFile? (h : t.linkedFile? p = some l) : ¬ t.IsHidden p := by
  obtain ⟨-, -, -, -, -, -, -, hreal⟩ := linkedFile?_eq_some_iff.1 h
  rintro ⟨-, -, -, -, -, -, -, -, hno⟩
  exact hno hreal

/-- A path that names no file behind a link leads to the file in its slot, or it is hidden. -/
theorem Slot.eq_or_isHidden (hs : Slot t p name k) (hslot : t.slot p = .ok (name :: k))
    (hnone : t.linkedFile? p = none) (hfile : t.resolve p = .ok (.file l mode old)) :
    l = name :: k ∧ ¬ t.IsHidden p ∨ t.IsHidden p := by
  by_cases hhidden : t.IsHidden p
  · exact Or.inr hhidden
  obtain ⟨m, -, hresolve⟩ := hs.exists_resolve_eq (resolve_eq_ok_iff.1 hfile).1.2.1
  rw [hfile] at hresolve
  refine Or.inl ⟨?_, hhidden⟩
  cases hentry : t.get? (name :: k) with
  | none => rw [walk_of_none hs.length_le hentry] at hresolve; cases hresolve
  | some e =>
    cases e with
    | directory => rw [walk_of_directory hs.length_le hentry, walk_nil] at hresolve; cases hresolve
    | file mode' old' =>
      rw [walk_of_file hs.length_le hentry] at hresolve
      cases hresolve
      rfl
    | link target =>
      refine absurd ⟨_, target, _, _, _, hslot, hentry, hfile, fun hreal => ?_⟩ hhidden
      rw [linkedFile?_eq_some_iff.2 ⟨_, target, _, _, hslot, hentry, hfile, hreal⟩] at hnone
      cases hnone

theorem modeOf_of_file (h : t.resolve p = .ok (.file l mode old)) : t.modeOf p = mode := by
  rw [modeOf, h]

theorem modeOf_of_missing (h : t.read p = .error .notFound) : t.modeOf p = defaultMode := by
  unfold modeOf
  split
  · rw [read_of_resolve_file ‹_›] at h
    cases h
  · rfl

/-- Where nothing was found, the last name of a path stands for no file. -/
theorem Slot.get?_ne_file (hs : Slot t p name k) (hread : t.read p = .error .notFound) :
    t.get? (name :: k) ≠ some (.file mode old) := by
  intro hentry
  obtain ⟨m, -, hresolve⟩ := hs.exists_resolve_eq
    (IsReadable.length_le (Or.inr hread))
  rw [walk_of_file hs.length_le hentry] at hresolve
  rw [read_of_resolve_file hresolve] at hread
  cases hread

theorem rename_eq_ok (h : t.rename p l mode content = .ok t') :
    t.get? l ≠ some .directory ∧ t' = t.insert l (.file mode content) := by
  unfold rename at h
  split at h
  · cases h
  · exact ⟨‹_›, (Except.ok.inj h).symm⟩

theorem rename_of_ne_directory (h : t.get? l ≠ some .directory) (p : Path) (mode : Nat)
    (content : Bytes) : t.rename p l mode content = .ok (t.insert l (.file mode content)) := by
  unfold rename
  split
  · contradiction
  · rfl

theorem temporaryDirectory_eq_ok_iff {directory : Path} :
    t.temporaryDirectory directory = .ok l ↔
      (t.temporaryPath directory).length ≤ pathLimit ∧ t.resolveDirectory directory = .ok l := by
  unfold temporaryDirectory
  split_ifs with hzero hlong
  · simp [resolveDirectory, resolve, hzero]
  · simp [Nat.not_le.2 hlong]
  · simp [Nat.not_lt.1 hlong]

/-! ### What a replacement does -/

theorem replace_of_linkedFile? (hlinked : t.linkedFile? p = some l)
    (hroom : (t.temporaryPath (realPath l.tail)).length ≤ pathLimit) (content : Bytes) :
    t.replace p content = t.rename (realPath l) l (t.modeOf p) content := by
  rw [replace, hlinked]
  simp only [if_neg (Nat.not_lt.2 hroom)]

theorem replace_of_temporaryDirectory_eq_error {f : Fault} (hlinked : t.linkedFile? p = none)
    (hparent : t.temporaryDirectory p.parent = .error f) (content : Bytes) :
    t.replace p content = .error (.temporary p.parent f) := by
  rw [replace, hlinked]
  simp only [hparent]

theorem replace_of_slot_eq_error {f : Fault} {directory : Location}
    (hlinked : t.linkedFile? p = none) (hparent : t.temporaryDirectory p.parent = .ok directory)
    (hslot : t.slot p = .error f) (content : Bytes) :
    t.replace p content = .error (.rename p f) := by
  rw [replace, hlinked]
  simp only [hparent, hslot]

theorem replace_of_slot {directory : Location} (hlinked : t.linkedFile? p = none)
    (hparent : t.temporaryDirectory p.parent = .ok directory) (hslot : t.slot p = .ok l)
    (content : Bytes) : t.replace p content = t.rename p l (t.modeOf p) content := by
  rw [replace, hlinked]
  simp only [hparent, hslot]

/-- All that a replacement that succeeds can do: the content goes to the file behind a link, or to
what the last name of the path stands for. -/
theorem replace_cases (h : t.replace p content = .ok t') :
    (∃ l, t.linkedFile? p = some l ∧ (t.temporaryPath (realPath l.tail)).length ≤ pathLimit ∧
      t.get? l ≠ some .directory ∧ t' = t.insert l (.file (t.modeOf p) content)) ∨
    ∃ directory l, t.linkedFile? p = none ∧ t.temporaryDirectory p.parent = .ok directory ∧
      t.slot p = .ok l ∧ t.get? l ≠ some .directory ∧
      t' = t.insert l (.file (t.modeOf p) content) := by
  unfold replace at h
  cases hlinked : t.linkedFile? p with
  | some l =>
    rw [hlinked] at h
    simp only at h
    split_ifs at h with hlong
    exact Or.inl ⟨l, rfl, Nat.not_lt.1 hlong, rename_eq_ok h⟩
  | none =>
    rw [hlinked] at h
    simp only at h
    split at h
    · cases h
    case h_2 directory hparent =>
      split at h
      · cases h
      case h_2 l hslot => exact Or.inr ⟨directory, l, rfl, hparent, hslot, rename_eq_ok h⟩

/-- **Every replacement that succeeds** puts the content where the path leads, and changes nothing
else. -/
theorem exists_replaced_of_replace (hread : IsReadable t p) (h : t.replace p content = .ok t') :
    ∃ l mode, Replaced t t' p content l mode := by
  rcases replace_cases h with ⟨l, hlinked, -, -, rfl⟩ | ⟨-, l, hlinked, -, hslot, hdirectory, rfl⟩
  · obtain ⟨-, -, mode, old, -, -, hfile, -⟩ := linkedFile?_eq_some_iff.1 hlinked
    rw [modeOf_of_file hfile]
    exact ⟨l, mode, replaced_of_file hfile (not_isHidden_of_linkedFile? hlinked) content⟩
  · obtain ⟨name, k, rfl, hs⟩ := exists_slot_of_slot_eq hslot
    rcases hread with ⟨old, hread⟩ | hread
    · obtain ⟨l, mode, hfile⟩ := exists_resolve_of_read hread
      rw [modeOf_of_file hfile]
      rcases hs.eq_or_isHidden hslot hlinked hfile with ⟨rfl, hshown⟩ | hhidden
      · exact ⟨_, mode, replaced_of_file hfile hshown content⟩
      · exact ⟨_, mode, replaced_of_hidden hhidden hslot hfile content⟩
    · have hentry : t.get? (name :: k) = none ∨
          ∃ target, t.get? (name :: k) = some (.link target) := by
        cases he : t.get? (name :: k) with
        | none => exact Or.inl rfl
        | some e =>
          cases e with
          | directory => exact absurd he hdirectory
          | file mode old => exact absurd he (hs.get?_ne_file hread)
          | link target => exact Or.inr ⟨target, rfl⟩
      rw [modeOf_of_missing hread]
      exact ⟨_, _, replaced_of_missing hread hslot hentry content⟩

end GoOptional.FileTree
