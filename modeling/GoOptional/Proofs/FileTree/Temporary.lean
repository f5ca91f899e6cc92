import Mathlib
import GoOptional.FileTree.Replace
import GoOptional.Proofs.FileTree.Walk

/-!
# Replacing through a temporary file

The content is written to a new file beside its target, which gets the mode of the target and then
takes its place; if it cannot, it is removed. A replacement as a whole says nothing of that file.
This module takes the steps one by one, and shows that they come to the same tree, whether the
replacement succeeds or not: the temporary file is never left behind.

## Main definitions

* `FileTree.replaceThrough`: a replacement in all its steps
* `FileTree.Fresh`: the names that a temporary file can have

## Main results

* `FileTree.exists_fresh`: there is always a fresh name
* `FileTree.replaceThrough_eq`: the steps come to the tree that the replacement leaves
-/

namespace GoOptional.FileTree

open GoOptional.Path (Step)

/-- The mode of a temporary file until it gets that of its target. -/
def temporaryMode : Nat :=
  0o600

/-- The temporary file at `temp` takes its place, or is removed. -/
def persist (t : FileTree) (temp : Location) (p : Path) (mode : Nat) (content : Bytes) :
    Except Fault Location → Except WriteFault Unit × FileTree
  | .error f => (.error (.rename p f), t.erase temp)
  | .ok l =>
    match (t.erase temp).rename p l mode content with
    | .error f => (.error f, t.erase temp)
    | .ok t' => (.ok (), t')

/-- A temporary file is made at `temp`, gets the content, then the mode that the path has, and then
takes the place that the tree has for its target. -/
def writeThrough (t : FileTree) (temp : Location) (p target : Path) (content : Bytes)
    (place : FileTree → Except Fault Location) : Except WriteFault Unit × FileTree :=
  let made := t.insert temp (.file temporaryMode [])
  let written := made.insert temp (.file temporaryMode content)
  let mode := written.modeOf p
  let ready := written.insert temp (.file mode content)
  ready.persist temp target mode content (place ready)

/-- A replacement in all its steps, with a temporary file of the given name. -/
def replaceThrough (name : Bytes) (t : FileTree) (p : Path) (content : Bytes) :
    Except WriteFault Unit × FileTree :=
  match t.linkedFile? p with
  | some target =>
    let directory := realPath target.tail
    if pathLimit < (t.temporaryPath directory).length then
      (.error (.temporary directory .nameTooLong), t)
    else
      t.writeThrough (name :: target.tail) p (realPath target) content fun _ => .ok target
  | none =>
    match t.temporaryDirectory p.parent with
    | .error f => (.error (.temporary p.parent f), t)
    | .ok directory => t.writeThrough (name :: directory) p p content fun u => u.slot p

/-- No entry has the name, and neither the path nor a link mentions it. -/
structure Fresh (t : FileTree) (p : Path) (name : Bytes) : Prop where
  get?_eq_none : ∀ l, t.get? (name :: l) = none
  not_mem_steps : .down name ∉ p.steps
  not_mem_target : ∀ l target, t.get? l = some (.link target) → .down name ∉ target.steps

variable {t : FileTree} {l : Location} {steps : List Step} {p : Path} {name : Bytes}
  {content : Bytes}

/-! ## The tree with a temporary file -/

theorem entries_erase (t : FileTree) (l k : Location) :
    (t.erase l).entries.get? k = if l = k then none else t.entries.get? k := by
  simp only [erase, Std.ExtTreeMap.get?_eq_getElem?, Std.ExtTreeMap.getElem?_erase,
    Std.LawfulEqCmp.compare_eq_iff_eq]

/-- Removing an entry that was added leaves the tree as it was. -/
theorem erase_insert (e : Entry) (h : t.get? (name :: l) = none) :
    (t.insert (name :: l) e).erase (name :: l) = t := by
  refine ext (fun k => ?_) rfl
  rw [entries_erase, entries_insert]
  split_ifs with hk
  · exact hk ▸ h.symm
  · rfl

/-! ## Fresh names -/

/-- The names along which steps lead. -/
def namesIn (steps : List Step) : List Bytes :=
  steps.filterMap fun
    | .down name => some name
    | _ => none

theorem mem_namesIn {steps : List Step} {name : Bytes} :
    name ∈ namesIn steps ↔ .down name ∈ steps := by
  unfold namesIn
  rw [List.mem_filterMap]
  constructor
  · rintro ⟨s, hs, h⟩
    cases s <;> cases h
    exact hs
  · intro h
    exact ⟨_, h, rfl⟩

/-- The names of an entry's location, and those in the path for which it stands if it is a link. -/
def namesOf : Location × Entry → List Bytes
  | (l, .link target) => l ++ namesIn target.steps
  | (l, _) => l

/-- **There is always a fresh name**: names are infinitely many, and a tree has finitely many. -/
theorem exists_fresh (t : FileTree) (p : Path) : ∃ name, Fresh t p name := by
  obtain ⟨name, hname⟩ := Infinite.exists_notMem_finset
    (t.entries.toList.flatMap namesOf ++ namesIn p.steps).toFinset
  rw [List.mem_toFinset, List.mem_append, not_or, List.mem_flatMap] at hname
  obtain ⟨hentries, hpath⟩ := hname
  have hmem {l : Location} {e : Entry} (h : t.entries.get? l = some e) : name ∉ namesOf (l, e) :=
    fun hn => hentries ⟨(l, e), Std.ExtTreeMap.mem_toList_iff_getElem?_eq_some.2 h, hn⟩
  refine ⟨name, fun l => ?_, fun h => hpath (mem_namesIn.2 h), fun l target h hn => ?_⟩
  · cases hentry : t.get? (name :: l) with
    | none => rfl
    | some e =>
      refine absurd ?_ (hmem hentry)
      cases e <;> simp [namesOf]
  · cases l with
    | nil => cases h
    | cons n l =>
      refine hmem h ?_
      rw [namesOf, List.mem_append]
      exact Or.inr (mem_namesIn.2 hn)

namespace Fresh

variable (h : Fresh t p name)
include h

/-- **No walk comes by** an entry whose name nothing mentions: every step goes to one of another
name. -/
theorem walk_insert (k : Location) (e : Entry) {n : Nat} (hsteps : .down name ∉ steps) :
    (t.insert (name :: k) e).walk n l steps = t.walk n l steps := by
  induction n, l, steps using walk_induction with
  | nil n l => rw [walk_nil, walk_nil]
  | here n l rest ih => rw [walk_here, walk_here, ih (List.not_mem_of_not_mem_cons hsteps)]
  | up n l rest ih => rw [walk_up, walk_up, ih (List.not_mem_of_not_mem_cons hsteps)]
  | down n l name' rest ih ihlink =>
    have hrest := List.not_mem_of_not_mem_cons hsteps
    have hne : name' :: l ≠ name :: k := by
      intro he
      exact hsteps ((List.cons.inj he).1 ▸ List.mem_cons_self)
    by_cases hlong : nameLimit < name'.length
    · rw [walk_of_nameLimit_lt hlong, walk_of_nameLimit_lt hlong]
    have hname := Nat.not_lt.1 hlong
    have hget := get?_insert_of_ne t e hne
    cases hentry : t.get? (name' :: l) with
    | none => rw [walk_of_none hname (hget.trans hentry), walk_of_none hname hentry]
    | some e' =>
      cases e' with
      | directory =>
        rw [walk_of_directory hname (hget.trans hentry), walk_of_directory hname hentry, ih hrest]
      | file mode content =>
        rw [walk_of_file hname (hget.trans hentry), walk_of_file hname hentry]
      | link target =>
        cases n with
        | zero => rw [walk_zero_of_link hname (hget.trans hentry), walk_zero_of_link hname hentry]
        | succ n =>
          rw [walk_succ_of_link hname (hget.trans hentry), walk_succ_of_link hname hentry]
          refine ihlink n rfl _ _ ?_
          rw [List.mem_append, not_or]
          exact ⟨h.not_mem_target _ target hentry, hrest⟩

theorem resolve_insert (k : Location) (e : Entry) :
    (t.insert (name :: k) e).resolve p = t.resolve p := by
  have hstart : (t.insert (name :: k) e).start p = t.start p := rfl
  simp only [resolve, hstart, h.walk_insert k e h.not_mem_steps]

theorem modeOf_insert (k : Location) (e : Entry) :
    (t.insert (name :: k) e).modeOf p = t.modeOf p := by
  simp only [modeOf, h.resolve_insert]

theorem slot_insert (k : Location) (e : Entry) :
    (t.insert (name :: k) e).slot p = t.slot p := by
  unfold slot
  split_ifs
  · rfl
  split
  · rfl
  case h_2 last before hsteps =>
    have hbefore : .down name ∉ before.reverse := by
      intro hm
      have hmem : .down name ∈ (p.pieces.filterMap Path.step?).reverse := by
        rw [hsteps]
        exact List.mem_cons_of_mem _ (List.mem_reverse.1 hm)
      exact h.not_mem_steps (List.mem_append_left _ (List.mem_reverse.1 hmem))
    have hstart : (t.insert (name :: k) e).start p = t.start p := rfl
    simp only [followToDirectory, hstart, h.walk_insert k e hbefore]

/-- The steps with a temporary file come to what renaming comes to without it. -/
theorem writeThrough_eq (k : Location) (target : Path) {place : FileTree → Except Fault Location}
    (hplace : ∀ e, place (t.insert (name :: k) e) = place t) :
    t.writeThrough (name :: k) p target content place =
      match place t with
      | .error f => (.error (.rename target f), t)
      | .ok l =>
        match t.rename target l (t.modeOf p) content with
        | .error f => (.error f, t)
        | .ok t' => (.ok (), t') := by
  simp only [writeThrough, insert_insert_self, h.modeOf_insert, hplace]
  cases place t with
  | error f => rw [persist, erase_insert _ (h.get?_eq_none k)]
  | ok l => rw [persist, erase_insert _ (h.get?_eq_none k)]

end Fresh

/-- **The steps come to the tree that the replacement leaves**, and to the tree that was there if it
fails. -/
theorem replaceThrough_eq (h : Fresh t p name) (content : Bytes) :
    replaceThrough name t p content =
      match t.replace p content with
      | .error f => (.error f, t)
      | .ok t' => (.ok (), t') := by
  unfold replaceThrough replace
  cases t.linkedFile? p with
  | some target =>
    simp only
    split_ifs with hlong
    · rfl
    · exact h.writeThrough_eq target.tail (realPath target) fun _ => rfl
  | none =>
    simp only
    cases t.temporaryDirectory p.parent with
    | error f => rfl
    | ok directory =>
      simp only
      rw [h.writeThrough_eq directory p (h.slot_insert directory)]
      cases t.slot p <;> rfl

end GoOptional.FileTree
