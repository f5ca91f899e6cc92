import Mathlib
import GoOptional.Proofs.FileTree.OtherFiles
import GoOptional.Proofs.Run.Refinement

/-!
# The order of runs

Runs on different files come out the same in either order: a run looks at nothing but the entry of
its file and the directories that lead there, and it changes nothing but that entry.

## Main definitions

* `Run.OrderFree`: two runs that come out the same in either order
* `Run.OnDifferentFiles`: calls whose paths end with the names of different files

## Main results

* `Run.exists_planInTree_eq`: a run with a plan depends on the entry of its file only
* `Run.planInTree_orderFree`: two runs with plans for different files
* `Run.inTree_orderFree`: two runs on different files
* `Run.OnDifferentFiles.treeAfterAll_perm`: any number of them
-/

namespace GoOptional.Run

open FileTree (NamesFile)

variable {t : FileTree} {p q : Plan} {name name' : Bytes} {directory directory' : Location}

/-- Two runs from a tree that come out the same in either order. -/
structure OrderFree (t : FileTree) (run run' : FileTree → Result × FileTree) : Prop where
  /-- The first run has the same result after the second one, -/
  result_eq : (run (run' t).2).1 = (run t).1
  /-- the second one has the same result after the first one, -/
  result_eq' : (run' (run t).2).1 = (run' t).1
  /-- and both orders leave the same tree. -/
  tree_eq : (run (run' t).2).2 = (run' (run t).2).2

/-- A run that leaves every tree, with the same result, goes before or after any other one. -/
theorem orderFree_of_leaves {run run' : FileTree → Result × FileTree} {r : Result}
    (h : ∀ t, run t = (r, t)) (t : FileTree) : OrderFree t run run' where
  result_eq := by rw [h, h]
  result_eq' := by rw [h]
  tree_eq := by rw [h, h]

theorem OrderFree.symm {run run' : FileTree → Result × FileTree} (h : OrderFree t run run') :
    OrderFree t run' run :=
  ⟨h.result_eq', h.result_eq, h.tree_eq.symm⟩

/-- **A run with a plan** depends on the entry of its file only, in all trees with the same working
directory in which the path ends with the name of that file, and changes nothing else. -/
theorem exists_planInTree_eq (h : NamesFile t p.output name directory) (logs : List LogRecord) :
    ∃ r file, ∀ t', t'.workingDirectory = t.workingDirectory →
      NamesFile t' p.output name directory →
      t'.get? (name :: directory) = t.get? (name :: directory) →
        planInTree t' p logs = (r, t'.putFile (name :: directory) file) := by
  have hread {t' : FileTree} (h' : NamesFile t' p.output name directory)
      (hentry : t'.get? (name :: directory) = t.get? (name :: directory)) :
      t'.read p.output = t.read p.output := by
    rw [FileTree.read, FileTree.read, h.resolve_eq h' hentry]
  cases hu : p.update (t.read p.output) with
  | error e =>
    refine ⟨.failed e logs, none, fun t' hd h' hentry => ?_⟩
    exact planInTree_of_error logs (hread h' hentry ▸ hu)
  | ok u =>
    cases hdry : p.dryRun with
    | true =>
      refine ⟨p.finish logs u, none, fun t' hd h' hentry => ?_⟩
      exact planInTree_of_dryRun logs (hread h' hentry ▸ hu) hdry
    | false =>
      let logs' := logs ++ [writing p.request p.output u]
      rcases h.replace_cases with ⟨f, hreplace⟩ | ⟨mode, hplaces⟩
      · refine ⟨.failed (.unwritable f) logs', none, fun t' hd h' hentry => ?_⟩
        exact planInTree_of_unwritable logs (hread h' hentry ▸ hu) hdry
          (hreplace t' hd h' u.content)
      · refine ⟨p.finish logs' u, some (mode, u.content), fun t' hd h' hentry => ?_⟩
        exact planInTree_of_written logs (hread h' hentry ▸ hu) hdry
          (hplaces t' hd h' hentry u.content)

/-- **Two runs with plans for different files** come out the same in either order: each of them
finds its own entry as it was, whatever came to the other one. -/
theorem planInTree_orderFree (hp : NamesFile t p.output name directory)
    (hq : NamesFile t q.output name' directory')
    (hne : name :: directory ≠ name' :: directory') (logs logs' : List LogRecord) :
    OrderFree t (fun t => planInTree t p logs) (fun t => planInTree t q logs') := by
  obtain ⟨r, file, hrun⟩ := exists_planInTree_eq hp logs
  obtain ⟨r', file', hrun'⟩ := exists_planInTree_eq hq logs'
  have hafter := hrun _ (FileTree.workingDirectory_putFile t _ file')
    (hp.putFile hq.takesFile hne file') (FileTree.get?_putFile_of_ne hne file')
  have hafter' := hrun' _ (FileTree.workingDirectory_putFile t _ file)
    (hq.putFile hp.takesFile hne.symm file) (FileTree.get?_putFile_of_ne hne.symm file)
  have hfirst := hrun t rfl hp rfl
  have hfirst' := hrun' t rfl hq rfl
  constructor
  · simp only [hfirst', hafter, hfirst]
  · simp only [hfirst, hafter', hfirst']
  · simp only [hfirst', hafter, hfirst, hafter']
    exact FileTree.putFile_comm hne.symm file' file

/-- Runs without a plan leave every tree, so that only runs with plans matter. -/
theorem orderFree_of_planInTree {c d : Call}
    (h : ∀ p q, Plan.ofOptions c.1 = .ok p → Plan.ofOptions d.1 = .ok q →
      OrderFree t (fun t => planInTree t p (p.opening c.2))
        (fun t => planInTree t q (q.opening d.2))) :
    OrderFree t (fun t => inTree t c.1 c.2) (fun t => inTree t d.1 d.2) := by
  cases hp : Plan.ofOptions c.1 with
  | error e => exact orderFree_of_leaves (fun t => inTree_of_error t c.2 hp) t
  | ok p =>
    cases hq : Plan.ofOptions d.1 with
    | error e => exact (orderFree_of_leaves (fun t => inTree_of_error t d.2 hq) t).symm
    | ok q =>
      simp only [inTree_of_ok _ c.2 hp, inTree_of_ok _ d.2 hq]
      exact h p q hp hq

/-! ## Two runs -/

/-- **Two runs on different files** come out the same in either order: what each of them returns,
prints and logs, and the tree after both. -/
theorem inTree_orderFree {c d : Call}
    (hc : ∀ p, Plan.ofOptions c.1 = .ok p → NamesFile t p.output name directory)
    (hd : ∀ q, Plan.ofOptions d.1 = .ok q → NamesFile t q.output name' directory')
    (hne : name :: directory ≠ name' :: directory') :
    OrderFree t (fun t => inTree t c.1 c.2) (fun t => inTree t d.1 d.2) := by
  apply orderFree_of_planInTree
  intro p q hp hq
  exact planInTree_orderFree (hc p hp) (hd q hq) hne _ _

/-- The file of the options for a reader when none is named. -/
def defaultPath : Path :=
  Utf8.encode "reader_optional.go".toList

theorem namesFile_readerPath : NamesFile readerTree readerPath readerPath [] where
  endsWithName := target_readerTree.endsWithName
  parent_eq := target_readerTree.parent_eq
  takesFile := FileTree.takesFile_of_file (FileTree.get?_insert_self _ _ (List.cons_ne_nil _ _))

theorem namesFile_defaultPath : NamesFile readerTree defaultPath defaultPath [] where
  endsWithName := ⟨Or.inl rfl, by decide, by decide, by decide, by decide⟩
  parent_eq := by
    have hparent : defaultPath.parent = readerPath.parent := by decide
    rw [hparent]
    exact target_readerTree.parent_eq
  takesFile := by
    have hne : [defaultPath] ≠ [readerPath] := by decide
    exact FileTree.takesFile_of_none (FileTree.get?_insert_of_ne _ _ hne)

/-- One run writes a file that is there, and the other one makes a new file beside it. -/
theorem inTree_orderFree_readerOptions :
    (∀ p, Plan.ofOptions readerOptions = .ok p →
      NamesFile readerTree p.output readerPath []) ∧
    (∀ q, Plan.ofOptions { readerOptions with output := none } = .ok q →
      NamesFile readerTree q.output defaultPath []) ∧
    readerPath :: [] ≠ defaultPath :: [] ∧
    OrderFree readerTree (fun t => inTree t readerOptions noEnvironment)
      (fun t => inTree t { readerOptions with output := none } noEnvironment) := by
  have hreader : ∀ p, Plan.ofOptions readerOptions = .ok p →
      NamesFile readerTree p.output readerPath [] := by
    intro p hp
    rw [Plan.output_of_ofOptions hp rfl]
    exact namesFile_readerPath
  have hdefault : ∀ q, Plan.ofOptions { readerOptions with output := none } = .ok q →
      NamesFile readerTree q.output defaultPath [] := by
    intro q hq
    have houtput : (Plan.ofOptions { readerOptions with output := none }).map Plan.output =
        .ok defaultPath := rfl
    rw [hq] at houtput
    rw [show q.output = defaultPath from Except.ok.inj houtput]
    exact namesFile_defaultPath
  have hne : readerPath :: [] ≠ defaultPath :: [] := by decide
  exact ⟨hreader, hdefault, hne, inTree_orderFree (c := (readerOptions, noEnvironment))
    (d := ({ readerOptions with output := none }, noEnvironment)) hreader hdefault hne⟩

/-! ## Any number of runs -/

/-- A path still ends with the name of a file after a run on another file. -/
theorem namesFile_inTree {c : Call} {path : Path}
    (hc : ∀ p, Plan.ofOptions c.1 = .ok p → NamesFile t p.output name directory)
    (h : NamesFile t path name' directory') (hne : name' :: directory' ≠ name :: directory) :
    NamesFile (inTree t c.1 c.2).2 path name' directory' := by
  cases hp : Plan.ofOptions c.1 with
  | error e =>
    rw [inTree_of_error t c.2 hp]
    exact h
  | ok p =>
    obtain ⟨r, file, hrun⟩ := exists_planInTree_eq (hc p hp) (p.opening c.2)
    rw [inTree_of_ok t c.2 hp, hrun t rfl (hc p hp) rfl]
    exact h.putFile (hc p hp).takesFile hne file

/-- Calls whose paths end with the names of different files, each with the name and the directory
that is assigned to it. -/
structure OnDifferentFiles (t : FileTree) (place : Call → Bytes × Location) (calls : List Call) :
    Prop where
  namesFile : ∀ c ∈ calls, ∀ p, Plan.ofOptions c.1 = .ok p →
    NamesFile t p.output (place c).1 (place c).2
  pairwise : calls.Pairwise fun c d =>
    (place c).1 :: (place c).2 ≠ (place d).1 :: (place d).2

namespace OnDifferentFiles

variable {place : Call → Bytes × Location} {c : Call} {calls calls' : List Call}

theorem perm (h : OnDifferentFiles t place calls) (hperm : calls.Perm calls') :
    OnDifferentFiles t place calls' where
  namesFile := fun c hc => h.namesFile c (hperm.mem_iff.2 hc)
  pairwise := hperm.pairwise h.pairwise Ne.symm

/-- After the first run, the other calls still are on different files. -/
theorem inTree (h : OnDifferentFiles t place (c :: calls)) :
    OnDifferentFiles (inTree t c.1 c.2).2 place calls := by
  obtain ⟨hc, hcalls⟩ := List.forall_mem_cons.1 h.namesFile
  obtain ⟨hne, hpairwise⟩ := List.pairwise_cons.1 h.pairwise
  refine ⟨fun d hd p hp => ?_, hpairwise⟩
  exact namesFile_inTree hc (hcalls d hd p hp) (hne d hd).symm

/-- **Any number of runs on different files** leave the same tree in every order. -/
theorem treeAfterAll_perm (h : OnDifferentFiles t place calls) (hperm : calls.Perm calls') :
    treeAfterAll t calls = treeAfterAll t calls' := by
  induction hperm generalizing t with
  | nil => rfl
  | cons c _ ih => exact ih h.inTree
  | swap c d calls =>
    obtain ⟨hd, hrest⟩ := List.forall_mem_cons.1 h.namesFile
    have hne := (List.pairwise_cons.1 h.pairwise).1 c List.mem_cons_self
    have hc := hrest c List.mem_cons_self
    have horder : OrderFree t (fun t => Run.inTree t d.1 d.2) (fun t => Run.inTree t c.1 c.2) := by
      apply orderFree_of_planInTree
      intro q p hq hp
      exact planInTree_orderFree (hd q hq) (hc p hp) hne _ _
    exact congrArg (treeAfterAll · calls) horder.tree_eq.symm
  | trans hfirst _ ih ih' => rw [ih h, ih' (h.perm hfirst)]

end OnDifferentFiles

end GoOptional.Run
