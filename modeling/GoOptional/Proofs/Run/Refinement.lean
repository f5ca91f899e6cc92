import Mathlib
import GoOptional.Proofs.FileTree.Target
import GoOptional.Proofs.GeneratedFile.Adding
import GoOptional.Proofs.Run.DryRun

/-!
# Runs on one file

Runs that follow each other on one file do what their requests do to its content. Dry runs, and runs
that come to no request, do nothing to it; a file that is missing has no content. If the file can be
written at first, then it can be written all along. Not all files that can be read can be written:
the path of the temporary file is longer than that of the directory, and may be too long.

## Main definitions

* `Run.contentAt`: what is found where a path leads
* `Run.requestsOf`: the requests of the runs that write
* `Run.Mirrors`: the content at a path changes as requests change it
* `Run.Refines`: what runs on one file leave, and how the next one ends

## Main results

* `Run.planInTree_target`: all that a run with a plan can do to its file
* `Run.Mirrors.trans`: changes that follow each other
* `Run.inTree_refines`: any number of runs on one file
* `Run.not_refines_slashedPath`: a file without room for a temporary file beside it
-/

namespace GoOptional.Run

open CommandLine (Environment Options)
open FileTree (IsReadable Target)
open GeneratedFile (Update UpdateError contentAfter contentAfterAll update updateAll)

variable {t t' t'' : FileTree} {o : Options} {p : Plan} {path : Path} {name : Bytes}
  {directory : Location} {rs rs' : List Request}

/-- A call of the program: its options and its environment. -/
abbrev Call := Options × Environment

/-- The content that is found where a path leads; what is missing has none. -/
def contentAt (t : FileTree) (path : Path) : Bytes :=
  match t.read path with
  | .error _ => []
  | .ok content => content

/-- The tree after runs that follow each other. -/
def treeAfterAll (t : FileTree) (calls : List Call) : FileTree :=
  calls.foldl (fun t c => (inTree t c.1 c.2).2) t

/-- The request of a run that is to write. -/
def requestToWrite? (o : Options) : Option Request :=
  match Plan.ofOptions o with
  | .error _ => none
  | .ok p => if p.dryRun then none else some p.request

/-- The requests of the runs that are to write, in order. -/
def requestsOf (calls : List Call) : List Request :=
  calls.filterMap fun c => requestToWrite? c.1

/-- From one tree to the other, requests changed the content at a path: one that fails changes
nothing, and one that succeeds is the end of a missing file. -/
structure Mirrors (path : Path) (t t' : FileTree) (rs : List Request) : Prop where
  contentAt_eq : contentAt t' path = contentAfterAll (contentAt t path) rs
  missing_iff : t'.read path = .error .notFound ↔ t.read path = .error .notFound ∧
    ∀ answer ∈ updateAll (contentAt t path) rs, ∃ e, answer = .error e

/-- Runs on one file leave what their requests make of its content. -/
structure Refines (t : FileTree) (path : Path) (calls : List Call) : Prop where
  /-- The file can be read, or is missing, -/
  isReadable : IsReadable (treeAfterAll t calls) path
  /-- and its content is what the requests made of it. -/
  mirrors : Mirrors path t (treeAfterAll t calls) (requestsOf calls)
  /-- The next run cannot update the file if its request cannot, and for the same reason. -/
  notUpdated_iff : ∀ o env p, Plan.ofOptions o = .ok p → p.output = path → ∀ q e,
    (inTree (treeAfterAll t calls) o env).1.outcome = .error (.notUpdated q e) ↔
      q = path ∧ update p.request (contentAfterAll (contentAt t path) (requestsOf calls)) = .error e
  /-- It fails for no other reason but its report. -/
  outcome_of_update : ∀ o env p u, Plan.ofOptions o = .ok p → p.output = path →
    update p.request (contentAfterAll (contentAt t path) (requestsOf calls)) = .ok u →
    (inTree (treeAfterAll t calls) o env).1.outcome = p.reporting

/-! ## One run -/

theorem contentAt_of_read {content : Bytes} (h : t.read path = .ok content) :
    contentAt t path = content := by
  rw [contentAt, h]

/-- What comes of a plan depends on the content only. -/
theorem Plan.update_read (h : IsReadable t p.output) :
    p.update (t.read p.output) = p.updateBytes (contentAt t p.output) := by
  unfold contentAt
  rcases h with ⟨content, h⟩ | h <;> rw [h] <;> rfl

/-- **All that a run with a plan can do to its file**, if it can be written: the request fails, or
the run is a dry one, or its content is put in place. -/
theorem planInTree_target (h : Target t p.output name directory) (logs : List LogRecord) :
    (∃ e, update p.request (contentAt t p.output) = .error e ∧
      planInTree t p logs = (.failed (.notUpdated p.output e) logs, t)) ∨
    ∃ u logs' t', update p.request (contentAt t p.output) = .ok u ∧
      planInTree t p logs = (p.finish logs' u, t') ∧
      (p.dryRun = true ∧ t' = t ∨ p.dryRun = false ∧ t'.read p.output = .ok u.content ∧
        Target t' p.output name directory) := by
  have hread := Plan.update_read h.isReadable
  rw [Plan.updateBytes] at hread
  cases hu : update p.request (contentAt t p.output) with
  | error e =>
    rw [hu] at hread
    exact Or.inl ⟨e, rfl, planInTree_of_error logs hread⟩
  | ok u =>
    rw [hu] at hread
    right
    cases hdry : p.dryRun with
    | true => exact ⟨u, _, t, rfl, planInTree_of_dryRun logs hread hdry, Or.inl ⟨rfl, rfl⟩⟩
    | false =>
      obtain ⟨t', hreplace, hafter, htarget⟩ := h.exists_replace u.content
      exact ⟨u, _, t', rfl, planInTree_of_written logs hread hdry hreplace,
        Or.inr ⟨rfl, hafter, htarget⟩⟩

/-! ## Changes that follow each other -/

namespace Mirrors

theorem refl (path : Path) (t : FileTree) : Mirrors path t t [] where
  contentAt_eq := rfl
  missing_iff := by simp [updateAll]

theorem of_error {r : Request} {e : UpdateError} (h : update r (contentAt t path) = .error e) :
    Mirrors path t t [r] where
  contentAt_eq := (GeneratedFile.contentAfter_of_error h).symm
  missing_iff := by simp [updateAll, h]

theorem of_update {r : Request} {u : Update} (h : update r (contentAt t path) = .ok u)
    (hread : t'.read path = .ok u.content) : Mirrors path t t' [r] where
  contentAt_eq := (contentAt_of_read hread).trans (GeneratedFile.contentAfter_of_update h).symm
  missing_iff := by simp [updateAll, h, hread]

/-- Changes that follow each other are one change. -/
theorem trans (h : Mirrors path t t' rs) (h' : Mirrors path t' t'' rs') :
    Mirrors path t t'' (rs ++ rs') where
  contentAt_eq := by
    rw [h'.contentAt_eq, h.contentAt_eq, GeneratedFile.contentAfterAll_append]
  missing_iff := by
    rw [h'.missing_iff, h.missing_iff, h.contentAt_eq, GeneratedFile.updateAll_append,
      List.forall_mem_append, and_assoc]

end Mirrors

/-! ## Runs that follow each other -/

theorem requestToWrite?_of_ok (hp : Plan.ofOptions o = .ok p) :
    requestToWrite? o = if p.dryRun then none else some p.request := by
  rw [requestToWrite?, hp]

theorem requestsOf_cons (c : Call) (calls : List Call) :
    requestsOf (c :: calls) = (requestToWrite? c.1).toList ++ requestsOf calls := by
  rw [requestsOf, List.filterMap_cons]
  cases requestToWrite? c.1 <;> rfl

/-- **One run on a file** makes the change of its request, and the file can be written again. A dry
run whose request fails counts for nothing, like one whose request succeeds. -/
theorem inTree_target (h : Target t path name directory)
    (houtput : ∀ p, Plan.ofOptions o = .ok p → p.output = path) (env : Environment) :
    Target (inTree t o env).2 path name directory ∧
      Mirrors path t (inTree t o env).2 (requestToWrite? o).toList := by
  cases hp : Plan.ofOptions o with
  | error e =>
    rw [inTree_of_error t env hp, requestToWrite?, hp]
    exact ⟨h, .refl path t⟩
  | ok p =>
    obtain rfl := houtput p hp
    rw [inTree_of_ok t env hp, requestToWrite?_of_ok hp]
    rcases planInTree_target h (p.opening env) with
      ⟨e, hu, hrun⟩ | ⟨u, logs, t', hu, hrun, ⟨hdry, rfl⟩ | ⟨hdry, hread, htarget⟩⟩
    · rw [hrun]
      refine ⟨h, ?_⟩
      split_ifs
      · exact .refl _ t
      · exact .of_error hu
    · rw [hrun, if_pos hdry]
      exact ⟨h, .refl _ t'⟩
    · rw [hrun, if_neg (by simp [hdry])]
      exact ⟨htarget, .of_update hu hread⟩

theorem treeAfterAll_target {calls : List Call} (h : Target t path name directory)
    (hcalls : ∀ c ∈ calls, ∀ p, Plan.ofOptions c.1 = .ok p → p.output = path) :
    Target (treeAfterAll t calls) path name directory ∧
      Mirrors path t (treeAfterAll t calls) (requestsOf calls) := by
  induction calls generalizing t with
  | nil => exact ⟨h, .refl path t⟩
  | cons c calls ih =>
    obtain ⟨hc, hcalls⟩ := List.forall_mem_cons.1 hcalls
    obtain ⟨htarget, hfirst⟩ := inTree_target h hc c.2
    obtain ⟨hlast, hrest⟩ := ih htarget hcalls
    rw [requestsOf_cons]
    exact ⟨hlast, hfirst.trans hrest⟩

/-- How a run on a file ends: the request fails, or all but the report succeeds. -/
theorem outcome_inTree (h : Target t p.output name directory) (hp : Plan.ofOptions o = .ok p)
    (env : Environment) :
    (∃ e, update p.request (contentAt t p.output) = .error e ∧
      (inTree t o env).1.outcome = .error (.notUpdated p.output e)) ∨
    ∃ u, update p.request (contentAt t p.output) = .ok u ∧
      (inTree t o env).1.outcome = p.reporting := by
  rw [inTree_of_ok t env hp]
  rcases planInTree_target h (p.opening env) with ⟨e, hu, hrun⟩ | ⟨u, logs, t', hu, hrun, -⟩
  · exact Or.inl ⟨e, hu, by rw [hrun]; rfl⟩
  · exact Or.inr ⟨u, hu, by rw [hrun, Plan.outcome_finish]⟩

theorem Plan.reporting_ne_notUpdated (p : Plan) (q : Path) (e : UpdateError) :
    p.reporting ≠ .error (.notUpdated q e) := by
  rcases p.reporting_eq_or with h | h <;> rw [h] <;> simp

/-- **Any number of runs on one file** leave what their requests make of its content, one after the
other; and so it is told how the next run ends. -/
theorem inTree_refines {calls : List Call} (h : Target t path name directory)
    (hcalls : ∀ c ∈ calls, ∀ p, Plan.ofOptions c.1 = .ok p → p.output = path) :
    Refines t path calls := by
  obtain ⟨htarget, hmirrors⟩ := treeAfterAll_target h hcalls
  have houtcome {o : Options} {p : Plan} (env : Environment) (hp : Plan.ofOptions o = .ok p)
      (houtput : p.output = path) :=
    outcome_inTree (houtput ▸ htarget) hp env
  refine ⟨htarget.isReadable, hmirrors, fun o env p hp houtput q e => ?_,
    fun o env p u hp houtput hu => ?_⟩
  · rw [← hmirrors.contentAt_eq, ← houtput]
    rcases houtcome env hp houtput with ⟨e', hu, hout⟩ | ⟨u, hu, hout⟩
    · rw [hu, hout]
      simp [eq_comm]
    · rw [hu, hout]
      simp [p.reporting_ne_notUpdated]
  · rw [← hmirrors.contentAt_eq, ← houtput] at hu
    rcases houtcome env hp houtput with ⟨e', hu', -⟩ | ⟨-, -, hout⟩
    · rw [hu'] at hu
      cases hu
    · exact hout

theorem Plan.output_of_ofOptions (hp : Plan.ofOptions o = .ok p) (ho : o.output = some path) :
    p.output = path := by
  unfold ofOptions at hp
  split at hp
  · cases hp
  · cases hp
    simp only [ho, Option.getD_some]

/-- The file of the options for a reader. -/
def readerPath : Path :=
  Utf8.encode "reader.go".toList

/-- A tree with that file, which nobody generated. -/
def readerTree : FileTree :=
  FileTree.empty.insert [readerPath] (.file 0o600 (Utf8.encode "package main\n".toList))

/-- Runs that add to the file, look at it, write it afresh, and add to it again. -/
def readerCalls : List Call :=
  [({ readerOptions with append := true }, noEnvironment),
    ({ readerOptions with dryRun := true }, noEnvironment),
    (readerOptions, noEnvironment),
    ({ readerOptions with append := true, json := true }, noEnvironment)]

theorem target_readerTree : Target readerTree readerPath readerPath [] := by
  have hends : readerPath.EndsWithName readerPath :=
    ⟨Or.inl rfl, by decide, by decide, by decide, by decide⟩
  have hparent : readerPath.parent = Path.dot := by decide
  have hdot : readerTree.resolveDirectory Path.dot = .ok [] :=
    FileTree.resolveDirectory_eq_ok_iff.2 (FileTree.resolve_eq_ok_iff.2 ⟨by decide, .here .done⟩)
  have hfile : readerTree.get? [readerPath] =
      some (.file 0o600 (Utf8.encode "package main\n".toList)) :=
    FileTree.get?_insert_self _ _ (List.cons_ne_nil _ _)
  exact FileTree.target_of_takesFile hends (by decide) (by decide) (by decide) (hparent ▸ hdot)
    (FileTree.takesFile_of_file hfile) (by decide)

theorem inTree_refines_readerCalls :
    Target readerTree readerPath readerPath [] ∧
    (∀ c ∈ readerCalls, ∀ p, Plan.ofOptions c.1 = .ok p → p.output = readerPath) ∧
    Refines readerTree readerPath readerCalls := by
  have hoptions : ∀ c ∈ readerCalls, c.1.output = some readerPath := by decide
  have hcalls : ∀ c ∈ readerCalls, ∀ p, Plan.ofOptions c.1 = .ok p → p.output = readerPath :=
    fun c hc p hp => Plan.output_of_ofOptions hp (hoptions c hc)
  exact ⟨target_readerTree, hcalls, inTree_refines target_readerTree hcalls⟩

/-! ## A file without room beside it -/

/-- The directory of a file in a directory. -/
def slashedDirectory : Location :=
  [Utf8.encode "x".toList, Utf8.encode "d".toList]

/-- A tree with nothing but that directory. -/
def slashedTree : FileTree :=
  (FileTree.empty.insert slashedDirectory.tail .directory).insert slashedDirectory .directory

/-- The name of the file. -/
def slashedName : Bytes :=
  Utf8.encode "a.go".toList

/-- The path of the directory, with thousands of slashes between the names. -/
def slashedParent : Path :=
  Utf8.encode "d".toList ++ List.replicate 4088 Path.slash ++ Utf8.encode "x".toList

/-- The path of the file, which is as long as a path can be. -/
def slashedPath : Path :=
  slashedParent ++ Path.slash :: slashedName

theorem endsWithName_slashedPath : slashedPath.EndsWithName slashedName where
  eq_or := Or.inr ⟨slashedParent, rfl⟩
  slash_not_mem := by decide
  ne_nil := by decide
  ne_dot := by decide
  ne_dotDot := by decide

theorem length_slashedPath : slashedPath.length = FileTree.pathLimit := by
  simp only [slashedPath, slashedParent, List.length_append, List.length_replicate]
  rfl

theorem zero_not_mem_slashedPath : 0 ∉ slashedPath := by
  simp only [slashedPath, slashedParent, List.mem_append, List.mem_replicate]
  decide

theorem resolveDirectory_slashedPath :
    slashedTree.resolveDirectory slashedPath.parent = .ok slashedDirectory := by
  decide +kernel

theorem get?_slashedTree : slashedTree.get? (slashedName :: slashedDirectory) = none := by
  decide +kernel

theorem read_slashedPath : slashedTree.read slashedPath = .error .notFound := by
  obtain ⟨m, hresolve⟩ := FileTree.exists_resolve_eq_of_parent endsWithName_slashedPath
    zero_not_mem_slashedPath length_slashedPath.le resolveDirectory_slashedPath
  rw [FileTree.walk_of_none (by decide) get?_slashedTree] at hresolve
  rw [FileTree.read, hresolve]
  rfl

theorem replace_slashedPath (content : Bytes) : slashedTree.replace slashedPath content =
    .error (.temporary slashedPath.parent .nameTooLong) := by
  have hslot := FileTree.slot_eq_of_parent endsWithName_slashedPath zero_not_mem_slashedPath
    (by decide) resolveDirectory_slashedPath
  have hlinked := FileTree.linkedFile?_eq_none_of_takesFile
    (fun k hk => Except.ok.inj (hk.symm.trans hslot)) (FileTree.takesFile_of_none get?_slashedTree)
  have hdirectory : slashedTree.temporaryDirectory slashedPath.parent = .error .nameTooLong := by
    decide +kernel
  exact FileTree.replace_of_temporaryDirectory_eq_error hlinked hdirectory content

/-- The request would make content for the missing file, but the run leaves it missing. -/
theorem not_refines_slashedPath :
    slashedPath.EndsWithName slashedName ∧ slashedName.length ≤ FileTree.nameLimit ∧
    slashedTree.resolveDirectory slashedPath.parent = .ok slashedDirectory ∧
    slashedTree.read slashedPath = .error .notFound ∧
    ¬ Refines slashedTree slashedPath [(intOptions slashedPath, noEnvironment)] := by
  refine ⟨endsWithName_slashedPath, by decide, resolveDirectory_slashedPath, read_slashedPath, ?_⟩
  intro h
  obtain ⟨p, hp, houtput, hdry, hrequest⟩ : ∃ p, Plan.ofOptions (intOptions slashedPath) = .ok p ∧
      p.output = slashedPath ∧ p.dryRun = false ∧ p.request.append = false :=
    ⟨_, rfl, rfl, rfl, rfl⟩
  have hupdate : p.update (slashedTree.read slashedPath) =
      .ok ⟨Utf8.encode (GeneratedFile.freshText p.request), .discard, none⟩ := by
    rw [read_slashedPath, Plan.update, Plan.updateBytes, GeneratedFile.update,
      if_neg (by simp [hrequest])]
  have hafter : treeAfterAll slashedTree [(intOptions slashedPath, noEnvironment)] =
      slashedTree := by
    rw [treeAfterAll, List.foldl_cons, List.foldl_nil, inTree_of_ok _ _ hp,
      planInTree_of_unwritable _ (houtput ▸ hupdate) hdry (houtput ▸ replace_slashedPath _)]
  have hmissing := h.mirrors.missing_iff
  rw [hafter] at hmissing
  obtain ⟨e, he⟩ := (hmissing.1 read_slashedPath).2 _ (by
    rw [requestsOf_cons, requestToWrite?_of_ok hp, if_neg (by simp [hdry])]
    exact List.mem_cons_self)
  rw [GeneratedFile.update, if_neg (by simp [hrequest])] at he
  cases he

end GoOptional.Run
