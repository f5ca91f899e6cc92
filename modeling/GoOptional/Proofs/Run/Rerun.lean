import Mathlib
import GoOptional.Proofs.FileTree.ReplaceTwice
import GoOptional.Proofs.Run.Refinement

/-!
# Running again

Runs on one file, the first of which writes it afresh, can be run again: they do the same in the
tree that they left. The first run writes the same content whatever it finds, and whatever the later
runs wrote to the file in between is replaced by it; so it leads back to the tree that it left the
first time. From there on all is as it was.

## Main definitions

* `Run.answersTo`: the results of runs that follow each other, with the trees that they leave
* `Run.LeadsBack`: new content for a file leads to a given tree

## Main results

* `Run.LeadsBack.treeAfterAll`: content leads back to a tree after any number of runs
* `Run.answersTo_treeAfterAll`: runs on one file that are run again
-/

namespace GoOptional.Run

open CommandLine (Environment Options)
open FileTree (IsReadable)
open GeneratedFile (Update)

variable {t t' back : FileTree} {o : Options} {p : Plan} {path : Path} {content : Bytes}

/-- The answers to calls that follow each other: each result with the tree that it leaves. -/
def answersTo (t : FileTree) : List Call → List (Result × FileTree)
  | [] => []
  | c :: calls => inTree t c.1 c.2 :: answersTo (inTree t c.1 c.2).2 calls

theorem treeAfterAll_cons (t : FileTree) (c : Call) (calls : List Call) :
    treeAfterAll t (c :: calls) = treeAfterAll (inTree t c.1 c.2).2 calls := rfl

/-! ## The way back -/

/-- The file at a path can be replaced, and the content for it leads to a tree. -/
structure LeadsBack (path : Path) (content : Bytes) (back t : FileTree) : Prop where
  isReadable : IsReadable t path
  replace_eq : t.replace path content = .ok back

theorem isReadable_of_replace (hread : IsReadable t path) (h : t.replace path content = .ok t') :
    IsReadable t' path := by
  obtain ⟨l, mode, hreplaced⟩ := FileTree.exists_replaced_of_replace hread h
  exact Or.inl ⟨content, hreplaced.read_eq⟩

/-- Content that was put in place leads back to where it led. -/
theorem leadsBack_of_replace (hread : IsReadable t path) (h : t.replace path content = .ok t') :
    LeadsBack path content t' t' where
  isReadable := isReadable_of_replace hread h
  replace_eq := (FileTree.replace_replace hread h content).trans h

namespace LeadsBack

variable (h : LeadsBack path content back t)
include h

/-- Other content in between makes no difference. -/
theorem of_replace {other : Bytes} (hreplace : t.replace path other = .ok t') :
    LeadsBack path content back t' where
  isReadable := isReadable_of_replace h.isReadable hreplace
  replace_eq := (FileTree.replace_replace h.isReadable hreplace content).trans h.replace_eq

/-- **A run on the file** in between makes no difference. -/
theorem inTree (houtput : ∀ p, Plan.ofOptions o = .ok p → p.output = path) (env : Environment) :
    LeadsBack path content back (inTree t o env).2 := by
  cases hp : Plan.ofOptions o with
  | error e =>
    rw [inTree_of_error t env hp]
    exact h
  | ok p =>
    obtain rfl := houtput p hp
    rw [inTree_of_ok t env hp]
    rcases planInTree_cases t p (p.opening env) with
      ⟨e, logs, -, hrun⟩ | ⟨u, logs, -, -, hrun⟩ | ⟨u, logs, t', -, -, hreplace, hrun⟩
    · rw [hrun]
      exact h
    · rw [hrun]
      exact h
    · rw [hrun]
      exact h.of_replace hreplace

theorem treeAfterAll {calls : List Call}
    (hcalls : ∀ c ∈ calls, ∀ p, Plan.ofOptions c.1 = .ok p → p.output = path) :
    LeadsBack path content back (treeAfterAll t calls) := by
  induction calls generalizing t with
  | nil => exact h
  | cons c calls ih =>
    obtain ⟨hc, hcalls⟩ := List.forall_mem_cons.1 hcalls
    rw [treeAfterAll_cons]
    exact ih (h.inTree hc c.2) hcalls

end LeadsBack

/-! ## The first run -/

theorem Plan.append_of_ofOptions (h : Plan.ofOptions o = .ok p) :
    p.request.append = o.append := by
  unfold ofOptions requestOf at h
  split at h
  · cases h
  case h_2 request hrequest =>
    cases h
    split at hrequest
    · cases hrequest
    · simp only at hrequest
      split_ifs at hrequest
      cases hrequest
      rfl

/-- A fresh file does not depend on what was found. -/
theorem Plan.update_of_fresh (hfresh : p.request.append = false) (hread : IsReadable t p.output) :
    p.update (t.read p.output) =
      .ok ⟨Utf8.encode (GeneratedFile.freshText p.request), .discard, none⟩ := by
  have hupdate (existing : Bytes) : p.updateBytes existing =
      .ok ⟨Utf8.encode (GeneratedFile.freshText p.request), .discard, none⟩ := by
    rw [updateBytes, GeneratedFile.update, if_neg (by simp [hfresh])]
  rcases hread with ⟨existing, hread⟩ | hread <;> rw [hread] <;> exact hupdate _

/-- **A run that writes a fresh file** does the same wherever its content leads back: it comes to
the same content, and so to the same tree. -/
theorem exists_leadsBack_of_inTree {env : Environment} (hfresh : o.append = false)
    (hdry : o.dryRun = false) (hok : (inTree t o env).1.outcome = .ok ()) :
    ∃ p content, Plan.ofOptions o = .ok p ∧
      LeadsBack p.output content (inTree t o env).2 (inTree t o env).2 ∧
      ∀ t', LeadsBack p.output content (inTree t o env).2 t' →
        inTree t' o env = inTree t o env := by
  cases hp : Plan.ofOptions o with
  | error e =>
    rw [inTree_of_error t env hp] at hok
    cases hok
  | ok p =>
    have happend := (Plan.append_of_ofOptions hp).trans hfresh
    have hwrites := (Plan.flags_of_ofOptions hp).1.trans hdry
    rw [inTree_of_ok t env hp] at hok ⊢
    rcases planInTree_cases t p (p.opening env) with
      ⟨e, logs, -, hrun⟩ | ⟨u, logs, -, hdry', -⟩ | ⟨u, logs, back, hu, -, hreplace, hrun⟩
    · rw [hrun] at hok
      cases hok
    · rw [hwrites] at hdry'
      cases hdry'
    · obtain ⟨existing, hread, -⟩ := Plan.update_eq_ok hu
      have hreadable := isReadable_of_read hread
      have hsecond : (planInTree t p (p.opening env)).2 = back := by rw [hrun]
      refine ⟨p, u.content, rfl, hsecond ▸ leadsBack_of_replace hreadable hreplace, ?_⟩
      intro t' hback
      rw [hsecond] at hback
      have hu' : p.update (t'.read p.output) = .ok u := by
        rw [Plan.update_of_fresh happend hback.isReadable, ← hu,
          Plan.update_of_fresh happend hreadable]
      rw [inTree_of_ok t' env hp, planInTree_of_written _ hu' hwrites hback.replace_eq,
        planInTree_of_written _ hu hwrites hreplace]

/-! ## All runs again -/

/-- **Running again.** Runs on one file of which the first one writes it afresh and succeeds do the
same in the tree that they left, and leave it as it is. -/
theorem answersTo_treeAfterAll {c : Call} {calls : List Call} (hfresh : c.1.append = false)
    (hdry : c.1.dryRun = false) (hok : (inTree t c.1 c.2).1.outcome = .ok ())
    (hcalls : ∀ d ∈ c :: calls, ∀ p, Plan.ofOptions d.1 = .ok p → p.output = path) :
    answersTo (treeAfterAll t (c :: calls)) (c :: calls) = answersTo t (c :: calls) ∧
      treeAfterAll (treeAfterAll t (c :: calls)) (c :: calls) = treeAfterAll t (c :: calls) := by
  obtain ⟨p, content, hp, hback, hagain⟩ := exists_leadsBack_of_inTree hfresh hdry hok
  obtain ⟨hc, hcalls⟩ := List.forall_mem_cons.1 hcalls
  obtain rfl := hc p hp
  have hfirst : inTree (treeAfterAll t (c :: calls)) c.1 c.2 = inTree t c.1 c.2 := by
    rw [treeAfterAll_cons]
    exact hagain _ (hback.treeAfterAll hcalls)
  constructor
  · rw [answersTo, answersTo, hfirst]
  · rw [treeAfterAll_cons, hfirst, ← treeAfterAll_cons]

/-- A run that writes a file afresh, and runs that add to it: for the same package, for another
one, and without a name. -/
def freshCalls : List Call :=
  [(readerOptions, noEnvironment),
    ({ readerOptions with append := true }, noEnvironment),
    ({ readerOptions with append := true, package := some "other".toList }, noEnvironment),
    ({ readerOptions with append := true, name := some [] }, noEnvironment)]

/-- The link of the tree, which leads nowhere, gives way to the file. -/
theorem outcome_readerOptions :
    (inTree linkTree readerOptions noEnvironment).1.outcome = .ok () := by
  decide +kernel

theorem answersTo_treeAfterAll_freshCalls :
    readerOptions.append = false ∧ readerOptions.dryRun = false ∧
    (inTree linkTree readerOptions noEnvironment).1.outcome = .ok () ∧
    (∀ d ∈ freshCalls, ∀ p, Plan.ofOptions d.1 = .ok p → p.output = readerPath) ∧
    answersTo (treeAfterAll linkTree freshCalls) freshCalls = answersTo linkTree freshCalls ∧
    treeAfterAll (treeAfterAll linkTree freshCalls) freshCalls =
      treeAfterAll linkTree freshCalls := by
  have hoptions : ∀ d ∈ freshCalls, d.1.output = some readerPath := by decide
  have hcalls : ∀ d ∈ freshCalls, ∀ p, Plan.ofOptions d.1 = .ok p → p.output = readerPath :=
    fun d hd p hp => Plan.output_of_ofOptions hp (hoptions d hd)
  exact ⟨rfl, rfl, outcome_readerOptions, hcalls,
    answersTo_treeAfterAll rfl rfl outcome_readerOptions hcalls⟩

end GoOptional.Run
