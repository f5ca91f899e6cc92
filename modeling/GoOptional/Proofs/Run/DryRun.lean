import Mathlib
import GoOptional.Proofs.Run.AllOrNothing

/-!
# Dry runs

A dry run reads and updates as the run that writes does, and stops before it. So it fails where that
run fails before it writes, warns of the same, and prints what that run leaves in the file; all that
it cannot tell is whether the file can be written.

## Main definitions

* `Run.Foretells`: what a dry run tells of the run that writes

## Main results

* `Run.Plan.ofOptions_dryRun`: the plans of the two runs
* `Run.foretells_planInTree`: a dry run with a plan
* `Run.inTree_foretells`: a dry run
-/

namespace GoOptional.Run

open CommandLine (Environment Options)
open GeneratedFile (Update)

variable {t : FileTree} {o : Options} {p : Plan} {u : Update} {e : Failure} {logs : List LogRecord}

/-- What a dry run on a tree, with its result and the tree after it, tells of the run that writes,
where both have the same path. -/
structure Foretells (t : FileTree) (path? : Option Path) (dry real : Result × FileTree) : Prop where
  /-- The dry run leaves the tree. -/
  tree_eq : dry.2 = t
  /-- If the dry run fails, the other one fails for the same reason. -/
  error_of_error : ∀ e, dry.1.outcome = .error e → real.1.outcome = .error e
  /-- If the other run succeeds, so does the dry run, -/
  ok_of_ok : real.1.outcome = .ok () → dry.1.outcome = .ok ()
  /-- and it prints what can be read afterwards where the path leads, -/
  read_of_ok : real.1.outcome = .ok () →
    ∃ path, path? = some path ∧ real.2.read path = .ok dry.1.stdout
  /-- with the same warnings. -/
  warnings_of_ok : real.1.outcome = .ok () → visible .warn dry.1.logs = visible .warn real.1.logs
  /-- If only the dry run succeeds, the other one cannot write, and leaves the tree too. -/
  unwritable_of_error : dry.1.outcome = .ok () → ∀ e, real.1.outcome = .error e →
    (∃ f, e = .unwritable f) ∧ real.2 = t

/-! ## The two runs -/

/-- Whether a run is a dry one has no part in the rest of a plan. -/
theorem Plan.ofOptions_dryRun (o : Options) (dryRun : Bool) :
    Plan.ofOptions { o with dryRun } = (Plan.ofOptions o).map fun p => { p with dryRun } :=
  ofOptions_eq_map _ rfl fun _ => rfl

theorem Plan.finish_of_json (hjson : p.json = false) (logs : List LogRecord) (u : Update) :
    p.finish logs u =
      ⟨.ok (), p.preview u, p.notice u, logs ++ otherPackage p.request p.output u⟩ := by
  rw [finish, hjson, if_neg Bool.false_ne_true]

theorem visible_append (level : Level) (records records' : List LogRecord) :
    visible level (records ++ records') = visible level records ++ visible level records' :=
  List.filter_append _ _

theorem visible_warn_writing (r : Request) (path : Path) (u : Update) :
    visible .warn [writing r path u] = [] := rfl

/-- Two runs that fail alike and leave the tree. -/
theorem foretells_failed (t : FileTree) (path? : Option Path) (e : Failure)
    (logs : List LogRecord) : Foretells t path? (.failed e logs, t) (.failed e logs, t) where
  tree_eq := rfl
  error_of_error := fun _ he => he
  ok_of_ok := fun h => h
  read_of_ok := fun h => by cases h
  warnings_of_ok := fun _ => rfl
  unwritable_of_error := fun h => by cases h

/-- **A dry run with a plan** foretells the run that writes: the path was read before it was
written, so it leads to what was written. -/
theorem foretells_planInTree (t : FileTree) (hjson : p.json = false) (logs : List LogRecord) :
    Foretells t (some p.output) (planInTree t { p with dryRun := true } logs)
      (planInTree t { p with dryRun := false } logs) := by
  have hfinish (dryRun : Bool) := Plan.finish_of_json (p := { p with dryRun }) hjson
  cases hu : p.update (t.read p.output) with
  | error e =>
    rw [planInTree_of_error logs (p := { p with dryRun := true }) hu,
      planInTree_of_error logs (p := { p with dryRun := false }) hu]
    exact foretells_failed t _ e logs
  | ok u =>
    rw [planInTree_of_dryRun logs (p := { p with dryRun := true }) hu rfl, hfinish]
    cases hr : t.replace p.output u.content with
    | error f =>
      rw [planInTree_of_unwritable logs (p := { p with dryRun := false }) hu rfl hr]
      exact {
        tree_eq := rfl
        error_of_error := fun _ he => by cases he
        ok_of_ok := fun h => by cases h
        read_of_ok := fun h => by cases h
        warnings_of_ok := fun h => by cases h
        unwritable_of_error := fun _ e he => by
          cases he
          exact ⟨⟨f, rfl⟩, rfl⟩ }
    | ok t' =>
      rw [planInTree_of_written logs (p := { p with dryRun := false }) hu rfl hr, hfinish]
      exact {
        tree_eq := rfl
        error_of_error := fun _ he => by cases he
        ok_of_ok := fun _ => rfl
        read_of_ok := fun _ => by
          obtain ⟨existing, hread, -⟩ := Plan.update_eq_ok hu
          obtain ⟨l, mode, hreplaced⟩ :=
            FileTree.exists_replaced_of_replace (isReadable_of_read hread) hr
          exact ⟨p.output, rfl, hreplaced.read_eq⟩
        warnings_of_ok := fun _ => by
          simp only [visible_append, visible_warn_writing, List.append_nil]
        unwritable_of_error := fun _ e he => by cases he }

/-- The path of the file that a run with the options writes, if there is a plan. -/
def outputOf? (o : Options) : Option Path :=
  (Plan.ofOptions o).toOption.map Plan.output

/-- **A dry run** foretells the run that writes, if no report is asked for. -/
theorem inTree_foretells (t : FileTree) (env : Environment) (hjson : o.json = false) :
    Foretells t (outputOf? o) (inTree t { o with dryRun := true } env)
      (inTree t { o with dryRun := false } env) := by
  have hplan (dryRun : Bool) := Plan.ofOptions_dryRun o dryRun
  cases hp : Plan.ofOptions o with
  | error e =>
    simp only [hp, Except.map] at hplan
    rw [inTree_of_error t env (hplan true), inTree_of_error t env (hplan false)]
    exact foretells_failed t _ e []
  | ok p =>
    simp only [hp, Except.map] at hplan
    have hpath : outputOf? o = some p.output := by rw [outputOf?, hp]; rfl
    rw [inTree_of_ok t env (hplan true), inTree_of_ok t env (hplan false), hpath]
    exact foretells_planInTree t ((Plan.flags_of_ofOptions hp).2.trans hjson) (p.opening env)

/-- Options that ask for a type from another package, which no import provides. -/
def readerOptions : Options where
  type := "io.Reader".toList
  name := none
  output := some (Utf8.encode "reader.go".toList)
  imports := []
  append := false
  package := some "main".toList
  dryRun := false
  json := false
  verbose := true

/-- A tree with a link that leads nowhere. -/
def linkTree : FileTree :=
  FileTree.empty.insert [Utf8.encode "reader.go".toList] (.link (Utf8.encode "gone.go".toList))

theorem inTree_foretells_readerOptions :
    readerOptions.json = false ∧
    Foretells linkTree (outputOf? readerOptions)
      (inTree linkTree { readerOptions with dryRun := true } noEnvironment)
      (inTree linkTree { readerOptions with dryRun := false } noEnvironment) :=
  ⟨rfl, inTree_foretells linkTree noEnvironment rfl⟩

end GoOptional.Run
