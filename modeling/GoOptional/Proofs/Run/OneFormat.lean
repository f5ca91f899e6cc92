import Mathlib
import GoOptional.Proofs.Run.Report

/-!
# One format

What a run writes to the standard output is for other programs: the content, or the report, or
nothing, and no mixture of them. The order of its steps sees to that: a run fails before it prints
anything, and the arguments that would ask for two formats are refused. What a run tells people, and
what it logs for them, has no part in its result, in what it prints for programs or in the tree.

## Main definitions

* `Run.Prints`: the standard output of a run that succeeds
* `Run.OneFormat`: the outputs of a run with given options
* `Run.shown`: a run of which the log shows the records at a level
* `Run.Agree`: two runs that differ in what they tell people, at most

## Main results

* `Run.oneFormat_inTree`: the outputs of a run
* `Run.agree_planInTree`: runs with plans that differ in the summary
* `Run.inTree_keepsToOneFormat`: all runs, and pairs of them
-/

namespace GoOptional.Run

open CommandLine (Environment Options)
open GeneratedFile (Update)
open Json (IsObjectText Spells)

variable {t : FileTree} {o : Options} {p : Plan} {u : Update} {e : Failure} {env : Environment}
  {logs : List LogRecord}

/-! ## What a run prints -/

/-- What a run with a plan and its outcome prints for programs when it succeeds. -/
structure Prints (dryRun json : Bool) (p : Plan) (u : Update) (stdout : Bytes) : Prop where
  /-- A dry run prints the content, -/
  content_eq : dryRun = true → stdout = u.content
  /-- a run with a report prints it, with a line for each of its five members, and a line feed; it
  is one JSON document, and what the members say is true, -/
  report_eq : json = true → ∃ path texts, p.output = Utf8.encode path ∧
    texts = (Report.ofOutcome p u).texts path ∧
    stdout = Utf8.encode (Report.Texts.document texts ++ ['\n']) ∧
    (∃ v, Spells texts.document v) ∧ IsObjectText texts.document texts.members ∧
    texts.AreTrue p.request p.output u.content
  /-- and all others print nothing. -/
  nothing_eq : dryRun = false → json = false → stdout = []

/-- The result of a run keeps to one format. -/
structure OneFormat (t : FileTree) (o : Options) (r : Result) : Prop where
  /-- The options do not ask for two formats. -/
  not_both : ¬ (o.json = true ∧ o.dryRun = true)
  /-- If the run fails, nothing is printed. -/
  silent_of_error : ∀ e, r.outcome = .error e → r.stdout = [] ∧ r.stderr = []
  /-- If it succeeds, what it prints is told by its options and by what was merged. -/
  prints_of_ok : r.outcome = .ok () → ∃ p existing u, Plan.ofOptions o = .ok p ∧
    (t.read p.output = .ok existing ∨ t.read p.output = .error .notFound ∧ existing = []) ∧
    GeneratedFile.update p.request existing = .ok u ∧ Prints o.dryRun o.json p u r.stdout

/-- A run that fails for its report has printed nothing before it. -/
theorem Plan.silent_of_finish (hdry : p.dryRun = false)
    (h : (p.finish logs u).outcome = .error e) :
    (p.finish logs u).stdout = [] ∧ (p.finish logs u).stderr = [] := by
  unfold finish at h ⊢
  split_ifs at h ⊢
  · cases hjson : (Report.ofOutcome p u).json? with
    | none => simp [preview, hdry]
    | some report =>
      rw [hjson] at h
      cases h

theorem Plan.prints_finish_dryRun (hjson : p.json = false) (hdry : p.dryRun = true) :
    Prints p.dryRun p.json p u (p.finish logs u).stdout where
  content_eq _ := by rw [finish_of_json hjson, preview, if_pos hdry]
  report_eq h := by
    rw [hjson] at h
    cases h
  nothing_eq h := by
    rw [hdry] at h
    cases h

theorem Plan.prints_finish_written {existing : Bytes}
    (hupdate : GeneratedFile.update p.request existing = .ok u) (hdry : p.dryRun = false)
    (hok : (p.finish logs u).outcome = .ok ()) :
    Prints p.dryRun p.json p u (p.finish logs u).stdout where
  content_eq h := by
    rw [hdry] at h
    cases h
  report_eq hjson := by
    obtain ⟨path, hpath, hstdout⟩ := Plan.exists_stdout_eq hjson hdry hok
    have hobject := Report.isObjectText_document (Report.ofOutcome p u) path
    exact ⟨path, _, hpath, rfl, hstdout, hobject.exists_spells, hobject,
      Report.areTrue_texts hupdate hdry hpath⟩
  nothing_eq _ hjson := by
    rw [finish_of_json hjson, preview, hdry, if_neg Bool.false_ne_true]

/-- **The outputs of a run** whose options ask for one format at most. -/
theorem oneFormat_inTree (t : FileTree) (env : Environment)
    (hboth : ¬ (o.json = true ∧ o.dryRun = true)) : OneFormat t o (inTree t o env).1 := by
  cases hp : Plan.ofOptions o with
  | error e =>
    rw [inTree_of_error t env hp]
    exact ⟨hboth, fun _ _ => ⟨rfl, rfl⟩, fun h => by cases h⟩
  | ok p =>
    obtain ⟨hdry, hjson⟩ := Plan.flags_of_ofOptions hp
    rw [inTree_of_ok t env hp]
    rcases planInTree_cases t p (p.opening env) with
      ⟨e, logs, -, hrun⟩ | ⟨u, logs, hu, hdry', hrun⟩ | ⟨u, logs, t', hu, hdry', -, hrun⟩
    · rw [hrun]
      exact ⟨hboth, fun _ _ => ⟨rfl, rfl⟩, fun h => by cases h⟩
    · have hjson' : p.json = false := by
        simpa [← hjson, ← hdry, hdry'] using hboth
      obtain ⟨existing, hread, hupdate⟩ := Plan.update_eq_ok hu
      rw [hrun]
      refine ⟨hboth, fun e h => ?_, fun _ => ⟨p, existing, u, hp, hread, hupdate, ?_⟩⟩
      · rw [Plan.finish_of_json hjson'] at h
        cases h
      · rw [← hdry, ← hjson]
        exact Plan.prints_finish_dryRun hjson' hdry'
    · obtain ⟨existing, hread, hupdate⟩ := Plan.update_eq_ok hu
      rw [hrun]
      refine ⟨hboth, fun e h => Plan.silent_of_finish hdry' h,
        fun h => ⟨p, existing, u, hp, hread, hupdate, ?_⟩⟩
      rw [← hdry, ← hjson]
      exact Plan.prints_finish_written hupdate hdry' h

/-! ## What a run tells people -/

/-- A run of which the log shows the records at a level. -/
def shown (level : Level) (run : Result × FileTree) : Result × FileTree :=
  ({ run.1 with logs := visible level run.1.logs }, run.2)

/-- Two runs have the same outcome, print the same for programs and leave the same tree. -/
structure Agree (run run' : Result × FileTree) : Prop where
  outcome_eq : run.1.outcome = run'.1.outcome
  stdout_eq : run.1.stdout = run'.1.stdout
  tree_eq : run.2 = run'.2

theorem Agree.shown {run run' : Result × FileTree} (h : Agree run run') (level level' : Level) :
    Agree (shown level run) (shown level' run') :=
  ⟨h.outcome_eq, h.stdout_eq, h.tree_eq⟩

theorem agree_finish (p : Plan) (verbose : Bool) (u : Update) (t : FileTree)
    (logs logs' : List LogRecord) :
    Agree (Plan.finish { p with verbose } logs u, t) (p.finish logs' u, t) := by
  have hreport : Report.ofOutcome { p with verbose } u = Report.ofOutcome p u := rfl
  have hpreview : Plan.preview { p with verbose } u = p.preview u := rfl
  unfold Plan.finish
  rw [hreport, hpreview]
  split_ifs
  · cases (Report.ofOutcome p u).json? <;> exact ⟨rfl, rfl, rfl⟩
  · exact ⟨rfl, rfl, rfl⟩

/-- **Runs with plans that differ in the summary** agree, whatever was logged before. -/
theorem agree_planInTree (t : FileTree) (p : Plan) (verbose : Bool) (logs logs' : List LogRecord) :
    Agree (planInTree t { p with verbose } logs) (planInTree t p logs') := by
  have hupdate : Plan.update { p with verbose } = p.update := rfl
  unfold planInTree
  rw [hupdate]
  cases p.update (t.read p.output) with
  | error e => exact ⟨rfl, rfl, rfl⟩
  | ok u =>
    simp only
    split_ifs
    · exact agree_finish p verbose u t _ _
    · cases t.replace p.output u.content with
      | error f => exact ⟨rfl, rfl, rfl⟩
      | ok t' => exact agree_finish p verbose u t' _ _

/-- Whether a summary is asked for has no part in the rest of a plan. -/
theorem Plan.ofOptions_verbose (o : Options) (verbose : Bool) :
    Plan.ofOptions { o with verbose } = (Plan.ofOptions o).map fun p => { p with verbose } :=
  ofOptions_eq_map _ rfl fun _ => rfl

/-- A run takes from the environment only what it logs. -/
theorem agree_inTree (t : FileTree) (o : Options) (verbose : Bool) (env env' : Environment) :
    Agree (inTree t { o with verbose } env) (inTree t o env') := by
  have hplan := Plan.ofOptions_verbose o verbose
  cases hp : Plan.ofOptions o with
  | error e =>
    simp only [hp, Except.map] at hplan
    rw [inTree_of_error t env hplan, inTree_of_error t env' hp]
    exact ⟨rfl, rfl, rfl⟩
  | ok p =>
    simp only [hp, Except.map] at hplan
    rw [inTree_of_ok t env hplan, inTree_of_ok t env' hp]
    exact agree_planInTree t p verbose _ _

/-! ## All runs -/

/-- The program prints what the run prints. -/
theorem stdout_invokeIn {args : List Bytes} (h : Program.optionsOf env args = .ok o)
    (t : FileTree) : (Program.invokeIn t env args).1.stdout = (inTree t o env).1.stdout := by
  have hinvoke : Program.invokeIn t env args =
      (Program.exitOfResult (inTree t o env).1, (inTree t o env).2) := by
    simp only [Program.invokeIn, Program.invoke, h]
    rfl
  rw [hinvoke, Program.exitOfResult]
  split <;> rfl

/-- **Runs keep to one format.** With all options that are read from arguments, in every tree, a
run that fails prints nothing, and a run that succeeds prints the content, the report or nothing, as
the options say; so does the program. The directive from which it was called has no part in its
options, and runs from one tree agree, whether a summary is asked for or not, wherever they were
called from and whatever is shown of their logs. -/
theorem inTree_keepsToOneFormat :
    (∀ t env args o, Program.optionsOf env args = .ok o → OneFormat t o (inTree t o env).1 ∧
      (Program.invokeIn t env args).1.stdout = (inTree t o env).1.stdout) ∧
    (∀ env args file line,
      Program.optionsOf { env with file, line } args = Program.optionsOf env args) ∧
    ∀ t o verbose env env' level level',
      Agree (shown level (inTree t { o with verbose } env)) (shown level' (inTree t o env')) :=
  ⟨fun t env _ _ h => ⟨oneFormat_inTree t env (not_json_and_dryRun h), stdout_invokeIn h t⟩,
    fun _ _ _ _ => rfl,
    fun t o verbose env env' level level' =>
      (agree_inTree t o verbose env env').shown level level'⟩

/-- Arguments for a report and a summary on a file. -/
def reportArguments (output : Path) : List Bytes :=
  [Utf8.encode "-type=io.Reader".toList, Utf8.encode "-package=main".toList,
    Utf8.encode "--output=".toList ++ output, Utf8.encode "-json".toList,
    Utf8.encode "-verbose".toList]

/-- A path that is no text. -/
def unprintablePath : Path :=
  [255]

theorem inTree_keepsToOneFormat_reportArguments :
    Program.optionsOf noEnvironment (reportArguments unprintablePath) =
      .ok { reportOptions with output := some unprintablePath } ∧
    Program.optionsOf noEnvironment (reportArguments (Utf8.encode "reader.go".toList)) =
      .ok reportOptions ∧
    OneFormat linkTree { reportOptions with output := some unprintablePath }
      (inTree linkTree { reportOptions with output := some unprintablePath } noEnvironment).1 ∧
    (inTree linkTree { reportOptions with output := some unprintablePath }
      noEnvironment).1.outcome = .error .unprintable ∧
    OneFormat linkTree reportOptions (inTree linkTree reportOptions noEnvironment).1 ∧
    (inTree linkTree reportOptions noEnvironment).1.outcome = .ok () := by
  have hparse : Program.optionsOf noEnvironment (reportArguments unprintablePath) =
      .ok { reportOptions with output := some unprintablePath } := by decide +kernel
  have hparse' : Program.optionsOf noEnvironment
      (reportArguments (Utf8.encode "reader.go".toList)) = .ok reportOptions := by decide +kernel
  exact ⟨hparse, hparse', (inTree_keepsToOneFormat.1 linkTree _ _ _ hparse).1, by decide +kernel,
    (inTree_keepsToOneFormat.1 linkTree _ _ _ hparse').1, by decide +kernel⟩

end GoOptional.Run
