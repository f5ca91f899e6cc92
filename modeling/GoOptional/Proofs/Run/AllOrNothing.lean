import Mathlib
import GoOptional.Run.Basic
import GoOptional.Proofs.FileTree.Replace
import GoOptional.Proofs.FileTree.Temporary

/-!
# All or nothing

A run that fails leaves the files as they were, with one exception: a report that cannot be printed
fails after the file was written. A run that succeeds leaves the new content where its path leads. A
link to a file stays a link to it, but for one that leads so deep into the tree that the real path
of the file cannot be found out: it gives way to the new file.

## Main definitions

* `Run.filesThrough`: access to the files of a tree, with a temporary file for new content
* `Run.Plan.reporting`: how a run ends once its file is in place
* `Run.Wrote`: what becomes of a tree when a run has written

## Main results

* `Run.planInTree_cases`: all that a run with a plan can do to a tree
* `Run.inTree_allOrNothing`: what a run leaves
* `Run.inTree_deepTree`: a link to a file that gives way to the new one
-/

namespace GoOptional.Run

open CommandLine (Environment Options)
open FileTree (Fault Fresh IsReadable Replaced)
open GeneratedFile (Update)

variable {t : FileTree} {o : Options} {p : Plan} {u : Update} {e : Failure}

/-! ## Temporary files -/

/-- Access to the files of a tree, where new content goes through a temporary file. -/
def filesThrough (name : Bytes) : Files (StateM FileTree) where
  read path := fun t => (t.read path, t)
  replace path content := fun t => t.replaceThrough name path content

theorem performPlan_filesThrough {name : Bytes} (h : Fresh t p.output name)
    (logs : List LogRecord) : performPlan (filesThrough name) p logs t = planInTree t p logs := by
  rw [performPlan_eq]
  unfold planInTree
  simp only [filesThrough, bind, StateT.bind]
  cases p.update (t.read p.output) with
  | error e => rfl
  | ok u =>
    by_cases hdry : p.dryRun
    · simp [hdry]
      rfl
    · cases hreplace : t.replace p.output u.content <;>
        simp [hdry, StateT.bind, FileTree.replaceThrough_eq h, hreplace] <;> rfl

/-- **A run through a temporary file** leaves what the run leaves. -/
theorem perform_filesThrough {name : Bytes}
    (h : ∀ p, Plan.ofOptions o = .ok p → Fresh t p.output name) (env : Environment) :
    perform (filesThrough name) o env t = inTree t o env := by
  cases hp : Plan.ofOptions o with
  | error e =>
    rw [inTree_of_error t env hp]
    simp only [perform, hp]
    rfl
  | ok p =>
    rw [inTree_of_ok t env hp]
    simp only [perform, hp]
    exact performPlan_filesThrough (h p hp) _

/-! ## How a run ends -/

/-- How a run ends once its file is in place: the report may not be printable. -/
def Plan.reporting (p : Plan) : Except Failure Unit :=
  if p.json && (Utf8.decode? p.output).isNone then .error .unprintable else .ok ()

theorem Plan.outcome_finish (p : Plan) (logs : List LogRecord) (u : Update) :
    (p.finish logs u).outcome = p.reporting := by
  unfold finish reporting Report.json?
  have houtput : (Report.ofOutcome p u).output = p.output := rfl
  rw [houtput]
  cases p.json <;> cases Utf8.decode? p.output <;> rfl

theorem Plan.reporting_eq_or (p : Plan) :
    p.reporting = .ok () ∨ p.reporting = .error .unprintable := by
  unfold reporting
  split_ifs
  · exact Or.inr rfl
  · exact Or.inl rfl

/-- A file from which nothing comes cannot be read, or nothing can be added to it. -/
theorem Plan.update_eq_error {found : Except Fault Bytes} (h : p.update found = .error e) :
    (∃ fault, e = .unreadable p.output fault) ∨ ∃ error, e = .notUpdated p.output error := by
  have hbytes {existing : Bytes} (h : p.updateBytes existing = .error e) :
      ∃ error, e = .notUpdated p.output error := by
    unfold updateBytes at h
    split at h <;> cases h
    exact ⟨_, rfl⟩
  unfold update at h
  split at h
  · exact Or.inr (hbytes h)
  · exact Or.inr (hbytes h)
  · cases h
    exact Or.inl ⟨_, rfl⟩

theorem Plan.ne_unprintable_of_update {found : Except Fault Bytes}
    (h : p.update found = .error e) : e ≠ .unprintable := by
  rcases update_eq_error h with ⟨_, rfl⟩ | ⟨_, rfl⟩ <;> simp

theorem Plan.ne_unprintable_of_ofOptions (h : Plan.ofOptions o = .error e) :
    e ≠ .unprintable := by
  rintro rfl
  unfold ofOptions requestOf at h
  split at h
  case h_2 => cases h
  case h_1 e he =>
    cases h
    split at he
    · cases he
    · simp only at he
      split_ifs at he
      cases he

theorem Plan.update_eq_ok {found : Except Fault Bytes} (h : p.update found = .ok u) :
    ∃ existing, (found = .ok existing ∨ found = .error .notFound ∧ existing = []) ∧
      GeneratedFile.update p.request existing = .ok u := by
  have hbytes {existing : Bytes} (h : p.updateBytes existing = .ok u) :
      GeneratedFile.update p.request existing = .ok u := by
    unfold updateBytes at h
    split at h
    · cases h
    · cases h
      assumption
  unfold update at h
  split at h
  · exact ⟨_, Or.inl rfl, hbytes h⟩
  · exact ⟨[], Or.inr ⟨rfl, rfl⟩, hbytes h⟩
  · cases h

/-! ## Runs -/

/-- **All that a run with a plan can do**: it fails before it writes, it only looks, or it writes
and then reports. -/
theorem planInTree_cases (t : FileTree) (p : Plan) (logs : List LogRecord) :
    (∃ e logs', e ≠ .unprintable ∧ planInTree t p logs = (.failed e logs', t)) ∨
    (∃ u logs', p.update (t.read p.output) = .ok u ∧ p.dryRun = true ∧
      planInTree t p logs = (p.finish logs' u, t)) ∨
    (∃ u logs' t', p.update (t.read p.output) = .ok u ∧ p.dryRun = false ∧
      t.replace p.output u.content = .ok t' ∧ planInTree t p logs = (p.finish logs' u, t')) := by
  unfold planInTree
  cases hu : p.update (t.read p.output) with
  | error e => exact Or.inl ⟨e, logs, Plan.ne_unprintable_of_update hu, rfl⟩
  | ok u =>
    simp only
    by_cases hdry : p.dryRun = true
    · rw [if_pos hdry]
      exact Or.inr (Or.inl ⟨u, logs, rfl, hdry, rfl⟩)
    · rw [if_neg hdry]
      cases hreplace : t.replace p.output u.content with
      | error f => exact Or.inl ⟨.unwritable f, _, by simp, rfl⟩
      | ok t' => exact Or.inr (Or.inr ⟨u, _, t', rfl, by simpa using hdry, hreplace, rfl⟩)

/-! ## Reports that cannot be printed -/

theorem Plan.reporting_eq_error_iff : p.reporting = .error .unprintable ↔
    p.json = true ∧ Utf8.decode? p.output = none := by
  unfold reporting
  cases p.json <;> cases Utf8.decode? p.output <;> simp

theorem Plan.flags_of_ofOptions (h : Plan.ofOptions o = .ok p) :
    p.dryRun = o.dryRun ∧ p.json = o.json := by
  unfold ofOptions at h
  split at h <;> cases h
  exact ⟨rfl, rfl⟩

/-- What has no part in the request can be changed in the options or in the plan. -/
theorem Plan.ofOptions_eq_map {o' : Options} (f : Plan → Plan)
    (hrequest : requestOf o' = requestOf o)
    (hf : ∀ r : Request, f ⟨r, o.output.getD (outputFor r.name), o.dryRun, o.json, o.verbose⟩ =
      ⟨r, o'.output.getD (outputFor r.name), o'.dryRun, o'.json, o'.verbose⟩) :
    Plan.ofOptions o' = (Plan.ofOptions o).map f := by
  unfold ofOptions
  rw [hrequest]
  cases requestOf o with
  | error e => rfl
  | ok r => exact congrArg Except.ok (hf r).symm

/-- What is asked of the report has no part in the rest of a plan. -/
theorem Plan.ofOptions_withoutJson (o : Options) :
    Plan.ofOptions { o with json := false } =
      (Plan.ofOptions o).map fun p => { p with json := false } :=
  ofOptions_eq_map _ rfl fun _ => rfl

theorem outcome_planInTree (t : FileTree) (p : Plan) (logs : List LogRecord) :
    (planInTree t p logs).1.outcome =
      match p.update (t.read p.output) with
      | .error e => .error e
      | .ok u =>
        if p.dryRun then p.reporting
        else match t.replace p.output u.content with
          | .error f => .error (.unwritable f)
          | .ok _ => p.reporting := by
  unfold planInTree
  cases p.update (t.read p.output) with
  | error e => rfl
  | ok u =>
    simp only
    split_ifs
    · exact p.outcome_finish logs u
    · cases t.replace p.output u.content with
      | error f => rfl
      | ok t' => exact p.outcome_finish _ u

/-- A run fails for its report when the same run without a report succeeds and the report cannot
be printed. -/
theorem outcome_planInTree_eq_unprintable_iff (t : FileTree) (p : Plan)
    (logs logs' : List LogRecord) :
    (planInTree t p logs).1.outcome = .error .unprintable ↔
      (planInTree t { p with json := false } logs').1.outcome = .ok () ∧
        p.reporting = .error .unprintable := by
  have hplain : Plan.reporting { p with json := false } = .ok () := rfl
  have hupdate : Plan.update { p with json := false } = p.update := rfl
  rw [outcome_planInTree, outcome_planInTree]
  simp only [hplain, hupdate]
  cases hu : p.update (t.read p.output) with
  | error e => simpa using Plan.ne_unprintable_of_update hu
  | ok u =>
    simp only
    split_ifs
    · simp
    · cases t.replace p.output u.content <;> simp

theorem outcome_inTree_eq_unprintable_iff (t : FileTree) (o : Options) (env : Environment) :
    (inTree t o env).1.outcome = .error .unprintable ↔
      (inTree t { o with json := false } env).1.outcome = .ok () ∧ o.json = true ∧
        ∃ p, Plan.ofOptions o = .ok p ∧ Utf8.decode? p.output = none := by
  cases hp : Plan.ofOptions o with
  | error e =>
    have hne := Plan.ne_unprintable_of_ofOptions hp
    rw [inTree_of_error t env hp]
    simpa [Result.failed] using hne
  | ok p =>
    have hplain : Plan.ofOptions { o with json := false } = .ok { p with json := false } := by
      rw [Plan.ofOptions_withoutJson, hp]
      rfl
    have hjson := (Plan.flags_of_ofOptions hp).2
    rw [inTree_of_ok t env hp, inTree_of_ok t env hplain,
      outcome_planInTree_eq_unprintable_iff t p _ (Plan.opening { p with json := false } env),
      Plan.reporting_eq_error_iff, hjson]
    simp

/-! ## All or nothing -/

theorem isReadable_of_read {path : Path} {existing : Bytes}
    (h : t.read path = .ok existing ∨ t.read path = .error .notFound ∧ existing = []) :
    IsReadable t path :=
  h.imp (fun h => ⟨existing, h⟩) And.left

/-- What comes of the request, for what was found where the path leads, was put there; a file that
was not there counts as empty. -/
def Wrote (t t' : FileTree) (o : Options) : Prop :=
  ∃ p existing u l mode, Plan.ofOptions o = .ok p ∧
    (t.read p.output = .ok existing ∨ t.read p.output = .error .notFound ∧ existing = []) ∧
    GeneratedFile.update p.request existing = .ok u ∧
    Replaced t t' p.output u.content l mode

/-- A run leaves the tree, or puts the new content where the path of its plan leads. -/
theorem inTree_cases (t : FileTree) (o : Options) (env : Environment) :
    (inTree t o env).2 = t ∧
        ((∃ e, e ≠ .unprintable ∧ (inTree t o env).1.outcome = .error e) ∨ o.dryRun = true) ∨
      o.dryRun = false ∧ (inTree t o env).1.outcome ∈ [.ok (), .error .unprintable] ∧
        Wrote t (inTree t o env).2 o := by
  cases hp : Plan.ofOptions o with
  | error e =>
    rw [inTree_of_error t env hp]
    exact Or.inl ⟨rfl, Or.inl ⟨e, Plan.ne_unprintable_of_ofOptions hp, rfl⟩⟩
  | ok p =>
    have hdry := (Plan.flags_of_ofOptions hp).1
    rw [inTree_of_ok t env hp]
    rcases planInTree_cases t p (p.opening env) with
      ⟨e, logs, he, hrun⟩ | ⟨u, logs, -, hdry', hrun⟩ | ⟨u, logs, t', hu, hdry', hreplace, hrun⟩
    · rw [hrun]
      exact Or.inl ⟨rfl, Or.inl ⟨e, he, rfl⟩⟩
    · rw [hrun]
      exact Or.inl ⟨rfl, Or.inr (hdry ▸ hdry')⟩
    · obtain ⟨existing, hread, hupdate⟩ := Plan.update_eq_ok hu
      obtain ⟨l, mode, hreplaced⟩ :=
        FileTree.exists_replaced_of_replace (isReadable_of_read hread) hreplace
      rw [hrun]
      refine Or.inr ⟨hdry ▸ hdry', ?_, p, existing, u, l, mode, hp, hread, hupdate, hreplaced⟩
      rw [p.outcome_finish]
      simpa using p.reporting_eq_or

/-- **All or nothing.** A run that fails, but for its report, and a dry run leave the tree; any
other run puts what comes of the request where the path leads. It fails for its report when all
else succeeds, a report is asked for and the path is no text. And the temporary file through which
content goes, whatever fresh name it has, makes no difference to the tree. -/
theorem inTree_allOrNothing (t : FileTree) (o : Options) (env : Environment) :
    ((∃ e, e ≠ .unprintable ∧ (inTree t o env).1.outcome = .error e) ∨ o.dryRun = true →
      (inTree t o env).2 = t) ∧
    ((inTree t o env).1.outcome ∈ [.ok (), .error .unprintable] → o.dryRun = false →
      Wrote t (inTree t o env).2 o) ∧
    ((inTree t o env).1.outcome = .error .unprintable ↔
      (inTree t { o with json := false } env).1.outcome = .ok () ∧ o.json = true ∧
        ∃ p, Plan.ofOptions o = .ok p ∧ Utf8.decode? p.output = none) ∧
    ∀ name, (∀ p, Plan.ofOptions o = .ok p → Fresh t p.output name) →
      perform (filesThrough name) o env t = inTree t o env := by
  refine ⟨fun hkeep => ?_, fun hok hdry => ?_, outcome_inTree_eq_unprintable_iff t o env,
    fun name h => perform_filesThrough h env⟩
  · rcases inTree_cases t o env with ⟨htree, -⟩ | ⟨hdry, hok, -⟩
    · exact htree
    · rcases hkeep with ⟨e, he, hout⟩ | hdry'
      · rw [hout] at hok
        simp [he] at hok
      · rw [hdry] at hdry'
        cases hdry'
  · rcases inTree_cases t o env with ⟨-, ⟨e, he, hout⟩ | hdry'⟩ | ⟨-, -, hwritten⟩
    · rw [hout] at hok
      simp [he] at hok
    · rw [hdry] at hdry'
      cases hdry'
    · exact hwritten

/-! ## A link to a file that gives way -/

/-- Options for an optional of integers in a file. -/
def intOptions (output : Path) : Options where
  type := "int".toList
  name := none
  output := some output
  imports := []
  append := false
  package := some "main".toList
  dryRun := false
  json := false
  verbose := false

/-- An environment without variables. -/
def noEnvironment : Environment :=
  ⟨none, none, none, none⟩

/-- A working directory. -/
def scratch : Location :=
  [Utf8.encode ".tmpAbCdEf".toList, Utf8.encode "tmp".toList]

/-- The names of directories that lie in each other, the outermost first. -/
def nestedNames : List Bytes :=
  ((List.range 19).map fun i => List.replicate 200 (97 + UInt8.ofNat i)) ++ [List.replicate 100 116]

/-- The innermost of these directories. -/
def deepDirectory : Location :=
  nestedNames.reverse ++ scratch

/-- The name of a directory in it whose real path is as long as a path can be, so that there is no
room for a slash behind it. -/
def deepestName : Bytes :=
  List.replicate 159 117

/-- The name of a link in the working directory. -/
def jumpName (i : Nat) : Bytes :=
  [109, 48 + UInt8.ofNat i]

/-- A link leads four directories further than the one before it. -/
def jumpTarget (i : Nat) : Path :=
  Path.ofPieces ((if i = 0 then [] else [jumpName (i - 1)]) ++ (nestedNames.drop (4 * i)).take 4)

/-- The name of a file in the innermost directory. -/
def deepFile : Bytes :=
  Utf8.encode "f.go".toList

/-- The name of a link in the working directory that leads to the file. -/
def deepLink : Bytes :=
  Utf8.encode "l.go".toList

/-- The path that the link stands for: along the other links, into the directory with the longest
path, and back. -/
def deepTarget : Path :=
  Path.ofPieces [jumpName 4, deepestName, Path.dotDot, deepFile]

/-- What somebody wrote into the file. -/
def deepContent : Bytes :=
  Utf8.encode "// by hand\n".toList

/-- The tree with these directories and links, and with the file. -/
def deepTree : FileTree :=
  let bare := { FileTree.empty with workingDirectory := scratch }
  let directories := (deepestName :: deepDirectory).tails.dropLast.foldl
    (fun t l => t.insert l .directory) bare
  let jumps := (List.range 5).foldl
    (fun t i => t.insert (jumpName i :: scratch) (.link (jumpTarget i))) directories
  (jumps.insert (deepFile :: deepDirectory) (.file 0o600 deepContent)).insert
    (deepLink :: scratch) (.link deepTarget)

/-- The new content. -/
def intContent : Bytes :=
  Utf8.encode (GeneratedFile.freshText (.fresh "main".toList "Int".toList ⟨"int".toList⟩))

set_option maxRecDepth 10000 in
/-- The content of the file is read along the link. But the link gives way to the new file, and the
old one is still there with its content. -/
theorem inTree_deepTree :
    (intOptions deepLink).dryRun = false ∧
    deepTree.get? (deepLink :: scratch) = some (.link deepTarget) ∧
    deepTree.get? (deepFile :: deepDirectory) = some (.file 0o600 deepContent) ∧
    deepTree.resolve deepLink = .ok (.file (deepFile :: deepDirectory) 0o600 deepContent) ∧
    (let run := inTree deepTree (intOptions deepLink) noEnvironment
     (run.1.outcome, run.2.get? (deepLink :: scratch), run.2.get? (deepFile :: deepDirectory)) =
      (.ok (), some (.file 0o600 intContent), some (.file 0o600 deepContent))) := by
  decide +kernel

end GoOptional.Run
