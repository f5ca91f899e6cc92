import GoOptional.Run.Log
import GoOptional.Run.Report

/-!
# Runs

A run reads the file, updates what it finds, writes the file, and tells what it did. It touches
files in two places only, so that it is written once for every way to come at files: those of a tree
that take new content at once, and those that take it through a temporary file.

## Main definitions

* `Run.Files`: access to files of some kind
* `Run.Result`: what a run leaves apart from files
* `Run.lookAt`, `Run.generate`: the two ways in which a run comes to new content
* `Run.perform`: a run with given access to files
* `Run.inTree`: a run in a tree of files

## Main results

* `Run.lookAt_eq`, `Run.generate_eq`: both ways come to the same content, or fail for the same
  reason
* `Run.inTree_of_error`, `Run.inTree_of_ok`: a run in a tree, step by step
* `Run.planInTree_of_error`, `Run.planInTree_of_dryRun`, `Run.planInTree_of_unwritable`,
  `Run.planInTree_of_written`: the ways in which a run with a plan ends
-/

namespace GoOptional.Run

open CommandLine (Environment Options)
open FileTree (Fault WriteFault)
open GeneratedFile (Update)

/-- Access to files of some kind. -/
structure Files (m : Type → Type) where
  /-- The content of the file to which a path leads. -/
  read : Path → m (Except Fault Bytes)
  /-- Puts new content where a path leads. -/
  replace : Path → Bytes → m (Except WriteFault Unit)

/-- What a run leaves apart from files. -/
structure Result where
  /-- Whether the run succeeded, or why it failed. -/
  outcome : Except Failure Unit
  /-- What was written to the standard output. -/
  stdout : Bytes
  /-- What was written to the standard error. -/
  stderr : Bytes
  /-- What was logged, in order. -/
  logs : List LogRecord

/-- The result of a run that failed before it printed anything. -/
def Result.failed (e : Failure) (logs : List LogRecord) : Result :=
  ⟨.error e, [], [], logs⟩

namespace Plan

/-- What is logged before a file is looked at. -/
def opening (p : Plan) (env : Environment) : List LogRecord :=
  invocation env ++ [resolvedRequest p.request] ++ missingImport p.request

/-- What a dry run prints. -/
def preview (p : Plan) (outcome : Update) : Bytes :=
  if p.dryRun then outcome.content else []

/-- What a run prints for people. -/
def notice (p : Plan) (outcome : Update) : Bytes :=
  if p.verbose then Utf8.encode (Report.ofOutcome p outcome).summary else []

/-- The result of a run whose outcome is in its place, after what was logged before. -/
def finish (p : Plan) (logs : List LogRecord) (outcome : Update) : Result :=
  let logs := logs ++ otherPackage p.request p.output outcome
  if p.json then
    match (Report.ofOutcome p outcome).json? with
    | none => ⟨.error .unprintable, p.preview outcome, [], logs⟩
    | some report =>
      ⟨.ok (), p.preview outcome ++ Utf8.encode report, p.notice outcome, logs⟩
  else ⟨.ok (), p.preview outcome, p.notice outcome, logs⟩

end Plan

variable {m : Type → Type} [Monad m]

/-- What was found where a path leads; a file that is missing counts as empty. -/
def readExisting (path : Path) : Except Fault Bytes → Except Failure Bytes
  | .ok existing => .ok existing
  | .error .notFound => .ok []
  | .error fault => .error (.unreadable path fault)

/-- What comes of a request for a file, where the file is left. -/
def lookAt (files : Files m) (r : Request) (path : Path) : m (Except Failure Update) := do
  match readExisting path (← files.read path) with
  | .error e => return .error e
  | .ok existing =>
    match GeneratedFile.update r existing with
    | .error e => return .error (.notUpdated path e)
    | .ok outcome => return .ok outcome

/-- Puts what comes of a request into a file: the outcome, and what has been logged by then. -/
def generate (files : Files m) (r : Request) (path : Path) (logs : List LogRecord) :
    m (Except Failure Update × List LogRecord) := do
  match readExisting path (← files.read path) with
  | .error e => return (.error e, logs)
  | .ok existing =>
    match GeneratedFile.update r existing with
    | .error e => return (.error (.notUpdated path e), logs)
    | .ok outcome =>
      -- what is about to be written is logged even if writing fails
      let logs := logs ++ [writing r path outcome]
      match ← files.replace path outcome.content with
      | .error f => return (.error (.unwritable f), logs)
      | .ok () => return (.ok outcome, logs)

/-- The part of a run after its request was settled. -/
def performPlan (files : Files m) (p : Plan) (logs : List LogRecord) : m Result := do
  -- a dry run reads and merges for itself, so that nothing on its way can write
  if p.dryRun then
    match ← lookAt files p.request p.output with
    | .error e => return .failed e logs
    | .ok outcome => return p.finish logs outcome
  else
    match ← generate files p.request p.output logs with
    | (.error e, logs) => return .failed e logs
    | (.ok outcome, logs) => return p.finish logs outcome

/-- A run with given access to files. -/
def perform (files : Files m) (o : Options) (env : Environment) : m Result :=
  match Plan.ofOptions o with
  | .error e => return .failed e []
  | .ok p => performPlan files p (p.opening env)

/-! ## The two ways to new content -/

theorem update_eq (p : Plan) (found : Except Fault Bytes) : p.update found =
    match readExisting p.output found with
    | .error e => .error e
    | .ok existing => p.updateBytes existing := by
  cases found with
  | ok existing => rfl
  | error fault => cases fault <;> rfl

/-- **A run that looks at its file** comes to what its plan makes of the content, -/
theorem lookAt_eq (files : Files m) (p : Plan) :
    lookAt files p.request p.output = do return p.update (← files.read p.output) := by
  refine congrArg (files.read p.output >>= ·) (funext fun found => ?_)
  rw [update_eq]
  cases readExisting p.output found with
  | error e => rfl
  | ok existing =>
    simp only [Plan.updateBytes]
    cases GeneratedFile.update p.request existing <;> rfl

/-- **and so does a run that writes it**, before it writes. -/
theorem generate_eq (files : Files m) (p : Plan) (logs : List LogRecord) :
    generate files p.request p.output logs = do
      match p.update (← files.read p.output) with
      | .error e => return (.error e, logs)
      | .ok outcome =>
        let logs := logs ++ [writing p.request p.output outcome]
        match ← files.replace p.output outcome.content with
        | .error f => return (.error (.unwritable f), logs)
        | .ok () => return (.ok outcome, logs) := by
  refine congrArg (files.read p.output >>= ·) (funext fun found => ?_)
  rw [update_eq]
  cases readExisting p.output found with
  | error e => rfl
  | ok existing =>
    simp only [Plan.updateBytes]
    cases GeneratedFile.update p.request existing <;> rfl

/-- **The two ways agree**: a run reads and merges, shows the content or writes it, and then tells
what it did. -/
theorem performPlan_eq [LawfulMonad m] (files : Files m) (p : Plan) (logs : List LogRecord) :
    performPlan files p logs = do
      match p.update (← files.read p.output) with
      | .error e => return .failed e logs
      | .ok outcome =>
        if p.dryRun then return p.finish logs outcome
        else
          let logs := logs ++ [writing p.request p.output outcome]
          match ← files.replace p.output outcome.content with
          | .error f => return .failed (.unwritable f) logs
          | .ok () => return p.finish logs outcome := by
  unfold performPlan
  rw [lookAt_eq, generate_eq]
  cases p.dryRun with
  | true =>
    simp only [if_true, bind_assoc, pure_bind]
  | false =>
    simp only [Bool.false_eq_true, if_false, bind_assoc]
    refine congrArg (files.read p.output >>= ·) (funext fun found => ?_)
    cases p.update found with
    | error e => simp only [pure_bind]
    | ok outcome =>
      simp only [bind_assoc]
      refine congrArg (files.replace p.output outcome.content >>= ·) (funext fun result => ?_)
      cases result <;> simp only [pure_bind]

/-! ## Runs in a tree -/

/-- Access to the files of a tree. -/
def treeFiles : Files (StateM FileTree) where
  read path := fun t => (t.read path, t)
  replace path content := fun t =>
    match t.replace path content with
    | .error f => (.error f, t)
    | .ok t => (.ok (), t)

/-- A run in a tree: its result, and the tree after it. -/
def inTree (t : FileTree) (o : Options) (env : Environment) : Result × FileTree :=
  perform treeFiles o env t

/-- The part of a run in a tree after its request was settled, where both ways to new content are
one. -/
def planInTree (t : FileTree) (p : Plan) (logs : List LogRecord) : Result × FileTree :=
  match p.update (t.read p.output) with
  | .error e => (.failed e logs, t)
  | .ok outcome =>
    if p.dryRun then (p.finish logs outcome, t)
    else
      let logs := logs ++ [writing p.request p.output outcome]
      match t.replace p.output outcome.content with
      | .error f => (.failed (.unwritable f) logs, t)
      | .ok t => (p.finish logs outcome, t)

section

variable {t : FileTree} {p : Plan} {u : Update} (logs : List LogRecord)

theorem planInTree_of_error {e : Failure} (hu : p.update (t.read p.output) = .error e) :
    planInTree t p logs = (.failed e logs, t) := by
  simp only [planInTree, hu]

variable (hu : p.update (t.read p.output) = .ok u)
include hu

theorem planInTree_of_dryRun (hdry : p.dryRun = true) :
    planInTree t p logs = (p.finish logs u, t) := by
  simp only [planInTree, hu, hdry, if_true]

theorem planInTree_of_unwritable (hdry : p.dryRun = false) {f : WriteFault}
    (hr : t.replace p.output u.content = .error f) :
    planInTree t p logs =
      (.failed (.unwritable f) (logs ++ [writing p.request p.output u]), t) := by
  simp only [planInTree, hu, hdry, Bool.false_eq_true, if_false, hr]

theorem planInTree_of_written (hdry : p.dryRun = false) {t' : FileTree}
    (hr : t.replace p.output u.content = .ok t') :
    planInTree t p logs = (p.finish (logs ++ [writing p.request p.output u]) u, t') := by
  simp only [planInTree, hu, hdry, Bool.false_eq_true, if_false, hr]

end

theorem performPlan_treeFiles (t : FileTree) (p : Plan) (logs : List LogRecord) :
    performPlan treeFiles p logs t = planInTree t p logs := by
  rw [performPlan_eq]
  unfold planInTree
  simp only [treeFiles, bind, StateT.bind]
  cases p.update (t.read p.output) with
  | error e => rfl
  | ok outcome =>
    by_cases h : p.dryRun
    · simp [h]; rfl
    · cases ht : t.replace p.output outcome.content <;> simp [h, StateT.bind, ht] <;> rfl

/-- **A run that is refused** before it looks at a file leaves the tree. -/
theorem inTree_of_error (t : FileTree) {o : Options} (env : Environment) {e : Failure}
    (h : Plan.ofOptions o = .error e) : inTree t o env = (.failed e [], t) := by
  simp only [inTree, perform, h]
  rfl

/-- **A run with a plan** reads, updates and writes in the tree. -/
theorem inTree_of_ok (t : FileTree) {o : Options} (env : Environment) {p : Plan}
    (h : Plan.ofOptions o = .ok p) : inTree t o env = planInTree t p (p.opening env) := by
  simp only [inTree, perform, h]
  exact performPlan_treeFiles t p _

end GoOptional.Run
