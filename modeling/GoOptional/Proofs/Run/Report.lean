import Mathlib
import GoOptional.Program
import GoOptional.Proofs.Request.RoundTrip
import GoOptional.Proofs.Run.DryRun
import GoOptional.Proofs.Text.Utf8

/-!
# Reports

What a run prints for programs is one JSON object on lines of its own. Its members are read here as
a program would read them, each from its own text, and compared with what the run did: with the
request that was merged, and with the file that can be read afterwards.

## Main definitions

* `Run.Report.Texts`: the texts of the members of a report
* `Run.Report.Texts.document`: the text of the whole report
* `Run.Report.Texts.AreTrue`: what they say is true of a request and a file
* `Run.Tells`: a run tells the truth in its report

## Main results

* `Run.Report.pretty_toValue`: how a report is laid out
* `Run.Report.areTrue_texts`: what a report says
* `Run.tells_planInTree`: a run with a plan
* `Run.inTree_tells`: runs with a report, whatever their options
-/

namespace GoOptional.Run

open CommandLine (Environment Options)
open FileTree (Fault)
open GeneratedFile (Update)
open Json (IsObjectText Spells SpellsText withoutSpace)

variable {t : FileTree} {o : Options} {p : Plan} {u : Update} {env : Environment}

namespace Report

/-- The texts of the values of a report's members. -/
structure Texts where
  /-- The path of the file. -/
  output : Text
  /-- What was asked for. -/
  request : Text
  /-- What became of the old content. -/
  policy : Text
  /-- How many bytes the new content has. -/
  bytes : Text
  /-- Whether the file was written. -/
  written : Text

namespace Texts

/-- The members of a report, in order. -/
def members (s : Texts) : List (Text × Text) :=
  [("output".toList, s.output), ("request".toList, s.request), ("policy".toList, s.policy),
    ("bytes".toList, s.bytes), ("written".toList, s.written)]

/-- The text of a report: an object with a line for each member. -/
def document (s : Texts) : Text :=
  "\x7b\n".toList ++ Text.join ",\n".toList
    (s.members.map fun m => "  ".toList ++ Json.quoted m.1 ++ ": ".toList ++ m.2) ++ "\n\x7d".toList

/-- What the members say is true of a request and of a file with its content. -/
structure AreTrue (s : Texts) (r : Request) (path : Path) (content : Bytes) : Prop where
  /-- The first one is the path of the file. -/
  output_eq : ∃ text, SpellsText s.output text ∧ Utf8.encode text = path
  /-- The second one is read as the request, -/
  fromJson_request : Request.fromJson s.request = .ok r
  /-- and it is the compact text of the request, but for whitespace outside strings. -/
  withoutSpace_request : withoutSpace s.request = r.toJson
  /-- The third one tells whether the content is added to what was there, -/
  policy_spells : SpellsText s.policy
    (if r.append then "rewrite".toList else "overwrite".toList)
  /-- and says that the file is overwritten if and only if no unit is kept. -/
  policy_iff : SpellsText s.policy "overwrite".toList ↔ r.append = false
  /-- The fourth one is the length of the content. -/
  bytes_eq : s.bytes = Text.ofNat content.length
  /-- The last one says that the file was written. -/
  written_eq : s.written = "true".toList

end Texts

/-- The texts of a report whose path is the given text. -/
def texts (r : Report) (output : Text) : Texts where
  output := Json.quoted output
  request := r.request.toValue.prettyAt 1
  policy := Json.quoted (policyText r.policy)
  bytes := Text.ofNat r.bytes
  written := Json.boolText r.written

theorem pretty_toValue (r : Report) (output : Text) :
    (r.toValue output).pretty = (r.texts output).document := by
  simp [toValue, Json.Value.pretty, Json.Value.prettyAt, Json.Value.prettyMembers,
    Json.Value.enclosed, Json.Value.newLine, Texts.document, Texts.members, texts, Text.join,
    List.intersperse]

theorem isObjectText_document (r : Report) (output : Text) :
    IsObjectText (r.texts output).document (r.texts output).members :=
  r.pretty_toValue output ▸ Json.Value.isObjectText_prettyAt 0 _

end Report

theorem policy_of_update {r : Request} {existing : Bytes}
    (h : GeneratedFile.update r existing = .ok u) :
    u.policy = if r.append then .keep else .discard := by
  unfold GeneratedFile.update at h
  split_ifs at h with happend
  · split at h
    · cases h
    · cases h
      rw [happend, if_pos rfl]
  · cases h
    rw [if_neg happend]

namespace Report

theorem policyText_eq {r : Request} {existing : Bytes}
    (h : GeneratedFile.update r existing = .ok u) :
    policyText u.policy = if r.append then "rewrite".toList else "overwrite".toList := by
  rw [policy_of_update h]
  cases r.append <;> rfl

/-- A report says that the file is overwritten if no unit is kept, and only then. -/
theorem policyText_eq_iff {r : Request} {existing : Bytes}
    (h : GeneratedFile.update r existing = .ok u) :
    policyText u.policy = "overwrite".toList ↔ r.append = false := by
  rw [policyText_eq h]
  cases r.append <;> decide

/-- **What a report says** of a file that was written. -/
theorem areTrue_texts {existing : Bytes} {output : Text}
    (hupdate : GeneratedFile.update p.request existing = .ok u) (hdry : p.dryRun = false)
    (houtput : p.output = Utf8.encode output) :
    ((ofOutcome p u).texts output).AreTrue p.request p.output u.content where
  output_eq := ⟨output, Json.spellsText_quoted output, houtput.symm⟩
  fromJson_request := Request.fromJson_of_spells (p.request.toValue.spells_prettyAt 1)
  withoutSpace_request := p.request.toValue.withoutSpace_prettyAt 1
  policy_spells := policyText_eq hupdate ▸ Json.spellsText_quoted _
  policy_iff := by
    rw [← policyText_eq_iff hupdate]
    constructor
    · exact fun h => (Json.spellsText_quoted _).unique h
    · exact fun h => h ▸ Json.spellsText_quoted _
  bytes_eq := rfl
  written_eq := by
    have hwritten : (ofOutcome p u).written = true := by simp [ofOutcome, hdry]
    exact congrArg Json.boolText hwritten

end Report

/-! ## Runs -/

/-- A run with a plan tells the truth: it prints one JSON object and a line feed, and what the
members say is true of the request that was merged into what was found in the file, and of what can
be read there now. -/
def Tells (t t' : FileTree) (p : Plan) (stdout : Bytes) : Prop :=
  ∃ existing u document texts,
    (t.read p.output = .ok existing ∨ t.read p.output = .error .notFound ∧ existing = []) ∧
    GeneratedFile.update p.request existing = .ok u ∧ t'.read p.output = .ok u.content ∧
    stdout = Utf8.encode (document ++ ['\n']) ∧ (∃ v, Spells document v) ∧
    IsObjectText document (Report.Texts.members texts) ∧
    texts.AreTrue p.request p.output u.content

/-- A run that prints its report prints nothing else. -/
theorem Plan.exists_stdout_eq (hjson : p.json = true) (hdry : p.dryRun = false)
    {logs : List LogRecord} (hok : (p.finish logs u).outcome = .ok ()) :
    ∃ output, p.output = Utf8.encode output ∧ (p.finish logs u).stdout =
      Utf8.encode (((Report.ofOutcome p u).texts output).document ++ ['\n']) := by
  have hpath : (Report.ofOutcome p u).output = p.output := rfl
  cases houtput : Utf8.decode? p.output with
  | none =>
    rw [p.outcome_finish, Plan.reporting_eq_error_iff.2 ⟨hjson, houtput⟩] at hok
    cases hok
  | some output =>
    refine ⟨output, Utf8.decode?_eq_some_iff.1 houtput, ?_⟩
    simp only [finish, hjson, if_true, Report.json?, hpath, houtput, Option.map_some, preview, hdry,
      Bool.false_eq_true, if_false, List.nil_append, Report.pretty_toValue]
    rfl

/-- **A run with a plan** tells the truth in its report. -/
theorem tells_planInTree (hjson : p.json = true) (hdry : p.dryRun = false) (logs : List LogRecord)
    (hok : (planInTree t p logs).1.outcome = .ok ()) :
    Tells t (planInTree t p logs).2 p (planInTree t p logs).1.stdout := by
  rcases planInTree_cases t p logs with
    ⟨e, logs', -, hrun⟩ | ⟨u, logs', -, hdry', -⟩ | ⟨u, logs', t', hu, -, hreplace, hrun⟩
  · rw [hrun] at hok
    cases hok
  · rw [hdry] at hdry'
    cases hdry'
  · obtain ⟨existing, hread, hupdate⟩ := Plan.update_eq_ok hu
    obtain ⟨l, mode, hreplaced⟩ :=
      FileTree.exists_replaced_of_replace (isReadable_of_read hread) hreplace
    rw [hrun] at hok ⊢
    obtain ⟨output, houtput, hstdout⟩ := Plan.exists_stdout_eq hjson hdry hok
    have hobject := Report.isObjectText_document (Report.ofOutcome p u) output
    exact ⟨existing, u, _, _, hread, hupdate, hreplaced.read_eq, hstdout, hobject.exists_spells,
      hobject, Report.areTrue_texts hupdate hdry houtput⟩

/-- Options that are read from arguments ask for a report or for a dry run, and not for both. -/
theorem not_json_and_dryRun {args : List Bytes} (h : Program.optionsOf env args = .ok o) :
    ¬ (o.json = true ∧ o.dryRun = true) := by
  unfold Program.optionsOf CommandLine.parse at h
  split at h
  · cases h
  · unfold CommandLine.complete at h
    split at h
    · cases h
    · split at h
      · cases h
      · split_ifs at h with hflags
        split at h
        · cases h
        · cases h
          simpa using hflags

/-- **The report tells the truth.** No arguments ask for a report and for a dry run at once; with
all other options that ask for a report, in every tree, a run that succeeds prints one JSON object
whose members are true of the request and of the file. -/
theorem inTree_tells :
    (∀ env args o, Program.optionsOf env args = .ok o → ¬ (o.json = true ∧ o.dryRun = true)) ∧
    ∀ t o env, o.json = true → o.dryRun = false → (inTree t o env).1.outcome = .ok () →
      ∃ p, Plan.ofOptions o = .ok p ∧ Tells t (inTree t o env).2 p (inTree t o env).1.stdout := by
  refine ⟨fun env args o h => not_json_and_dryRun h, fun t o env hjson hdry hok => ?_⟩
  cases hp : Plan.ofOptions o with
  | error e =>
    rw [inTree_of_error t env hp] at hok
    cases hok
  | ok p =>
    obtain ⟨hdry', hjson'⟩ := Plan.flags_of_ofOptions hp
    rw [inTree_of_ok t env hp] at hok ⊢
    exact ⟨p, rfl, tells_planInTree (hjson'.trans hjson) (hdry'.trans hdry) _ hok⟩

/-- Options for a report on a file that a link gives way to. -/
def reportOptions : Options :=
  { readerOptions with json := true }

theorem inTree_tells_reportOptions :
    reportOptions.json = true ∧ reportOptions.dryRun = false ∧
    (inTree linkTree reportOptions noEnvironment).1.outcome = .ok () ∧
    ∃ p, Plan.ofOptions reportOptions = .ok p ∧
      Tells linkTree (inTree linkTree reportOptions noEnvironment).2 p
        (inTree linkTree reportOptions noEnvironment).1.stdout := by
  have hok : (inTree linkTree reportOptions noEnvironment).1.outcome = .ok () := by
    decide +kernel
  exact ⟨rfl, rfl, hok, inTree_tells.2 linkTree reportOptions noEnvironment rfl rfl hok⟩

end GoOptional.Run
