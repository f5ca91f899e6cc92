import GoOptional.Run.Plan
import GoOptional.Request.ToJson

/-!
# Reports

What a run tells about what it made: a report for programs, as JSON, and a summary for people.

## Main definitions

* `Run.Report`: what a run made
* `Run.Report.json?`: the report as JSON
* `Run.Report.summary`: the summary
-/

namespace GoOptional.Run

open GeneratedFile (Update Policy)

/-- What a run made. -/
structure Report where
  /-- The path of the file. -/
  output : Path
  /-- What was asked for. -/
  request : Request
  /-- How the new content relates to the old one. -/
  policy : Policy
  /-- How many bytes the new content has. -/
  bytes : Nat
  /-- Whether the file was written. -/
  written : Bool
  deriving DecidableEq, Repr

namespace Report

/-- The report of a plan with its outcome. -/
def ofOutcome (p : Plan) (outcome : Update) : Report where
  output := p.output
  request := p.request
  policy := outcome.policy
  bytes := outcome.content.length
  written := !p.dryRun

/-! ## For programs -/

/-- How a policy is called in a report. -/
def policyText : Policy → Text
  | .discard => "overwrite".toList
  | .keep => "rewrite".toList

/-- The JSON value of a report whose path is the given text. -/
def toValue (r : Report) (output : Text) : Json.Value :=
  .object [
    ("output".toList, .string output),
    ("request".toList, r.request.toValue),
    ("policy".toList, .string (policyText r.policy)),
    ("bytes".toList, .number r.bytes),
    ("written".toList, .boolean r.written)]

/-- The report as JSON on lines of its own, if the path is text. -/
def json? (r : Report) : Option Text :=
  (Utf8.decode? r.output).map fun output => (r.toValue output).pretty ++ "\n".toList

/-! ## For people -/

/-- What became of the file. -/
def action (r : Report) : Text :=
  if !r.written then "previewed".toList
  else if r.policy.dropsOld then "wrote".toList
  else "appended".toList

/-- What is read off the type. -/
def kind (t : WrappedType) : Text :=
  match t.isPointer, t.qualifier? with
  | true, some package => " (pointer, package ".toList ++ package ++ ")".toList
  | true, none => " (pointer)".toList
  | false, some package => " (package ".toList ++ package ++ ")".toList
  | false, none => []

/-- The summary of a report, on lines of its own. -/
def summary (r : Report) : Text :=
  r.action ++ " Optional".toList ++ r.request.name ++ " -> ".toList ++ r.output.display ++
    " (".toList ++ Text.ofNat r.bytes ++ " bytes)\n  type: ".toList ++
    r.request.type.descriptor ++ kind r.request.type ++
    "\n  package: ".toList ++ r.request.package ++ "\n".toList ++
    if r.request.imports.isEmpty then []
    else "  imports: ".toList ++ Text.join ", ".toList r.request.imports ++ "\n".toList

end Report

end GoOptional.Run
