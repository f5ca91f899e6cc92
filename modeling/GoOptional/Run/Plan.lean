import GoOptional.CommandLine.Parse
import GoOptional.Run.Output
import GoOptional.Run.Failure

/-!
# What a run is to do

The request and the file of a run, settled from its options before any file is looked at.

## Main definitions

* `Run.Plan`: what a run is to do
* `Run.requestOf`: the request that options make
* `Run.Plan.ofOptions`: the plan of a run with given options
* `Run.Plan.update`: what comes of the request for what was found in the file
-/

namespace GoOptional.Run

open CommandLine (Options)
open GeneratedFile (Update)

/-- What a run is to do. -/
structure Plan where
  /-- What is to be produced. -/
  request : Request
  /-- The path of the file. -/
  output : Path
  /-- Whether the content is printed and the file is left. -/
  dryRun : Bool
  /-- Whether a report is printed as JSON. -/
  json : Bool
  /-- Whether a summary is printed. -/
  verbose : Bool
  deriving DecidableEq, Repr

/-- The request that options make: there must be a package and a name. -/
def requestOf (o : Options) : Except Failure Request :=
  match o.package with
  | none => .error .noPackage
  | some package =>
    let name := o.name.getD (WrappedType.suggestedName ⟨o.type⟩)
    if name.isEmpty then .error (.noName o.type)
    else .ok (((Request.fresh package name ⟨o.type⟩).importing o.imports).appending o.append)

namespace Plan

/-- The plan of a run with given options. -/
def ofOptions (o : Options) : Except Failure Plan :=
  match requestOf o with
  | .error e => .error e
  | .ok request => .ok {
      request := request
      output := o.output.getD (outputFor request.name)
      dryRun := o.dryRun
      json := o.json
      verbose := o.verbose }

/-- What comes of the request for a file that holds the given bytes. -/
def updateBytes (p : Plan) (existing : Bytes) : Except Failure Update :=
  match GeneratedFile.update p.request existing with
  | .error e => .error (.notUpdated p.output e)
  | .ok outcome => .ok outcome

/-- What comes of the request for what was found where the path leads: a file that is missing
counts as empty. -/
def update (p : Plan) (found : Except FileTree.Fault Bytes) : Except Failure Update :=
  match found with
  | .ok existing => p.updateBytes existing
  | .error .notFound => p.updateBytes []
  | .error fault => .error (.unreadable p.output fault)

end Plan

end GoOptional.Run
