import GoOptional.CommandLine.Parse
import GoOptional.GeneratedFile.Update
import GoOptional.FileTree.Path
import GoOptional.Text.Quoted

/-!
# The log of a run

What a run records on its way: where it was called from, what it was asked for, what it is about
to write, and what may be a mistake of its user.

## Main definitions

* `Run.Level`, `Run.LogRecord`: the records of a log
* `Run.visible`: the records that a log shows at a level
* `Run.invocation`, `Run.resolvedRequest`, `Run.missingImport`,
  `Run.writing`, `Run.otherPackage`: the records of a run
-/

namespace GoOptional.Run

open CommandLine (Environment)
open GeneratedFile (Policy)

/-- How much a record matters. -/
inductive Level where
  /-- What may be a mistake. -/
  | warn
  /-- What happens. -/
  | info
  /-- What helps to find a mistake. -/
  | debug
  deriving DecidableEq, Repr

/-- A record of a log. -/
structure LogRecord where
  /-- How much the record matters. -/
  level : Level
  /-- What the record says. -/
  message : Text
  deriving DecidableEq, Repr

/-- The order of levels, with what matters most first. -/
def Level.rank : Level → Nat
  | .warn => 0
  | .info => 1
  | .debug => 2

/-- The records that a log shows at a level. -/
def visible (level : Level) (records : List LogRecord) : List LogRecord :=
  records.filter fun r => r.level.rank ≤ level.rank

/-! ## The records of a run -/

/-- The directive from which the run was called, if the environment tells it in text. -/
def invocation (env : Environment) : List LogRecord :=
  match env.file.bind Utf8.decode?, env.line.bind Utf8.decode? with
  | some file, some line =>
    [⟨.debug, "invoked by go generate from ".toList ++ file ++ ":".toList ++ line⟩]
  | _, _ => []

/-- A list of quoted texts between brackets. -/
def quotedList (texts : List Text) : Text :=
  "[".toList ++ Text.join ", ".toList (texts.map Text.quoted) ++ "]".toList

/-- What was asked for, with all of its fields. -/
def resolvedRequest (r : Request) : LogRecord :=
  ⟨.debug, "resolved request: GenerationRequest \x7b package_name: ".toList ++
    r.package.quoted ++ ", option_name: ".toList ++ r.name.quoted ++
    ", element_type: ElementType(".toList ++ r.type.descriptor.quoted ++
    "), imports: ".toList ++ quotedList r.imports ++ ", append: ".toList ++
    (if r.append then "true".toList else "false".toList) ++ " \x7d".toList⟩

/-- The package of the type that no import provides. A request that adds to a file may rely on
the imports of the file. -/
def missingImport (r : Request) : List LogRecord :=
  match r.missingPackage? with
  | some qualifier =>
    if r.append then []
    else [⟨.warn, "type ".toList ++ r.type.descriptor ++ " refers to package ".toList ++
      qualifier ++ " but no --import provides it".toList⟩]
  | none => []

/-- How a policy is called in the log. -/
def policyName : Policy → Text
  | .discard => "Overwrite".toList
  | .keep => "Rewrite".toList

/-- What is about to be written. -/
def writing (r : Request) (output : Path) (outcome : GeneratedFile.Update) : LogRecord :=
  ⟨.info, "writing Optional".toList ++ r.name ++ " to ".toList ++ output.display ++
    " (".toList ++ policyName outcome.policy ++ ", ".toList ++
    Text.ofNat outcome.content.length ++ " bytes)".toList⟩

/-- The package of a file that is not the one asked for. -/
def otherPackage (r : Request) (output : Path) (outcome : GeneratedFile.Update) :
    List LogRecord :=
  match outcome.oldPackage with
  | some found =>
    if found = r.package then []
    else [⟨.warn, output.display ++ " declares package ".toList ++ found ++ ", not ".toList ++
      r.package ++ "; keeping ".toList ++ found⟩]
  | none => []

end GoOptional.Run
