import GoOptional.FileTree.Replace
import GoOptional.GeneratedFile.Update
import GoOptional.Text.Quoted

/-!
# Failures of a run

Why a run fails, and the messages that say so.

## Main definitions

* `Run.Failure`: why a run fails
* `Run.Failure.messages`: the messages of a failure, outermost first
* `Run.Failure.fault?`: what is wrong with a path, where a path is to blame
-/

namespace GoOptional.Run

/-- Why a run fails. -/
inductive Failure where
  /-- Nothing names the package. -/
  | noPackage
  /-- There is no name for the optional: the type has none. -/
  | noName (type : Text)
  /-- The file cannot be read. -/
  | unreadable (path : Path) (fault : FileTree.Fault)
  /-- Nothing can be added to the file. -/
  | notUpdated (path : Path) (error : GeneratedFile.UpdateError)
  /-- The file cannot be written. -/
  | unwritable (fault : FileTree.WriteFault)
  /-- The report cannot be printed, as the path of the file is no text. -/
  | unprintable
  deriving DecidableEq, Repr

namespace Failure

/-- The messages of a failure, outermost first. -/
def messages : Failure → List Text
  | .noPackage =>
    ["No package name: pass --package or run under `go generate` (which sets $GOPACKAGE)".toList]
  | .noName type =>
    ["Cannot derive an option name from type ".toList ++ type.quoted ++ ": pass --name".toList]
  | .unreadable path _ => ["Failed to read ".toList ++ path.display]
  | .notUpdated path error => ["Failed to merge into ".toList ++ path.display, error.message]
  | .unwritable (.temporary directory _) =>
    ["Failed to create a temporary file in ".toList ++ directory.display]
  | .unwritable (.rename target _) => ["Failed to replace ".toList ++ target.display]
  | .unprintable => ["path contains invalid UTF-8 characters".toList]

/-- What is wrong with a path, where a path is to blame. -/
def fault? : Failure → Option FileTree.Fault
  | .unreadable _ fault => some fault
  | .unwritable (.temporary _ fault) => some fault
  | .unwritable (.rename _ fault) => some fault
  | .noPackage => none
  | .noName _ => none
  | .notUpdated _ _ => none
  | .unprintable => none

end Failure

end GoOptional.Run
