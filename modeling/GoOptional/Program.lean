import GoOptional.CommandLine.GoStyle
import GoOptional.Run.Basic

/-!
# The program

What the program does with its arguments: it reads them, runs, and turns what comes of it into an
exit code and two outputs. The outputs are those of the run, and the version. What the library for
arguments says of its own, to explain the options or to complain of the arguments, is left out, and
so is the report of a failed run.

## Main definitions

* `Program.Exit`: how the program ends
* `Program.invoke`: the program with given access to files
* `Program.invokeIn`: the program in a tree of files
-/

namespace GoOptional.Program

open CommandLine (ArgumentError Environment Options)
open Run (Files Result)

/-- How the program ends. -/
structure Exit where
  /-- The exit code: 0 for success, 1 for a run that failed, 2 for arguments that cannot be
  read. -/
  code : Nat
  /-- What was written to the standard output, but for the help. -/
  stdout : Bytes
  /-- What a run wrote to the standard error. -/
  stderr : Bytes
  deriving DecidableEq, Repr

/-- The options of arguments in which long options may have one dash. -/
def optionsOf (env : Environment) (args : List Bytes) : Except ArgumentError Options :=
  CommandLine.parse env (CommandLine.normalize args)

/-! ## How the program ends -/

/-- The name and the version of the program. -/
def versionText : Text :=
  "optional 0.1.0\n".toList

/-- How the program ends when its arguments give no options. -/
def exitOfError : ArgumentError → Exit
  | .help => ⟨0, [], []⟩
  | .version => ⟨0, Utf8.encode versionText, []⟩
  | _ => ⟨2, [], []⟩

/-- How the program ends after a run. -/
def exitOfResult (r : Result) : Exit :=
  match r.outcome with
  | .ok () => ⟨0, r.stdout, r.stderr⟩
  | .error _ => ⟨1, r.stdout, r.stderr⟩

/-! ## The program -/

variable {m : Type → Type} [Monad m]

/-- The program with given access to files. -/
def invoke (files : Files m) (env : Environment) (args : List Bytes) : m Exit := do
  match optionsOf env args with
  | .error e => return exitOfError e
  | .ok options => return exitOfResult (← Run.perform files options env)

/-- The program in a tree of files: how it ends, and the tree after it. -/
def invokeIn (t : FileTree) (env : Environment) (args : List Bytes) : Exit × FileTree :=
  invoke Run.treeFiles env args t

end GoOptional.Program
