import GoOptional.FileTree.RealPath

/-!
# Replacing a file

New content is written to a temporary file beside its target, which then takes the target's
place: there is never a file with a part of the content.

## Main definitions

* `FileTree.WriteFault`: the step at which a replacement fails
* `FileTree.linkedFile?`: the file behind a link
* `FileTree.temporaryPath`: the path by which a temporary file is made
* `FileTree.replace`: the tree with new content where a path leads
-/

namespace GoOptional.FileTree

/-- The step at which a replacement fails. -/
inductive WriteFault where
  /-- No temporary file can be made in the directory. -/
  | temporary (directory : Path) (fault : Fault)
  /-- The temporary file cannot take the place of the target. -/
  | rename (target : Path) (fault : Fault)
  deriving DecidableEq, Repr

/-- The mode of a file that did not exist. -/
def defaultMode : Nat :=
  0o644

/-! ## The target -/

/-- The location of the file behind a path whose last name is a link, if its real path can be found
out. -/
def linkedFile? (t : FileTree) (p : Path) : Option Location :=
  match t.slot p with
  | .error _ => none
  | .ok l =>
    match t.get? l, t.resolve p with
    | some (.link _), .ok (.file target _ _) => if t.HasRealPath p then some target else none
    | _, _ => none

/-- The mode that a file keeps when a path to it gets new content. -/
def modeOf (t : FileTree) (p : Path) : Nat :=
  match t.resolve p with
  | .ok (.file _ mode _) => mode
  | _ => defaultMode

/-! ## The temporary file -/

/-- The name of a temporary file, but for its last six letters, which are chosen at random. -/
def temporaryName : Bytes :=
  Utf8.encode ".tmpXXXXXX".toList

/-- The path by which a temporary file is made in a directory: it starts at the root. -/
def temporaryPath (t : FileTree) (directory : Path) : Path :=
  ((realPath t.workingDirectory).join directory).join temporaryName

/-- The directory in which the temporary file for a target is made, where it is spelled like that.
-/
def temporaryDirectory (t : FileTree) (directory : Path) : Except Fault Location :=
  if 0 ∈ directory then .error .zeroByte
  else if pathLimit < (t.temporaryPath directory).length then .error .nameTooLong
  else t.resolveDirectory directory

/-! ## Replacements -/

/-- The tree in which a temporary file with the content takes a place; it cannot take that of a
directory. -/
def rename (t : FileTree) (p : Path) (l : Location) (mode : Nat) (content : Bytes) :
    Except WriteFault FileTree :=
  match t.get? l with
  | some .directory => .error (.rename p .isDirectory)
  | _ => .ok (t.insert l (.file mode content))

/-- The tree with new content where a path leads. A link to a file stays, and the file behind it
gets the content. A link that leads nowhere is replaced itself, and so is one to a file of which the
real path cannot be found out. -/
def replace (t : FileTree) (p : Path) (content : Bytes) : Except WriteFault FileTree :=
  match t.linkedFile? p with
  | some target =>
    -- the real path of the file takes the place of the given one, so the link is not touched
    let directory := realPath target.tail
    if pathLimit < (t.temporaryPath directory).length then
      .error (.temporary directory .nameTooLong)
    else t.rename (realPath target) target (t.modeOf p) content
  | none =>
    -- the directory of the temporary file comes from the path as it is spelled
    match t.temporaryDirectory p.parent with
    | .error f => .error (.temporary p.parent f)
    | .ok _ =>
      match t.slot p with
      | .error f => .error (.rename p f)
      | .ok l => t.rename p l (t.modeOf p) content

end GoOptional.FileTree
