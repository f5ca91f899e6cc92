import GoOptional.FileTree.Basic

/-!
# Resolving paths

Following a path through a tree, step by step and link by link. A path that does not start at the
root leads from the working directory.

## Main definitions

* `FileTree.Fault`: why a path leads nowhere
* `FileTree.Destination`: where a path leads
* `FileTree.resolve`: the destination of a path, with all links followed
* `FileTree.slot`: the location that the last name of a path stands for, link or not
* `FileTree.read`: the content of the file to which a path leads
-/

namespace GoOptional.FileTree

/-- Why a path leads nowhere, or what cannot be done there. -/
inductive Fault where
  /-- There is no such entry. -/
  | notFound
  /-- What stands for a directory is a file. -/
  | notDirectory
  /-- What stands for a file is a directory. -/
  | isDirectory
  /-- There are too many links to follow. -/
  | linkLoop
  /-- A name or a whole path is too long. -/
  | nameTooLong
  /-- The path holds a zero byte. -/
  | zeroByte
  /-- The path ends with a step that stands for no entry. -/
  | noName
  deriving DecidableEq, Repr

/-- Where a path leads. -/
inductive Destination where
  /-- To a directory. -/
  | directory (at_ : Location)
  /-- To a regular file. -/
  | file (at_ : Location) (mode : Nat) (content : Bytes)
  /-- To a location without an entry, in a directory. -/
  | vacant (at_ : Location)
  deriving DecidableEq, Repr

/-- How many links are followed on the way along one path. -/
def linkLimit : Nat :=
  40

/-- How long a name can be. -/
def nameLimit : Nat :=
  255

/-- How long a path can be. -/
def pathLimit : Nat :=
  4095

/-- The location at which a path starts. -/
def startOf (p : Path) (location : Location) : Location :=
  if p.isAbsolute then [] else location

/-- Where steps from a directory lead, given what becomes of the rest of the steps at a link. -/
def walkWith (t : FileTree) (atLink : Location → List Path.Step → Except Fault Destination)
    (location : Location) : List Path.Step → Except Fault Destination
  | [] => .ok (.directory location)
  | .here :: rest => walkWith t atLink location rest
  | .up :: rest => walkWith t atLink location.tail rest
  | .down name :: rest =>
    if nameLimit < name.length then .error .nameTooLong
    else match t.get? (name :: location) with
      -- nothing, or a file, can only be where the last step leads
      | none => if rest.isEmpty then .ok (.vacant (name :: location)) else .error .notFound
      | some .directory => walkWith t atLink (name :: location) rest
      | some (.file mode content) =>
        if rest.isEmpty then .ok (.file (name :: location) mode content) else .error .notDirectory
      -- the steps of a link come first, from the directory that holds the link
      | some (.link target) => atLink (startOf target location) (target.steps ++ rest)

/-- Where steps from a directory lead, with at most the given number of links followed. -/
def walk (t : FileTree) : Nat → Location → List Path.Step → Except Fault Destination
  | 0 => walkWith t fun _ _ => .error .linkLoop
  | links + 1 => walkWith t (walk t links)

/-- The location at which a path starts that is looked up in the tree. -/
def start (t : FileTree) (p : Path) : Location :=
  startOf p t.workingDirectory

/-- Where a path leads, with all links followed. -/
def resolve (t : FileTree) (p : Path) : Except Fault Destination :=
  if 0 ∈ p then .error .zeroByte
  else if pathLimit < p.length then .error .nameTooLong
  else if p.isEmpty then .error .notFound
  else t.walk linkLimit (t.start p) p.steps

/-- The directory to which steps lead from another one. -/
def followToDirectory (t : FileTree) (location : Location) (steps : List Path.Step) :
    Except Fault Location :=
  match t.walk linkLimit location steps with
  | .error f => .error f
  | .ok (.directory l) => .ok l
  | .ok (.file _ _ _) => .error .notDirectory
  | .ok (.vacant _) => .error .notFound

/-- The directory to which a path leads. -/
def resolveDirectory (t : FileTree) (p : Path) : Except Fault Location :=
  match t.resolve p with
  | .error f => .error f
  | .ok (.directory l) => .ok l
  | .ok (.file _ _ _) => .error .notDirectory
  | .ok (.vacant _) => .error .notFound

/-- The location that a last step stands for in a directory, where `slashed` tells whether a
slash comes after it. -/
def lastSlot (slashed : Bool) (location : Location) : Path.Step → Except Fault Location
  | .here => .error .noName
  | .up => .error .noName
  | .down name =>
    if nameLimit < name.length then .error .nameTooLong
    else if slashed then .error .notDirectory
    else .ok (name :: location)

/-- The location that the last name of a path stands for: the links before it are followed, but
not what stands there. -/
def slot (t : FileTree) (p : Path) : Except Fault Location :=
  if 0 ∈ p then .error .zeroByte
  else match (p.pieces.filterMap Path.step?).reverse with
    | [] => .error .noName
    | last :: before =>
      match t.followToDirectory (t.start p) before.reverse with
      | .error f => .error f
      | .ok location => lastSlot p.endsWithSlash location last

/-- The content of the file to which a path leads. -/
def read (t : FileTree) (p : Path) : Except Fault Bytes :=
  match t.resolve p with
  | .error f => .error f
  | .ok (.directory _) => .error .isDirectory
  | .ok (.file _ _ content) => .ok content
  | .ok (.vacant _) => .error .notFound

end GoOptional.FileTree
