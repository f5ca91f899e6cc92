import GoOptional.FileTree.Resolve

/-!
# Real paths

The real path of a file leads to it from the root, along no link. To find it out, every entry on the
way is looked up by its own real path, whether it is a link or not. So a path can lead to a file of
which the real path cannot be found out: the entries on the way are all there, but one of them is so
deep in the tree that the system takes no path to it.

## Main definitions

* `FileTree.lookups`: the paths by which the entries on the way are looked up
* `FileTree.HasRealPath`: a path of which the real path can be found out, if it leads to a file
-/

namespace GoOptional.FileTree

open GoOptional.Path (Step)

/-- Whether steps from a directory end there, after a slash or a dot, or go on to its parent. Then
it must be known that it is a directory. -/
def needDirectory : List Step → Bool
  | [] => false
  | .here :: rest => rest.isEmpty || needDirectory rest
  | .up :: _ => true
  | .down _ :: _ => false

/-- The paths by which entries are looked up along steps from a directory, given those of the rest
of the steps at a link. A slash after the path of an entry asks for a directory. -/
def lookupsWith (t : FileTree) (atLink : Location → List Step → List Path) (location : Location) :
    List Step → List Path
  | [] => []
  | .here :: rest => lookupsWith t atLink location rest
  | .up :: rest => lookupsWith t atLink location.tail rest
  | .down name :: rest =>
    realPath (name :: location) ::
      match t.get? (name :: location) with
      | some .directory =>
        let asked :=
          if needDirectory rest then [realPath (name :: location) ++ [Path.slash]] else []
        asked ++ lookupsWith t atLink (name :: location) rest
      -- the steps of a link come first, as on the way along the path itself
      | some (.link target) => atLink (startOf target location) (target.steps ++ rest)
      -- a file, or nothing, can only be where the last step leads
      | _ => []

/-- The paths by which entries are looked up along steps, with at most the given number of links
followed. -/
def lookups (t : FileTree) : Nat → Location → List Step → List Path
  | 0 => lookupsWith t fun _ _ => []
  | links + 1 => lookupsWith t (lookups t links)

/-- All entries on the way along a path have real paths that the system takes. -/
def HasRealPath (t : FileTree) (p : Path) : Prop :=
  ∀ q ∈ t.lookups linkLimit (t.start p) p.steps, q.length ≤ pathLimit

instance (t : FileTree) (p : Path) : Decidable (t.HasRealPath p) :=
  inferInstanceAs (Decidable (∀ q ∈ _, _))

end GoOptional.FileTree
