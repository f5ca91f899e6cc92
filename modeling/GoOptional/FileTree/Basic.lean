import Std.Data.ExtTreeMap
import GoOptional.FileTree.Path

/-!
# File trees

A tree of directories, regular files and symbolic links. An entry is found by the names of the
directories that lead to it from the root. One location is the working directory, from which paths
lead that do not start at the root.

## Main definitions

* `FileTree`: the entries of a tree, by their location, and the working directory
* `FileTree.Entry`: a directory, a file with its mode, or a link
* `FileTree.get?`, `FileTree.insert`, `FileTree.erase`: the entries of a tree
* `FileTree.realPath`: the path to a location from the root
* `FileTree.listing`: the entries below the working directory with their paths, in order

## Main results

* `FileTree.ext`: a tree is given by its entries and its working directory
* `FileTree.get?_insert_self`, `FileTree.get?_insert_of_ne`: the entries after one was added
-/

namespace GoOptional

/-- The place of an entry: its name, then the names of the directories around it, innermost
first. The root has no names. -/
abbrev Location := List Bytes

/-- An entry of a tree. -/
inductive FileTree.Entry where
  /-- A directory. -/
  | directory
  /-- A regular file with its mode and its content. -/
  | file (mode : Nat) (content : Bytes)
  /-- A symbolic link with the path that it stands for. -/
  | link (target : Path)
  deriving DecidableEq, Repr

/-- A tree of directories, files and links. -/
structure FileTree where
  /-- The entries below the root. -/
  entries : Std.ExtTreeMap Location FileTree.Entry
  /-- The directory from which paths lead that do not start at the root. -/
  workingDirectory : Location := []

namespace FileTree

/-- The tree without entries, in which the root is the working directory. -/
def empty : FileTree where
  entries := ∅

/-- The entry at a location. -/
def get? (t : FileTree) (l : Location) : Option Entry :=
  if l.isEmpty then some .directory else t.entries.get? l

/-- The tree with an entry at a location, in place of what was there. -/
def insert (t : FileTree) (l : Location) (e : Entry) : FileTree :=
  { t with entries := t.entries.insert l e }

/-- The tree without the entry at a location. -/
def erase (t : FileTree) (l : Location) : FileTree :=
  { t with entries := t.entries.erase l }

/-- The path of a location. -/
def pathOf (l : Location) : Path :=
  Path.ofPieces l.reverse

/-- The path to a location from the root, along no link. -/
def realPath (l : Location) : Path :=
  Path.slash :: pathOf l

/-- The location that a path spells, whatever links there are. -/
def locationOf (p : Path) : Location :=
  (p.pieces.filter (!·.isEmpty)).reverse

/-- The location of an entry as it is seen from a directory around it. -/
def below? (directory l : Location) : Option Location :=
  if directory.isSuffixOf l && l.length ≠ directory.length then
    some (l.take (l.length - directory.length))
  else none

/-- All entries below the working directory with their paths, in the order of the bytes of the
paths. -/
def listing (t : FileTree) : List (Path × Entry) :=
  (t.entries.toList.filterMap fun e =>
    (below? t.workingDirectory e.1).map fun l => (pathOf l, e.2)).mergeSort
      fun a b => (compare a.1 b.1).isLE

/-! ## The entries of a tree -/

/-- The root is a directory. -/
@[simp] theorem get?_root (t : FileTree) : t.get? [] = some .directory := rfl

@[simp] theorem workingDirectory_insert (t : FileTree) (l : Location) (e : Entry) :
    (t.insert l e).workingDirectory = t.workingDirectory := rfl

@[simp] theorem workingDirectory_erase (t : FileTree) (l : Location) :
    (t.erase l).workingDirectory = t.workingDirectory := rfl

/-- The entries below the root after one was added. -/
theorem entries_insert (t : FileTree) (l k : Location) (e : Entry) :
    (t.insert l e).entries.get? k = if l = k then some e else t.entries.get? k := by
  simp only [insert, Std.ExtTreeMap.get?_eq_getElem?, Std.ExtTreeMap.getElem?_insert,
    Std.LawfulEqCmp.compare_eq_iff_eq]

/-- An entry that was added is there. -/
theorem get?_insert_self (t : FileTree) {l : Location} (e : Entry) (h : l ≠ []) :
    (t.insert l e).get? l = some e := by
  rw [get?, if_neg (by simpa using h), entries_insert, if_pos rfl]

/-- Adding an entry leaves all others. -/
theorem get?_insert_of_ne (t : FileTree) {l k : Location} (e : Entry) (h : k ≠ l) :
    (t.insert l e).get? k = t.get? k := by
  rw [get?, get?, entries_insert, if_neg (Ne.symm h)]

/-- **A tree is given by its entries** below the root and its working directory. -/
theorem ext {t u : FileTree} (h : ∀ l, t.entries.get? l = u.entries.get? l)
    (hdirectory : t.workingDirectory = u.workingDirectory) : t = u := by
  have hentries : t.entries = u.entries := Std.ExtTreeMap.ext_getElem? fun l => by
    simpa only [Std.ExtTreeMap.get?_eq_getElem?] using h l
  cases t
  cases u
  cases hentries
  cases hdirectory
  rfl

/-- Adding an entry twice is adding the second one. -/
theorem insert_insert_self (t : FileTree) (l : Location) (e f : Entry) :
    (t.insert l e).insert l f = t.insert l f :=
  ext (fun k => by simp only [entries_insert]; split <;> rfl) rfl

/-- Entries at different locations can be added in any order. -/
theorem insert_comm (t : FileTree) {l k : Location} (e f : Entry) (h : l ≠ k) :
    (t.insert l e).insert k f = (t.insert k f).insert l e :=
  ext (fun m => by simp only [entries_insert]; split <;> split <;> simp_all) rfl

end FileTree

end GoOptional
