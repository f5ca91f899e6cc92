import GoOptional.GeneratedFile.Line
import GoOptional.Text.Utf8

/-!
# The anchor of a generated file

Finding the package clause of a file that was generated before: only blank lines and comments
come before the marker line, and the first other line after it is the package clause. The
anchor is the place right after that clause.

## Main definitions

* `GeneratedFile.Anchor`: the package of a file, and where its package clause ends
* `GeneratedFile.HeaderError`: what a file lacks that has no anchor
* `GeneratedFile.Anchor.ofText`: the anchor of a text
-/

namespace GoOptional

/-- How many bytes the line takes in its file, with its line feed. -/
def Text.Line.size (l : Line) : Nat :=
  (Utf8.encode l.whole).length

namespace GeneratedFile

/-- Where the package clause of a generated file ends. -/
structure Anchor where
  /-- The package that the clause declares. -/
  package : Text
  /-- How many bytes there are up to the end of the package line, with its line feed. -/
  offset : Nat
  /-- Whether the package line has a line feed. -/
  terminated : Bool
  deriving DecidableEq, Repr

/-- What a file lacks that has no anchor. -/
inductive HeaderError where
  /-- No marker line comes before the first line of code. -/
  | noMarker
  /-- The first line of code after the marker line is no package clause. -/
  | noPackageClause
  deriving DecidableEq, Repr

namespace Anchor

/-- The anchor of the lines after the marker line, where `offset` bytes come before them. -/
def afterMarker (offset : Nat) : List Text.Line → Except HeaderError Anchor
  | [] => .error .noPackageClause
  | l :: rest =>
    if isFiller l.text then afterMarker (offset + l.size) rest
    else match clausePackage? l.text with
      | some package => .ok ⟨package, offset + l.size, l.terminated⟩
      | none => .error .noPackageClause

/-- The anchor of lines that may come before the marker line, where `offset` bytes come before
them. -/
def ofLines (offset : Nat) : List Text.Line → Except HeaderError Anchor
  | [] => .error .noMarker
  | l :: rest =>
    if isMarker l.text then afterMarker (offset + l.size) rest
    else if isFiller l.text then ofLines (offset + l.size) rest
    else .error .noMarker

/-- The anchor of a text. -/
def ofText (content : Text) : Except HeaderError Anchor :=
  ofLines 0 content.lines

end Anchor

end GeneratedFile

end GoOptional
