import GoOptional.Character.Letter
import GoOptional.Character.Number
import GoOptional.Text.Basic

/-!
# The lines of a header

The three kinds of lines that matter before the code of a generated file: blank lines and
comments, the marker line, and the package clause.

## Main definitions

* `GeneratedFile.isFiller`: lines that a header may have anywhere
* `GeneratedFile.isMarker`: the line that marks a file as generated
* `GeneratedFile.clausePackage?`: the package that a package clause declares
* `GeneratedFile.isIdentifier`: the names that a package can have
-/

namespace GoOptional.GeneratedFile

/-- A line that is blank or holds only a comment. -/
def isFiller (line : Text) : Bool :=
  line.trim.isEmpty || "//".toList.isPrefixOf line.trim

/-- The marker line of Go's convention, whatever the generator: nothing stands before the first
words or after the last ones, but perhaps a carriage return at the end. -/
def isMarker (line : Text) : Bool :=
  match line.dropStart? "// Code generated ".toList with
  | none => false
  | some rest =>
    " DO NOT EDIT.".toList.isSuffixOf rest || " DO NOT EDIT.\r".toList.isSuffixOf rest

/-! ## The package clause -/

/-- A space or a tab. -/
def isSpace (c : Char) : Bool :=
  c == ' ' || c == '\t'

/-- A character that an identifier can start with. -/
def isIdentifierStart (c : Char) : Bool :=
  Character.isLetter c || c == '_'

/-- A character that an identifier can go on with. -/
def isIdentifierPart (c : Char) : Bool :=
  Character.isLetter c || Character.isNumber c || c == '_'

/-- An identifier: a letter or an underscore, then letters, numbers and underscores. -/
def isIdentifier : Text → Bool
  | [] => false
  | c :: s => isIdentifierStart c && s.all isIdentifierPart

/-- What may follow the package name: spaces, then perhaps a comment, then perhaps a carriage
return. A comment reaches to the end of the line. -/
def isClauseEnd (rest : Text) : Bool :=
  let rest := rest.dropWhile isSpace
  rest.isEmpty || rest == ['\r'] || "//".toList.isPrefixOf rest

/-- The identifier at the start of a text, if what follows it may follow a package name. -/
def clauseName? (s : Text) : Option Text :=
  let name := s.takeWhile isIdentifierPart
  if isIdentifier name && isClauseEnd (s.dropWhile isIdentifierPart) then some name else none

/-- The package that a line declares: the keyword, at least one space, and the name. -/
def clausePackage? (line : Text) : Option Text :=
  match line.dropStart? "package".toList with
  | none => none
  | some rest =>
    if (rest.takeWhile isSpace).isEmpty then none else clauseName? (rest.dropWhile isSpace)

end GoOptional.GeneratedFile
