import GoOptional.GeneratedFile.Anchor
import GoOptional.GeneratedFile.Parts
import GoOptional.Request

/-!
# Updating a generated file

A request either replaces what a file holds or adds a unit after it. An added unit keeps every
byte that was there: its imports go right after the package clause, and the unit itself goes to
the end.

## Main definitions

* `GeneratedFile.UpdateError`: why nothing can be added to a file
* `GeneratedFile.Update`: the new content, and what became of the old one
* `GeneratedFile.update`: the content after a request
* `GeneratedFile.updateAll`: the answers to requests that follow each other
-/

namespace GoOptional.GeneratedFile

/-- Why nothing can be added to a file. -/
inductive UpdateError where
  /-- The file has no header of a generated file. -/
  | badHeader (error : HeaderError)
  /-- The file has a carriage return before a line feed. -/
  | crlf
  /-- The file is not UTF-8. -/
  | notUtf8 (fault : Utf8.Fault)
  deriving DecidableEq, Repr

/-- The error in words. -/
def UpdateError.message : UpdateError → Text
  | .badHeader .noMarker =>
    "existing content has no \"// Code generated ... DO NOT EDIT.\" header".toList
  | .badHeader .noPackageClause =>
    "existing content has a generated-code header but no package clause after it".toList
  | .crlf => "existing content uses CRLF line endings; only LF files can be appended to".toList
  | .notUtf8 fault => "existing content is not valid UTF-8: ".toList ++ fault.message

/-- What becomes of the old content. -/
inductive Policy where
  /-- The old content is dropped. -/
  | discard
  /-- The new content holds the old one. -/
  | keep
  deriving DecidableEq, Repr

/-- Whether the old content is dropped. -/
def Policy.dropsOld : Policy → Bool
  | .discard => true
  | .keep => false

/-- What comes of a request. -/
structure Update where
  /-- The new content of the file. -/
  content : Bytes
  /-- What becomes of the old content. -/
  policy : Policy
  /-- The package that the old content declares, where it was looked at. -/
  oldPackage : Option Text
  deriving DecidableEq, Repr

/-! ## A fresh file -/

/-- The declarations of imports, in order. -/
def importBlock (imports : List Text) : Text :=
  imports.flatMap importDeclaration

/-- The unit of a request. -/
def unitOf (r : Request) : Text :=
  unit r.name r.type.descriptor

/-- The text of a file that holds one request. -/
def freshText (r : Request) : Text :=
  header r.package ++ importBlock r.imports ++ unitOf r

/-! ## Adding to a file -/

/-- Whether a carriage return comes before a line feed. -/
def hasCrlf : Text → Bool
  | [] => false
  | c :: s => (c == '\r' && s.head? == some '\n') || hasCrlf s

/-- The anchor of a file to which a unit is to be added. -/
def Anchor.ofBytes (existing : Bytes) : Except UpdateError Anchor :=
  match Utf8.decode existing with
  | .error fault => .error (.notUtf8 fault)
  | .ok content =>
    if hasCrlf content then .error .crlf
    else match Anchor.ofText content with
      | .error e => .error (.badHeader e)
      | .ok anchor => .ok anchor

/-- The byte of a line feed. -/
def lineFeed : UInt8 :=
  10

/-- The bytes without one line feed at their start. -/
def dropLineFeed : Bytes → Bytes
  | [] => []
  | b :: bs => if b = lineFeed then bs else b :: bs

/-- Imports between what a file holds up to its package line and the rest: an empty line sets
them off from the package line. -/
def insertImports (imports : List Text) (terminated : Bool) (head rest : Bytes) : Bytes :=
  if imports.isEmpty then head ++ rest
  -- the last import brings an empty line, which takes the place of the one that was there
  else head ++ (if terminated then [] else [lineFeed]) ++ [lineFeed] ++
    Utf8.encode (importBlock imports) ++ dropLineFeed rest

/-- The line feeds that bytes lack to end with an empty line. -/
def separator (bs : Bytes) : Bytes :=
  if [lineFeed, lineFeed].isSuffixOf bs then []
  else if [lineFeed].isSuffixOf bs then [lineFeed]
  else [lineFeed, lineFeed]

/-- The bytes of a file after the imports of a request were added to it. -/
def addImports (r : Request) (anchor : Anchor) (existing : Bytes) : Bytes :=
  insertImports r.imports anchor.terminated (existing.take anchor.offset)
    (existing.drop anchor.offset)

/-- The bytes of a file after a request was added to it. -/
def add (r : Request) (anchor : Anchor) (existing : Bytes) : Bytes :=
  addImports r anchor existing ++ separator (addImports r anchor existing) ++
    Utf8.encode (unitOf r)

/-- What comes of a request to a file that holds the given bytes. -/
def update (r : Request) (existing : Bytes) : Except UpdateError Update :=
  if r.append then
    match Anchor.ofBytes existing with
    | .error e => .error e
    | .ok anchor => .ok ⟨add r anchor existing, .keep, some anchor.package⟩
  else .ok ⟨Utf8.encode (freshText r), .discard, none⟩

/-! ## Requests that follow each other -/

/-- The content of a file after a request to it: one that fails leaves it. -/
def contentAfter (existing : Bytes) (r : Request) : Bytes :=
  match update r existing with
  | .error _ => existing
  | .ok outcome => outcome.content

/-- The answers to requests that follow each other on one file. -/
def updateAll (existing : Bytes) : List Request → List (Except UpdateError Update)
  | [] => []
  | r :: rs => update r existing :: updateAll (contentAfter existing r) rs

/-- The content of a file after requests that follow each other. -/
def contentAfterAll (existing : Bytes) (rs : List Request) : Bytes :=
  rs.foldl contentAfter existing

end GoOptional.GeneratedFile
