import GoOptional.Text.Utf8

/-!
# Paths

A path is a list of bytes, in which slashes separate the names of directories and files. A path
is kept as it was given: what it names depends on the links in the tree.

## Main definitions

* `Path`, `Path.steps`: a path, and the steps that lead along it
* `Path.parent`: the path without its last name, as it is spelled
* `Path.join`: a path that starts where another one leads
* `Path.display`: a path in a message
-/

namespace GoOptional

/-- A path: names with slashes between them. -/
abbrev Path := Bytes

namespace Path

/-- The byte of a slash. -/
def slash : UInt8 :=
  47

/-- The name of a directory in itself. -/
def dot : Bytes :=
  [46]

/-- The name of a directory's parent in itself. -/
def dotDot : Bytes :=
  [46, 46]

/-- A path that starts at the root. -/
def isAbsolute (p : Path) : Bool :=
  p.head? == some slash

/-- The pieces of the path that starts with the given byte, from those of the rest. -/
def addToPieces (b : UInt8) (pieces : List Bytes) : List Bytes :=
  if b = slash then [] :: pieces
  else match pieces with
    | [] => [[b]]
    | p :: rest => (b :: p) :: rest

/-- The pieces of a path between its slashes; some may be empty. -/
def pieces (p : Path) : List Bytes :=
  p.foldr addToPieces [[]]

/-- A path from its pieces. -/
def ofPieces (pieces : List Bytes) : Path :=
  (pieces.intersperse [slash]).flatten

/-! ## Steps -/

/-- A step along a path. -/
inductive Step where
  /-- Stay in the directory. -/
  | here
  /-- Go to the parent of the directory. -/
  | up
  /-- Go to an entry of the directory. -/
  | down (name : Bytes)
  deriving DecidableEq, Repr

/-- The step of a piece; an empty piece is no step. -/
def step? (piece : Bytes) : Option Step :=
  if piece.isEmpty then none
  else if piece = dot then some .here
  else if piece = dotDot then some .up
  else some (.down piece)

/-- Whether the path ends with a slash. -/
def endsWithSlash (p : Path) : Bool :=
  p.getLast? == some slash

/-- The steps along a path. A slash at the end is a step of its own: what comes before it must be
a directory. -/
def steps (p : Path) : List Step :=
  p.pieces.filterMap step? ++ if p.endsWithSlash then [.here] else []

/-! ## The parent as it is spelled -/

/-- The pieces, last first, without those at the end of the path that lead nowhere. The piece of
the directory itself counts only at the start of a relative path. -/
def trimPieces (absolute : Bool) : List Bytes → List Bytes
  | [] => []
  | p :: rest =>
    if p.isEmpty || (p = dot && (absolute || !rest.isEmpty)) then trimPieces absolute rest
    else p :: rest

/-- The path without its last name, as it is spelled, and without the slashes before the name;
the directory itself where there is no other name. -/
def parent (p : Path) : Path :=
  let body := if p.isAbsolute then p.pieces.tail else p.pieces
  match trimPieces p.isAbsolute body.reverse with
  | [] => dot
  | _ :: rest =>
    let start := if p.isAbsolute then [slash] else []
    let spelled := start ++ ofPieces (trimPieces p.isAbsolute rest).reverse
    if spelled.isEmpty then dot else spelled

/-! ## Paths below other paths -/

/-- The path that starts where another one leads; an absolute path starts at the root. -/
def join (base p : Path) : Path :=
  if p.isAbsolute then p
  else if base.isEmpty || base.endsWithSlash then base ++ p
  else base ++ slash :: p

/-! ## Messages -/

/-- The path in a message: parts that are no text show as U+FFFD. -/
def display (p : Path) : Text :=
  Utf8.decodeLossy p

end Path

end GoOptional
