import GoOptional.WrappedType

/-!
# Requests

What one generation is asked to produce.

## Main definitions

* `Request`: the package, the name, the type and the imports of a unit
* `Request.fresh`, `Request.importing`, `Request.appending`: building a request
* `Request.missingPackage?`: the package of the type that no import provides
-/

namespace GoOptional

/-- What one generation is asked to produce. -/
structure Request where
  /-- The package that a fresh file declares. -/
  package : Text
  /-- The name of the optional: `Count` for `OptionalCount`. -/
  name : Text
  /-- The type that the optional wraps. -/
  type : WrappedType
  /-- The import paths of the unit, in the order in which they are written. -/
  imports : List Text
  /-- Whether the units that are already in the file are kept. -/
  append : Bool
  deriving DecidableEq, Repr

namespace Request

/-- A request without imports, for a fresh file. -/
def fresh (package name : Text) (type : WrappedType) : Request :=
  ⟨package, name, type, [], false⟩

/-- The request with the given imports in place of its own. -/
def importing (r : Request) (imports : List Text) : Request :=
  { r with imports }

/-- The request with the given choice of keeping what is in the file. -/
def appending (r : Request) (append : Bool) : Request :=
  { r with append }

/-- The package that qualifies the type, if it is the last part of no import path. -/
def missingPackage? (r : Request) : Option Text :=
  r.type.qualifier?.filter fun q => !r.imports.any fun path => path.afterLast '/' == q

end Request

end GoOptional
