import GoOptional.Json.Value
import GoOptional.Request

/-!
# Requests as JSON

A request is written as an object whose members are its fields, in the order of their
declaration.

## Main definitions

* `Request.Field`, `Request.Field.key`: the fields of a request, and the keys of their members
* `Request.toValue`: the JSON value of a request
* `Request.toJson`: its form without whitespace
-/

namespace GoOptional.Request

/-- The fields of a request. -/
inductive Field where
  /-- The package. -/
  | package
  /-- The name of the optional. -/
  | name
  /-- The type. -/
  | type
  /-- The import paths. -/
  | imports
  /-- Whether units are kept. -/
  | append
  deriving DecidableEq, Repr

namespace Field

/-- The key of the member that holds a field. -/
def key : Field → Text
  | .package => "package_name".toList
  | .name => "option_name".toList
  | .type => "element_type".toList
  | .imports => "imports".toList
  | .append => "append".toList

/-- The fields in the order of their declaration. -/
def all : List Field :=
  [.package, .name, .type, .imports, .append]

/-- The field that a key stands for. -/
def ofKey? (key : Text) : Option Field :=
  all.find? fun f => f.key == key

/-- The field after a field. -/
def next? : Field → Option Field
  | .package => some .name
  | .name => some .type
  | .type => some .imports
  | .imports => some .append
  | .append => none

end Field

/-- The JSON value of a field of a request. -/
def fieldValue (r : Request) : Field → Json.Value
  | .package => .string r.package
  | .name => .string r.name
  | .type => .string r.type.descriptor
  | .imports => .array (r.imports.map .string)
  | .append => .boolean r.append

/-- The JSON value of a request. -/
def toValue (r : Request) : Json.Value :=
  .object (Field.all.map fun f => (f.key, r.fieldValue f))

/-- A request as JSON, without whitespace. -/
def toJson (r : Request) : Text :=
  r.toValue.compact

end GoOptional.Request
