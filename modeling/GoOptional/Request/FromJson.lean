import GoOptional.Json.Read
import GoOptional.Request.ToJson

/-!
# Requests from JSON

A request is read from an object that has the five fields as members, in any order and among
any other members, or from an array of the five fields in the order of their declaration. The
text is read from left to right, and the first problem counts.

## Main definitions

* `Request.Draft`: the fields that have been read
* `Request.Reader.step`: what a token adds to them
* `Request.fromJson`: the request of a JSON text
-/

namespace GoOptional.Request

open Json (ReadError Token Skip)

/-- The fields of a request that have been read. -/
structure Draft where
  /-- The package. -/
  package : Option Text
  /-- The name of the optional. -/
  name : Option Text
  /-- The type. -/
  type : Option Text
  /-- The import paths. -/
  imports : Option (List Text)
  /-- Whether units are kept. -/
  append : Option Bool
  deriving DecidableEq, Repr

namespace Draft

/-- The draft of a request of which nothing has been read. -/
def empty : Draft :=
  ⟨none, none, none, none, none⟩

/-- Whether a field has been read. -/
def has (d : Draft) : Field → Bool
  | .package => d.package.isSome
  | .name => d.name.isSome
  | .type => d.type.isSome
  | .imports => d.imports.isSome
  | .append => d.append.isSome

/-- The request of a draft that has all fields. -/
def request? (d : Draft) : Option Request :=
  match d with
  | ⟨some package, some name, some type, some imports, some append⟩ =>
    some ⟨package, name, ⟨type⟩, imports, append⟩
  | _ => none

end Draft

/-- What comes next in the text of a request. -/
inductive Expected where
  /-- The object or the array. -/
  | document
  /-- The first key of the object, or its end. -/
  | member
  /-- A key of the object. -/
  | key
  /-- The colon after the key of a field, or after another key. -/
  | colon (field : Option Field)
  /-- A comma between members, or the end of the object. -/
  | memberEnd
  /-- The first element of the array, or its end. -/
  | element
  /-- A comma before the element of a field, or the end of the array. -/
  | elementEnd (field : Option Field)
  /-- The value of a field. -/
  | value (field : Field)
  /-- The first import path, or the end of their array, after the paths `done`, last first. -/
  | firstImport
  /-- An import path. -/
  | nextImport (done : List Text)
  /-- A comma between import paths, or the end of their array. -/
  | importEnd (done : List Text)
  /-- The rest of a value that is passed over. -/
  | skipped (skip : Skip)
  /-- Nothing. -/
  | nothing
  deriving DecidableEq, Repr

/-- The state of reading a request. -/
structure Reader where
  /-- The fields that have been read. -/
  draft : Draft
  /-- Whether the fields are elements of an array. -/
  listed : Bool
  /-- What comes next. -/
  expected : Expected
  deriving DecidableEq, Repr

namespace Reader

/-- Before the text. -/
def start : Reader :=
  ⟨.empty, false, .document⟩

/-- The state in which something else comes next. -/
def expecting (r : Reader) (expected : Expected) : Reader :=
  { r with expected }

/-- The state after a draft has got the value of a field. -/
def afterValue (r : Reader) (field : Field) (draft : Draft) : Reader :=
  ⟨draft, r.listed, if r.listed then .elementEnd field.next? else .memberEnd⟩

/-- The end of the text's object or array: no field may be missing. -/
def complete (r : Reader) : Except ReadError Reader :=
  if r.draft.request?.isSome then .ok (r.expecting .nothing) else .error .mismatched

/-- A key of the object: no field may come twice. -/
def afterKey (r : Reader) (t : Token) : Except ReadError Reader :=
  match t with
  | .string units ending =>
    match Json.stringText units ending with
    | .error e => .error e
    | .ok key =>
      match Field.ofKey? key with
      | none => .ok (r.expecting (.colon none))
      | some field =>
        if r.draft.has field then .error .mismatched else .ok (r.expecting (.colon (some field)))
  | _ => .error .malformed

/-- The value of a field, or its beginning. -/
def afterField (r : Reader) (field : Field) (t : Token) : Except ReadError Reader :=
  match field with
  | .package =>
    t.text.map fun s => r.afterValue field { r.draft with package := some s }
  | .name =>
    t.text.map fun s => r.afterValue field { r.draft with name := some s }
  | .type =>
    t.text.map fun s => r.afterValue field { r.draft with type := some s }
  | .append =>
    t.boolean.map fun b => r.afterValue field { r.draft with append := some b }
  | .imports =>
    if t = .arrayOpen then .ok (r.expecting .firstImport) else .error t.mismatch

/-- The end of the import paths. -/
def afterImports (r : Reader) (done : List Text) : Reader :=
  r.afterValue .imports { r.draft with imports := some done.reverse }

/-- An import path. -/
def afterImport (r : Reader) (done : List Text) (t : Token) : Except ReadError Reader :=
  t.text.map fun path => r.expecting (.importEnd (path :: done))

/-- A token of a value that is passed over. -/
def afterSkipped (r : Reader) (skip : Skip) (t : Token) : Except ReadError Reader :=
  (skip.step t).map fun skip => r.expecting (if skip.isDone then .memberEnd else .skipped skip)

/-- The state after a token. -/
def step (r : Reader) (t : Token) : Except ReadError Reader :=
  match r.expected with
  | .document =>
    if t = .objectOpen then .ok (r.expecting .member)
    else if t = .arrayOpen then .ok ⟨r.draft, true, .element⟩
    else .error t.mismatch
  | .member => if t = .objectClose then r.complete else r.afterKey t
  | .key => r.afterKey t
  | .colon field =>
    if t = .colon then
      match field with
      | some field => .ok (r.expecting (.value field))
      | none => .ok (r.expecting (.skipped .start))
    else .error .malformed
  | .memberEnd =>
    if t = .comma then .ok (r.expecting .key)
    else if t = .objectClose then r.complete
    else .error .malformed
  | .element => if t = .arrayClose then r.complete else r.afterField .package t
  | .elementEnd (some field) =>
    if t = .comma then .ok (r.expecting (.value field))
    else if t = .arrayClose then r.complete
    else .error .malformed
  | .elementEnd none => if t = .arrayClose then r.complete else .error .malformed
  | .value field => r.afterField field t
  | .firstImport => if t = .arrayClose then .ok (r.afterImports []) else r.afterImport [] t
  | .nextImport done => r.afterImport done t
  | .importEnd done =>
    if t = .comma then .ok (r.expecting (.nextImport done))
    else if t = .arrayClose then .ok (r.afterImports done)
    else .error .malformed
  | .skipped skip => r.afterSkipped skip t
  | .nothing => .error .malformed

/-- The request at the end of the text. -/
def finish (r : Reader) : Except ReadError Request :=
  match r.expected, r.draft.request? with
  | .nothing, some request => .ok request
  | _, _ => .error .truncated

end Reader

/-- The request that tokens describe. -/
def ofTokens (ts : List Token) : Except ReadError Request :=
  match ts.foldlM Reader.step Reader.start with
  | .error e => .error e
  | .ok r => r.finish

/-- The request of a JSON text. -/
def fromJson (s : Text) : Except ReadError Request :=
  ofTokens (Json.tokens s)

end GoOptional.Request
