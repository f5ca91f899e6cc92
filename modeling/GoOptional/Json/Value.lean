import GoOptional.Text.Quoted
import GoOptional.Text.Utf8

/-!
# Writing JSON

The values that are written as JSON, and their two written forms.

## Main definitions

* `Json.Value`: the values
* `Json.quoted`: a text as a JSON string
* `Json.Value.compact`: the form without whitespace
* `Json.Value.pretty`: the form with a line for every element and every member
-/

namespace GoOptional.Json

/-- The values that are written as JSON. -/
inductive Value where
  /-- A text. -/
  | string (s : Text)
  /-- A truth value. -/
  | boolean (b : Bool)
  /-- A natural number. -/
  | number (n : Nat)
  /-- An array of values. -/
  | array (items : List Value)
  /-- An object with its members in order. -/
  | object (members : List (Text × Value))

/-! ## Strings -/

/-- A character of a string: the quotation mark, the backslash and the control characters are
written as escapes. -/
def escaped (c : Char) : Text :=
  if c = '"' then "\\\"".toList
  else if c = '\\' then "\\\\".toList
  else if c = '\x08' then "\\b".toList
  else if c = '\x0c' then "\\f".toList
  else if c = '\n' then "\\n".toList
  else if c = '\r' then "\\r".toList
  else if c = '\t' then "\\t".toList
  else if c.toNat < 0x20 then
    "\\u00".toList ++ [Nat.digitChar (c.toNat / 16), Nat.digitChar (c.toNat % 16)]
  else [c]

/-- A text as a JSON string. -/
def quoted (s : Text) : Text :=
  '"' :: s.flatMap escaped ++ ['"']

/-- A truth value as a JSON word. -/
def boolText (b : Bool) : Text :=
  if b then "true".toList else "false".toList

/-! ## Values -/

namespace Value

mutual

/-- The form without whitespace. -/
def compact : Value → Text
  | .string s => quoted s
  | .boolean b => boolText b
  | .number n => Text.ofNat n
  | .array items => '[' :: Text.join ",".toList (compactItems items) ++ "]".toList
  | .object members => '\x7b' :: Text.join ",".toList (compactMembers members) ++ "\x7d".toList

/-- The elements of an array without whitespace. -/
def compactItems : List Value → List Text
  | [] => []
  | v :: rest => v.compact :: compactItems rest

/-- The members of an object without whitespace. -/
def compactMembers : List (Text × Value) → List Text
  | [] => []
  | (key, v) :: rest => (quoted key ++ ':' :: v.compact) :: compactMembers rest

end

/-- The start of a line at a depth: two spaces for each level. -/
def newLine (depth : Nat) : Text :=
  '\n' :: List.replicate (2 * depth) ' '

/-- What an array or an object encloses, with a line for each part; nothing is enclosed without
a line. -/
def enclosed (depth : Nat) (parts : List Text) : Text :=
  if parts.isEmpty then []
  else newLine (depth + 1) ++ Text.join (',' :: newLine (depth + 1)) parts ++ newLine depth

mutual

/-- The form with a line for every element and every member, at a depth. -/
def prettyAt (depth : Nat) : Value → Text
  | .string s => quoted s
  | .boolean b => boolText b
  | .number n => Text.ofNat n
  | .array items => '[' :: enclosed depth (prettyItems (depth + 1) items) ++ "]".toList
  | .object members =>
    '\x7b' :: enclosed depth (prettyMembers (depth + 1) members) ++ "\x7d".toList

/-- The elements of an array at a depth. -/
def prettyItems (depth : Nat) : List Value → List Text
  | [] => []
  | v :: rest => v.prettyAt depth :: prettyItems depth rest

/-- The members of an object at a depth. -/
def prettyMembers (depth : Nat) : List (Text × Value) → List Text
  | [] => []
  | (key, v) :: rest =>
    (quoted key ++ ": ".toList ++ v.prettyAt depth) :: prettyMembers depth rest

end

/-- The form with a line for every element and every member. -/
def pretty (v : Value) : Text :=
  v.prettyAt 0

end Value

end GoOptional.Json
