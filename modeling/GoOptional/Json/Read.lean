import GoOptional.Json.Token

/-!
# Reading JSON values

What the tokens of a JSON text say to a reader that expects a text, a truth value, or any value
at all.

## Main definitions

* `Json.ReadError`: why a text cannot be read
* `Json.Token.text`, `Json.Token.boolean`: a token where a text or a truth value is expected
* `Json.Skip`, `Json.Skip.step`: passing over a value of any form, however deep
-/

namespace GoOptional.Json

/-- Why a text cannot be read. -/
inductive ReadError where
  /-- It is not JSON. -/
  | malformed
  /-- It is JSON, but does not say what is expected. -/
  | mismatched
  /-- It ends too early. -/
  | truncated
  deriving DecidableEq, Repr

/-! ## Strings -/

/-- The first code of a surrogate pair. -/
def isHighSurrogate (n : Nat) : Bool :=
  0xD800 ≤ n && n < 0xDC00

/-- The second code of a surrogate pair. -/
def isLowSurrogate (n : Nat) : Bool :=
  0xDC00 ≤ n && n < 0xE000

/-- The character of a surrogate pair. -/
def pairChar (high low : Nat) : Char :=
  Char.ofNat ((high - 0xD800) * 0x400 + (low - 0xDC00) + 0x10000)

/-- What is wrong with a string that ends in the middle of a surrogate pair. -/
def StringEnd.unpaired : StringEnd → ReadError
  | .closed => .malformed
  | .broken => .malformed
  | .cut => .truncated

/-- The text of the units of a string that follow the characters `done`, last first. Codes of
surrogates count in pairs only. -/
def textAfter (ending : StringEnd) (done : Text) : List StringUnit → Except ReadError Text
  | [] =>
    match ending with
    | .closed => .ok done.reverse
    | .broken => .error .malformed
    | .cut => .error .truncated
  | .char c :: rest => textAfter ending (c :: done) rest
  | .code n :: rest =>
    if isLowSurrogate n then .error .malformed
    else if isHighSurrogate n then
      match rest with
      | [] => .error ending.unpaired
      | .char _ :: _ => .error .malformed
      | .code m :: rest =>
        if isLowSurrogate m then textAfter ending (pairChar n m :: done) rest
        else .error .malformed
    else textAfter ending (Char.ofNat n :: done) rest

/-- The text of a string. -/
def stringText (units : List StringUnit) (ending : StringEnd) : Except ReadError Text :=
  textAfter ending [] units

namespace Token

/-- What is wrong with a token where a value of another kind is expected. -/
def mismatch : Token → ReadError
  | .objectOpen => .mismatched
  | .arrayOpen => .mismatched
  | .word _ => .mismatched
  | .number n => if n.isTooLarge then .malformed else .mismatched
  | .string units ending =>
    match stringText units ending with
    | .ok _ => .mismatched
    | .error e => e
  | .cutWord => .truncated
  | .cutNumber => .truncated
  | .objectClose => .malformed
  | .arrayClose => .malformed
  | .colon => .malformed
  | .comma => .malformed
  | .malformed => .malformed

/-- The token where a text is expected. -/
def text : Token → Except ReadError Text
  | .string units ending => stringText units ending
  | t => .error t.mismatch

/-- The token where a truth value is expected. -/
def boolean : Token → Except ReadError Bool
  | .word .yes => .ok true
  | .word .no => .ok false
  | t => .error t.mismatch

end Token

/-! ## Values that are passed over -/

/-- What encloses a value. -/
inductive Frame where
  /-- An array. -/
  | array
  /-- An object. -/
  | object
  deriving DecidableEq, Repr

/-- What comes next in a value that is passed over. -/
inductive Want where
  /-- A value. -/
  | value
  /-- The first element of an array, or its end. -/
  | element
  /-- The first key of an object, or its end. -/
  | member
  /-- A key of an object. -/
  | key
  /-- The colon after a key. -/
  | colon
  /-- A comma, or the end of what encloses the last value. -/
  | separator
  deriving DecidableEq, Repr

/-- The state of passing over a value. -/
structure Skip where
  /-- What comes next. -/
  want : Want
  /-- What encloses it, innermost first. -/
  frames : List Frame
  deriving DecidableEq, Repr

namespace Skip

/-- Before the value. -/
def start : Skip :=
  ⟨.value, []⟩

/-- After the value. -/
def isDone (s : Skip) : Bool :=
  s == ⟨.separator, []⟩

/-- After a string that is passed over. -/
def afterString (next : Want) (frames : List Frame) : StringEnd → Except ReadError Skip
  | .closed => .ok ⟨next, frames⟩
  | .broken => .error .malformed
  | .cut => .error .truncated

/-- A token where a value is wanted. -/
def value (frames : List Frame) : Token → Except ReadError Skip
  | .objectOpen => .ok ⟨.member, .object :: frames⟩
  | .arrayOpen => .ok ⟨.element, .array :: frames⟩
  | .word _ => .ok ⟨.separator, frames⟩
  | .number _ => .ok ⟨.separator, frames⟩
  | .string _ ending => afterString .separator frames ending
  | .cutWord => .error .truncated
  | .cutNumber => .error .malformed
  | .objectClose => .error .malformed
  | .arrayClose => .error .malformed
  | .colon => .error .malformed
  | .comma => .error .malformed
  | .malformed => .error .malformed

/-- A token where a key is wanted. -/
def key (frames : List Frame) : Token → Except ReadError Skip
  | .string _ ending => afterString .colon frames ending
  | _ => .error .malformed

/-- A token after a value. -/
def separator : List Frame → Token → Except ReadError Skip
  | .array :: frames, .comma => .ok ⟨.value, .array :: frames⟩
  | .array :: frames, .arrayClose => .ok ⟨.separator, frames⟩
  | .object :: frames, .comma => .ok ⟨.key, .object :: frames⟩
  | .object :: frames, .objectClose => .ok ⟨.separator, frames⟩
  | _, _ => .error .malformed

/-- The state after a token. -/
def step (s : Skip) (t : Token) : Except ReadError Skip :=
  match s.want with
  | .value => value s.frames t
  | .element => if t = .arrayClose then .ok ⟨.separator, s.frames.tail⟩ else value s.frames t
  | .member => if t = .objectClose then .ok ⟨.separator, s.frames.tail⟩ else key s.frames t
  | .key => key s.frames t
  | .colon => if t = .colon then .ok ⟨.value, s.frames⟩ else .error .malformed
  | .separator => separator s.frames t

end Skip

end GoOptional.Json
