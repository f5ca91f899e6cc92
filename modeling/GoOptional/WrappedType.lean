import GoOptional.Text.Case

/-!
# Wrapped types

The Go type that an optional wraps, as its user wrote it. The generator never interprets the
text; it only reads off it whether the type is a pointer, which package qualifies it, and which
name stands last.

## Main definitions

* `WrappedType`: the descriptor of a type
* `WrappedType.isPointer`, `WrappedType.qualifier?`, `WrappedType.lastName`: what is read off it
* `WrappedType.suggestedName`: the name of an optional whose user gave none
-/

namespace GoOptional

/-- The type that an optional wraps: `int`, `*T`, `*os.File`. -/
structure WrappedType where
  /-- The type as its user wrote it. -/
  descriptor : Text
  deriving DecidableEq, Repr

namespace WrappedType

/-- A type is a pointer when a star comes first, after blanks. -/
def isPointer (t : WrappedType) : Bool :=
  t.descriptor.trimStart.head? == some '*'

/-- The type without the blanks around it and the stars before it. -/
def pointee (t : WrappedType) : Text :=
  t.descriptor.trim.dropWhile (· == '*')

/-- The package that qualifies the type: `os` for `*os.File`. -/
def qualifier? (t : WrappedType) : Option Text :=
  match t.pointee.splitLast? '.' with
  | some (qualifier, _) => if qualifier.isEmpty then none else some qualifier
  | none => none

/-- The last name of the type: `File` for `*os.File`. -/
def lastName (t : WrappedType) : Text :=
  t.pointee.afterLast '.'

/-- The name of an optional whose user gave none: the last name of the type, capitalized. -/
def suggestedName (t : WrappedType) : Text :=
  t.lastName.capitalize

end WrappedType

end GoOptional
