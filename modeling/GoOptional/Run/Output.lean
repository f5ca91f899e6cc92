import GoOptional.Text.Case
import GoOptional.Text.Utf8

/-!
# The default output

The file that a run writes when its user names none.

## Main definitions

* `Run.outputFor`: the file for the name of an optional
-/

namespace GoOptional.Run

/-- The file of an optional whose user named none: `count_optional.go` for `Count`. -/
def outputFor (name : Text) : Bytes :=
  Utf8.encode (name.toLower ++ "_optional.go".toList)

end GoOptional.Run
