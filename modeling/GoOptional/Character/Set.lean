/-!
# Character sets

A set of characters given by the runs of its code points, as the Unicode data files give the
extent of a property.

## Main definitions

* `CharacterSet`: the runs
* `CharacterSet.contains`: membership
-/

namespace GoOptional

/-- A set of characters: the first and the last code point of each of its runs. -/
structure CharacterSet where
  /-- The runs, in ascending order. -/
  runs : List (Nat × Nat)

namespace CharacterSet

/-- A character belongs to the set when its code point lies in one of the runs. -/
def contains (s : CharacterSet) (c : Char) : Bool :=
  s.runs.any fun r => r.1 ≤ c.toNat && c.toNat ≤ r.2

end CharacterSet

end GoOptional
