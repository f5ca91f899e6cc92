import GoOptional.Character.CaseTable
import GoOptional.Text.Basic

/-!
# Letter case

The full case mappings of Unicode, in which a character may become several, and the rule for
the final sigma.

## Main definitions

* `Character.toUpper`, `Character.toLower`: the full mappings of a character
* `Text.capitalize`: a text with its first character in upper case
* `Text.toLower`: a text in lower case

## Main results

* `Text.capitalize_eq_nil_iff`: capitalizing makes no text empty
-/

namespace GoOptional

namespace CaseRun

/-- The code point that a code point of the run becomes. -/
def map? (r : CaseRun) (code : Nat) : Option Nat :=
  if r.first ≤ code ∧ code ≤ r.last ∧ (code - r.first) % r.stride = 0 then
    some (code + r.shift).toNat
  else none

end CaseRun

namespace Character

/-- The mapping given by a table of expansions and a table of runs; a character that is in
neither stands for itself. -/
def mapCase (expansions : List (Nat × List Nat)) (runs : List CaseRun) (c : Char) : Text :=
  match expansions.lookup c.toNat with
  | some codes => codes.map Char.ofNat
  | none =>
    match runs.findSome? (·.map? c.toNat) with
    | some code => [Char.ofNat code]
    | none => [c]

/-- The full upper-case mapping of a character. -/
def toUpper (c : Char) : Text :=
  mapCase upperExpansions upperRuns c

/-- The full lower-case mapping of a character, wherever it stands. -/
def toLower (c : Char) : Text :=
  mapCase lowerExpansions lowerRuns c

/-- The upper-case form of a character has at least one character. -/
theorem toUpper_ne_nil (c : Char) : toUpper c ≠ [] := by
  unfold toUpper mapCase
  split
  · next codes h =>
    have hall : ∀ e ∈ upperExpansions, e.2 ≠ [] := by decide
    have hmem : (c.toNat, codes) ∈ upperExpansions := by
      obtain ⟨l₁, l₂, h, -⟩ := List.lookup_eq_some_iff.1 h
      simp [h]
    simpa using hall _ hmem
  · split <;> simp

end Character

namespace Text

/-- The text with its first character in upper case. -/
def capitalize : Text → Text
  | [] => []
  | c :: s => Character.toUpper c ++ s

/-- Capitalizing makes no text empty. -/
theorem capitalize_eq_nil_iff {s : Text} : capitalize s = [] ↔ s = [] := by
  cases s with
  | nil => simp [capitalize]
  | cons c s => simp [capitalize, Character.toUpper_ne_nil]

/-- Whether a cased letter comes first, after characters that case ignores. -/
def startsCased (s : Text) : Bool :=
  match s.dropWhile Character.caseIgnorable.contains with
  | [] => false
  | c :: _ => Character.cased.contains c

/-- The lower-case form of a character between the characters before it, last first, and those
after it. A capital sigma becomes a final sigma at the end of a word. -/
def lowerAt (before : Text) (c : Char) (after : Text) : Text :=
  if c = 'Σ' then
    -- a word reaches over characters that case ignores, on both sides
    if startsCased before && !startsCased after then ['ς'] else ['σ']
  else Character.toLower c

/-- The lower-case form of the text after the characters `before`, last first. -/
def lowerAfter (before : Text) : Text → Text
  | [] => []
  | c :: s => lowerAt before c s ++ lowerAfter (c :: before) s

/-- The text in lower case. -/
def toLower (s : Text) : Text :=
  lowerAfter [] s

end Text

end GoOptional
