import GoOptional.Text.Basic

/-!
# JSON numbers

The numbers of JSON, read one character after the other, and which of them are too large for
binary floating point of 64 bits.

## Main definitions

* `Json.Numeral`: the part of a number that has been read
* `Json.Numeral.next`: what a character makes of it
* `Json.Numeral.isTooLarge`: numbers beyond the largest finite one of 64 bits
-/

namespace GoOptional.Json

/-- The part of a number that was read last. -/
inductive Numeral.Phase where
  /-- The minus sign. -/
  | minus
  /-- A zero before the point. -/
  | zero
  /-- A digit before the point. -/
  | whole
  /-- The point. -/
  | point
  /-- A digit after the point. -/
  | fraction
  /-- The letter before the exponent. -/
  | mark
  /-- The sign of the exponent. -/
  | exponentSign
  /-- A digit of the exponent. -/
  | exponent
  deriving DecidableEq, Repr

/-- A number, or the beginning of one. -/
structure Numeral where
  /-- The part that was read last. -/
  phase : Numeral.Phase
  /-- The digits before the exponent, as many as fit in 64 bits. -/
  significand : Nat
  /-- Whether digits of the present part were left out of the significand. -/
  full : Bool
  /-- The power of ten of the last digit of the significand, without the exponent. -/
  scale : Int
  /-- Whether the exponent has a minus sign. -/
  negative : Bool
  /-- The digits of the exponent. -/
  exponent : Nat
  deriving DecidableEq, Repr

namespace Numeral

/-- The value of a decimal digit. -/
def digit? (c : Char) : Option Nat :=
  if '0' ≤ c ∧ c ≤ '9' then some (c.toNat - '0'.toNat) else none

/-- The number that a character begins. -/
def begin? (c : Char) : Option Numeral :=
  if c = '-' then some ⟨.minus, 0, false, 0, false, 0⟩
  else if c = '0' then some ⟨.zero, 0, false, 0, false, 0⟩
  else (digit? c).map fun d => ⟨.whole, d, false, 0, false, 0⟩

/-- A digit before the point: one that does not fit raises the scale. -/
def addWhole (n : Numeral) (d : Nat) : Numeral :=
  if n.full || Nat.pow 2 64 ≤ n.significand * 10 + d then
    { n with phase := .whole, full := true, scale := n.scale + 1 }
  else { n with phase := .whole, significand := n.significand * 10 + d }

/-- A digit after the point: one that does not fit, and all after it, are dropped. -/
def addFraction (n : Numeral) (d : Nat) : Numeral :=
  if n.full || Nat.pow 2 64 ≤ n.significand * 10 + d then
    { n with phase := .fraction, full := true }
  else { n with phase := .fraction, significand := n.significand * 10 + d, scale := n.scale - 1 }

/-- A digit of the exponent. -/
def addExponent (n : Numeral) (d : Nat) : Numeral :=
  { n with phase := .exponent, exponent := n.exponent * 10 + d }

/-- What a character makes of the beginning of a number. -/
inductive Next where
  /-- The number goes on with the character. -/
  | more (n : Numeral)
  /-- The number is complete without the character. -/
  | complete
  /-- No number goes on like this. -/
  | malformed
  deriving DecidableEq, Repr

/-- The number after the letter of the exponent, or the end of the number. -/
def markOrEnd (n : Numeral) (c : Char) : Next :=
  if c = 'e' ∨ c = 'E' then .more { n with phase := .mark } else .complete

/-- The number after the point, or after the letter of the exponent, or the end of the number. -/
def pointOrEnd (n : Numeral) (c : Char) : Next :=
  if c = '.' then .more { n with phase := .point, full := false } else markOrEnd n c

/-- What a character makes of the beginning of a number. -/
def next (n : Numeral) (c : Char) : Next :=
  match n.phase, digit? c with
  | .minus, some d =>
    if d = 0 then .more { n with phase := .zero }
    else .more { n with phase := .whole, significand := d }
  | .minus, none => .malformed
  | .zero, some _ => .malformed
  | .zero, none => pointOrEnd n c
  | .whole, some d => .more (n.addWhole d)
  | .whole, none => pointOrEnd n c
  | .point, some d => .more (n.addFraction d)
  | .point, none => .malformed
  | .fraction, some d => .more (n.addFraction d)
  | .fraction, none => markOrEnd n c
  | .mark, some d => .more (n.addExponent d)
  | .mark, none =>
    if c = '+' then .more { n with phase := .exponentSign }
    else if c = '-' then .more { n with phase := .exponentSign, negative := true }
    else .malformed
  | .exponentSign, some d => .more (n.addExponent d)
  | .exponentSign, none => .malformed
  | .exponent, some d => .more (n.addExponent d)
  | .exponent, none => .complete

/-- Whether the number may end after what has been read. -/
def isComplete (n : Numeral) : Bool :=
  match n.phase with
  | .zero => true
  | .whole => true
  | .fraction => true
  | .exponent => true
  | .minus => false
  | .point => false
  | .mark => false
  | .exponentSign => false

/-! ## Range -/

/-- A number rounded to 53 binary digits; of two nearest, the one with an even last digit. -/
def roundTo53 (n : Nat) : Nat :=
  let unit := Nat.pow 2 (n.log2 + 1 - 53)
  let kept := n / unit
  let lost := 2 * (n % unit)
  if unit < lost ∨ (lost = unit ∧ kept % 2 = 1) then (kept + 1) * unit else kept * unit

/-- The power of ten of the last digit of the significand. -/
def power (n : Numeral) : Int :=
  if n.negative then n.scale - n.exponent else n.scale + n.exponent

/-- A number is too large when its significand and its power of ten, each rounded, have a product
that rounds to more than every finite number of 64 bits. -/
def isTooLarge (n : Numeral) : Bool :=
  -- zero is never too large, whatever its exponent
  n.significand != 0 && (308 < n.power || (0 ≤ n.power &&
    Nat.pow 2 1024 ≤
      roundTo53 (roundTo53 n.significand * roundTo53 (Nat.pow 10 n.power.toNat))))

end Numeral

end GoOptional.Json
