import Mathlib
import GoOptional.Json.Token

/-!
# The grammar of JSON numbers

A number is read one character after the other, and only the phase tells what may come next. This
module says what numbers look like as a whole, part by part, and follows the phases through the
parts: every number is read to its end, and what comes after a number in a text ends it.

## Main definitions

* `Json.IsNumber`: what a number looks like
* `Json.Numeral.ofText?`: the number that a text is read as
* `Json.isDelimiter`: the characters that may come after a value

## Main results

* `Json.IsNumber.exists_ofText?`: every number is read to its end
* `Json.Numeral.next_of_isDelimiter`: a number ends before a delimiter
-/

namespace GoOptional.Json

/-! ## What numbers look like -/

/-- One digit or more. -/
def AreDigits (s : Text) : Prop :=
  s ≠ [] ∧ ∀ c ∈ s, '0' ≤ c ∧ c ≤ '9'

/-- The digits before the point: none comes after a zero at their start. -/
def IsWhole (s : Text) : Prop :=
  AreDigits s ∧ ∀ rest, s = '0' :: rest → rest = []

/-- Nothing, or a point and digits after it. -/
def IsFraction (s : Text) : Prop :=
  s = [] ∨ ∃ digits, s = '.' :: digits ∧ AreDigits digits

/-- Nothing, or the letter of the exponent, perhaps a sign, and digits. -/
def IsExponent (s : Text) : Prop :=
  s = [] ∨ ∃ mark sign digits, s = mark :: (sign ++ digits) ∧ (mark = 'e' ∨ mark = 'E') ∧
    (sign = [] ∨ sign = ['+'] ∨ sign = ['-']) ∧ AreDigits digits

/-- A number: perhaps a minus sign, digits, perhaps a fraction, perhaps an exponent. -/
def IsNumber (s : Text) : Prop :=
  ∃ sign whole fraction exponent, s = sign ++ whole ++ fraction ++ exponent ∧
    (sign = [] ∨ sign = ['-']) ∧ IsWhole whole ∧ IsFraction fraction ∧ IsExponent exponent

/-- The characters that may come after a value: whitespace, and the marks between values. -/
def isDelimiter (c : Char) : Bool :=
  Lexer.isSpace c || c == ',' || c == ':' || c == ']' || c == '\x7d'

namespace Numeral

/-- The number that goes on with a character, if it does. -/
def more? (n : Numeral) (c : Char) : Option Numeral :=
  match n.next c with
  | .more n => some n
  | .complete => none
  | .malformed => none

/-- The number that a text is read as. -/
def ofText? : Text → Option Numeral
  | [] => none
  | c :: s => (begin? c).bind fun n => s.foldlM more? n

variable {n n' : Numeral} {c : Char} {d : Nat} {s t : Text}

theorem next_of_more? (h : n.more? c = some n') : n.next c = .more n' := by
  unfold more? at h
  split at h
  · rename_i hnext
    rw [hnext, Option.some.inj h]
  · cases h
  · cases h

theorem ofText?_append (h : ofText? s = some n) : ofText? (s ++ t) = t.foldlM more? n := by
  cases s with
  | nil => cases h
  | cons c s =>
    rw [ofText?, Option.bind_eq_some_iff] at h
    obtain ⟨m, hm, hs⟩ := h
    rw [List.cons_append, ofText?, hm, Option.bind_some, List.foldlM_append, hs]
    rfl

/-! ## Digits -/

theorem exists_digit? (h : '0' ≤ c ∧ c ≤ '9') : ∃ d, digit? c = some d ∧ (d = 0 → c = '0') := by
  refine ⟨c.toNat - '0'.toNat, if_pos h, fun hd => ?_⟩
  have hle : '0'.toNat ≤ c.toNat := h.1
  exact Char.toNat_inj.1 (by omega)

/-- The phase of a number after a digit in the given phase. -/
def Phase.afterDigit : Phase → Phase
  | .minus => .whole
  | .zero => .zero
  | .whole => .whole
  | .point => .fraction
  | .fraction => .fraction
  | .mark => .exponent
  | .exponentSign => .exponent
  | .exponent => .exponent

/-- A digit goes on with every number but a lone zero; the first one may become such a zero. Whether
there is room for the digit changes the value, and not the phase. -/
theorem exists_more?_digit (h : '0' ≤ c ∧ c ≤ '9') (hzero : n.phase ≠ .zero)
    (hminus : n.phase = .minus → c ≠ '0') :
    ∃ n', n.more? c = some n' ∧ n'.phase = n.phase.afterDigit := by
  obtain ⟨d, hd, hd0⟩ := exists_digit? h
  unfold more? next
  rw [hd]
  cases hp : n.phase with
  | zero => exact absurd hp hzero
  | minus =>
    have hne : d ≠ 0 := fun h0 => hminus hp (hd0 h0)
    simp [hne, Phase.afterDigit]
  | whole =>
    simp only [addWhole]
    split_ifs <;> exact ⟨_, rfl, rfl⟩
  | point =>
    simp only [addFraction]
    split_ifs <;> exact ⟨_, rfl, rfl⟩
  | fraction =>
    simp only [addFraction]
    split_ifs <;> exact ⟨_, rfl, rfl⟩
  | mark => exact ⟨_, rfl, rfl⟩
  | exponentSign => exact ⟨_, rfl, rfl⟩
  | exponent => exact ⟨_, rfl, rfl⟩

/-- **Digits** go on with every number that is no lone zero and no lone sign. -/
theorem exists_foldlM_digits (hs : AreDigits s) (hzero : n.phase ≠ .zero)
    (hminus : n.phase ≠ .minus) :
    ∃ n', s.foldlM more? n = some n' ∧ n'.phase = n.phase.afterDigit := by
  obtain ⟨hne, hs⟩ := hs
  induction s generalizing n with
  | nil => exact absurd rfl hne
  | cons c s ih =>
    obtain ⟨hc, hs⟩ := List.forall_mem_cons.1 hs
    obtain ⟨m, hm, hphase⟩ := exists_more?_digit hc hzero fun h => absurd h hminus
    rw [List.foldlM_cons, hm]
    cases s with
    | nil => exact ⟨m, rfl, hphase⟩
    | cons d s =>
      have hkept : m.phase ≠ .zero ∧ m.phase ≠ .minus ∧
          m.phase.afterDigit = n.phase.afterDigit := by
        rw [hphase]
        cases hp : n.phase <;> simp_all [Phase.afterDigit]
      obtain ⟨n', hn', hphase'⟩ := ih hkept.1 hkept.2.1 (List.cons_ne_nil _ _) hs
      exact ⟨n', hn', hphase'.trans hkept.2.2⟩

/-! ## The parts of a number -/

theorem exists_ofText?_digit (hsign : s = [] ∨ s = ['-']) (h : '0' ≤ c ∧ c ≤ '9') :
    ∃ n, ofText? (s ++ [c]) = some n ∧ n.phase = if c = '0' then .zero else .whole := by
  by_cases hzero : c = '0'
  · subst c
    rcases hsign with rfl | rfl
    · exact ⟨_, rfl, rfl⟩
    · exact ⟨_, rfl, rfl⟩
  · rw [if_neg hzero]
    rcases hsign with rfl | rfl
    · obtain ⟨d, hd, -⟩ := exists_digit? h
      have hminus : c ≠ '-' := by
        rintro rfl
        exact absurd h.1 (by decide)
      refine ⟨⟨.whole, d, false, 0, false, 0⟩, ?_, rfl⟩
      rw [List.nil_append, ofText?, begin?, if_neg hminus, if_neg hzero, hd]
      rfl
    · have hminus : ofText? ['-'] = some ⟨.minus, 0, false, 0, false, 0⟩ := rfl
      obtain ⟨n, hn, hphase⟩ := exists_more?_digit (n := ⟨.minus, 0, false, 0, false, 0⟩) h
        (by decide) (fun _ => hzero)
      refine ⟨n, ?_, hphase⟩
      rw [ofText?_append hminus, List.foldlM_cons, hn]
      rfl

/-- The digits before the point, after a sign or without one. -/
theorem exists_ofText?_whole (hsign : s = [] ∨ s = ['-']) (ht : IsWhole t) :
    ∃ n, ofText? (s ++ t) = some n ∧ (n.phase = .zero ∨ n.phase = .whole) := by
  obtain ⟨⟨hne, hdigits⟩, hzero⟩ := ht
  cases t with
  | nil => exact absurd rfl hne
  | cons c t =>
    obtain ⟨hc, ht⟩ := List.forall_mem_cons.1 hdigits
    obtain ⟨m, hm, hphase⟩ := exists_ofText?_digit hsign hc
    rw [List.append_cons, ofText?_append hm]
    by_cases hrest : t = []
    · subst t
      refine ⟨m, rfl, ?_⟩
      rw [hphase]
      split_ifs <;> simp
    · have hwhole : m.phase = .whole := by
        rw [hphase, if_neg]
        rintro rfl
        exact hrest (hzero t rfl)
      obtain ⟨n, hn, hphase'⟩ := exists_foldlM_digits ⟨hrest, ht⟩ (n := m) (by simp [hwhole])
        (by simp [hwhole])
      exact ⟨n, hn, Or.inr (by rw [hphase', hwhole]; rfl)⟩

theorem exists_foldlM_fraction (hn : n.phase = .zero ∨ n.phase = .whole) (hs : IsFraction s) :
    ∃ n', s.foldlM more? n = some n' ∧
      (n'.phase = .zero ∨ n'.phase = .whole ∨ n'.phase = .fraction) := by
  rcases hs with rfl | ⟨digits, rfl, hdigits⟩
  · exact ⟨n, rfl, hn.imp_right Or.inl⟩
  · have hpoint : n.more? '.' = some { n with phase := .point, full := false } := by
      unfold more? next
      rcases hn with hp | hp <;> rw [hp] <;> rfl
    obtain ⟨n', hn', hphase⟩ := exists_foldlM_digits hdigits
      (n := { n with phase := .point, full := false }) (by simp) (by simp)
    rw [List.foldlM_cons, hpoint]
    exact ⟨n', hn', Or.inr (Or.inr hphase)⟩

/-- The digits of an exponent may come with a sign before them and without one. -/
theorem exists_foldlM_exponent
    (hn : n.phase = .zero ∨ n.phase = .whole ∨ n.phase = .fraction) (hs : IsExponent s) :
    ∃ n', s.foldlM more? n = some n' ∧ n'.isComplete = true := by
  rcases hs with rfl | ⟨mark, sign, digits, rfl, hmark, hsign, hdigits⟩
  · refine ⟨n, rfl, ?_⟩
    rcases hn with hp | hp | hp <;> rw [isComplete, hp]
  · have hmore : n.more? mark = some { n with phase := .mark } := by
      unfold more? next
      rcases hn with hp | hp | hp <;> rcases hmark with rfl | rfl <;> rw [hp] <;> rfl
    obtain ⟨m, hm, hphase⟩ : ∃ m, sign.foldlM more? { n with phase := .mark } = some m ∧
        (m.phase = .mark ∨ m.phase = .exponentSign) := by
      rcases hsign with rfl | rfl | rfl
      · exact ⟨_, rfl, Or.inl rfl⟩
      · exact ⟨_, rfl, Or.inr rfl⟩
      · exact ⟨_, rfl, Or.inr rfl⟩
    obtain ⟨n', hn', hphase'⟩ := exists_foldlM_digits hdigits (n := m)
      (by rcases hphase with h | h <;> simp [h]) (by rcases hphase with h | h <;> simp [h])
    refine ⟨n', ?_, ?_⟩
    · rw [List.foldlM_cons, hmore]
      have hrest : (sign ++ digits).foldlM more? { n with phase := .mark } = some n' := by
        rw [List.foldlM_append, hm]
        exact hn'
      exact hrest
    · rw [isComplete, hphase']
      rcases hphase with h | h <;> rw [h] <;> rfl

end Numeral

/-- **Every number is read to its end.** -/
theorem IsNumber.exists_ofText? {s : Text} (h : IsNumber s) :
    ∃ n, Numeral.ofText? s = some n ∧ n.isComplete = true := by
  obtain ⟨sign, whole, fraction, exponent, rfl, hsign, hwhole, hfraction, hexponent⟩ := h
  obtain ⟨n₁, h₁, hphase₁⟩ := Numeral.exists_ofText?_whole hsign hwhole
  obtain ⟨n₂, h₂, hphase₂⟩ := Numeral.exists_foldlM_fraction hphase₁ hfraction
  obtain ⟨n₃, h₃, hcomplete⟩ := Numeral.exists_foldlM_exponent hphase₂ hexponent
  have hfront : Numeral.ofText? (sign ++ whole ++ fraction) = some n₂ := by
    rw [Numeral.ofText?_append h₁, h₂]
  exact ⟨n₃, by rw [Numeral.ofText?_append hfront, h₃], hcomplete⟩

/-! ## What comes after a number -/

theorem isDelimiter_iff {c : Char} : isDelimiter c = true ↔
    c ∈ [' ', '\n', '\t', '\r', ',', ':', ']', '\x7d'] := by
  simp [isDelimiter, Lexer.isSpace, or_assoc]

/-- A delimiter goes on with no number. -/
theorem not_more_of_isDelimiter {c : Char} (h : isDelimiter c = true) :
    ¬ ('0' ≤ c ∧ c ≤ '9') ∧ c ≠ '.' ∧ ¬ (c = 'e' ∨ c = 'E') := by
  have hc := isDelimiter_iff.1 h
  simp only [List.mem_cons, List.not_mem_nil, or_false] at hc
  rcases hc with rfl | rfl | rfl | rfl | rfl | rfl | rfl | rfl <;> decide

/-- **A number ends before a delimiter.** -/
theorem Numeral.next_of_isDelimiter {n : Numeral} {c : Char} (hn : n.isComplete = true)
    (hc : isDelimiter c = true) : n.next c = .complete := by
  obtain ⟨hrange, hpoint, hmark⟩ := not_more_of_isDelimiter hc
  have hdigit : digit? c = none := if_neg hrange
  unfold next
  rw [hdigit]
  cases hp : n.phase <;> simp [isComplete, hp] at hn <;>
    simp [pointOrEnd, markOrEnd, hpoint, hmark]

end GoOptional.Json
