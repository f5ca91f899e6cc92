import Mathlib
import GoOptional.Text.Basic

/-!
# Patterns

A pattern says what a piece of a text looks like, and some of its parts catch what they match. The
same text can match in several ways: a repetition may be longer or shorter, an optional part taken
or not. An engine that searches a text for a pattern finds one of these ways, and which one is its
own choice. What holds of all ways holds of every engine.

## Main definitions

* `Pattern`: patterns in which only characters are repeated
* `Pattern.Matches`, `Pattern.FoundIn`: all the ways to match
* `Pattern.ways`: the ways to match at a place, in the order in which they are tried
* `Pattern.Engine`: the programs that search for patterns
* `Pattern.Engine.leftmost`: the engine that takes the first way from the left

## Main results

* `Pattern.mem_ways_iff`: all the ways are tried, and no others
* `Pattern.foundIn_whole_iff`: where a pattern of a whole text can match
-/

namespace GoOptional

/-- A pattern of pieces of a text. Only the characters of a set can be repeated. -/
inductive Pattern where
  /-- Nothing, at the start of the text. -/
  | start
  /-- Nothing, at the end of the text. -/
  | finish
  /-- A certain piece. -/
  | exactly (s : Text)
  /-- One character of a set. -/
  | one (set : Char → Bool)
  /-- Any number of characters of a set. -/
  | many (set : Char → Bool)
  /-- One pattern, and then the other. -/
  | andThen (p q : Pattern)
  /-- A pattern, or nothing. -/
  | perhaps (p : Pattern)
  /-- A pattern that catches the piece it matches, under a number. -/
  | group (number : Nat) (p : Pattern)

namespace Pattern

instance : Append Pattern :=
  ⟨andThen⟩

/-- At least one character of a set. -/
def atLeastOne (set : Char → Bool) : Pattern :=
  one set ++ many set

/-- A pattern of the text as a whole. -/
def whole (p : Pattern) : Pattern :=
  start ++ p ++ finish

/-- What the groups of a pattern caught, each with its number. -/
abbrev Captures := List (Nat × Text)

/-! ## Matches -/

/-- The pattern matches a piece with `before` in front of it and `after` behind it, and its groups
catch `caught`. -/
def Matches : Pattern → (before piece after : Text) → (caught : Captures) → Prop
  | start, before, piece, _, caught => before = [] ∧ piece = [] ∧ caught = []
  | finish, _, piece, after, caught => after = [] ∧ piece = [] ∧ caught = []
  | exactly s, _, piece, _, caught => piece = s ∧ caught = []
  | one set, _, piece, _, caught => (∃ c, set c = true ∧ piece = [c]) ∧ caught = []
  | many set, _, piece, _, caught => (∀ c ∈ piece, set c = true) ∧ caught = []
  | andThen p q, before, piece, after, caught => ∃ first last caught₁ caught₂,
      piece = first ++ last ∧ caught = caught₁ ++ caught₂ ∧
      p.Matches before first (last ++ after) caught₁ ∧
      q.Matches (before ++ first) last after caught₂
  | perhaps p, before, piece, after, caught =>
      p.Matches before piece after caught ∨ piece = [] ∧ caught = []
  | group number p, before, piece, after, caught => ∃ inner,
      p.Matches before piece after inner ∧ caught = (number, piece) :: inner

/-- The pattern matches some piece of the text. -/
def FoundIn (p : Pattern) (s : Text) (caught : Captures) : Prop :=
  ∃ before piece after, s = before ++ piece ++ after ∧ p.Matches before piece after caught

variable {p : Pattern} {set : Char → Bool} {s before piece after rest : Text} {caught : Captures}

/-- **A pattern of a whole text** can match nothing less than that. -/
theorem foundIn_whole_iff : p.whole.FoundIn s caught ↔ p.Matches [] s [] caught := by
  constructor
  · rintro ⟨before, _, after, rfl, front, _, _, _, rfl, rfl, hfront, rfl, rfl, rfl⟩
    obtain ⟨_, piece, _, caught, rfl, rfl, ⟨rfl, rfl, rfl⟩, hp⟩ := hfront
    simpa using hp
  · intro h
    have hstart : (start ++ p).Matches [] s [] caught :=
      ⟨[], s, [], caught, rfl, rfl, ⟨rfl, rfl, rfl⟩, by simpa using h⟩
    exact ⟨[], s, [], by simp, s, [], caught, [], by simp, by simp, hstart, rfl, rfl, rfl⟩

theorem matches_atLeastOne_iff : (atLeastOne set).Matches before piece after caught ↔
    (piece ≠ [] ∧ ∀ c ∈ piece, set c = true) ∧ caught = [] := by
  constructor
  · rintro ⟨first, last, caught₁, caught₂, rfl, rfl, ⟨⟨c, hc, rfl⟩, rfl⟩, hlast, rfl⟩
    exact ⟨⟨List.cons_ne_nil _ _, List.forall_mem_cons.2 ⟨hc, hlast⟩⟩, rfl⟩
  · rintro ⟨⟨hne, hset⟩, rfl⟩
    obtain ⟨c, rest, rfl⟩ := List.exists_cons_of_ne_nil hne
    rw [List.forall_mem_cons] at hset
    exact ⟨[c], rest, [], [], rfl, rfl, ⟨⟨c, hset.1, rfl⟩, rfl⟩, hset.2, rfl⟩

/-! ## The order of matches -/

/-- The ways to match at the start of `rest`, with `before` in front of it: the piece, and what the
groups catch. The way that is tried first comes first: a repetition as long as it can be, and an
optional part rather than nothing. -/
def ways : Pattern → (before rest : Text) → List (Text × Captures)
  | start, before, _ => if before = [] then [([], [])] else []
  | finish, _, rest => if rest = [] then [([], [])] else []
  | exactly s, _, rest => if s <+: rest then [(s, [])] else []
  | one set, _, rest => (rest.head?.filter set).toList.map fun c => ([c], [])
  | many set, _, rest => (rest.takeWhile set).inits.reverse.map fun piece => (piece, [])
  | andThen p q, before, rest => (p.ways before rest).flatMap fun m =>
      (q.ways (before ++ m.1) (rest.drop m.1.length)).map fun n => (m.1 ++ n.1, m.2 ++ n.2)
  | perhaps p, before, rest => p.ways before rest ++ [([], [])]
  | group number p, before, rest => (p.ways before rest).map fun m => (m.1, (number, m.1) :: m.2)

theorem mem_inits_takeWhile_iff :
    piece ∈ (rest.takeWhile set).inits ↔ piece <+: rest ∧ ∀ c ∈ piece, set c = true := by
  rw [List.mem_inits]
  constructor
  · intro h
    exact ⟨h.trans (List.takeWhile_prefix set), fun c hc => List.mem_takeWhile_imp (h.subset hc)⟩
  · rintro ⟨⟨after, rfl⟩, hset⟩
    rw [List.takeWhile_append_of_pos hset]
    exact List.prefix_append _ _

/-- **All the ways to match are tried**, and no others. -/
theorem mem_ways_iff : (piece, caught) ∈ p.ways before rest ↔
    ∃ after, rest = piece ++ after ∧ p.Matches before piece after caught := by
  induction p generalizing before rest piece caught with
  | start =>
    rw [ways, List.mem_ite_nil_right, List.mem_singleton, Prod.mk.injEq]
    constructor
    · rintro ⟨hb, rfl, rfl⟩
      exact ⟨rest, rfl, hb, rfl, rfl⟩
    · rintro ⟨after, -, hm⟩
      exact hm
  | finish =>
    rw [ways, List.mem_ite_nil_right, List.mem_singleton, Prod.mk.injEq]
    constructor
    · rintro ⟨rfl, rfl, rfl⟩
      exact ⟨[], rfl, rfl, rfl, rfl⟩
    · rintro ⟨after, rfl, rfl, rfl, rfl⟩
      exact ⟨rfl, rfl, rfl⟩
  | exactly s =>
    rw [ways, List.mem_ite_nil_right, List.mem_singleton, Prod.mk.injEq]
    constructor
    · rintro ⟨⟨after, rfl⟩, rfl, rfl⟩
      exact ⟨after, rfl, rfl, rfl⟩
    · rintro ⟨after, rfl, rfl, rfl⟩
      exact ⟨List.prefix_append _ _, rfl, rfl⟩
  | one set =>
    simp only [ways, List.mem_map, Option.mem_toList, Option.filter_eq_some_iff,
      List.head?_eq_some_iff, Prod.mk.injEq]
    constructor
    · rintro ⟨c, ⟨⟨after, rfl⟩, hc⟩, rfl, rfl⟩
      exact ⟨after, rfl, ⟨c, hc, rfl⟩, rfl⟩
    · rintro ⟨after, rfl, ⟨c, hc, rfl⟩, rfl⟩
      exact ⟨c, ⟨⟨after, rfl⟩, hc⟩, rfl, rfl⟩
  | many set =>
    simp only [ways, List.mem_map, List.mem_reverse, mem_inits_takeWhile_iff, Prod.mk.injEq]
    constructor
    · rintro ⟨piece, ⟨⟨after, rfl⟩, hset⟩, rfl, rfl⟩
      exact ⟨after, rfl, hset, rfl⟩
    · rintro ⟨after, rfl, hset, rfl⟩
      exact ⟨piece, ⟨List.prefix_append _ _, hset⟩, rfl, rfl⟩
  | andThen p q ihp ihq =>
    simp only [ways, List.mem_flatMap, List.mem_map, Prod.exists, Prod.mk.injEq, ihp, ihq]
    constructor
    · rintro ⟨first, caught₁, ⟨rest, rfl, hp⟩, last, caught₂, ⟨after, hrest, hq⟩, rfl, rfl⟩
      rw [List.drop_left] at hrest
      subst hrest
      exact ⟨after, (List.append_assoc _ _ _).symm, first, last, caught₁, caught₂, rfl, rfl, hp, hq⟩
    · rintro ⟨after, rfl, first, last, caught₁, caught₂, rfl, rfl, hp, hq⟩
      exact ⟨first, caught₁, ⟨last ++ after, List.append_assoc _ _ _, hp⟩, last, caught₂,
        ⟨after, by rw [List.append_assoc, List.drop_left], hq⟩, rfl, rfl⟩
  | perhaps p ih =>
    simp only [ways, List.mem_append, List.mem_singleton, Prod.mk.injEq, ih]
    constructor
    · rintro (⟨after, rfl, hp⟩ | ⟨rfl, rfl⟩)
      · exact ⟨after, rfl, Or.inl hp⟩
      · exact ⟨rest, rfl, Or.inr ⟨rfl, rfl⟩⟩
    · rintro ⟨after, rfl, hp | hnone⟩
      · exact Or.inl ⟨after, rfl, hp⟩
      · exact Or.inr hnone
  | group number p ih =>
    simp only [ways, List.mem_map, Prod.exists, Prod.mk.injEq, ih]
    constructor
    · rintro ⟨piece, inner, ⟨after, rfl, hp⟩, rfl, rfl⟩
      exact ⟨after, rfl, inner, hp, rfl⟩
    · rintro ⟨after, rfl, inner, hp, rfl⟩
      exact ⟨piece, inner, ⟨after, rfl, hp⟩, rfl, rfl⟩

/-- What the groups catch in each way to match a piece of the text, from the left to the right. -/
def found (p : Pattern) (s : Text) : List Captures :=
  s.inits.flatMap fun before => (p.ways before (s.drop before.length)).map Prod.snd

theorem mem_found_iff : caught ∈ p.found s ↔ p.FoundIn s caught := by
  simp only [found, List.mem_flatMap, List.mem_inits, List.mem_map, Prod.exists, exists_eq_right,
    mem_ways_iff]
  constructor
  · rintro ⟨before, ⟨rest, rfl⟩, piece, after, hrest, hm⟩
    rw [List.drop_left] at hrest
    exact ⟨before, piece, after, by rw [hrest, List.append_assoc], hm⟩
  · rintro ⟨before, piece, after, rfl, hm⟩
    rw [List.append_assoc]
    exact ⟨before, List.prefix_append _ _, piece, after, List.drop_left, hm⟩

/-! ## Engines -/

/-- A program that searches texts for patterns. It finds a match if there is one. -/
structure Engine where
  /-- Whether the pattern matches a piece of the text. -/
  isMatch : Pattern → Text → Bool
  /-- What the groups catch in a match of the pattern, if there is one. -/
  captures? : Pattern → Text → Option Captures
  isMatch_iff : ∀ p s, isMatch p s = true ↔ ∃ caught, p.FoundIn s caught
  foundIn_of_captures?_eq_some : ∀ p s caught, captures? p s = some caught → p.FoundIn s caught
  not_foundIn_of_captures?_eq_none : ∀ p s caught, captures? p s = none → ¬ p.FoundIn s caught

namespace Engine

/-- What the group of a number catches in the match that the engine finds. -/
def captured? (engine : Engine) (p : Pattern) (s : Text) (number : Nat) : Option Text :=
  (engine.captures? p s).bind fun caught => caught.lookup number

/-- The engine that finds the first match from the left, in the first way that is tried. -/
def leftmost : Engine where
  isMatch p s := !(p.found s).isEmpty
  captures? p s := (p.found s).head?
  isMatch_iff p s := by
    simp only [← mem_found_iff, Bool.not_eq_true', List.isEmpty_eq_false_iff_exists_mem]
  foundIn_of_captures?_eq_some p s caught h := mem_found_iff.1 (List.mem_of_head? h)
  not_foundIn_of_captures?_eq_none p s caught h hf := by
    rw [List.head?_eq_none_iff] at h
    exact List.ne_nil_of_mem (mem_found_iff.2 hf) h

end Engine

end Pattern

end GoOptional
