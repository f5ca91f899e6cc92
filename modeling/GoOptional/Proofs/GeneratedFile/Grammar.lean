import Mathlib
import GoOptional.Proofs.GeneratedFile.Header
import GoOptional.Proofs.GeneratedFile.LinePattern

/-!
# The grammar of a generated file

What the scan for the anchor accepts, said on the lines of a file without the scan: filler lines,
a marker line, filler lines, and the package clause. A text that is not of this form lacks a marker
line before its first line of code, or a package clause in the first line of code behind it.

## Main definitions

* `GeneratedFile.IsOpening`: the lines up to a marker line
* `GeneratedFile.Layout`: a text of the form that is accepted, with its anchor
* `GeneratedFile.LacksClause`: lines without a package clause in their first line of code

## Main results

* `GeneratedFile.Anchor.afterMarker_eq_error_iff`, `GeneratedFile.Anchor.ofLines_eq_noMarker_iff`:
  when each part of the scan fails
* `GeneratedFile.ofText_grammar`: the texts with an anchor, and what the others lack
-/

namespace GoOptional.GeneratedFile

open Text (Line)

/-- Filler lines, of which none is a marker line, and then a marker line. -/
structure IsOpening (before : List Line) (marker : Line) : Prop where
  before : ∀ l ∈ before, IsFillerLine l.text ∧ ¬ IsMarkerLine l.text
  marker : IsMarkerLine marker.text

/-- A text that is a header and what follows it, and the anchor that it has. -/
structure Layout (s : Text) (before : List Line) (marker : Line) (between : List Line)
    (clause : Line) (after : List Line) (a : Anchor) : Prop where
  lines_eq : s.lines = before ++ marker :: between ++ clause :: after
  isOpening : IsOpening before marker
  isFillerLine : ∀ l ∈ between, IsFillerLine l.text
  not_isFillerLine : ¬ IsFillerLine clause.text
  isClauseOf : IsClauseOf clause.text a.package
  /-- The anchor stands behind the clause, with its line feed. -/
  offset_eq : a.offset =
    (Utf8.encode ((before ++ marker :: between ++ [clause]).flatMap Line.whole)).length
  terminated_eq : a.terminated = clause.terminated
  /-- A clause without a line feed is the end of the text. -/
  of_not_terminated : a.terminated = false → after = [] ∧ a.offset = (Utf8.encode s).length

/-- Lines of which the first that is no filler line is no clause of a package, or which are all
filler lines. -/
def LacksClause (rest : List Line) : Prop :=
  (∀ l ∈ rest, IsFillerLine l.text) ∨
    ∃ between l after, rest = between ++ l :: after ∧ (∀ k ∈ between, IsFillerLine k.text) ∧
      ¬ IsFillerLine l.text ∧ ∀ package, ¬ IsClauseOf l.text package

/-- All elements of a list are of a kind, or there is a first one that is not. -/
theorem forall_mem_or_exists_first {α : Type} (p : α → Prop) (xs : List α) :
    (∀ x ∈ xs, p x) ∨ ∃ front x back, xs = front ++ x :: back ∧ (∀ y ∈ front, p y) ∧ ¬ p x := by
  induction xs with
  | nil => exact Or.inl (List.forall_mem_nil _)
  | cons x xs ih =>
    by_cases hx : p x
    · rcases ih with hall | ⟨front, y, back, rfl, hfront, hy⟩
      · exact Or.inl (List.forall_mem_cons.2 ⟨hx, hall⟩)
      · exact Or.inr ⟨x :: front, y, back, rfl, List.forall_mem_cons.2 ⟨hx, hfront⟩, hy⟩
    · exact Or.inr ⟨[], x, xs, rfl, List.forall_mem_nil _, hx⟩

namespace Anchor

/-! ## Behind the marker line -/

variable {offset : Nat} {before between after rest ls : List Line} {marker clause l : Line}

theorem afterMarker_of_filler (h : ∀ l ∈ ls, IsFillerLine l.text) :
    afterMarker offset ls = .error .noPackageClause := by
  have happend := afterMarker_append (fun l hl => isFiller_iff.2 (h l hl)) offset []
  rwa [List.append_nil] at happend

theorem afterMarker_of_clausePackage?_eq_none (h : ∀ k ∈ between, IsFillerLine k.text)
    (hl : ¬ IsFillerLine l.text) (hc : clausePackage? l.text = none) :
    afterMarker offset (between ++ l :: after) = .error .noPackageClause := by
  rw [afterMarker_append fun k hk => isFiller_iff.2 (h k hk), afterMarker,
    if_neg (fun hf => hl (isFiller_iff.1 hf)), hc]

theorem afterMarker_of_isClauseOf (h : ∀ k ∈ between, IsFillerLine k.text)
    (hl : ¬ IsFillerLine l.text) {package : Text} (hc : IsClauseOf l.text package) :
    ∃ a, afterMarker offset (between ++ l :: after) = .ok a := by
  rw [afterMarker_append fun k hk => isFiller_iff.2 (h k hk), afterMarker,
    if_neg (fun hf => hl (isFiller_iff.1 hf)), clausePackage?_eq_some_iff.2 hc]
  exact ⟨_, rfl⟩

/-- **The scan behind the marker line fails** where a clause is lacking. -/
theorem afterMarker_eq_error_iff {e : HeaderError} :
    afterMarker offset ls = .error e ↔ e = .noPackageClause ∧ LacksClause ls := by
  have hlacks (h : LacksClause ls) : afterMarker offset ls = .error .noPackageClause := by
    rcases h with hall | ⟨between, l, after, rfl, hbetween, hl, hc⟩
    · exact afterMarker_of_filler hall
    · have hnone : clausePackage? l.text = none := by
        rw [Option.eq_none_iff_forall_not_mem]
        exact fun package hp => hc package (clausePackage?_eq_some_iff.1 hp)
      exact afterMarker_of_clausePackage?_eq_none hbetween hl hnone
  constructor
  · intro he
    by_cases h : LacksClause ls
    · rw [hlacks h, Except.error.injEq] at he
      exact ⟨he.symm, h⟩
    · obtain ⟨hall, hfirst⟩ := not_or.1 h
      obtain ⟨between, l, after, rfl, hbetween, hl⟩ :=
        (forall_mem_or_exists_first _ _).resolve_left hall
      obtain ⟨package, hc⟩ : ∃ package, IsClauseOf l.text package := by
        by_contra hn
        exact hfirst ⟨between, l, after, rfl, hbetween, hl, not_exists.1 hn⟩
      obtain ⟨a, ha⟩ : ∃ a, afterMarker offset (between ++ l :: after) = .ok a :=
        afterMarker_of_isClauseOf hbetween hl hc
      rw [ha] at he
      cases he
  · rintro ⟨rfl, h⟩
    exact hlacks h

/-! ## Up to the marker line -/

theorem exists_ofLines_append_eq (h : ∀ l ∈ before, IsFillerLine l.text ∧ ¬ IsMarkerLine l.text)
    (offset : Nat) (rest : List Line) :
    ∃ offset', ofLines offset (before ++ rest) = ofLines offset' rest :=
  ⟨_, ofLines_append (fun l hl => ⟨isMarker_eq_false_iff.2 (h l hl).2, isFiller_iff.2 (h l hl).1⟩)
    offset rest⟩

theorem exists_ofLines_eq_afterMarker (h : IsOpening before marker) (offset : Nat)
    (rest : List Line) :
    ∃ offset', ofLines offset (before ++ marker :: rest) = afterMarker offset' rest := by
  obtain ⟨offset', hofLines⟩ := exists_ofLines_append_eq h.before offset (marker :: rest)
  rw [hofLines, ofLines, if_pos (isMarker_iff.2 h.marker)]
  exact ⟨_, rfl⟩

/-- **The scan finds no marker line** where no lines up to one come first. -/
theorem ofLines_eq_noMarker_iff : ofLines offset ls = .error .noMarker ↔
    ¬ ∃ before marker rest, ls = before ++ marker :: rest ∧ IsOpening before marker := by
  constructor
  · rintro he ⟨before, marker, rest, rfl, ho⟩
    obtain ⟨offset', hscan⟩ := exists_ofLines_eq_afterMarker ho offset rest
    rw [hscan, afterMarker_eq_error_iff] at he
    cases he.1
  · intro h
    rcases forall_mem_or_exists_first
      (fun l : Line => IsFillerLine l.text ∧ ¬ IsMarkerLine l.text) ls with
      hall | ⟨front, l, back, rfl, hfront, hl⟩
    · obtain ⟨offset', hscan⟩ := exists_ofLines_append_eq hall offset []
      rw [← List.append_nil ls, hscan, ofLines]
    · have hmarker : ¬ IsMarkerLine l.text := fun hm => h ⟨front, l, back, rfl, hfront, hm⟩
      have hfiller : ¬ IsFillerLine l.text := fun hf => hl ⟨hf, hmarker⟩
      obtain ⟨offset', hscan⟩ := exists_ofLines_append_eq hfront offset (l :: back)
      rw [hscan, ofLines, if_neg (fun hm => hmarker (isMarker_iff.1 hm)),
        if_neg (fun hf => hfiller (isFiller_iff.1 hf))]

/-- **The scan finds no package clause** where the lines behind the marker line lack one. -/
theorem ofLines_eq_noPackageClause_iff : ofLines offset ls = .error .noPackageClause ↔
    ∃ before marker rest, ls = before ++ marker :: rest ∧ IsOpening before marker ∧
      LacksClause rest := by
  constructor
  · intro he
    by_cases h : ∃ before marker rest, ls = before ++ marker :: rest ∧ IsOpening before marker
    · obtain ⟨before, marker, rest, rfl, ho⟩ := h
      obtain ⟨offset', hscan⟩ := exists_ofLines_eq_afterMarker ho offset rest
      rw [hscan, afterMarker_eq_error_iff] at he
      exact ⟨before, marker, rest, rfl, ho, he.2⟩
    · rw [ofLines_eq_noMarker_iff.2 h] at he
      cases he
  · rintro ⟨before, marker, rest, rfl, ho, hlacks⟩
    obtain ⟨offset', hscan⟩ := exists_ofLines_eq_afterMarker ho offset rest
    rw [hscan, afterMarker_eq_error_iff]
    exact ⟨rfl, hlacks⟩

end Anchor

/-! ## Texts with an anchor -/

section

variable {s : Text} {before between after : List Line} {marker clause : Line} {a : Anchor}

theorem isPreamble_iff {front : List Line} : IsPreamble front ↔
    ∃ before marker between, front = before ++ marker :: between ∧ IsOpening before marker ∧
      ∀ l ∈ between, IsFillerLine l.text := by
  have hopening {before : List Line} {marker : Line} : IsOpening before marker ↔
      (∀ l ∈ before, isMarker l.text = false ∧ isFiller l.text = true) ∧
        isMarker marker.text = true := by
    simp only [isMarker_eq_false_iff, isFiller_iff, isMarker_iff]
    exact ⟨fun h => ⟨fun l hl => (h.before l hl).symm, h.marker⟩,
      fun h => ⟨fun l hl => (h.1 l hl).symm, h.2⟩⟩
  simp only [IsPreamble, hopening, isFiller_iff, and_assoc]

theorem Layout.ofText_eq (h : Layout s before marker between clause after a) :
    Anchor.ofText s = .ok a := by
  have hpreamble : IsPreamble (before ++ marker :: between) :=
    isPreamble_iff.2 ⟨before, marker, between, rfl, h.isOpening, h.isFillerLine⟩
  have hoffset := h.offset_eq
  rw [List.flatMap_append, List.flatMap_singleton] at hoffset
  rw [Anchor.ofText, h.lines_eq,
    Anchor.ofLines_preamble hpreamble clause (clausePackage?_eq_some_iff.2 h.isClauseOf),
    ← hoffset, ← h.terminated_eq]

/-- A line without a line feed is the last one, and the text ends with it. -/
theorem eq_nil_of_not_terminated {front : List Line} (hl : s.lines = front ++ clause :: after)
    (hterm : clause.terminated = false) :
    after = [] ∧ (front ++ [clause]).flatMap Line.whole = s := by
  cases after with
  | nil => exact ⟨rfl, by rw [← hl, Text.join_lines]⟩
  | cons k after =>
    rw [Text.terminated_of_lines_eq front hl] at hterm
    cases hterm

theorem exists_layout_of_ofText (h : Anchor.ofText s = .ok a) :
    ∃ before marker between clause after, Layout s before marker between clause after a := by
  obtain ⟨front, clause, after, hl, hpreamble, hc⟩ := Anchor.exists_preamble_of_ofLines h
  rw [Anchor.ofText, hl, Anchor.ofLines_preamble hpreamble clause hc, Except.ok.injEq] at h
  obtain ⟨before, marker, between, rfl, hopening, hbetween⟩ := isPreamble_iff.1 hpreamble
  have hoffset : a.offset =
      (Utf8.encode ((before ++ marker :: between ++ [clause]).flatMap Line.whole)).length := by
    rw [List.flatMap_append, List.flatMap_singleton, ← h]
  have hterm : a.terminated = clause.terminated := by rw [← h]
  refine ⟨before, marker, between, clause, after, {
    lines_eq := hl
    isOpening := hopening
    isFillerLine := hbetween
    not_isFillerLine := fun hf => ?_
    isClauseOf := clausePackage?_eq_some_iff.1 hc
    offset_eq := hoffset
    terminated_eq := hterm
    of_not_terminated := fun hfalse => ?_ }⟩
  · rw [← isFiller_iff, isFiller_of_clausePackage? hc] at hf
    cases hf
  · obtain ⟨hnil, hjoin⟩ := eq_nil_of_not_terminated hl (hterm ▸ hfalse)
    exact ⟨hnil, by rw [hoffset, hjoin]⟩

end

/-- **The grammar of a generated file**: the texts with an anchor are those with the layout that
gives it; those that have a marker line without code before it but no clause behind it lack their
clause, and all others lack the marker line. -/
theorem ofText_grammar (s : Text) :
    (∀ a, Anchor.ofText s = .ok a ↔ ∃ before marker between clause after,
      Layout s before marker between clause after a) ∧
    (Anchor.ofText s = .error .noPackageClause ↔ ∃ before marker rest,
      s.lines = before ++ marker :: rest ∧ IsOpening before marker ∧ LacksClause rest) ∧
    (Anchor.ofText s = .error .noMarker ↔ ¬ ∃ before marker rest,
      s.lines = before ++ marker :: rest ∧ IsOpening before marker) := by
  refine ⟨fun a => ⟨exists_layout_of_ofText, ?_⟩, Anchor.ofLines_eq_noPackageClause_iff,
    Anchor.ofLines_eq_noMarker_iff⟩
  rintro ⟨before, marker, between, clause, after, h⟩
  exact h.ofText_eq

end GoOptional.GeneratedFile
