import Mathlib
import GoOptional.GeneratedFile.Anchor
import GoOptional.Proofs.Text.Lines

/-!
# The header of a generated file

The anchor of a file is found by a scan over its lines. What the scan accepts is a header: lines
with a marker line among blank lines and comments, and then the package clause. The scan stops at
the clause, so a header gives the same anchor whatever follows it.

## Main definitions

* `GeneratedFile.IsPreamble`: the lines that come before a package clause
* `GeneratedFile.Header`: a text that starts with such lines and ends with a package clause

## Main results

* `GeneratedFile.Header.ofText_append`: the anchor of a text that goes on after a header
* `GeneratedFile.exists_header_of_ofText`: every text with an anchor is of this form
-/

namespace GoOptional.GeneratedFile

open Text (Line)

/-! ## Blanks around a clause -/

theorem trimEnd_cons {c : Char} (h : Character.isBlank c = false) (s : Text) :
    Text.trimEnd (c :: s) = c :: s.trimEnd := by
  rw [Text.trimEnd, List.reverse_cons, List.dropWhile_append]
  split
  case isTrue he =>
    have hs : s.trimEnd = [] := by
      rw [Text.trimEnd, List.isEmpty_iff.1 he]
      rfl
    rw [hs, List.dropWhile_cons_of_neg (by simp [h])]
    rfl
  case isFalse => rw [List.reverse_append]; rfl

theorem trim_cons {c : Char} (h : Character.isBlank c = false) (s : Text) :
    Text.trim (c :: s) = c :: s.trimEnd := by
  rw [Text.trim, Text.trimStart, List.dropWhile_cons_of_neg (by simp [h]), trimEnd_cons h]

/-- A package clause is neither blank nor a comment. -/
theorem isFiller_of_clausePackage? {line package : Text}
    (h : clausePackage? line = some package) : isFiller line = false := by
  obtain ⟨rest, rfl⟩ : ∃ rest, line = 'p' :: rest := by
    unfold clausePackage? Text.dropStart? at h
    cases line with
    | nil => cases h
    | cons c rest =>
      by_cases hc : c = 'p'
      · exact ⟨rest, by rw [hc]⟩
      · simp [Ne.symm hc] at h
  rw [isFiller, trim_cons (by decide)]
  rfl

/-! ## The scan over lines -/

/-- Lines with a marker line after blank lines and comments, and with only such lines after it. -/
def IsPreamble (ls : List Line) : Prop :=
  ∃ before marker between, ls = before ++ marker :: between ∧
    (∀ l ∈ before, isMarker l.text = false ∧ isFiller l.text = true) ∧
    isMarker marker.text = true ∧ ∀ l ∈ between, isFiller l.text = true

namespace Anchor

theorem afterMarker_append {ls : List Line} (h : ∀ l ∈ ls, isFiller l.text = true) (offset : Nat)
    (rest : List Line) : afterMarker offset (ls ++ rest) =
      afterMarker (offset + (Utf8.encode (ls.flatMap Line.whole)).length) rest := by
  induction ls generalizing offset with
  | nil => rfl
  | cons l ls ih =>
    rw [List.cons_append, afterMarker, if_pos (h l List.mem_cons_self),
      ih fun k hk => h k (List.mem_cons_of_mem _ hk), List.flatMap_cons, Utf8.encode_append,
      List.length_append, Nat.add_assoc, Line.size]

theorem ofLines_append {ls : List Line}
    (h : ∀ l ∈ ls, isMarker l.text = false ∧ isFiller l.text = true) (offset : Nat)
    (rest : List Line) : ofLines offset (ls ++ rest) =
      ofLines (offset + (Utf8.encode (ls.flatMap Line.whole)).length) rest := by
  induction ls generalizing offset with
  | nil => rfl
  | cons l ls ih =>
    obtain ⟨hm, hf⟩ := h l List.mem_cons_self
    rw [List.cons_append, ofLines, hm, if_neg Bool.false_ne_true, if_pos hf,
      ih fun k hk => h k (List.mem_cons_of_mem _ hk), List.flatMap_cons, Utf8.encode_append,
      List.length_append, Nat.add_assoc, Line.size]

/-- The scan passes over a preamble and stops at the package clause. -/
theorem ofLines_preamble {front : List Line} (h : IsPreamble front) (clause : Line)
    {package : Text} (hc : clausePackage? clause.text = some package) (rest : List Line) :
    ofLines 0 (front ++ clause :: rest) =
      .ok ⟨package, (Utf8.encode (front.flatMap Line.whole ++ clause.whole)).length,
        clause.terminated⟩ := by
  obtain ⟨before, marker, between, rfl, hb, hm, hf⟩ := h
  rw [List.append_assoc, ofLines_append hb, List.cons_append, ofLines, if_pos hm,
    afterMarker_append hf, afterMarker, isFiller_of_clausePackage? hc,
    if_neg Bool.false_ne_true, hc]
  simp only [List.flatMap_append, List.flatMap_cons, Utf8.encode_append, List.length_append,
    Line.size]
  congr 2
  omega

theorem exists_clause_of_afterMarker {offset : Nat} {ls : List Line} {a : Anchor}
    (h : afterMarker offset ls = .ok a) : ∃ between clause rest,
      ls = between ++ clause :: rest ∧ (∀ l ∈ between, isFiller l.text = true) ∧
        clausePackage? clause.text = some a.package := by
  induction ls generalizing offset with
  | nil => cases h
  | cons l ls ih =>
    rw [afterMarker] at h
    by_cases hf : isFiller l.text = true
    · rw [if_pos hf] at h
      obtain ⟨between, clause, rest, rfl, hb, hc⟩ := ih h
      exact ⟨l :: between, clause, rest, rfl, List.forall_mem_cons.2 ⟨hf, hb⟩, hc⟩
    · rw [if_neg hf] at h
      refine ⟨[], l, ls, rfl, List.forall_mem_nil _, ?_⟩
      cases hc : clausePackage? l.text with
      | none => rw [hc] at h; cases h
      | some package => rw [hc] at h; cases h; rfl

theorem exists_preamble_of_ofLines {offset : Nat} {ls : List Line} {a : Anchor}
    (h : ofLines offset ls = .ok a) : ∃ front clause rest,
      ls = front ++ clause :: rest ∧ IsPreamble front ∧
        clausePackage? clause.text = some a.package := by
  induction ls generalizing offset with
  | nil => cases h
  | cons l ls ih =>
    rw [ofLines] at h
    by_cases hm : isMarker l.text = true
    · rw [if_pos hm] at h
      obtain ⟨between, clause, rest, rfl, hb, hc⟩ := exists_clause_of_afterMarker h
      exact ⟨l :: between, clause, rest, rfl, ⟨[], l, between, rfl, List.forall_mem_nil _, hm, hb⟩,
        hc⟩
    · rw [if_neg hm] at h
      by_cases hf : isFiller l.text = true
      · rw [if_pos hf] at h
        obtain ⟨_, clause, rest, rfl, ⟨before, marker, between, rfl, hb, hp⟩, hc⟩ := ih h
        exact ⟨l :: (before ++ marker :: between), clause, rest, rfl,
          ⟨l :: before, marker, between, rfl,
            List.forall_mem_cons.2 ⟨⟨Bool.eq_false_iff.2 hm, hf⟩, hb⟩, hp⟩, hc⟩
      · rw [if_neg hf] at h
        cases h

end Anchor

/-! ## Headers -/

/-- The text of a generated file up to the end of its package clause. -/
structure Header where
  /-- The lines before the package clause. -/
  front : List Line
  /-- The package clause, without its line feed. -/
  clause : Text
  /-- The package that the clause declares. -/
  package : Text
  isPreamble : IsPreamble front
  isWhole : ∀ l ∈ front, l.IsWhole
  not_mem_clause : '\n' ∉ clause
  clausePackage?_clause : clausePackage? clause = some package

namespace Header

/-- The characters of a header. -/
def text (h : Header) : Text :=
  h.front.flatMap Line.whole ++ h.clause

/-- The number of bytes of a header. -/
def size (h : Header) : Nat :=
  (Utf8.encode h.text).length

/-- The anchor of a text that goes on after a header. -/
def anchor (h : Header) (tail : Text) : Anchor :=
  ⟨h.package, h.size + if tail.isEmpty then 0 else 1, !tail.isEmpty⟩

theorem clause_ne_nil (h : Header) : h.clause ≠ [] := by
  intro he
  have hc := h.clausePackage?_clause
  rw [he] at hc
  cases hc

end Header

/-- What can come after a package clause: nothing, or a line feed first. -/
def IsTail (tail : Text) : Prop :=
  tail = [] ∨ ∃ t, tail = '\n' :: t

/-- **A header gives its anchor** to every text that goes on after it. -/
theorem Header.ofText_append (h : Header) {tail : Text} (ht : IsTail tail) :
    Anchor.ofText (h.text ++ tail) = .ok (h.anchor tail) := by
  rw [Anchor.ofText, text, List.append_assoc, Text.lines_flatMap_whole_append h.isWhole]
  rcases ht with rfl | ⟨t, rfl⟩
  · rw [List.append_nil, Text.lines_of_not_mem h.not_mem_clause h.clause_ne_nil,
      Anchor.ofLines_preamble h.isPreamble ⟨h.clause, false⟩ h.clausePackage?_clause,
      Line.whole, if_neg Bool.false_ne_true, List.append_nil]
    rfl
  · rw [Text.lines_append_of_not_mem h.not_mem_clause,
      Anchor.ofLines_preamble h.isPreamble ⟨h.clause, true⟩ h.clausePackage?_clause,
      Line.whole, if_pos rfl, ← List.append_assoc, Utf8.encode_append, List.length_append]
    rfl

/-- **A text with an anchor** is a header with something after it. -/
theorem exists_header_of_ofText {s : Text} {a : Anchor} (ha : Anchor.ofText s = .ok a) :
    ∃ (h : Header) (tail : Text), IsTail tail ∧ s = h.text ++ tail ∧ a = h.anchor tail := by
  obtain ⟨front, clause, rest, hl, hp, hc⟩ := Anchor.exists_preamble_of_ofLines ha
  let h : Header := ⟨front, clause.text, a.package, hp, fun _ => Text.isWhole_of_lines_eq hl,
    Text.not_mem_of_mem_lines (hl ▸ List.mem_append_right _ List.mem_cons_self), hc⟩
  obtain ⟨tail, ht, hs⟩ : ∃ tail, IsTail tail ∧ s = h.text ++ tail := by
    have hs := Text.join_lines s
    rw [hl, List.flatMap_append, List.flatMap_cons, Line.whole] at hs
    cases hterm : clause.terminated with
    | true =>
      refine ⟨'\n' :: rest.flatMap Line.whole, Or.inr ⟨_, rfl⟩, ?_⟩
      simpa [hterm, h, Header.text] using hs.symm
    | false =>
      cases rest with
      | cons k rest => exact absurd (Text.terminated_of_lines_eq front hl) (by simp [hterm])
      | nil => exact ⟨[], Or.inl rfl, by simpa [hterm, h, Header.text] using hs.symm⟩
  refine ⟨h, tail, ht, hs, ?_⟩
  rw [hs, h.ofText_append ht, Except.ok.injEq] at ha
  exact ha.symm

end GoOptional.GeneratedFile
