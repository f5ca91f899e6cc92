import Mathlib
import GoOptional.Proofs.GeneratedFile.Parts

/-!
# The patterns of header lines

The lines of a header are recognised from left to right, without going back. This module says what
they look like without regard to how they are read: a marker line and a package clause are texts
that can be taken apart in a certain way. Where the end of a package clause can be taken apart in
several ways, the package is the same in all of them.

## Main definitions

* `GeneratedFile.IsFillerLine`, `GeneratedFile.IsMarkerLine`: what such lines look like
* `GeneratedFile.IsClauseOf`: what the clause of a package looks like

## Main results

* `GeneratedFile.isMarker_iff`, `GeneratedFile.clausePackage?_eq_some_iff`: the lines that are
  recognised are those
* `GeneratedFile.IsClauseOf.unique`: a clause declares one package
-/

namespace GoOptional.GeneratedFile

/-- A line that has nothing but blanks, or a comment after blanks. -/
def IsFillerLine (line : Text) : Prop :=
  line.trim = [] ∨ "//".toList <+: line.trim

/-- A marker line: its first words, anything, its last words, and perhaps a carriage return. -/
def IsMarkerLine (line : Text) : Prop :=
  ∃ words ending, line = "// Code generated ".toList ++ words ++ " DO NOT EDIT.".toList ++ ending ∧
    (ending = [] ∨ ending = ['\r'])

/-- A text of spaces and tabs. -/
def AreSpaces (s : Text) : Prop :=
  ∀ c ∈ s, c = ' ' ∨ c = '\t'

/-- The end of a package clause: spaces, perhaps a comment, perhaps a carriage return. -/
def IsClauseTail (rest : Text) : Prop :=
  ∃ spaces comment ending, rest = spaces ++ comment ++ ending ∧ AreSpaces spaces ∧
    (comment = [] ∨ "//".toList <+: comment) ∧ (ending = [] ∨ ending = ['\r'])

/-- The clause of a package: the keyword, at least one space, the package, and the end. -/
def IsClauseOf (line package : Text) : Prop :=
  ∃ spaces rest, line = "package".toList ++ spaces ++ package ++ rest ∧
    spaces ≠ [] ∧ AreSpaces spaces ∧ isIdentifier package = true ∧ IsClauseTail rest

/-! ## The longest start of a kind -/

section Longest

variable {p : Char → Bool} {s t : Text} (hs : ∀ c ∈ s, p c = true)
  (ht : ∀ c, t.head? = some c → p c = false)
include hs ht

theorem takeWhile_append_eq : (s ++ t).takeWhile p = s := by
  rw [List.takeWhile_append_of_pos hs]
  cases t with
  | nil => rw [List.takeWhile_nil, List.append_nil]
  | cons c t => rw [List.takeWhile_cons_of_neg (by simp [ht c rfl]), List.append_nil]

theorem dropWhile_append_eq : (s ++ t).dropWhile p = t := by
  rw [List.dropWhile_append_of_pos hs]
  cases t with
  | nil => rfl
  | cons c t => exact List.dropWhile_cons_of_neg (by simp [ht c rfl])

end Longest

/-! ## Filler and marker lines -/

theorem isFiller_iff {line : Text} : isFiller line = true ↔ IsFillerLine line := by
  rw [isFiller, Bool.or_eq_true, List.isEmpty_iff, List.isPrefixOf_iff_prefix, IsFillerLine]

/-- **The marker lines that are recognised** are all marker lines. -/
theorem isMarker_iff {line : Text} : isMarker line = true ↔ IsMarkerLine line := by
  constructor
  · intro h
    unfold isMarker at h
    split at h
    · cases h
    case h_2 rest hrest =>
      obtain rfl := Text.dropStart?_eq_some_iff.1 hrest
      rw [Bool.or_eq_true, List.isSuffixOf_iff_suffix, List.isSuffixOf_iff_suffix] at h
      rcases h with ⟨words, rfl⟩ | ⟨words, rfl⟩
      · exact ⟨words, [], by simp, Or.inl rfl⟩
      · exact ⟨words, ['\r'], by simp, Or.inr rfl⟩
  · rintro ⟨words, ending, rfl, he⟩
    rw [isMarker, Text.dropStart?_eq_some_iff.2 (by rw [List.append_assoc, List.append_assoc])]
    simp only [Bool.or_eq_true, List.isSuffixOf_iff_suffix]
    rcases he with rfl | rfl
    · exact Or.inl ⟨words, by simp⟩
    · exact Or.inr ⟨words, by simp⟩

theorem isMarker_eq_false_iff {line : Text} : isMarker line = false ↔ ¬ IsMarkerLine line := by
  rw [← isMarker_iff, Bool.not_eq_true]

/-! ## Package clauses -/

theorem isSpace_iff {c : Char} : isSpace c = true ↔ c = ' ' ∨ c = '\t' := by
  rw [isSpace, Bool.or_eq_true, beq_iff_eq, beq_iff_eq]

theorem areSpaces_iff {s : Text} : AreSpaces s ↔ ∀ c ∈ s, isSpace c = true := by
  simp only [AreSpaces, isSpace_iff]

theorem areSpaces_takeWhile (s : Text) : AreSpaces (s.takeWhile isSpace) :=
  areSpaces_iff.2 fun _ => List.mem_takeWhile_imp

/-- A comment and a carriage return do not begin with a space. -/
theorem isSpace_of_head? {comment ending : Text} (hc : comment = [] ∨ "//".toList <+: comment)
    (he : ending = [] ∨ ending = ['\r']) (c : Char) (h : (comment ++ ending).head? = some c) :
    isSpace c = false := by
  rcases hc with rfl | ⟨words, rfl⟩
  · rcases he with rfl | rfl
    · cases h
    · cases h
      rfl
  · cases h
    rfl

theorem isClauseEnd_iff {rest : Text} : isClauseEnd rest = true ↔ IsClauseTail rest := by
  constructor
  · intro h
    simp only [isClauseEnd, Bool.or_eq_true, List.isEmpty_iff, beq_iff_eq,
      List.isPrefixOf_iff_prefix] at h
    have hrest := List.takeWhile_append_dropWhile (p := isSpace) (l := rest)
    have hspaces := areSpaces_takeWhile rest
    rcases h with (h | h) | h
    · exact ⟨_, [], [], by rw [List.append_nil, ← h, hrest], hspaces, Or.inl rfl, Or.inl rfl⟩
    · exact ⟨_, [], ['\r'], by rw [List.append_nil, ← h, hrest], hspaces, Or.inl rfl, Or.inr rfl⟩
    · exact ⟨_, _, [], by rw [List.append_nil, hrest], hspaces, Or.inr h, Or.inl rfl⟩
  · rintro ⟨spaces, comment, ending, rfl, hspaces, hc, he⟩
    have hdrop : (spaces ++ comment ++ ending).dropWhile isSpace = comment ++ ending := by
      rw [List.append_assoc]
      exact dropWhile_append_eq (areSpaces_iff.1 hspaces) (isSpace_of_head? hc he)
    simp only [isClauseEnd, hdrop, Bool.or_eq_true, List.isEmpty_iff, beq_iff_eq,
      List.isPrefixOf_iff_prefix]
    rcases hc with rfl | hc
    · exact Or.inl he
    · exact Or.inr (hc.trans (List.prefix_append _ _))

/-- What comes after a package is no part of an identifier. -/
theorem IsClauseTail.isIdentifierPart_of_head? {rest : Text} (h : IsClauseTail rest) (c : Char)
    (hc : rest.head? = some c) : isIdentifierPart c = false := by
  obtain ⟨spaces, comment, ending, rfl, hspaces, hcomment, he⟩ := h
  cases spaces with
  | cons d spaces =>
    obtain rfl : d = c := Option.some.inj hc
    rcases hspaces d List.mem_cons_self with rfl | rfl <;> decide +kernel
  | nil =>
    rcases hcomment with rfl | ⟨words, rfl⟩
    · rcases he with rfl | rfl
      · cases hc
      · cases hc
        decide +kernel
    · cases hc
      decide +kernel

theorem clauseName?_eq_some_iff {s package : Text} : clauseName? s = some package ↔
    isIdentifier package = true ∧ ∃ rest, s = package ++ rest ∧ IsClauseTail rest := by
  unfold clauseName?
  constructor
  · intro h
    rw [Option.ite_none_right_eq_some, Bool.and_eq_true, isClauseEnd_iff, Option.some.injEq] at h
    obtain ⟨⟨hname, hrest⟩, rfl⟩ := h
    exact ⟨hname, _, List.takeWhile_append_dropWhile.symm, hrest⟩
  · rintro ⟨hname, rest, rfl, hrest⟩
    have hpart : ∀ c ∈ package, isIdentifierPart c = true := fun _ => isIdentifierPart_of_mem hname
    have hhead := hrest.isIdentifierPart_of_head?
    simp only [takeWhile_append_eq hpart hhead, dropWhile_append_eq hpart hhead, hname,
      isClauseEnd_iff.2 hrest, Bool.and_self, if_true]

theorem isSpace_of_clauseName? {s package : Text} (h : clauseName? s = some package) (c : Char)
    (hc : s.head? = some c) : isSpace c = false := by
  obtain ⟨hname, rest, rfl, -⟩ := clauseName?_eq_some_iff.1 h
  cases package with
  | nil => cases hname
  | cons d package =>
    obtain rfl : d = c := Option.some.inj hc
    exact not_isSpace_of_isIdentifierPart (isIdentifierPart_of_mem hname List.mem_cons_self)

/-- **The package clauses that are recognised** are all clauses of a package. -/
theorem clausePackage?_eq_some_iff {line package : Text} :
    clausePackage? line = some package ↔ IsClauseOf line package := by
  constructor
  · intro h
    unfold clausePackage? at h
    split at h
    · cases h
    case h_2 rest hrest =>
      rw [Option.ite_none_left_eq_some, List.isEmpty_iff] at h
      obtain ⟨hne, hname⟩ := h
      obtain ⟨hid, tail, hdrop, htail⟩ := clauseName?_eq_some_iff.1 hname
      refine ⟨rest.takeWhile isSpace, tail, ?_, hne, areSpaces_takeWhile rest, hid, htail⟩
      rw [Text.dropStart?_eq_some_iff.1 hrest, List.append_assoc, List.append_assoc, ← hdrop,
        List.takeWhile_append_dropWhile]
  · rintro ⟨spaces, rest, rfl, hne, hspaces, hid, hrest⟩
    have hname : clauseName? (package ++ rest) = some package :=
      clauseName?_eq_some_iff.2 ⟨hid, rest, rfl, hrest⟩
    have hall : ∀ c ∈ spaces, isSpace c = true := areSpaces_iff.1 hspaces
    have hhead := isSpace_of_clauseName? hname
    rw [clausePackage?,
      Text.dropStart?_eq_some_iff.2 (by rw [List.append_assoc, List.append_assoc])]
    simp only [takeWhile_append_eq hall hhead, dropWhile_append_eq hall hhead]
    rw [if_neg (by simpa using hne), hname]

/-- A clause declares one package, however its end is taken apart. -/
theorem IsClauseOf.unique {line package package' : Text} (h : IsClauseOf line package)
    (h' : IsClauseOf line package') : package = package' := by
  rw [← clausePackage?_eq_some_iff] at h h'
  rw [h, Option.some.injEq] at h'
  exact h'

end GoOptional.GeneratedFile
