import Mathlib
import GoOptional.Proofs.GeneratedFile.Header
import GoOptional.GeneratedFile.Update

/-!
# The parts of a generated file as they are read

The header that is written is one that is read back, and units and imports bring no carriage
return of their own into a file.

## Main definitions

* `Request.NoReturn`: a request that brings no carriage return
* `GeneratedFile.Header.generated`: the header that is written for a package
* `GeneratedFile.openingLines`: the lines before its package clause

## Main results

* `GeneratedFile.clausePackage?_of_isIdentifier`: a package clause with an identifier is read back
* `Request.NoReturn.not_mem_unitOf`, `Request.NoReturn.not_mem_importBlock`: such a request shows
  no carriage return
-/

namespace GoOptional

/-- A request whose name, type and imports have no carriage return. -/
structure Request.NoReturn (r : Request) : Prop where
  name : '\r' ∉ r.name
  type : '\r' ∉ r.type.descriptor
  imports : ∀ path ∈ r.imports, '\r' ∉ path

instance (r : Request) : Decidable r.NoReturn :=
  decidable_of_iff
    ('\r' ∉ r.name ∧ '\r' ∉ r.type.descriptor ∧ ∀ path ∈ r.imports, '\r' ∉ path)
    ⟨fun ⟨hn, ht, hi⟩ => ⟨hn, ht, hi⟩, fun ⟨hn, ht, hi⟩ => ⟨hn, ht, hi⟩⟩

namespace GeneratedFile

/-! ## The header that is written -/

theorem isIdentifierPart_of_start {c : Char} (h : isIdentifierStart c = true) :
    isIdentifierPart c = true := by
  rw [isIdentifierStart, Bool.or_eq_true] at h
  rw [isIdentifierPart, Bool.or_eq_true, Bool.or_eq_true]
  exact h.elim (fun h => Or.inl (Or.inl h)) Or.inr

theorem isIdentifierPart_of_mem {p : Text} (h : isIdentifier p = true) {c : Char} (hc : c ∈ p) :
    isIdentifierPart c = true := by
  cases p with
  | nil => cases hc
  | cons d s =>
    rw [isIdentifier, Bool.and_eq_true] at h
    rcases List.mem_cons.1 hc with rfl | hc
    · exact isIdentifierPart_of_start h.1
    · exact List.all_eq_true.1 h.2 c hc

theorem not_mem_of_isIdentifier {p : Text} (h : isIdentifier p = true) {c : Char}
    (hc : isIdentifierPart c = false) : c ∉ p := by
  intro hm
  rw [isIdentifierPart_of_mem h hm] at hc
  cases hc

theorem not_isSpace_of_isIdentifierPart {c : Char} (h : isIdentifierPart c = true) :
    isSpace c = false := by
  by_contra hs
  rw [Bool.not_eq_false, isSpace, Bool.or_eq_true, beq_iff_eq, beq_iff_eq] at hs
  rcases hs with rfl | rfl <;> exact absurd h (by decide +kernel)

/-- **A package clause with an identifier** is read back. -/
theorem clausePackage?_of_isIdentifier {p : Text} (h : isIdentifier p = true) :
    clausePackage? ("package ".toList ++ p) = some p := by
  have hdrop : Text.dropStart? ("package ".toList ++ p) "package".toList = some (' ' :: p) := rfl
  have hspace : isSpace ' ' = true := rfl
  have hstart : p.takeWhile isSpace = [] ∧ p.dropWhile isSpace = p := by
    cases p with
    | nil => exact ⟨rfl, rfl⟩
    | cons c s =>
      have hc := not_isSpace_of_isIdentifierPart (isIdentifierPart_of_mem h List.mem_cons_self)
      exact ⟨List.takeWhile_cons_of_neg (by simp [hc]), List.dropWhile_cons_of_neg (by simp [hc])⟩
  have hall : p.takeWhile isIdentifierPart = p ∧ p.dropWhile isIdentifierPart = [] :=
    ⟨List.takeWhile_eq_self_iff.2 fun c hc => isIdentifierPart_of_mem h hc,
      List.dropWhile_eq_nil_iff.2 fun c hc => isIdentifierPart_of_mem h hc⟩
  rw [clausePackage?, hdrop]
  simp only [List.takeWhile_cons, List.dropWhile_cons, hspace, if_true, hstart]
  rw [if_neg (by simp), clauseName?, hall.1, hall.2, h]
  rfl

/-- The header that is written for a package. -/
def Header.generated (p : Text) (h : isIdentifier p = true) : Header where
  front := [⟨"// Code generated by github.com/acomagu/optional. DO NOT EDIT.".toList, true⟩,
    ⟨[], true⟩]
  clause := "package ".toList ++ p
  package := p
  isPreamble := by
    refine ⟨[], _, _, rfl, List.forall_mem_nil _, by decide +kernel, ?_⟩
    simp only [List.forall_mem_singleton]
    rfl
  isWhole := by
    intro l hl
    simp only [List.mem_cons, List.not_mem_nil, or_false] at hl
    rcases hl with rfl | rfl
    · exact ⟨rfl, by decide +kernel⟩
    · exact ⟨rfl, List.not_mem_nil⟩
  not_mem_clause := by
    rw [List.mem_append, not_or]
    exact ⟨by decide, not_mem_of_isIdentifier h (by decide +kernel)⟩
  clausePackage?_clause := clausePackage?_of_isIdentifier h

/-- The lines before the package clause of a fresh file, which are the same for all packages. -/
def openingLines : List Text.Line :=
  [⟨"// Code generated by github.com/acomagu/optional. DO NOT EDIT.".toList, true⟩, ⟨[], true⟩]

theorem header_eq (package : Text) : header package =
    openingLines.flatMap Text.Line.whole ++ ("package ".toList ++ package ++ ['\n', '\n']) := by
  have hopening : openingLines.flatMap Text.Line.whole ++ "package ".toList =
      "// Code generated by github.com/acomagu/optional. DO NOT EDIT.\n\npackage ".toList := by
    decide +kernel
  delta header
  rw [← hopening]
  simp only [List.append_assoc]
  rfl

theorem Header.text_generated (p : Text) (h : isIdentifier p = true) :
    (Header.generated p h).text ++ ['\n', '\n'] = header p := by
  have hfront : (Header.generated p h).front = openingLines := rfl
  have hclause : (Header.generated p h).clause = "package ".toList ++ p := rfl
  rw [text, hfront, hclause, header_eq, List.append_assoc]

/-! ## Units and imports -/

/-- A unit ends with a brace on a line of its own. -/
theorem exists_unitOf_eq (r : Request) : ∃ s, unitOf r = s ++ ['\x7d', '\n'] := by
  have hlast : ", bool) \x7b\n\treturn o.v, o.has\n\x7d\n".toList =
      ", bool) \x7b\n\treturn o.v, o.has\n".toList ++ ['\x7d', '\n'] := by
    decide +kernel
  delta unitOf unit
  rw [hlast, ← List.append_assoc]
  exact ⟨_, rfl⟩

end GeneratedFile

open GeneratedFile

theorem Request.NoReturn.not_mem_importBlock {r : Request} (h : r.NoReturn) :
    '\r' ∉ importBlock r.imports := by
  intro hm
  obtain ⟨path, hp, hc⟩ := List.mem_flatMap.1 hm
  delta importDeclaration at hc
  rw [List.mem_append, List.mem_append] at hc
  rcases hc with (hc | hc) | hc
  · exact absurd hc (by decide)
  · exact h.imports path hp hc
  · exact absurd hc (by decide)

theorem Request.NoReturn.not_mem_unitOf {r : Request} (h : r.NoReturn) : '\r' ∉ unitOf r := by
  delta unitOf unit
  simp only [List.mem_append, h.name, h.type, or_false]
  decide +kernel

end GoOptional
