import Mathlib
import GoOptional.Proofs.GeneratedFile.LinePattern
import GoOptional.Request

/-!
# The parts of a wrapped type

Whether a type is a pointer, which package qualifies it and what its last name is are read off its
descriptor by three functions, each of which trims and splits for itself. They agree: a descriptor
is, between blanks, a number of stars and a rest, and the rest is a name, or a package and a name
with a point between them. The package that a request does not import is told by the same parts.

## Main definitions

* `Text.IsAfterLast`: the part of a text after the last occurrence of a character
* `WrappedType.IsMadeOf`: the stars and the rest of a type
* `WrappedType.ReadsOff`: what is read off a type, as its parts have it

## Main results

* `Text.isAfterLast_iff`: the part after the last occurrence is found
* `WrappedType.IsMadeOf.unique`: a type is made of stars and a rest in one way
* `Request.missingPackage?_eq_some_iff`: the package that no import provides
* `WrappedType.readsOff_parts`: all that is read off a type comes from its parts
-/

namespace GoOptional

namespace Text

variable {mark : Char} {s part before : Text}

/-- The part of a text after the last occurrence of a character, or all of it where there is none
of them. -/
def IsAfterLast (mark : Char) (s part : Text) : Prop :=
  mark ∉ part ∧ (s = part ∨ ∃ before, s = before ++ mark :: part)

theorem afterLast_of_not_mem (h : mark ∉ s) : s.afterLast mark = s := by
  rw [afterLast, splitLast?_eq_none_iff.2 h]

theorem afterLast_append_cons (h : mark ∉ part) :
    (before ++ mark :: part).afterLast mark = part := by
  rw [afterLast, splitLast?_eq_some_iff.2 ⟨rfl, h⟩]

theorem isAfterLast_afterLast (mark : Char) (s : Text) : IsAfterLast mark s (s.afterLast mark) := by
  unfold afterLast
  cases h : s.splitLast? mark with
  | none => exact ⟨splitLast?_eq_none_iff.1 h, Or.inl rfl⟩
  | some parts =>
    obtain ⟨hs, hmem⟩ := splitLast?_eq_some_iff.1 h
    exact ⟨hmem, Or.inr ⟨parts.1, hs⟩⟩

/-- **The part after the last occurrence** of a character is the one that is found. -/
theorem isAfterLast_iff : IsAfterLast mark s part ↔ s.afterLast mark = part := by
  constructor
  · rintro ⟨hmem, rfl | ⟨before, rfl⟩⟩
    · exact afterLast_of_not_mem hmem
    · exact afterLast_append_cons hmem
  · rintro rfl
    exact isAfterLast_afterLast mark s

/-- What comes first in a text is not touched by trimming its end. -/
theorem head?_trim (s : Text) : s.trim.head? = s.trimStart.head? := by
  rw [trim]
  cases h : s.trimStart with
  | nil => rfl
  | cons c rest =>
    have hblank : Character.isBlank c = false := by
      have hhead := List.head?_dropWhile_not Character.isBlank s
      have hdrop : s.dropWhile Character.isBlank = c :: rest := h
      simpa [hdrop] using hhead
    rw [GeneratedFile.trimEnd_cons hblank]
    rfl

end Text

namespace WrappedType

variable {t : WrappedType} {stars stars' : Nat} {rest rest' q : Text}

/-! ## Stars and the rest -/

/-- A type is, between blanks, a number of stars and a rest that does not start with one. -/
structure IsMadeOf (t : WrappedType) (stars : Nat) (rest : Text) : Prop where
  trim_eq : t.descriptor.trim = List.replicate stars '*' ++ rest
  head?_ne : rest.head? ≠ some '*'

theorem isMadeOf_pointee (t : WrappedType) :
    t.IsMadeOf (t.descriptor.trim.takeWhile (· == '*')).length t.pointee where
  trim_eq := by
    have hstars : t.descriptor.trim.takeWhile (· == '*') =
        List.replicate (t.descriptor.trim.takeWhile (· == '*')).length '*' :=
      List.eq_replicate_of_mem fun c hc => by simpa using List.mem_takeWhile_imp hc
    rw [← hstars]
    exact List.takeWhile_append_dropWhile.symm
  head?_ne := by
    intro h
    have hhead := List.head?_dropWhile_not (· == '*') t.descriptor.trim
    rw [← pointee, h] at hhead
    simp at hhead

namespace IsMadeOf

theorem pointee_eq (h : t.IsMadeOf stars rest) : t.pointee = rest := by
  rw [pointee, h.trim_eq]
  refine GeneratedFile.dropWhile_append_eq (fun c hc => ?_) (fun c hc => ?_)
  · rw [List.eq_of_mem_replicate hc]
    rfl
  · have hne : c ≠ '*' := fun he => h.head?_ne (he ▸ hc)
    simpa using hne

/-- **A type is made of stars and a rest in one way.** -/
theorem unique (h : t.IsMadeOf stars rest) (h' : t.IsMadeOf stars' rest') :
    stars = stars' ∧ rest = rest' := by
  have hrest : rest = rest' := h.pointee_eq.symm.trans h'.pointee_eq
  have hlength := congrArg List.length (h.trim_eq.symm.trans h'.trim_eq)
  rw [List.length_append, List.length_append, List.length_replicate, List.length_replicate,
    hrest] at hlength
  exact ⟨Nat.add_right_cancel hlength, hrest⟩

/-- The first character that is not blank is a star if there are any. -/
theorem isPointer_iff (h : t.IsMadeOf stars rest) : t.isPointer = true ↔ 0 < stars := by
  rw [isPointer, beq_iff_eq, ← Text.head?_trim, h.trim_eq]
  cases stars with
  | zero => simpa using h.head?_ne
  | succ n => simp [List.replicate_succ]

end IsMadeOf

/-! ## The package and the name -/

theorem qualifier?_of_not_mem (h : '.' ∉ t.pointee) : t.qualifier? = none := by
  rw [qualifier?, Text.splitLast?_eq_none_iff.2 h]

theorem qualifier?_of_pointee_eq {name : Text} (h : t.pointee = q ++ '.' :: name)
    (hname : '.' ∉ name) : t.qualifier? = if q = [] then none else some q := by
  rw [qualifier?, Text.splitLast?_eq_some_iff.2 ⟨h, hname⟩]
  simp only [List.isEmpty_iff]

theorem not_mem_lastName (t : WrappedType) : '.' ∉ t.lastName :=
  (Text.isAfterLast_afterLast '.' t.pointee).1

/-- **The package and the last name** are two sides of one point, or there is no package. -/
theorem lastName_cases (t : WrappedType) :
    ('.' ∉ t.pointee ∧ t.lastName = t.pointee ∧ t.qualifier? = none) ∨
      ∃ q, t.pointee = q ++ '.' :: t.lastName ∧
        t.qualifier? = if q = [] then none else some q := by
  have hname := t.not_mem_lastName
  rcases (Text.isAfterLast_afterLast '.' t.pointee).2 with h | ⟨q, h⟩
  · have hpointee : '.' ∉ t.pointee := by
      rw [h]
      exact hname
    exact Or.inl ⟨hpointee, h.symm, qualifier?_of_not_mem hpointee⟩
  · exact Or.inr ⟨q, h, qualifier?_of_pointee_eq h hname⟩

theorem qualifier?_eq_some_iff :
    t.qualifier? = some q ↔ t.pointee = q ++ '.' :: t.lastName ∧ q ≠ [] := by
  constructor
  · intro h
    rcases t.lastName_cases with ⟨-, -, hnone⟩ | ⟨q', hpointee, hsome⟩
    · rw [hnone] at h
      cases h
    · rw [hsome, Option.ite_none_left_eq_some, Option.some.injEq] at h
      obtain ⟨hne, rfl⟩ := h
      exact ⟨hpointee, hne⟩
  · rintro ⟨hpointee, hne⟩
    rw [qualifier?_of_pointee_eq hpointee t.not_mem_lastName, if_neg hne]

end WrappedType

namespace Request

variable {r : Request} {imports : List Text} {q : Text}

/-! ## The package that no import provides -/

/-- **The package that no import provides** is that of the type, and no import path ends in it. -/
theorem missingPackage?_eq_some_iff : r.missingPackage? = some q ↔
    r.type.qualifier? = some q ∧ ∀ path ∈ r.imports, ¬ Text.IsAfterLast '/' path q := by
  rw [missingPackage?, Option.filter_eq_some_iff]
  simp only [Bool.not_eq_true', List.any_eq_false, beq_iff_eq, Text.isAfterLast_iff]

/-- Only which import paths there are counts, not how often or where they come. -/
theorem missingPackage?_importing (h : ∀ path, path ∈ imports ↔ path ∈ r.imports) :
    (r.importing imports).missingPackage? = r.missingPackage? := by
  refine Option.ext fun q => ?_
  rw [missingPackage?_eq_some_iff, missingPackage?_eq_some_iff]
  simp only [importing, h]

/-- What is provided is provided among more imports. -/
theorem missingPackage?_importing_eq_none (h : r.imports ⊆ imports)
    (hr : r.missingPackage? = none) : (r.importing imports).missingPackage? = none := by
  refine Option.eq_none_iff_forall_ne_some.2 fun q hq => ?_
  obtain ⟨hqualifier, hpaths⟩ := missingPackage?_eq_some_iff.1 hq
  have hsome : r.missingPackage? = some q :=
    missingPackage?_eq_some_iff.2 ⟨hqualifier, fun path hpath => hpaths path (h hpath)⟩
  rw [hr] at hsome
  cases hsome

end Request

namespace WrappedType

/-! ## All parts together -/

/-- What is read off a type is told by its stars and the rest. -/
structure ReadsOff (t : WrappedType) (stars : Nat) (rest : Text) : Prop where
  isPointer_iff : t.isPointer = true ↔ 0 < stars
  not_mem_lastName : '.' ∉ t.lastName
  /-- Without a point the rest is a name; else the package comes before the last point, if anything
  does. -/
  names : ('.' ∉ rest ∧ t.lastName = rest ∧ t.qualifier? = none) ∨
    ∃ q, rest = q ++ '.' :: t.lastName ∧ t.qualifier? = if q = [] then none else some q
  /-- It is missing if no import path has it after its last slash. -/
  missingPackage?_eq_some_iff : ∀ r : Request, r.type = t → ∀ q, r.missingPackage? = some q ↔
    (rest = q ++ '.' :: t.lastName ∧ q ≠ []) ∧
      ∀ path ∈ r.imports, ¬ Text.IsAfterLast '/' path q

/-- **All that is read off a type comes from its parts**, and these are unique. So it is with the
package that no import provides: how often and in which order imports come does not matter, and more
of them do not take back what is provided. -/
theorem readsOff_parts (t : WrappedType) :
    (∃! parts : Nat × Text, t.IsMadeOf parts.1 parts.2) ∧
    (∀ stars rest, t.IsMadeOf stars rest → t.ReadsOff stars rest) ∧
    (∀ (r : Request) (imports : List Text), (∀ path, path ∈ imports ↔ path ∈ r.imports) →
      (r.importing imports).missingPackage? = r.missingPackage?) ∧
    ∀ (r : Request) (imports : List Text), r.imports ⊆ imports → r.missingPackage? = none →
      (r.importing imports).missingPackage? = none := by
  refine ⟨⟨⟨_, _⟩, t.isMadeOf_pointee, fun parts h => ?_⟩, fun stars rest h => ?_,
    fun _ _ => Request.missingPackage?_importing,
    fun _ _ => Request.missingPackage?_importing_eq_none⟩
  · obtain ⟨hstars, hrest⟩ := h.unique t.isMadeOf_pointee
    exact Prod.ext hstars hrest
  · exact {
      isPointer_iff := h.isPointer_iff
      not_mem_lastName := t.not_mem_lastName
      names := h.pointee_eq ▸ t.lastName_cases
      missingPackage?_eq_some_iff := by
        rintro r rfl q
        rw [Request.missingPackage?_eq_some_iff, qualifier?_eq_some_iff, h.pointee_eq] }

end WrappedType

end GoOptional
