import Mathlib
import GoOptional.Proofs.GeneratedFile.Adding
import GoOptional.Proofs.GeneratedFile.Grammar

/-!
# Reading a fresh file back

A fresh file is written for any package, be it a name or not, but only a package clause is read
back. The marker line is always found, and the line behind it that starts with the keyword is never
passed over. So all depends on that line, which ends at the first line feed of the package: what
comes later in the package, and all names, types and imports, have no part in it.

## Main definitions

* `GeneratedFile.clauseLine`: the line of a fresh file that should be its package clause
* `GeneratedFile.ReadsBack`: what is read from the text of a fresh file

## Main results

* `GeneratedFile.exists_freshText_eq`: the lines of a fresh file up to that line
* `GeneratedFile.ofText_freshText`: the anchor of a fresh file, or what it lacks
* `GeneratedFile.exists_readsBack`: what is written for a fresh file, and what is read from it
-/

namespace GoOptional

namespace Text

/-- The text up to its first line feed. -/
def firstLine (s : Text) : Text :=
  s.takeWhile (· ≠ '\n')

theorem not_mem_firstLine (s : Text) : '\n' ∉ firstLine s := by
  intro h
  simpa using List.mem_takeWhile_imp h

theorem firstLine_of_not_mem {s : Text} (h : '\n' ∉ s) : firstLine s = s := by
  refine List.takeWhile_eq_self_iff.2 fun c hc => ?_
  have hne : c ≠ '\n' := fun he => h (he ▸ hc)
  simpa using hne

/-- A line feed ends the first line of a text, be it one of the text or one behind it. -/
theorem exists_append_lineFeed_eq (s t : Text) :
    ∃ rest, s ++ '\n' :: t = firstLine s ++ '\n' :: rest := by
  by_cases h : '\n' ∈ s
  · obtain ⟨front, rest, rfl, hfront⟩ := List.eq_append_cons_of_mem h
    refine ⟨rest ++ '\n' :: t, ?_⟩
    have hfirst : firstLine (front ++ '\n' :: rest) = front := by
      rw [firstLine, List.takeWhile_append_of_pos fun c hc => ?_]
      · rw [List.takeWhile_cons_of_neg (by simp), List.append_nil]
      · have hne : c ≠ '\n' := fun he => hfront (he ▸ hc)
        simpa using hne
    rw [hfirst, List.append_assoc, List.cons_append]
  · exact ⟨t, by rw [firstLine_of_not_mem h]⟩

end Text

namespace GeneratedFile

open Text (Line)

/-! ## The lines of a fresh file -/

/-- The line of a fresh file that should be its package clause. -/
def clauseLine (package : Text) : Text :=
  Text.firstLine ("package ".toList ++ package)

theorem isIdentifier_underscore : isIdentifier ['_'] = true := by
  decide +kernel

/-- A header that is written for some package starts with these lines. -/
theorem isPreamble_openingLines : IsPreamble openingLines :=
  (Header.generated ['_'] isIdentifier_underscore).isPreamble

theorem isWhole_of_mem_openingLines : ∀ l ∈ openingLines, l.IsWhole :=
  (Header.generated ['_'] isIdentifier_underscore).isWhole

/-- **A fresh file** is the opening lines, the line of its package, and a line feed before what
else there is. -/
theorem exists_freshText_eq (r : Request) : ∃ rest,
    freshText r = openingLines.flatMap Line.whole ++ (clauseLine r.package ++ '\n' :: rest) := by
  obtain ⟨rest, hrest⟩ := Text.exists_append_lineFeed_eq ("package ".toList ++ r.package)
    ('\n' :: (importBlock r.imports ++ unitOf r))
  refine ⟨rest, ?_⟩
  rw [clauseLine, ← hrest, freshText, header_eq]
  simp only [List.append_assoc, List.cons_append, List.nil_append]

/-- A line is code if its first character is neither blank nor a slash. -/
theorem isFiller_cons {c : Char} (hc : Character.isBlank c = false) (hslash : c ≠ '/') (s : Text) :
    isFiller (c :: s) = false := by
  have hcomment : "//".toList = ['/', '/'] := rfl
  rw [isFiller, trim_cons hc, hcomment]
  simp [List.isPrefixOf, hslash.symm]

theorem not_isFillerLine_clauseLine (package : Text) : ¬ IsFillerLine (clauseLine package) := by
  have hcons : ∃ s, clauseLine package = 'p' :: s := ⟨_, rfl⟩
  obtain ⟨s, hs⟩ := hcons
  rw [← isFiller_iff, hs, isFiller_cons (by decide) (by decide)]
  exact Bool.false_ne_true

/-! ## What is read from it -/

/-- The header of a fresh file whose clause declares a package. -/
def Header.fresh {package q : Text} (h : clausePackage? (clauseLine package) = some q) :
    Header where
  front := openingLines
  clause := clauseLine package
  package := q
  isPreamble := isPreamble_openingLines
  isWhole := isWhole_of_mem_openingLines
  not_mem_clause := Text.not_mem_firstLine _
  clausePackage?_clause := h

theorem Header.exists_freshText_eq {r : Request} {q : Text}
    (h : clausePackage? (clauseLine r.package) = some q) :
    ∃ rest, freshText r = (Header.fresh h).text ++ '\n' :: rest := by
  obtain ⟨rest, hrest⟩ := GeneratedFile.exists_freshText_eq r
  exact ⟨rest, by rw [hrest, ← List.append_assoc]; rfl⟩

theorem ofText_freshText_of_none {r : Request} (h : clausePackage? (clauseLine r.package) = none) :
    Anchor.ofText (freshText r) = .error .noPackageClause := by
  obtain ⟨rest, hrest⟩ := exists_freshText_eq r
  obtain ⟨before, marker, between, hfront, hopening, hbetween⟩ :=
    isPreamble_iff.1 isPreamble_openingLines
  rw [Anchor.ofText, hrest, Text.lines_flatMap_whole_append isWhole_of_mem_openingLines,
    clauseLine, Text.lines_append_of_not_mem (Text.not_mem_firstLine _), hfront, List.append_assoc,
    List.cons_append]
  obtain ⟨offset, hscan⟩ := Anchor.exists_ofLines_eq_afterMarker hopening 0
    (between ++ ⟨clauseLine r.package, true⟩ :: Text.lines rest)
  exact hscan.trans (Anchor.afterMarker_of_clausePackage?_eq_none hbetween
    (not_isFillerLine_clauseLine r.package) h)

/-- **The anchor of a fresh file** names the package that its clause declares, and there is one
exactly if that line is a clause. -/
theorem ofText_freshText (r : Request) :
    (∃ a, Anchor.ofText (freshText r) = .ok a ∧ IsClauseOf (clauseLine r.package) a.package) ∨
      Anchor.ofText (freshText r) = .error .noPackageClause ∧
        ∀ q, ¬ IsClauseOf (clauseLine r.package) q := by
  cases h : clausePackage? (clauseLine r.package) with
  | some q =>
    obtain ⟨rest, hrest⟩ := Header.exists_freshText_eq h
    left
    refine ⟨_, by rw [hrest, Header.ofText_append _ (Or.inr ⟨rest, rfl⟩)], ?_⟩
    exact clausePackage?_eq_some_iff.1 h
  | none =>
    right
    refine ⟨ofText_freshText_of_none h, fun q hq => ?_⟩
    rw [clausePackage?_eq_some_iff.2 hq] at h
    cases h

/-- The clause of a fresh file declares the package of its request if that is an identifier, and
only then. -/
theorem isClauseOf_clauseLine_iff (package : Text) :
    IsClauseOf (clauseLine package) package ↔ isIdentifier package = true := by
  constructor
  · rintro ⟨-, -, -, -, -, h, -⟩
    exact h
  · intro h
    have hline : '\n' ∉ "package ".toList ++ package := by
      rw [List.mem_append, not_or]
      exact ⟨by decide, not_mem_of_isIdentifier h (by decide +kernel)⟩
    rw [clauseLine, Text.firstLine_of_not_mem hline]
    exact clausePackage?_eq_some_iff.1 (clausePackage?_of_isIdentifier h)

/-- The package of such a clause is the one that was asked for if that is an identifier. -/
theorem IsClauseOf.eq_iff_isIdentifier {package q : Text} (h : IsClauseOf (clauseLine package) q) :
    q = package ↔ isIdentifier package = true := by
  rw [← isClauseOf_clauseLine_iff]
  constructor
  · rintro rfl
    exact h
  · exact h.unique

/-! ## What can be added to it -/

theorem update_freshText_of_breaksLine {r r' : Request} (hr' : r'.append = true)
    (hb : BreaksLine (Utf8.encode (freshText r))) :
    update r' (Utf8.encode (freshText r)) = .error .crlf := by
  rw [breaksLine_encode_iff] at hb
  rw [update, if_pos hr', Anchor.ofBytes, Utf8.decode_encode]
  simp only [hb, if_true]

theorem update_freshText {r r' : Request} (hr' : r'.append = true)
    (hb : ¬ BreaksLine (Utf8.encode (freshText r))) :
    update r' (Utf8.encode (freshText r)) = match Anchor.ofText (freshText r) with
      | .error e => .error (.badHeader e)
      | .ok a => .ok ⟨add r' a (Utf8.encode (freshText r)), .keep, some a.package⟩ := by
  rw [breaksLine_encode_iff, Bool.not_eq_true] at hb
  rw [update, if_pos hr', Anchor.ofBytes, Utf8.decode_encode]
  simp only [hb, Bool.false_eq_true, if_false]
  cases Anchor.ofText (freshText r) <;> rfl

/-- A unit can be added to a fresh file with a clause and without a carriage return before a line
feed, and to no other. -/
theorem exists_update_freshText_iff {r r' : Request} (hr' : r'.append = true) :
    (∃ u, update r' (Utf8.encode (freshText r)) = .ok u) ↔
      (∃ q, IsClauseOf (clauseLine r.package) q) ∧ ¬ BreaksLine (Utf8.encode (freshText r)) := by
  by_cases hb : BreaksLine (Utf8.encode (freshText r))
  · rw [update_freshText_of_breaksLine hr' hb]
    constructor
    · rintro ⟨u, hu⟩
      cases hu
    · exact fun h => absurd hb h.2
  · rw [update_freshText hr' hb]
    rcases ofText_freshText r with ⟨a, ha, hclause⟩ | ⟨he, hnone⟩
    · rw [ha]
      exact ⟨fun _ => ⟨⟨_, hclause⟩, hb⟩, fun _ => ⟨_, rfl⟩⟩
    · rw [he]
      constructor
      · rintro ⟨u, hu⟩
        cases hu
      · exact fun h => absurd h.1 (not_exists.2 hnone)

/-- What is added to has a clause, and the package that is found is that of the clause. -/
theorem exists_oldPackage_of_update_freshText {r r' : Request} (hr' : r'.append = true)
    {u : Update} (hu : update r' (Utf8.encode (freshText r)) = .ok u) :
    ∃ q, u.oldPackage = some q ∧ IsClauseOf (clauseLine r.package) q := by
  obtain ⟨-, hb⟩ := (exists_update_freshText_iff hr').1 ⟨u, hu⟩
  rw [update_freshText hr' hb] at hu
  rcases ofText_freshText r with ⟨a, ha, hclause⟩ | ⟨he, -⟩
  · rw [ha, Except.ok.injEq] at hu
    exact ⟨a.package, by rw [← hu], hclause⟩
  · rw [he] at hu
    cases hu

/-! ## Writing and reading -/

/-- What is read from the content of a fresh file for a package. -/
structure ReadsBack (package content : Text) : Prop where
  ne_noMarker : Anchor.ofText content ≠ .error .noMarker
  exists_anchor_iff : (∃ a, Anchor.ofText content = .ok a) ↔
    ∃ q, IsClauseOf (clauseLine package) q
  eq_noPackageClause_iff : Anchor.ofText content = .error .noPackageClause ↔
    ¬ ∃ q, IsClauseOf (clauseLine package) q
  /-- Any unit can be added where there is a clause, unless a carriage return comes before a line
  feed. -/
  exists_update_iff : ∀ r : Request, r.append = true →
    ((∃ u, update r (Utf8.encode content) = .ok u) ↔
      (∃ q, IsClauseOf (clauseLine package) q) ∧ ¬ BreaksLine (Utf8.encode content))
  /-- The package that is found then is the one that was asked for if that is an identifier. -/
  oldPackage_eq_iff : ∀ r : Request, r.append = true → ∀ u,
    update r (Utf8.encode content) = .ok u →
      (u.oldPackage = some package ↔ isIdentifier package = true)

/-- **What is written for a fresh file and what is read from it**: for every text of a request,
the marker line is found, and all else depends on the line of the package and on carriage returns
before line feeds. -/
theorem exists_readsBack {r : Request} (hr : r.append = false) (existing : Bytes) :
    ∃ content, update r existing = .ok ⟨Utf8.encode content, .discard, none⟩ ∧
      ReadsBack r.package content := by
  refine ⟨freshText r, by rw [update, if_neg (by simp [hr])], ?_⟩
  have hadd (r' : Request) (hr' : r'.append = true) (u : Update)
      (hu : update r' (Utf8.encode (freshText r)) = .ok u) :
      u.oldPackage = some r.package ↔ isIdentifier r.package = true := by
    obtain ⟨q, hq, hclause⟩ := exists_oldPackage_of_update_freshText hr' hu
    rw [hq, Option.some.injEq, hclause.eq_iff_isIdentifier]
  rcases ofText_freshText r with ⟨a, ha, hclause⟩ | ⟨he, hnone⟩
  · exact {
      ne_noMarker := by simp [ha]
      exists_anchor_iff := ⟨fun _ => ⟨_, hclause⟩, fun _ => ⟨a, ha⟩⟩
      eq_noPackageClause_iff := by simpa [ha] using ⟨_, hclause⟩
      exists_update_iff := fun _ => exists_update_freshText_iff
      oldPackage_eq_iff := hadd }
  · exact {
      ne_noMarker := by simp [he]
      exists_anchor_iff := by simpa [he] using hnone
      eq_noPackageClause_iff := ⟨fun _ => not_exists.2 hnone, fun _ => he⟩
      exists_update_iff := fun _ => exists_update_freshText_iff
      oldPackage_eq_iff := hadd }

/-- A request whose package is a name with a comment, and a second line behind it. -/
def commentRequest : Request :=
  Request.fresh " main // the program\nvar debug bool".toList "Int".toList ⟨"int".toList⟩

theorem exists_readsBack_commentRequest : commentRequest.append = false ∧
    ∃ content, update commentRequest [] = .ok ⟨Utf8.encode content, .discard, none⟩ ∧
      ReadsBack commentRequest.package content :=
  ⟨rfl, exists_readsBack rfl []⟩

example : clausePackage? (clauseLine commentRequest.package) = some "main".toList := by
  decide +kernel

end GeneratedFile

end GoOptional
