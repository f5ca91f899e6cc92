import Mathlib
import GoOptional.Proofs.GeneratedFile.LinePattern
import GoOptional.Proofs.Text.Lines
import GoOptional.Proofs.Text.Pattern

/-!
# Searching header lines

The marker line and the package clause are given by regular expressions. This module states them as
patterns and shows that the recognisers of lines, which read from left to right and never go back,
find what an engine finds that searches a line for these patterns. The end of a package clause can
match in several ways: a carriage return behind a comment is part of the comment or stands alone.
The group catches the same package in all of them.

The patterns do not look beyond a line feed and the recognisers do not look for one, so they agree
on lines without a line feed. All lines of a text are such.

## Main definitions

* `GeneratedFile.markerPattern`, `GeneratedFile.clausePattern`: the two patterns
* `GeneratedFile.IsMarkerText`: what a marker line looks like at its two ends
* `GeneratedFile.ReadsLine`: what an engine finds in a line

## Main results

* `GeneratedFile.foundIn_markerPattern_iff`, `GeneratedFile.foundIn_clausePattern_iff`: the lines
  that the patterns match, and what they catch
* `GeneratedFile.patterns_readLine`: engines and recognisers find the same
-/

namespace GoOptional.GeneratedFile

open Pattern

/-! ## The patterns -/

/-- A character that does not end a line. -/
def isInLine (c : Char) : Bool :=
  c != '\n'

/-- The pattern of a marker line, `^// Code generated .* DO NOT EDIT\.\r?$`. -/
def markerPattern : Pattern :=
  (exactly "// Code generated ".toList ++ many isInLine ++ exactly " DO NOT EDIT.".toList ++
    perhaps (exactly ['\r'])).whole

/-- The pattern of a package, `[\p{L}_][\p{L}\p{N}_]*`. -/
def identifierPattern : Pattern :=
  one isIdentifierStart ++ many isIdentifierPart

/-- The pattern of what follows a package, `[ \t]*(?://.*)?\r?`. -/
def clauseTailPattern : Pattern :=
  many isSpace ++ perhaps (exactly "//".toList ++ many isInLine) ++ perhaps (exactly ['\r'])

/-- The pattern of a package clause, `^package[ \t]+([\p{L}_][\p{L}\p{N}_]*)[ \t]*(?://.*)?\r?$`. -/
def clausePattern : Pattern :=
  (exactly "package".toList ++ atLeastOne isSpace ++ group 1 identifierPattern ++
    clauseTailPattern).whole

variable {line piece before after : Text} {caught : Captures}

theorem forall_isInLine_iff : (∀ c ∈ piece, isInLine c = true) ↔ '\n' ∉ piece := by
  simp only [isInLine, bne_iff_ne]
  exact List.forall_mem_ne'

theorem matches_perhaps_exactly_iff {s : Text} :
    (perhaps (exactly s)).Matches before piece after caught ↔
      (piece = [] ∨ piece = s) ∧ caught = [] := by
  rw [or_and_right, or_comm]
  rfl

/-! ## Marker lines -/

/-- **The lines that the marker pattern matches** are the marker lines. -/
theorem foundIn_markerPattern_iff (h : '\n' ∉ line) :
    markerPattern.FoundIn line caught ↔ IsMarkerLine line ∧ caught = [] := by
  rw [markerPattern, foundIn_whole_iff]
  constructor
  · rintro ⟨front, ending, _, _, rfl, rfl, hfront, hlast⟩
    obtain ⟨opening, closing, _, _, rfl, rfl, hopening, rfl, rfl⟩ := hfront
    obtain ⟨first, words, _, _, rfl, rfl, ⟨rfl, rfl⟩, -, rfl⟩ := hopening
    obtain ⟨hending, rfl⟩ := matches_perhaps_exactly_iff.1 hlast
    exact ⟨⟨words, ending, rfl, hending⟩, rfl⟩
  · rintro ⟨⟨words, ending, rfl, hending⟩, rfl⟩
    have hwords : ∀ c ∈ words, isInLine c = true :=
      forall_isInLine_iff.2 fun hm => h (by simp [hm])
    refine ⟨_, ending, [], [], rfl, rfl, ⟨_, _, [], [], rfl, rfl, ?_, rfl, rfl⟩,
      matches_perhaps_exactly_iff.2 ⟨hending, rfl⟩⟩
    exact ⟨_, words, [], [], rfl, rfl, ⟨rfl, rfl⟩, hwords, rfl⟩

/-- A text that starts with the first words of a marker line and ends with the last ones, which do
not overlap. -/
def IsMarkerText (s : Text) : Prop :=
  "// Code generated ".toList <+: s ∧ " DO NOT EDIT.".toList <:+ s ∧
    "// Code generated ".toList.length + " DO NOT EDIT.".toList.length ≤ s.length

/-- Two texts that do not overlap at the ends of a third one have something between them. -/
theorem exists_between_iff {first last s : Text} :
    (first <+: s ∧ last <:+ s ∧ first.length + last.length ≤ s.length) ↔
      ∃ words, s = first ++ words ++ last := by
  constructor
  · rintro ⟨⟨rest, rfl⟩, hlast, hlength⟩
    have hrest : last <:+ rest := by
      refine List.suffix_of_suffix_length_le hlast (List.suffix_append _ _) ?_
      rw [List.length_append] at hlength
      exact Nat.le_of_add_le_add_left hlength
    obtain ⟨words, rfl⟩ := hrest
    exact ⟨words, (List.append_assoc _ _ _).symm⟩
  · rintro ⟨words, rfl⟩
    refine ⟨⟨words ++ last, (List.append_assoc _ _ _).symm⟩, List.suffix_append _ _, ?_⟩
    simp only [List.length_append]
    omega

theorem isMarkerLine_iff : IsMarkerLine line ↔
    IsMarkerText line ∨ ∃ front, line = front ++ ['\r'] ∧ IsMarkerText front := by
  simp only [IsMarkerText, exists_between_iff]
  constructor
  · rintro ⟨words, ending, rfl, rfl | rfl⟩
    · exact Or.inl ⟨words, List.append_nil _⟩
    · exact Or.inr ⟨_, rfl, words, rfl⟩
  · rintro (⟨words, rfl⟩ | ⟨_, rfl, words, rfl⟩)
    · exact ⟨words, [], (List.append_nil _).symm, Or.inl rfl⟩
    · exact ⟨words, ['\r'], rfl, Or.inr rfl⟩

/-! ## Package clauses -/

theorem matches_identifierPattern_iff : identifierPattern.Matches before piece after caught ↔
    isIdentifier piece = true ∧ caught = [] := by
  constructor
  · rintro ⟨first, last, _, _, rfl, rfl, ⟨⟨c, hc, rfl⟩, rfl⟩, hlast, rfl⟩
    rw [List.singleton_append, isIdentifier, hc, Bool.true_and, List.all_eq_true]
    exact ⟨hlast, rfl⟩
  · rintro ⟨hid, rfl⟩
    cases piece with
    | nil => cases hid
    | cons c rest =>
      rw [isIdentifier, Bool.and_eq_true, List.all_eq_true] at hid
      exact ⟨[c], rest, [], [], rfl, rfl, ⟨⟨c, hid.1, rfl⟩, rfl⟩, hid.2, rfl⟩

/-- A comment that ends with the line. -/
theorem matches_comment_iff (h : '\n' ∉ piece) :
    (perhaps (exactly "//".toList ++ many isInLine)).Matches before piece after caught ↔
      (piece = [] ∨ "//".toList <+: piece) ∧ caught = [] := by
  constructor
  · rintro (⟨first, words, _, _, rfl, rfl, ⟨rfl, rfl⟩, -, rfl⟩ | ⟨rfl, rfl⟩)
    · exact ⟨Or.inr (List.prefix_append _ _), rfl⟩
    · exact ⟨Or.inl rfl, rfl⟩
  · rintro ⟨rfl | ⟨words, rfl⟩, rfl⟩
    · exact Or.inr ⟨rfl, rfl⟩
    · have hwords : ∀ c ∈ words, isInLine c = true :=
        forall_isInLine_iff.2 fun hm => h (List.mem_append_right _ hm)
      exact Or.inl ⟨_, words, [], [], rfl, rfl, ⟨rfl, rfl⟩, hwords, rfl⟩

theorem matches_clauseTailPattern_iff (h : '\n' ∉ piece) :
    clauseTailPattern.Matches before piece after caught ↔ IsClauseTail piece ∧ caught = [] := by
  constructor
  · rintro ⟨front, ending, _, _, rfl, rfl, hfront, hlast⟩
    obtain ⟨spaces, comment, _, _, rfl, rfl, ⟨hs, rfl⟩, hwords⟩ := hfront
    simp only [List.mem_append, not_or] at h
    obtain ⟨hcomment, rfl⟩ := (matches_comment_iff h.1.2).1 hwords
    obtain ⟨hending, rfl⟩ := matches_perhaps_exactly_iff.1 hlast
    exact ⟨⟨spaces, comment, ending, rfl, areSpaces_iff.2 hs, hcomment, hending⟩, rfl⟩
  · rintro ⟨⟨spaces, comment, ending, rfl, hs, hcomment, hending⟩, rfl⟩
    simp only [List.mem_append, not_or] at h
    refine ⟨_, ending, [], [], rfl, rfl, ⟨spaces, comment, [], [], rfl, rfl, ?_, ?_⟩, ?_⟩
    · exact ⟨areSpaces_iff.1 hs, rfl⟩
    · exact (matches_comment_iff h.1.2).2 ⟨hcomment, rfl⟩
    · exact matches_perhaps_exactly_iff.2 ⟨hending, rfl⟩

/-- **The lines that the clause pattern matches** are the package clauses, and the group catches
the package. -/
theorem foundIn_clausePattern_iff (h : '\n' ∉ line) : clausePattern.FoundIn line caught ↔
    ∃ package, IsClauseOf line package ∧ caught = [(1, package)] := by
  rw [clausePattern, foundIn_whole_iff]
  constructor
  · rintro ⟨front, rest, _, _, rfl, rfl, hfront, hlast⟩
    obtain ⟨opening, package, _, _, rfl, rfl, hopening, _, hgroup, rfl⟩ := hfront
    obtain ⟨keyword, spaces, _, _, rfl, rfl, ⟨rfl, rfl⟩, hblank⟩ := hopening
    obtain ⟨⟨hne, hspaces⟩, rfl⟩ := matches_atLeastOne_iff.1 hblank
    obtain ⟨hid, rfl⟩ := matches_identifierPattern_iff.1 hgroup
    have hn : '\n' ∉ rest := fun hm => h (List.mem_append_right _ hm)
    obtain ⟨hrest, rfl⟩ := (matches_clauseTailPattern_iff hn).1 hlast
    exact ⟨package, ⟨spaces, rest, rfl, hne, areSpaces_iff.2 hspaces, hid, hrest⟩, rfl⟩
  · rintro ⟨package, ⟨spaces, rest, rfl, hne, hspaces, hid, hrest⟩, rfl⟩
    have hn : '\n' ∉ rest := fun hm => h (List.mem_append_right _ hm)
    have hopening : (exactly "package".toList ++ atLeastOne isSpace).Matches []
        ("package".toList ++ spaces) (package ++ (rest ++ [])) [] :=
      ⟨_, spaces, [], [], rfl, rfl, ⟨rfl, rfl⟩,
        matches_atLeastOne_iff.2 ⟨⟨hne, areSpaces_iff.1 hspaces⟩, rfl⟩⟩
    have hfront : (exactly "package".toList ++ atLeastOne isSpace ++
        group 1 identifierPattern).Matches [] ("package".toList ++ spaces ++ package) (rest ++ [])
        [(1, package)] :=
      ⟨_, package, [], _, rfl, rfl, hopening, [], matches_identifierPattern_iff.2 ⟨hid, rfl⟩, rfl⟩
    exact ⟨_, rest, _, [], rfl, rfl, hfront, (matches_clauseTailPattern_iff hn).2 ⟨hrest, rfl⟩⟩

/-! ## Engines and recognisers -/

section Engine

variable (engine : Engine) (h : '\n' ∉ line)
include h

theorem isMatch_markerPattern : engine.isMatch markerPattern line = isMarker line := by
  rw [Bool.eq_iff_iff, engine.isMatch_iff, isMarker_iff]
  simp only [foundIn_markerPattern_iff h, exists_and_left, exists_eq, and_true]

theorem isMatch_clausePattern_iff :
    engine.isMatch clausePattern line = true ↔ ∃ package, IsClauseOf line package := by
  rw [engine.isMatch_iff]
  simp only [foundIn_clausePattern_iff h]
  rw [exists_comm]
  simp only [exists_and_left, exists_eq, and_true]

/-- **What the group of the clause pattern catches** is the package that the recogniser finds,
whatever match the engine has chosen. -/
theorem captured?_clausePattern :
    engine.captured? clausePattern line 1 = clausePackage? line := by
  unfold Engine.captured?
  cases hc : engine.captures? clausePattern line with
  | none =>
    have hnone : ∀ package, clausePackage? line ≠ some package := fun package hp =>
      engine.not_foundIn_of_captures?_eq_none _ _ _ hc
        ((foundIn_clausePattern_iff h).2 ⟨package, clausePackage?_eq_some_iff.1 hp, rfl⟩)
    exact (Option.eq_none_iff_forall_ne_some.2 hnone).symm
  | some caught =>
    obtain ⟨package, hclause, rfl⟩ :=
      (foundIn_clausePattern_iff h).1 (engine.foundIn_of_captures?_eq_some _ _ _ hc)
    exact (clausePackage?_eq_some_iff.2 hclause).symm

end Engine

/-- What an engine finds in a line. -/
structure ReadsLine (engine : Engine) (line : Text) : Prop where
  isMatch_clause_iff :
    engine.isMatch clausePattern line = true ↔ ∃ package, IsClauseOf line package
  /-- However the clause is taken apart, its package is the one that the group catches. -/
  captured?_of_isClauseOf :
    ∀ package, IsClauseOf line package → engine.captured? clausePattern line 1 = some package
  captured?_eq : engine.captured? clausePattern line 1 = clausePackage? line
  isMatch_marker_iff : engine.isMatch markerPattern line = true ↔
    IsMarkerText line ∨ ∃ front, line = front ++ ['\r'] ∧ IsMarkerText front
  isMatch_marker_eq : engine.isMatch markerPattern line = isMarker line

theorem readsLine_of_not_mem (engine : Engine) (h : '\n' ∉ line) : ReadsLine engine line where
  isMatch_clause_iff := isMatch_clausePattern_iff engine h
  captured?_of_isClauseOf package hc := by
    rw [captured?_clausePattern engine h, clausePackage?_eq_some_iff]
    exact hc
  captured?_eq := captured?_clausePattern engine h
  isMatch_marker_iff := by
    rw [isMatch_markerPattern engine h, isMarker_iff, isMarkerLine_iff]
  isMatch_marker_eq := isMatch_markerPattern engine h

/-- **The patterns mean what the recognisers find**, in every line without a line feed and so in
every line of a text, whatever engine searches the line. -/
theorem patterns_readLine (engine : Engine) :
    (∀ line, '\n' ∉ line → ReadsLine engine line) ∧
    ∀ content : Text, ∀ l ∈ content.lines, ReadsLine engine l.text :=
  ⟨fun _ => readsLine_of_not_mem engine, fun _ _ hl =>
    readsLine_of_not_mem engine (Text.not_mem_of_mem_lines hl)⟩

/-- A package clause whose end can match in several ways. -/
def commentedClause : Text :=
  "package \tcafé_²  // 店 //\r".toList

/-- A text with a marker line that ends with a carriage return. -/
def markedText : Text :=
  "// Code generated by 世界. DO NOT EDIT.\r\npackage café".toList

theorem patterns_readLine_commentedClause :
    '\n' ∉ commentedClause ∧
    Engine.leftmost.captured? clausePattern commentedClause 1 = some "café_²".toList ∧
    ⟨"// Code generated by 世界. DO NOT EDIT.\r".toList, true⟩ ∈ markedText.lines ∧
    Engine.leftmost.isMatch markerPattern "// Code generated by 世界. DO NOT EDIT.\r".toList =
      true := by
  have hline : '\n' ∉ commentedClause := by decide
  have hclause : IsClauseOf commentedClause "café_²".toList :=
    clausePackage?_eq_some_iff.1 (by decide +kernel)
  have hmem : ⟨"// Code generated by 世界. DO NOT EDIT.\r".toList, true⟩ ∈ markedText.lines := by
    decide +kernel
  have hmarker : IsMarkerText "// Code generated by 世界. DO NOT EDIT.".toList := by
    unfold IsMarkerText
    decide +kernel
  exact ⟨hline, ((patterns_readLine .leftmost).1 _ hline).captured?_of_isClauseOf _ hclause, hmem,
    ((patterns_readLine .leftmost).2 _ _ hmem).isMatch_marker_iff.2
      (Or.inr ⟨_, by decide +kernel, hmarker⟩)⟩

/-- A line feed makes a difference: no pattern goes beyond it, and no recogniser looks for it. -/
example : isMarker "// Code generated \n DO NOT EDIT.".toList = true ∧
    Engine.leftmost.isMatch markerPattern "// Code generated \n DO NOT EDIT.".toList = false := by
  decide +kernel

end GoOptional.GeneratedFile
