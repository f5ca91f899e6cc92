import Mathlib
import GoOptional.Proofs.GeneratedFile.Adding

/-!
# What an addition keeps

Adding a unit loses no byte of a file. It puts imports under the package line and the unit at the
end, each after an empty line, and inserts nothing else. The line feed that is dropped behind the
package line is made up for by the one that goes before the imports.

## Main definitions

* `GeneratedFile.IsGap`: the fewest line feeds that make bytes end with an empty line
* `GeneratedFile.Keeps`: how the content after an addition is made of the content before it

## Main results

* `GeneratedFile.isGap_separator`: the separator before a unit is such a gap
* `GeneratedFile.exists_keeps_of_update`: every addition that succeeds keeps the whole file
-/

namespace GoOptional.GeneratedFile

/-! ## The gap before a unit -/

/-- The fewest line feeds, at most two, that make bytes end with an empty line. -/
structure IsGap (bs gap : Bytes) : Prop where
  eq_replicate : ∃ n ≤ 2, gap = List.replicate n lineFeed
  isSuffix : [lineFeed, lineFeed] <:+ bs ++ gap
  length_le : ∀ n, [lineFeed, lineFeed] <:+ bs ++ List.replicate n lineFeed → gap.length ≤ n

theorem isSuffix_of_concat {bs : Bytes} (h : [lineFeed, lineFeed] <:+ bs ++ [lineFeed]) :
    [lineFeed] <:+ bs := by
  obtain ⟨t, ht⟩ := h
  have ht' : t ++ [lineFeed] ++ [lineFeed] = bs ++ [lineFeed] := by simpa using ht
  exact ⟨t, (List.append_inj' ht' rfl).1⟩

theorem isGap_separator (bs : Bytes) : IsGap bs (separator bs) := by
  unfold separator
  simp only [List.isSuffixOf_iff_suffix]
  split_ifs with htwo hone
  · exact ⟨⟨0, by simp, rfl⟩, by simpa using htwo, fun n _ => Nat.zero_le n⟩
  · refine ⟨⟨1, by simp, rfl⟩, ?_, fun n hn => ?_⟩
    · obtain ⟨t, rfl⟩ := hone
      exact ⟨t, by simp⟩
    · rcases n with _ | n
      · exact absurd (by simpa using hn) htwo
      · simp
  · refine ⟨⟨2, le_rfl, rfl⟩, List.suffix_append _ _, fun n hn => ?_⟩
    rcases n with _ | _ | n
    · exact absurd (by simpa using hn) htwo
    · exact absurd (isSuffix_of_concat hn) hone
    · simp

/-! ## The package line -/

/-- The package line is the end of a header. -/
theorem exists_packageLine_eq {existing : Bytes} {a : Anchor}
    (ha : Anchor.ofBytes existing = .ok a) : ∃ h : Header, h.package = a.package ∧
      packageLine a existing = Utf8.encode (h.text ++ ['\n']) := by
  obtain ⟨h, tail, ht, rfl, -, rfl⟩ := Anchor.ofBytes_eq_ok_iff.1 ha
  exact ⟨h, rfl, h.packageLine_anchor ht⟩

/-- Nothing follows a package line without a line feed. -/
theorem drop_offset_of_not_terminated {existing : Bytes} {a : Anchor}
    (ha : Anchor.ofBytes existing = .ok a) (hterm : a.terminated = false) :
    existing.drop a.offset = [] := by
  obtain ⟨h, tail, -, rfl, -, rfl⟩ := Anchor.ofBytes_eq_ok_iff.1 ha
  have htail : tail = [] := by simpa [Header.anchor] using hterm
  rw [htail, List.append_nil, Header.offset_anchor_nil, List.drop_length]

/-! ## The whole file -/

/-- How the content after a request is made of the content before it, cut in two: imports are
inserted at the cut, and a gap and the unit come last. -/
structure Keeps (r : Request) (a : Anchor) (existing content : Bytes)
    (front inserted rest gap : Bytes) : Prop where
  split : existing = front ++ rest
  content_eq : content = front ++ inserted ++ rest ++ gap ++ Utf8.encode (unitOf r)
  isGap : IsGap (front ++ inserted ++ rest) gap
  /-- Without imports the content before is a prefix of the one after. -/
  of_imports_eq_nil : r.imports = [] → inserted = [] ∧ rest = [] ∧ existing <+: content
  /-- Imports bring at most two line feeds with them, -/
  of_imports_ne_nil : r.imports ≠ [] →
    ∃ n ≤ 2, inserted = List.replicate n lineFeed ++ Utf8.encode (importBlock r.imports)
  /-- and they stand between the package line with an empty line under it and all that was there
  below it. -/
  imports_first : r.imports ≠ [] →
    content = packageLine a existing ++ [lineFeed] ++ Utf8.encode (importBlock r.imports) ++
      dropLineFeed (existing.drop a.offset) ++ gap ++ Utf8.encode (unitOf r)

theorem dropLineFeed_of_ne {bs : Bytes} (h : ∀ t, bs ≠ lineFeed :: t) : dropLineFeed bs = bs := by
  cases bs with
  | nil => rfl
  | cons b t => exact if_neg fun hb => h t (by rw [hb])

/-- **Where imports are inserted**: behind the line feed that is dropped, or else where the package
line ends, with the line feeds that are not there. -/
theorem exists_insertImports_eq {imports : List Text} (hi : imports ≠ []) {terminated : Bool}
    (head rest : Bytes) (hterm : terminated = false → rest = []) :
    ∃ front back n, head ++ rest = front ++ back ∧ n ≤ 2 ∧
      insertImports imports terminated head rest =
        front ++ (List.replicate n lineFeed ++ Utf8.encode (importBlock imports)) ++ back := by
  rw [insertImports, if_neg (by simpa using hi)]
  by_cases hr : ∃ t, rest = lineFeed :: t
  · obtain ⟨t, rfl⟩ := hr
    have ht : terminated = true := by
      by_contra hf
      cases hterm (by simpa using hf)
    exact ⟨head ++ [lineFeed], t, 0, by simp, by simp, by simp [ht, dropLineFeed]⟩
  · rw [dropLineFeed_of_ne fun t ht => hr ⟨t, ht⟩]
    cases terminated with
    | true => exact ⟨head, rest, 1, rfl, by simp, by simp⟩
    | false => exact ⟨head, rest, 2, rfl, le_rfl, by simp [hterm rfl, List.replicate]⟩

theorem exists_keeps_add (r : Request) {existing : Bytes} {a : Anchor}
    (ha : Anchor.ofBytes existing = .ok a) :
    ∃ front inserted rest gap, Keeps r a existing (add r a existing) front inserted rest gap := by
  have hsplit := List.take_append_drop a.offset existing
  by_cases hi : r.imports = []
  · have hadd : addImports r a existing = existing := by
      rw [addImports, insertImports, if_pos (by simp [hi]), hsplit]
    refine ⟨existing, [], [], separator existing, ?_⟩
    exact {
      split := (List.append_nil _).symm
      content_eq := by rw [add, hadd, List.append_nil, List.append_nil]
      isGap := by simpa using isGap_separator existing
      of_imports_eq_nil := fun _ => by
        rw [add, hadd, List.append_assoc]
        exact ⟨rfl, rfl, List.prefix_append _ _⟩
      of_imports_ne_nil := fun h => absurd hi h
      imports_first := fun h => absurd hi h }
  · obtain ⟨front, rest, n, heq, hn, hins⟩ := exists_insertImports_eq hi
      (existing.take a.offset) (existing.drop a.offset) (drop_offset_of_not_terminated ha)
    rw [hsplit] at heq
    rw [← addImports] at hins
    refine ⟨front, List.replicate n lineFeed ++ Utf8.encode (importBlock r.imports), rest,
      separator (addImports r a existing), ?_⟩
    exact {
      split := heq
      content_eq := by rw [add, hins]
      isGap := by rw [← hins]; exact isGap_separator _
      of_imports_eq_nil := fun h => absurd h hi
      of_imports_ne_nil := fun _ => ⟨n, hn, rfl⟩
      imports_first := fun _ => by
        rw [add, packageLine]
        congr 2
        rw [addImports, insertImports, if_neg (by simpa using hi)] }

/-- **Every addition keeps the whole file**, and inserts nothing but the imports, the unit and the
line feeds before them. -/
theorem exists_keeps_of_update {r : Request} (hr : r.append = true) {existing : Bytes} {u : Update}
    (hu : update r existing = .ok u) :
    ∃ (a : Anchor) (h : Header) (front inserted rest gap : Bytes),
      Anchor.ofBytes existing = .ok a ∧ h.package = a.package ∧
      packageLine a existing = Utf8.encode (h.text ++ ['\n']) ∧
      Keeps r a existing u.content front inserted rest gap := by
  cases ha : Anchor.ofBytes existing with
  | error e => simp [update, hr, ha] at hu
  | ok a =>
    obtain rfl : _ = u := by simpa [update, hr, ha] using hu
    obtain ⟨h, hpackage, hline⟩ := exists_packageLine_eq ha
    obtain ⟨front, inserted, rest, gap, hkeeps⟩ := exists_keeps_add r ha
    exact ⟨a, h, front, inserted, rest, gap, rfl, hpackage, hline, hkeeps⟩

/-- A file whose package line has a comment and no line feed. -/
def bareFile : Bytes :=
  Utf8.encode "// Code generated by hand. DO NOT EDIT.\npackage io // all of it".toList

/-- A request that adds a unit with an import. -/
def readerRequest : Request :=
  ((Request.fresh [] "R".toList ⟨"bytes.Reader".toList⟩).importing ["bytes".toList]).appending true

/-- The file once the request was added. -/
def readerFile : Update where
  content := bareFile ++
    Utf8.encode ("\n\nimport \"bytes\"\n\n".toList ++ unitOf readerRequest)
  policy := .keep
  oldPackage := some "io".toList

theorem exists_keeps_bareFile :
    readerRequest.append = true ∧ update readerRequest bareFile = .ok readerFile ∧
    ∃ (a : Anchor) (h : Header) (front inserted rest gap : Bytes),
      Anchor.ofBytes bareFile = .ok a ∧ h.package = a.package ∧
      packageLine a bareFile = Utf8.encode (h.text ++ ['\n']) ∧
      Keeps readerRequest a bareFile readerFile.content front inserted rest gap := by
  have hu : update readerRequest bareFile = .ok readerFile := by decide +kernel
  exact ⟨rfl, hu, exists_keeps_of_update rfl hu⟩

end GoOptional.GeneratedFile
