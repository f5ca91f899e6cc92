import Mathlib
import GoOptional.Proofs.GeneratedFile.Series

/-!
# Adding to a bare header

A file that holds a header and nothing else takes its first unit as a fresh file gets it. The empty
line that imports and units need above them is there, or is made: as far as line feeds are missing
at the end of the header, they come from the import block or from the separator, and there are two
of them in the end.

## Main definitions

* `GeneratedFile.headerEnds`: what may follow the package clause of a bare header

## Main results

* `GeneratedFile.lineFeeds_append_missingLineFeeds`: what the separator adds to a bare header
* `GeneratedFile.addedTail_headerEnds`: what a request makes of a bare header
* `GeneratedFile.update_bareHeader`: a bare header takes a request as a fresh file does
-/

namespace GoOptional.GeneratedFile

/-- What may follow the package clause of a bare header: its two line feeds, one, or none. -/
def headerEnds : List Text :=
  [['\n', '\n'], ['\n'], []]

variable {p feeds : Text}

theorem mem_headerEnds_iff :
    feeds ∈ headerEnds ↔ feeds = ['\n', '\n'] ∨ feeds = ['\n'] ∨ feeds = [] := by
  simp [headerEnds]

theorem isTail_of_mem_headerEnds (h : feeds ∈ headerEnds) : IsTail feeds := by
  rcases mem_headerEnds_iff.1 h with rfl | rfl | rfl
  · exact Or.inr ⟨_, rfl⟩
  · exact Or.inr ⟨_, rfl⟩
  · exact Or.inl rfl

/-- A line feed behind a header is the only one there, or else the header itself would end with a
line feed. -/
theorem Header.missingLineFeeds_text_lineFeed (h : Header) :
    (h.text ++ ['\n']).missingLineFeeds = ['\n'] := by
  have hone : ['\n'] <:+ h.text ++ ['\n'] := List.suffix_append _ _
  have htwo : ¬ ['\n', '\n'] <:+ h.text ++ ['\n'] := by
    rintro ⟨s, hs⟩
    rw [List.append_cons] at hs
    exact h.not_isSuffix_text ⟨s, List.append_cancel_right hs⟩
  simp only [Text.missingLineFeeds, List.isSuffixOf_iff_suffix, hone, htwo, if_true, if_false]

/-- **The separator** brings the line feeds of a bare header to two. -/
theorem lineFeeds_append_missingLineFeeds (h : Header) (hfeeds : feeds ∈ headerEnds) :
    feeds ++ (h.text ++ feeds).missingLineFeeds = ['\n', '\n'] := by
  rcases mem_headerEnds_iff.1 hfeeds with rfl | rfl | rfl
  · simp [Text.missingLineFeeds, List.isSuffixOf_iff_suffix]
  · rw [h.missingLineFeeds_text_lineFeed]
    rfl
  · rw [List.append_nil, h.missingLineFeeds_text, List.nil_append]

/-- The declaration of an import ends with an empty line. -/
theorem isSuffix_importDeclaration (path : Text) : ['\n', '\n'] <:+ importDeclaration path := by
  have hend : "\"\n\n".toList = ['"'] ++ ['\n', '\n'] := by decide
  refine ⟨"import \"".toList ++ path ++ ['"'], ?_⟩
  delta importDeclaration
  rw [hend, List.append_assoc _ ['"']]

theorem missingLineFeeds_append_importBlock (s : Text) {imports : List Text} (h : imports ≠ []) :
    (s ++ importBlock imports).missingLineFeeds = [] := by
  obtain ⟨front, path, rfl⟩ := (List.eq_nil_or_concat imports).resolve_left h
  have hend : ['\n', '\n'] <:+ s ++ importBlock (front.concat path) := by
    rw [List.concat_eq_append, importBlock, List.flatMap_append, List.flatMap_singleton]
    exact ((isSuffix_importDeclaration path).trans (List.suffix_append _ _)).trans
      (List.suffix_append _ _)
  rw [Text.missingLineFeeds, if_pos (List.isSuffixOf_iff_suffix.2 hend)]

/-- Imports take the place of all line feeds behind a bare header. -/
theorem withImports_headerEnds (hfeeds : feeds ∈ headerEnds) {imports : List Text}
    (h : imports ≠ []) : withImports imports feeds = ['\n', '\n'] ++ importBlock imports := by
  have hdrop : feeds.dropLineFeed.dropLineFeed = [] := by
    rcases mem_headerEnds_iff.1 hfeeds with rfl | rfl | rfl <;> rfl
  rw [withImports, if_neg (by simpa using h), hdrop, List.append_nil]
  rfl

/-- **What a request makes of a bare header**: two line feeds, its imports and its unit, however
many of the line feeds were there. -/
theorem addedTail_headerEnds (h : Header) (r : Request) (hfeeds : feeds ∈ headerEnds) :
    h.addedTail r feeds = ['\n', '\n'] ++ importBlock r.imports ++ unitOf r := by
  rw [Header.addedTail]
  by_cases himports : r.imports = []
  · have hblock : importBlock r.imports = [] := by rw [himports]; rfl
    have hwith : withImports r.imports feeds = feeds := by rw [himports]; rfl
    rw [hwith, hblock, lineFeeds_append_missingLineFeeds h hfeeds, List.append_nil]
  · have hmissing : (h.text ++ withImports r.imports feeds).missingLineFeeds = [] := by
      rw [withImports_headerEnds hfeeds himports, ← List.append_assoc]
      exact missingLineFeeds_append_importBlock _ himports
    rw [hmissing, List.append_nil, withImports_headerEnds hfeeds himports]

theorem not_mem_text_append (hp : isIdentifier p = true) (hfeeds : feeds ∈ headerEnds) :
    '\r' ∉ (Header.generated p hp).text ++ feeds := by
  intro hc
  have hheader := not_mem_header hp
  rw [← Header.text_generated p hp] at hheader
  refine hheader (List.mem_append.2 ((List.mem_append.1 hc).imp_right fun hc => ?_))
  rcases mem_headerEnds_iff.1 hfeeds with rfl | rfl | rfl
  · exact hc
  · exact List.mem_cons_of_mem _ hc
  · cases hc

/-- **A bare header takes a request as a fresh file does.** Whatever package the request itself
names, and whether the header of a package ends with its two line feeds, with one or with none: what
is added to it makes the same file as the request for that package makes afresh. -/
theorem update_bareHeader (hp : isIdentifier p = true) (r : Request) (existing : Bytes) :
    ∃ bare content, header p = bare ++ ['\n', '\n'] ∧
      update ({ r with package := p }.appending false) existing =
        .ok ⟨content, .discard, none⟩ ∧
      ∀ feeds ∈ headerEnds, update (r.appending true) (Utf8.encode (bare ++ feeds)) =
        .ok ⟨content, .keep, some p⟩ := by
  let h := Header.generated p hp
  let fresh : Request := { r with package := p }.appending false
  have hheader : header p = h.text ++ ['\n', '\n'] := (Header.text_generated p hp).symm
  refine ⟨h.text, Utf8.encode (freshText fresh), hheader, rfl, fun feeds hfeeds => ?_⟩
  have hcontent : h.text ++ h.addedTail (r.appending true) feeds = freshText fresh := by
    have hfresh : freshText fresh = header p ++ importBlock r.imports ++ unitOf r := rfl
    have hparts : importBlock (r.appending true).imports = importBlock r.imports ∧
        unitOf (r.appending true) = unitOf r := ⟨rfl, rfl⟩
    rw [hfresh, hheader, addedTail_headerEnds h (r.appending true) hfeeds, hparts.1, hparts.2]
    simp only [List.append_assoc]
  rw [h.update_append rfl (isTail_of_mem_headerEnds hfeeds)
    (hasCrlf_eq_false_of_not_mem (not_mem_text_append hp hfeeds)), hcontent]
  rfl

/-- A request that imports a package, and that names another package than the header. -/
def pathRequest : Request :=
  (Request.fresh "other".toList "File".toList ⟨"*os.File".toList⟩).importing ["os".toList]

theorem update_bareHeader_pathRequest : isIdentifier "main".toList = true ∧
    ∃ bare content, header "main".toList = bare ++ ['\n', '\n'] ∧
      update ({ pathRequest with package := "main".toList }.appending false) [] =
        .ok ⟨content, .discard, none⟩ ∧
      ∀ feeds ∈ headerEnds, update (pathRequest.appending true) (Utf8.encode (bare ++ feeds)) =
        .ok ⟨content, .keep, some "main".toList⟩ := by
  have hmain : isIdentifier "main".toList = true := by decide +kernel
  exact ⟨hmain, update_bareHeader hmain pathRequest []⟩

end GoOptional.GeneratedFile
