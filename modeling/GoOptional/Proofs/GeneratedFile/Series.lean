import Mathlib
import GoOptional.Proofs.GeneratedFile.Adding
import GoOptional.Proofs.GeneratedFile.Parts

/-!
# A file made by a series of requests

A request for a fresh file, then requests that add to it: the imports come newest first, the
units oldest first. What a file holds after any number of requests is told by the last one for
a fresh file and those after it.

## Main definitions

* `GeneratedFile.seriesText`: the text of a file that was made by a series of requests
* `GeneratedFile.Fits`: the requests whose file is read back
* `GeneratedFile.Holds`: a file holds what requests made of it

## Main results

* `GeneratedFile.Holds.update`: what one more request makes of such a file
* `GeneratedFile.holds_contentAfterAll`: what any number of requests make of such a file
* `GeneratedFile.updateAll_eq_seriesText`: the content after requests from a fresh file on
-/

namespace GoOptional.GeneratedFile

/-- The imports of a request and of those that were added to it since, newest request first. -/
def seriesImports (r : Request) (added : List Request) : Text :=
  (r :: added).reverse.flatMap fun a => importBlock a.imports

/-- The units of a request and of those that were added to it since, oldest request first. -/
def seriesUnits (r : Request) (added : List Request) : Text :=
  unitOf r ++ added.flatMap fun a => '\n' :: unitOf a

/-- The text of a file for one request, with the requests that were added to it since. -/
def seriesText (r : Request) (added : List Request) : Text :=
  header r.package ++ seriesImports r added ++ seriesUnits r added

/-- A request whose file is read back: no carriage return comes from it, and a package that it
declares is an identifier. -/
def Fits (r : Request) : Prop :=
  r.NoReturn ∧ (r.append = false → isIdentifier r.package = true)

instance (r : Request) : Decidable (Fits r) :=
  inferInstanceAs (Decidable (r.NoReturn ∧ (r.append = false → isIdentifier r.package = true)))

/-- A file holds what is left of requests that follow each other: the last one for a fresh file,
and those after it. -/
def Holds (done : List Request) (content : Bytes) : Prop :=
  ∃ before r added, done = before ++ r :: added ∧ r.append = false ∧
    (∀ a ∈ added, a.append = true) ∧ content = Utf8.encode (seriesText r added)

/-! ## The text of a series -/

theorem seriesText_nil (r : Request) : seriesText r [] = freshText r := by
  simp [seriesText, seriesImports, seriesUnits, freshText]

theorem seriesImports_concat (r : Request) (added : List Request) (a : Request) :
    seriesImports r (added ++ [a]) = importBlock a.imports ++ seriesImports r added := by
  rw [seriesImports, ← List.cons_append, List.reverse_append, List.reverse_singleton,
    List.singleton_append, List.flatMap_cons, seriesImports]

theorem seriesUnits_concat (r : Request) (added : List Request) (a : Request) :
    seriesUnits r (added ++ [a]) = seriesUnits r added ++ '\n' :: unitOf a := by
  rw [seriesUnits, List.flatMap_append, List.flatMap_singleton, ← List.append_assoc, seriesUnits]

/-- The units of a series end with the unit of a request. -/
theorem exists_seriesUnits_eq (r : Request) (added : List Request) :
    ∃ s a, seriesUnits r added = s ++ unitOf a := by
  rcases List.eq_nil_or_concat added with rfl | ⟨added, a, rfl⟩
  · exact ⟨[], r, by rw [seriesUnits, List.flatMap_nil, List.append_nil, List.nil_append]⟩
  · exact ⟨seriesUnits r added ++ ['\n'], a, by
      rw [List.concat_eq_append, seriesUnits_concat, List.append_cons]⟩

/-- A unit ends with one line feed. -/
theorem missingLineFeeds_append_unitOf (s : Text) (a : Request) :
    (s ++ unitOf a).missingLineFeeds = ['\n'] := by
  obtain ⟨t, ht⟩ := exists_unitOf_eq a
  rw [ht, ← List.append_assoc]
  have hone : ['\n'] <:+ s ++ t ++ ['\x7d', '\n'] := ⟨s ++ t ++ ['\x7d'], by simp⟩
  have htwo : ¬ ['\n', '\n'] <:+ s ++ t ++ ['\x7d', '\n'] := by
    rintro ⟨k, hk⟩
    exact absurd (List.append_inj' hk rfl).2 (by decide)
  simp only [Text.missingLineFeeds, List.isSuffixOf_iff_suffix, hone, htwo, if_true, if_false]

/-! ## One more request -/

/-- What comes after the header in the text of a series. -/
def seriesTail (r : Request) (added : List Request) : Text :=
  '\n' :: '\n' :: (seriesImports r added ++ seriesUnits r added)

theorem text_append_seriesTail (r : Request) (h : isIdentifier r.package = true)
    (added : List Request) :
    (Header.generated r.package h).text ++ seriesTail r added = seriesText r added := by
  rw [seriesText, ← Header.text_generated r.package h, seriesTail]
  simp only [List.append_assoc, List.cons_append, List.nil_append]

/-- Imports go right after the empty line under a header. -/
theorem withImports_emptyLine (imports : List Text) (t : Text) :
    withImports imports ('\n' :: '\n' :: t) = '\n' :: '\n' :: (importBlock imports ++ t) := by
  cases imports <;> rfl

/-- Adding to a series gives the series with one more request. -/
theorem addedTail_seriesTail (h : Header) (r : Request) (added : List Request) (a : Request) :
    h.addedTail a (seriesTail r added) = seriesTail r (added ++ [a]) := by
  obtain ⟨s, b, hs⟩ := exists_seriesUnits_eq r added
  have hmissing : (h.text ++ withImports a.imports (seriesTail r added)).missingLineFeeds =
      ['\n'] := by
    rw [seriesTail, withImports_emptyLine, hs, ← List.append_assoc, ← List.append_assoc,
      ← List.cons_append, ← List.cons_append, ← List.append_assoc]
    exact missingLineFeeds_append_unitOf _ b
  rw [Header.addedTail, hmissing, seriesTail, withImports_emptyLine, seriesTail,
    seriesImports_concat, seriesUnits_concat]
  simp only [List.append_assoc, List.cons_append, List.nil_append]

theorem not_mem_header {p : Text} (h : isIdentifier p = true) : '\r' ∉ header p := by
  delta header
  rw [List.mem_append, List.mem_append]
  rintro ((hc | hc) | hc)
  · exact absurd hc (by decide +kernel)
  · exact not_mem_of_isIdentifier h (by decide +kernel) hc
  · exact absurd hc (by decide)

theorem not_mem_seriesText {r : Request} (hr : Fits r) (hf : r.append = false)
    {added : List Request} (ha : ∀ a ∈ added, Fits a) : '\r' ∉ seriesText r added := by
  have hall : ∀ a ∈ r :: added, a.NoReturn :=
    List.forall_mem_cons.2 ⟨hr.1, fun a h => (ha a h).1⟩
  rw [seriesText, seriesImports, seriesUnits, List.mem_append, List.mem_append, List.mem_append]
  rintro ((hc | hc) | hc | hc)
  · exact not_mem_header (hr.2 hf) hc
  · obtain ⟨a, hm, hc⟩ := List.mem_flatMap.1 hc
    exact (hall a (List.mem_reverse.1 hm)).not_mem_importBlock hc
  · exact hr.1.not_mem_unitOf hc
  · obtain ⟨a, hm, hc⟩ := List.mem_flatMap.1 hc
    rcases List.mem_cons.1 hc with hc | hc
    · exact absurd hc (by decide)
    · exact (ha a hm).1.not_mem_unitOf hc

/-- A request for a fresh file leaves nothing of what was there. -/
theorem update_eq_of_append_eq_false {r : Request} (h : r.append = false) (existing : Bytes) :
    update r existing = .ok ⟨Utf8.encode (seriesText r []), .discard, none⟩ := by
  rw [update, if_neg (by simp [h]), seriesText_nil]

/-- **One more request** succeeds on a file that requests made, and what they all made is there
after it: a fresh file starts again, and else the header that was written is found and the request
goes behind it. -/
theorem Holds.update {done : List Request} {content : Bytes} (h : Holds done content)
    (hd : ∀ r ∈ done, Fits r) (a : Request) :
    ∃ u, update a content = .ok u ∧ Holds (done ++ [a]) u.content := by
  cases hm : a.append with
  | false =>
    exact ⟨_, update_eq_of_append_eq_false hm content,
      done, a, [], rfl, hm, List.forall_mem_nil _, rfl⟩
  | true =>
    obtain ⟨before, r, added, rfl, hf, hadded, rfl⟩ := h
    have hr : Fits r := hd r (by simp)
    have htail : IsTail (seriesTail r added) := Or.inr ⟨_, rfl⟩
    let header := Header.generated r.package (hr.2 hf)
    have hcrlf : hasCrlf (header.text ++ seriesTail r added) = false := by
      rw [text_append_seriesTail]
      exact hasCrlf_eq_false_of_not_mem
        (not_mem_seriesText hr hf fun b hb => hd b (by simp [hb]))
    have hu := header.update_append hm htail hcrlf
    rw [text_append_seriesTail, addedTail_seriesTail, text_append_seriesTail] at hu
    refine ⟨_, hu, before, r, added ++ [a], by simp, hf, ?_, rfl⟩
    rw [List.forall_mem_append, List.forall_mem_singleton]
    exact ⟨hadded, hm⟩

/-! ## Runs of requests -/

/-- The last answer tells the content after all requests, if it is no error. -/
theorem content_of_getLast?_updateAll {existing : Bytes} {rs : List Request} {u : Update}
    (h : (updateAll existing rs).getLast? = some (.ok u)) :
    contentAfterAll existing rs = u.content := by
  induction rs generalizing existing with
  | nil => cases h
  | cons r rs ih =>
    cases rs with
    | nil => exact contentAfter_of_update (Option.some.inj h)
    | cons r' rs => exact ih h

/-- **A run of requests** that fit succeeds at every step on a file that requests made, and what
they all made is there after it. -/
theorem holds_contentAfterAll {done : List Request} {content : Bytes} (h : Holds done content)
    (hd : ∀ r ∈ done, Fits r) {rs : List Request} (hrs : ∀ r ∈ rs, Fits r) :
    (∀ answer ∈ updateAll content rs, ∃ u, answer = .ok u) ∧
      Holds (done ++ rs) (contentAfterAll content rs) := by
  induction rs generalizing done content with
  | nil => exact ⟨List.forall_mem_nil _, by simpa [contentAfterAll] using h⟩
  | cons a rs ih =>
    obtain ⟨ha, hrs⟩ := List.forall_mem_cons.1 hrs
    obtain ⟨u, hu, hheld⟩ := h.update hd a
    rw [← contentAfter_of_update hu] at hheld
    obtain ⟨hok, hall⟩ := ih hheld (List.forall_mem_append.2 ⟨hd, by simpa using ha⟩) hrs
    refine ⟨?_, by simpa [contentAfterAll] using hall⟩
    rw [updateAll, List.forall_mem_cons]
    exact ⟨⟨u, hu⟩, hok⟩

/-- **The content after requests from a fresh file on**: every answer is good, and the last one
has what the last request for a fresh file and those after it wrote, and nothing else. -/
theorem updateAll_eq_seriesText (existing : Bytes) {first : Request} (hfirst : first.append = false)
    {rs : List Request} (hfits : ∀ r ∈ first :: rs, Fits r) :
    (∀ answer ∈ updateAll existing (first :: rs), ∃ u, answer = .ok u) ∧
    ∃ before r added u, first :: rs = before ++ r :: added ∧ r.append = false ∧
      (∀ a ∈ added, a.append = true) ∧
      (updateAll existing (first :: rs)).getLast? = some (.ok u) ∧
      u.content = Utf8.encode (seriesText r added) ∧
      contentAfterAll existing (first :: rs) = u.content := by
  obtain ⟨hf, hrs⟩ := List.forall_mem_cons.1 hfits
  have hu := update_eq_of_append_eq_false hfirst existing
  have hone : Holds [first] (contentAfter existing first) := by
    rw [contentAfter_of_update hu]
    exact ⟨[], first, [], rfl, hfirst, List.forall_mem_nil _, rfl⟩
  obtain ⟨hok, before, r, added, hsplit, happend, hadded, hcontent⟩ :=
    holds_contentAfterAll hone (by simpa using hf) hrs
  have hanswers : ∀ answer ∈ updateAll existing (first :: rs), ∃ u, answer = .ok u := by
    rw [updateAll, List.forall_mem_cons]
    exact ⟨⟨_, hu⟩, hok⟩
  have hne : updateAll existing (first :: rs) ≠ [] := List.cons_ne_nil _ _
  obtain ⟨u, hlast⟩ := hanswers _ (List.getLast_mem hne)
  have hlast? : (updateAll existing (first :: rs)).getLast? = some (.ok u) := by
    rw [List.getLast?_eq_some_getLast hne, hlast]
  have hafter := content_of_getLast?_updateAll hlast?
  exact ⟨hanswers, before, r, added, u, hsplit, happend, hadded, hlast?,
    hafter.symm.trans hcontent, hafter⟩

/-- A request for a fresh file. -/
def intRequest : Request :=
  Request.fresh "main".toList "Int".toList ⟨"int".toList⟩

/-- A request that adds a unit and its import. -/
def fileRequest : Request :=
  ((Request.fresh [] "File".toList ⟨"*os.File".toList⟩).importing ["os".toList]).appending true

theorem updateAll_intRequest_fileRequest :
    (∀ answer ∈ updateAll [0xFF] [intRequest, fileRequest], ∃ u, answer = .ok u) ∧
    ∃ before r added u, [intRequest, fileRequest] = before ++ r :: added ∧ r.append = false ∧
      (∀ a ∈ added, a.append = true) ∧
      (updateAll [0xFF] [intRequest, fileRequest]).getLast? = some (.ok u) ∧
      u.content = Utf8.encode (seriesText r added) ∧
      contentAfterAll [0xFF] [intRequest, fileRequest] = u.content :=
  updateAll_eq_seriesText [0xFF] rfl (by decide +kernel)

end GoOptional.GeneratedFile
