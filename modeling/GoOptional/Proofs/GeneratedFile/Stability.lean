import Mathlib
import GoOptional.Proofs.GeneratedFile.Adding

/-!
# The header under additions

The scan for the anchor stops at the package clause, and additions go behind it. So whatever text
the requests bring, the header of a file is found again where it was, and only the search for a
carriage return before a line feed can refuse an addition. Once it refuses one, the file stays as
it is, and every addition after that one is refused for the same reason.

## Main definitions

* `GeneratedFile.Header.Opens`: a file that goes on after a header with a line feed
* `GeneratedFile.KeepsHeader`: what a run of additions leaves of the header

## Main results

* `GeneratedFile.Header.Opens.update_eq_or`: one more addition to such a file
* `GeneratedFile.Header.Opens.contentAfterAll`: any number of additions to such a file
* `GeneratedFile.exists_keepsHeader`: a run of additions of which one succeeds
-/

namespace GoOptional.GeneratedFile

/-- A file that goes on after a header with a line feed. -/
def Header.Opens (h : Header) (content : Bytes) : Prop :=
  ∃ t, content = Utf8.encode (h.text ++ '\n' :: t)

variable {h : Header} {existing content : Bytes} {r : Request} {rs : List Request} {u : Update}

namespace Header.Opens

theorem isPrefix (ho : h.Opens content) : Utf8.encode h.text <+: content := by
  obtain ⟨t, rfl⟩ := ho
  rw [Utf8.encode_append]
  exact List.prefix_append _ _

/-- The anchor stands behind the header and its line feed. -/
theorem exists_anchor (ho : h.Opens content) : ∃ s, content = Utf8.encode s ∧
    Anchor.ofText s = .ok ⟨h.package, h.size + 1, true⟩ := by
  obtain ⟨t, rfl⟩ := ho
  exact ⟨_, rfl, h.ofText_append (Or.inr ⟨t, rfl⟩)⟩

/-! ## One more addition -/

/-- **An addition to such a file** is refused for a carriage return before a line feed, or leaves
such a file again. -/
theorem update_eq_or (ho : h.Opens content) (hr : r.append = true) :
    BreaksLine content ∧ update r content = .error .crlf ∨
      ¬ BreaksLine content ∧ ∃ u, update r content = .ok u ∧ u.oldPackage = some h.package ∧
        h.Opens u.content := by
  obtain ⟨t, rfl⟩ := ho
  have ht : IsTail ('\n' :: t) := Or.inr ⟨t, rfl⟩
  rw [breaksLine_encode_iff]
  by_cases hc : hasCrlf (h.text ++ '\n' :: t) = true
  · exact Or.inl ⟨hc, h.update_append_of_hasCrlf hr hc⟩
  · obtain ⟨t', ht'⟩ := h.exists_addedTail_eq r ht
    exact Or.inr ⟨hc, _, h.update_append hr ht (by simpa using hc), rfl, t', by rw [ht']⟩

theorem update_of_breaksLine (ho : h.Opens content) (hr : r.append = true)
    (hb : BreaksLine content) : update r content = .error .crlf := by
  rcases ho.update_eq_or hr with ⟨-, hu⟩ | ⟨hn, -⟩
  · exact hu
  · exact absurd hb hn

theorem exists_update (ho : h.Opens content) (hr : r.append = true) (hb : ¬ BreaksLine content) :
    ∃ u, update r content = .ok u := by
  rcases ho.update_eq_or hr with ⟨hn, -⟩ | ⟨-, u, hu, -⟩
  · exact absurd hn hb
  · exact ⟨u, hu⟩

theorem contentAfter (ho : h.Opens content) (hr : r.append = true) :
    h.Opens (contentAfter content r) := by
  rcases ho.update_eq_or hr with ⟨-, hu⟩ | ⟨-, u, hu, -, hopens⟩
  · rwa [contentAfter_of_error hu]
  · rwa [contentAfter_of_update hu]

/-! ## Runs of additions -/

/-- **A run of additions** leaves such a file. -/
theorem contentAfterAll (ho : h.Opens content) (hrs : ∀ r ∈ rs, r.append = true) :
    h.Opens (contentAfterAll content rs) := by
  induction rs generalizing content with
  | nil => exact ho
  | cons r rs ih =>
    obtain ⟨hr, hrs⟩ := List.forall_mem_cons.1 hrs
    exact ih (ho.contentAfter hr) hrs

theorem oldPackage_eq (ho : h.Opens content) (hrs : ∀ r ∈ rs, r.append = true)
    (hu : .ok u ∈ updateAll content rs) : u.oldPackage = some h.package := by
  induction rs generalizing content with
  | nil => cases hu
  | cons r rs ih =>
    obtain ⟨hr, hrs⟩ := List.forall_mem_cons.1 hrs
    rcases List.mem_cons.1 hu with hfirst | hlater
    · rcases ho.update_eq_or hr with ⟨-, he⟩ | ⟨-, v, hv, hpackage, -⟩
      · rw [he] at hfirst
        cases hfirst
      · rw [hv, Except.ok.injEq] at hfirst
        rw [hfirst, hpackage]
    · exact ih (ho.contentAfter hr) hrs hlater

/-- **Once an addition is refused** for a carriage return, all are: the file stays as it is. -/
theorem eq_error_of_mem_updateAll (ho : h.Opens content) (hb : BreaksLine content)
    (hrs : ∀ r ∈ rs, r.append = true) : ∀ answer ∈ updateAll content rs, answer = .error .crlf := by
  induction rs with
  | nil => exact List.forall_mem_nil _
  | cons r rs ih =>
    obtain ⟨hr, hrs⟩ := List.forall_mem_cons.1 hrs
    have hu := ho.update_of_breaksLine hr hb
    rw [updateAll, List.forall_mem_cons, contentAfter_of_error hu]
    exact ⟨hu, ih hrs⟩

end Header.Opens

/-! ## From the first addition on -/

/-- Where the first addition is refused, no other one succeeds: they find the same file. -/
theorem eq_error_of_mem_updateAll {e : UpdateError} (he : Anchor.ofBytes existing = .error e)
    (hrs : ∀ r ∈ rs, r.append = true) : ∀ answer ∈ updateAll existing rs, answer = .error e := by
  induction rs with
  | nil => exact List.forall_mem_nil _
  | cons r rs ih =>
    obtain ⟨hr, hrs⟩ := List.forall_mem_cons.1 hrs
    have hu : update r existing = .error e := by rw [update, if_pos hr, he]
    rw [updateAll, List.forall_mem_cons, contentAfter_of_error hu]
    exact ⟨hu, ih hrs⟩

/-- What a run of additions leaves of the header of a file, where one of them succeeds: all holds
from behind the first step on. -/
structure KeepsHeader (h : Header) (existing : Bytes) (rs : List Request) : Prop where
  /-- The header is what the file has up to the end of its package clause. -/
  exists_tail : ∃ tail, IsTail tail ∧ existing = Utf8.encode (h.text ++ tail) ∧
    Anchor.ofBytes existing = .ok (h.anchor tail)
  /-- It stays at the start of the file, -/
  isPrefix : ∀ done rest, rs = done ++ rest → done ≠ [] →
    Utf8.encode h.text <+: contentAfterAll existing done
  /-- and the anchor is found at its end, behind a line feed. -/
  exists_anchor : ∀ done rest, rs = done ++ rest → done ≠ [] →
    ∃ s, contentAfterAll existing done = Utf8.encode s ∧
      Anchor.ofText s = .ok ⟨h.package, h.size + 1, true⟩
  /-- All steps that succeed find the same package. -/
  oldPackage_eq : ∀ u, .ok u ∈ updateAll existing rs → u.oldPackage = some h.package
  /-- A step succeeds if no carriage return comes before a line feed, -/
  exists_update : ∀ done r rest, rs = done ++ r :: rest → done ≠ [] →
    ¬ BreaksLine (contentAfterAll existing done) →
    ∃ u, update r (contentAfterAll existing done) = .ok u
  /-- and otherwise it is refused for that, as are all steps after it. -/
  eq_crlf : ∀ done rest, rs = done ++ rest → done ≠ [] →
    BreaksLine (contentAfterAll existing done) →
    ∀ answer ∈ updateAll (contentAfterAll existing done) rest, answer = .error .crlf

section

variable {tail : Text} (ht : IsTail tail) (he : existing = Utf8.encode (h.text ++ tail))
  (hc : hasCrlf (h.text ++ tail) = false)
include ht he hc

/-- The first of these additions succeeds, and puts a line feed behind the header. -/
theorem opens_contentAfter (hr : r.append = true) : h.Opens (contentAfter existing r) := by
  obtain ⟨t, ht'⟩ := h.exists_addedTail_eq r ht
  rw [he, contentAfter_of_update (h.update_append hr ht hc)]
  exact ⟨t, by rw [ht']⟩

theorem opens_contentAfterAll (hrs : ∀ r ∈ rs, r.append = true) (hne : rs ≠ []) :
    h.Opens (contentAfterAll existing rs) := by
  obtain ⟨r, rs, rfl⟩ := List.exists_cons_of_ne_nil hne
  obtain ⟨hr, hrs⟩ := List.forall_mem_cons.1 hrs
  exact (opens_contentAfter ht he hc hr).contentAfterAll hrs

theorem oldPackage_eq_of_mem_updateAll (hrs : ∀ r ∈ rs, r.append = true)
    (hu : .ok u ∈ updateAll existing rs) : u.oldPackage = some h.package := by
  cases rs with
  | nil => cases hu
  | cons r rs =>
    obtain ⟨hr, hrs⟩ := List.forall_mem_cons.1 hrs
    rcases List.mem_cons.1 hu with hfirst | hlater
    · rw [he, h.update_append hr ht hc, Except.ok.injEq] at hfirst
      rw [hfirst]
    · exact (opens_contentAfter ht he hc hr).oldPackage_eq hrs hlater

end

/-- **A run of additions of which one succeeds** keeps the header of the file, whatever text the
requests bring. -/
theorem exists_keepsHeader (hrs : ∀ r ∈ rs, r.append = true) (hu : .ok u ∈ updateAll existing rs) :
    ∃ h, KeepsHeader h existing rs := by
  cases ha : Anchor.ofBytes existing with
  | error e => cases eq_error_of_mem_updateAll ha hrs _ hu
  | ok a =>
    obtain ⟨h, tail, ht, he, hc, rfl⟩ := Anchor.ofBytes_eq_ok_iff.1 ha
    have hopens {done rest : List Request} (hsplit : rs = done ++ rest) (hne : done ≠ []) :
        h.Opens (contentAfterAll existing done) :=
      opens_contentAfterAll ht he hc (fun r hr => hrs r (by simp [hsplit, hr])) hne
    exact ⟨h, {
      exists_tail := ⟨tail, ht, he, ha⟩
      isPrefix := fun _ _ hsplit hne => (hopens hsplit hne).isPrefix
      exists_anchor := fun _ _ hsplit hne => (hopens hsplit hne).exists_anchor
      oldPackage_eq := fun _ hv => oldPackage_eq_of_mem_updateAll ht he hc hrs hv
      exists_update := fun _ r _ hsplit hne =>
        (hopens hsplit hne).exists_update (hrs r (by simp [hsplit]))
      eq_crlf := fun _ _ hsplit hne hb =>
        (hopens hsplit hne).eq_error_of_mem_updateAll hb fun r hr => hrs r (by simp [hsplit, hr]) }⟩

/-- A file whose package line ends with neither a line feed nor a carriage return. -/
def openFile : Bytes :=
  Utf8.encode "// Code generated by hand. DO NOT EDIT.\n\npackage main".toList

/-- A request whose name brings a marker line and a carriage return before a line feed. -/
def crlfRequest : Request :=
  (Request.fresh "other".toList "A\n// Code generated twice. DO NOT EDIT.\r\npackage b".toList
    ⟨"a".toList⟩).appending true

/-- The file once the request was added. -/
def crlfFile : Update where
  content := openFile ++ Utf8.encode ("\n\n".toList ++ unitOf crlfRequest)
  policy := .keep
  oldPackage := some "main".toList

theorem exists_keepsHeader_openFile :
    (∀ r ∈ [crlfRequest, crlfRequest], r.append = true) ∧
    .ok crlfFile ∈ updateAll openFile [crlfRequest, crlfRequest] ∧
    ∃ h, KeepsHeader h openFile [crlfRequest, crlfRequest] := by
  have hrs : ∀ r ∈ [crlfRequest, crlfRequest], r.append = true := by decide
  have hu : .ok crlfFile ∈ updateAll openFile [crlfRequest, crlfRequest] := by
    have hfirst : update crlfRequest openFile = .ok crlfFile := by decide +kernel
    rw [updateAll, hfirst]
    exact List.mem_cons_self
  exact ⟨hrs, hu, exists_keepsHeader hrs hu⟩

end GoOptional.GeneratedFile
