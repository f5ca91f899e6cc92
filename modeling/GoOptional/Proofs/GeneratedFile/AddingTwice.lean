import Mathlib
import GoOptional.Proofs.GeneratedFile.Adding
import GoOptional.Proofs.GeneratedFile.Parts

/-!
# Adding twice

A file with a carriage return before a line feed is refused. An addition puts line feeds behind
what a file holds, so a file that ends with a carriage return is one to which a unit can be added
once: the line feed that is added makes it a file that is refused. All other files take one unit
after another, as long as the requests bring no carriage return.

## Main definitions

* `GeneratedFile.TakesLineFeed`: the texts behind which a line feed can be put
* `GeneratedFile.TakesUnits`: the files that take one unit after another

## Main results

* `GeneratedFile.takesUnits_iff`: they are the files that take one and do not end with a carriage
  return
* `GeneratedFile.update_update`: when a file takes a second unit
* `GeneratedFile.TakesUnits.exists_ok_of_mem_updateAll`: what one unit after another needs
-/

namespace GoOptional.GeneratedFile

/-- A text in which no carriage return comes before a line feed, nor would with one behind it. -/
def TakesLineFeed (s : Text) : Prop :=
  hasCrlf (s ++ ['\n']) = false

theorem takesLineFeed_iff {s : Text} :
    TakesLineFeed s ↔ hasCrlf s = false ∧ s.getLast? ≠ some '\r' := by
  have hone : hasCrlf ['\n'] = false := rfl
  rw [TakesLineFeed, hasCrlf_append]
  simp [hone]

namespace TakesLineFeed

theorem append {s t : Text} (hs : TakesLineFeed s) (ht : TakesLineFeed t) :
    TakesLineFeed (s ++ t) := by
  obtain ⟨hcrlf, hlast⟩ := takesLineFeed_iff.1 hs
  rw [TakesLineFeed, List.append_assoc, hasCrlf_append]
  exact ⟨hcrlf, ht, fun h => absurd h hlast⟩

theorem of_not_mem {s : Text} (h : '\r' ∉ s) : TakesLineFeed s := by
  apply hasCrlf_eq_false_of_not_mem
  rw [List.mem_append, not_or]
  exact ⟨h, by decide⟩

theorem of_isSuffix {s t : Text} (h : TakesLineFeed s) (ht : t <:+ s) : TakesLineFeed t := by
  obtain ⟨p, rfl⟩ := ht
  rw [TakesLineFeed, List.append_assoc, hasCrlf_append] at h
  exact h.2.1

/-- A line feed that is there can be put there. -/
theorem of_append_cons {s t : Text} (h : hasCrlf (s ++ '\n' :: t) = false) : TakesLineFeed s := by
  rw [hasCrlf_append] at h
  exact takesLineFeed_iff.2 ⟨h.1, fun hlast => h.2.2 hlast rfl⟩

theorem missingLineFeeds (s : Text) : TakesLineFeed s.missingLineFeeds := by
  apply of_not_mem
  unfold Text.missingLineFeeds
  split_ifs <;> decide

end TakesLineFeed

theorem isSuffix_dropLineFeed (s : Text) : s.dropLineFeed <:+ s := by
  cases s with
  | nil => exact List.suffix_rfl
  | cons c s =>
    rw [Text.dropLineFeed]
    split_ifs
    · exact List.suffix_cons c s
    · exact List.suffix_rfl

namespace Header

variable (h : Header)

theorem takesLineFeed_text {tail : Text} (ht : IsTail tail) (hc : TakesLineFeed (h.text ++ tail)) :
    TakesLineFeed h.text := by
  rcases ht with rfl | ⟨t, rfl⟩
  · rwa [List.append_nil] at hc
  · exact .of_append_cons (takesLineFeed_iff.1 hc).1

theorem takesLineFeed_withImports {r : Request} (hr : r.NoReturn) {tail : Text} (ht : IsTail tail)
    (hc : TakesLineFeed (h.text ++ tail)) :
    TakesLineFeed (h.text ++ withImports r.imports tail) := by
  unfold withImports
  split_ifs
  · exact hc
  · have himports : TakesLineFeed ('\n' :: '\n' :: importBlock r.imports) := by
      apply TakesLineFeed.of_not_mem
      simpa using hr.not_mem_importBlock
    have hrest : tail.dropLineFeed.dropLineFeed <:+ h.text ++ tail :=
      ((isSuffix_dropLineFeed _).trans (isSuffix_dropLineFeed _)).trans (List.suffix_append _ _)
    exact (h.takesLineFeed_text ht hc).append (himports.append (hc.of_isSuffix hrest))

/-- A file behind which a line feed can be put stays so when a unit is added. -/
theorem takesLineFeed_addedTail {r : Request} (hr : r.NoReturn) {tail : Text} (ht : IsTail tail)
    (hc : TakesLineFeed (h.text ++ tail)) : TakesLineFeed (h.text ++ h.addedTail r tail) := by
  rw [addedTail, ← List.append_assoc, ← List.append_assoc]
  exact ((h.takesLineFeed_withImports hr ht hc).append (.missingLineFeeds _)).append
    (.of_not_mem hr.not_mem_unitOf)

end Header

/-! ## A carriage return at the end -/

theorem getLast?_dropLineFeed {s : Text} (h : s.getLast? = some '\r') :
    s.dropLineFeed.getLast? = some '\r' := by
  cases s with
  | nil => cases h
  | cons c s =>
    rw [Text.dropLineFeed]
    split_ifs with hc
    · cases s with
      | nil =>
        rw [hc] at h
        cases h
      | cons d s => rwa [List.getLast?_cons_cons] at h
    · exact h

theorem missingLineFeeds_of_getLast? {s : Text} (h : s.getLast? = some '\r') :
    s.missingLineFeeds = ['\n', '\n'] := by
  apply Text.missingLineFeeds_of_not_isSuffix
  rintro ⟨t, rfl⟩
  rw [List.getLast?_concat] at h
  cases h

theorem getLast?_append_of_getLast? {s t : Text} (h : t.getLast? = some '\r') :
    (s ++ t).getLast? = some '\r' := by
  rw [List.getLast?_append, h, Option.some_or]

namespace Header

variable (h : Header)

/-- The imports are put behind the carriage return, or it stays at the end of the file. -/
theorem getLast?_withImports (imports : List Text) {tail : Text} (ht : IsTail tail)
    (hlast : (h.text ++ tail).getLast? = some '\r') :
    (h.text.getLast? = some '\r' ∧ ∃ t, withImports imports tail = '\n' :: t) ∨
      (h.text ++ withImports imports tail).getLast? = some '\r' := by
  unfold withImports
  split_ifs
  · exact Or.inr hlast
  rcases ht with rfl | ⟨t, rfl⟩
  · rw [List.append_nil] at hlast
    exact Or.inl ⟨hlast, _, rfl⟩
  · have htail : ('\n' :: t : Text).getLast? = some '\r' := by
      rwa [List.getLast?_append_of_ne_nil _ (List.cons_ne_nil _ _)] at hlast
    exact Or.inr (getLast?_append_of_getLast?
      (getLast?_append_of_getLast? (getLast?_dropLineFeed (getLast?_dropLineFeed htail))))

/-- A line feed is put behind the carriage return at the end of a file, be it before the imports or
before the unit. -/
theorem hasCrlf_addedTail (r : Request) {tail : Text} (ht : IsTail tail)
    (hlast : (h.text ++ tail).getLast? = some '\r') :
    hasCrlf (h.text ++ h.addedTail r tail) = true := by
  unfold addedTail
  rcases h.getLast?_withImports r.imports ht hlast with ⟨hclause, t, ht⟩ | hend
  · rw [ht]
    exact hasCrlf_append_of_getLast? hclause _
  · rw [missingLineFeeds_of_getLast? hend, ← List.append_assoc, ← List.append_assoc,
      List.append_assoc (h.text ++ _)]
    exact hasCrlf_append_of_getLast? hend _

end Header

/-! ## The next addition -/

theorem getLast?_encode_iff {s : Text} :
    (Utf8.encode s).getLast? = some carriageReturn ↔ s.getLast? = some '\r' := by
  constructor
  · intro h
    obtain ⟨bs, hbs⟩ := List.getLast?_eq_some_iff.1 h
    obtain ⟨t, rfl, -⟩ := Utf8.exists_of_encode_eq_append (c := '\r') (by decide) hbs
    exact List.getLast?_concat
  · intro h
    obtain ⟨t, rfl⟩ := List.getLast?_eq_some_iff.1 h
    rw [Utf8.encode_append]
    exact List.getLast?_concat

/-- A file with a header, behind which a line feed can be put. -/
def TakesUnits (existing : Bytes) : Prop :=
  ∃ (h : Header) (tail : Text), IsTail tail ∧ existing = Utf8.encode (h.text ++ tail) ∧
    TakesLineFeed (h.text ++ tail)

theorem takesUnits_iff {existing : Bytes} : TakesUnits existing ↔
    (∃ a, Anchor.ofBytes existing = .ok a) ∧ existing.getLast? ≠ some carriageReturn := by
  constructor
  · rintro ⟨h, tail, ht, rfl, hc⟩
    obtain ⟨hcrlf, hlast⟩ := takesLineFeed_iff.1 hc
    rw [Ne, getLast?_encode_iff]
    exact ⟨⟨_, Anchor.ofBytes_eq_ok_iff.2 ⟨h, tail, ht, rfl, hcrlf, rfl⟩⟩, hlast⟩
  · rintro ⟨⟨a, ha⟩, hlast⟩
    obtain ⟨h, tail, ht, rfl, hcrlf, -⟩ := Anchor.ofBytes_eq_ok_iff.1 ha
    rw [Ne, getLast?_encode_iff] at hlast
    exact ⟨h, tail, ht, rfl, takesLineFeed_iff.2 ⟨hcrlf, hlast⟩⟩

namespace TakesUnits

/-- Such a file takes a unit, and the next one after it. -/
theorem update {existing : Bytes} (he : TakesUnits existing) {r : Request} (hr : r.append = true) :
    ∃ u, update r existing = .ok u ∧ (r.NoReturn → TakesUnits u.content) := by
  obtain ⟨h, tail, ht, rfl, hc⟩ := he
  refine ⟨_, h.update_append hr ht (takesLineFeed_iff.1 hc).1, fun hn => ?_⟩
  exact ⟨h, h.addedTail r tail, Or.inr (h.exists_addedTail_eq r ht), rfl,
    h.takesLineFeed_addedTail hn ht hc⟩

/-- **One unit after another**: no request to add one fails. -/
theorem exists_ok_of_mem_updateAll {existing : Bytes} (he : TakesUnits existing)
    {rs : List Request} (hrs : ∀ r ∈ rs, r.append = true ∧ r.NoReturn) :
    ∀ answer ∈ updateAll existing rs, ∃ u, answer = .ok u := by
  induction rs generalizing existing with
  | nil => exact List.forall_mem_nil _
  | cons r rs ih =>
    obtain ⟨⟨hr, hn⟩, hrs⟩ := List.forall_mem_cons.1 hrs
    obtain ⟨u, hu, hnext⟩ := he.update hr
    rw [updateAll, List.forall_mem_cons, contentAfter_of_update hu]
    exact ⟨⟨u, hu⟩, ih (hnext hn) hrs⟩

end TakesUnits

/-- **A file takes a second unit** unless it ended with a carriage return before the first one, and
is then refused for the line feed that was put behind it. -/
theorem update_update {r₁ r₂ : Request} (h₁ : r₁.append = true) (h₂ : r₂.append = true)
    (hr : r₁.NoReturn) {existing : Bytes} {u : Update} (hu : update r₁ existing = .ok u) :
    (existing.getLast? = some carriageReturn → update r₂ u.content = .error .crlf) ∧
      (existing.getLast? ≠ some carriageReturn → ∃ u', update r₂ u.content = .ok u') := by
  obtain ⟨h, tail, ht, he, hc, rfl⟩ := exists_header_of_update h₁ hu
  constructor
  · intro hlast
    rw [he, getLast?_encode_iff] at hlast
    exact h.update_append_of_hasCrlf h₂ (h.hasCrlf_addedTail r₁ ht hlast)
  · intro hlast
    have hfirst : TakesUnits existing :=
      takesUnits_iff.2 ⟨⟨_, Anchor.ofBytes_eq_ok_iff.2 ⟨h, tail, ht, he, hc, rfl⟩⟩, hlast⟩
    obtain ⟨u, hu', hnext⟩ := hfirst.update h₁
    rw [hu, Except.ok.injEq] at hu'
    obtain ⟨u', hu'', -⟩ := (hu' ▸ hnext hr).update h₂
    exact ⟨u', hu''⟩

/-- A file that ends with a carriage return. -/
def returnFile : Bytes :=
  Utf8.encode "// Code generated by hand. DO NOT EDIT.\n\npackage main\r".toList

/-- A request that adds a unit without imports. -/
def boolRequest : Request :=
  (Request.fresh "main".toList "Bool".toList ⟨"bool".toList⟩).appending true

/-- The file once the request was added. -/
def boolFile : Update where
  content := returnFile ++ Utf8.encode ("\n\n".toList ++ unitOf boolRequest)
  policy := .keep
  oldPackage := some "main".toList

theorem update_update_returnFile :
    boolRequest.append = true ∧ boolRequest.NoReturn ∧
    update boolRequest returnFile = .ok boolFile ∧
    (returnFile.getLast? = some carriageReturn →
      update boolRequest boolFile.content = .error .crlf) ∧
    (returnFile.getLast? ≠ some carriageReturn →
      ∃ u', update boolRequest boolFile.content = .ok u') := by
  have hr : boolRequest.NoReturn := by decide +kernel
  have hu : update boolRequest returnFile = .ok boolFile := by decide +kernel
  exact ⟨rfl, hr, hu, update_update rfl rfl hr hu⟩

/-- The same request fails right after it succeeded. -/
theorem update_boolRequest_twice :
    update boolRequest returnFile = .ok boolFile ∧
    update boolRequest boolFile.content = .error .crlf := by
  decide +kernel

end GoOptional.GeneratedFile
