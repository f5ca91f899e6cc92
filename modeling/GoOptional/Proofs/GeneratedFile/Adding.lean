import Mathlib
import GoOptional.Proofs.GeneratedFile.Header
import GoOptional.Proofs.GeneratedFile.LineEndings

/-!
# Adding to a generated file

A file to which a unit can be added is a header with something after it. Adding leaves the header
and gives a new text after it, which starts with a line feed again. So what an addition does is
said on the text after the header alone, and a file that took one unit has the same header for
the next.

## Main definitions

* `GeneratedFile.packageLine`: the content of a file up to the end of its package line
* `GeneratedFile.withImports`: the text after a header once imports have been put there
* `GeneratedFile.Header.addedTail`: the text after a header once a request was added

## Main results

* `GeneratedFile.Anchor.ofBytes_eq_ok_iff`: the files to which a unit can be added
* `GeneratedFile.Header.update_append`: what comes of a request to such a file
-/

namespace GoOptional.GeneratedFile

/-- **The files to which a unit can be added**: UTF-8 without a carriage return before a line feed,
and a header first. -/
theorem Anchor.ofBytes_eq_ok_iff {existing : Bytes} {a : Anchor} :
    Anchor.ofBytes existing = .ok a ↔ ∃ (h : Header) (tail : Text), IsTail tail ∧
      existing = Utf8.encode (h.text ++ tail) ∧ hasCrlf (h.text ++ tail) = false ∧
        a = h.anchor tail := by
  constructor
  · intro ha
    unfold Anchor.ofBytes at ha
    cases hd : Utf8.decode existing with
    | error fault => rw [hd] at ha; cases ha
    | ok s =>
      rw [hd] at ha
      cases hc : hasCrlf s with
      | true => simp [hc] at ha
      | false =>
        cases ho : Anchor.ofText s with
        | error e => simp [hc, ho] at ha
        | ok b =>
          obtain rfl : b = a := by simpa [hc, ho] using ha
          obtain ⟨h, tail, ht, rfl, hb⟩ := exists_header_of_ofText ho
          exact ⟨h, tail, ht, Utf8.decode_eq_ok_iff.1 hd, hc, hb⟩
  · rintro ⟨h, tail, ht, rfl, hc, rfl⟩
    rw [Anchor.ofBytes, Utf8.decode_encode]
    simp only [hc, h.ofText_append ht]
    rfl

/-! ## The package line -/

/-- The content up to and with its package line, which gets a line feed where it has none. -/
def packageLine (a : Anchor) (existing : Bytes) : Bytes :=
  existing.take a.offset ++ if a.terminated then [] else [lineFeed]

namespace Header

theorem offset_anchor_nil (h : Header) : (h.anchor []).offset = (Utf8.encode h.text).length := rfl

theorem offset_anchor_cons (h : Header) (t : Text) :
    (h.anchor ('\n' :: t)).offset = (Utf8.encode (h.text ++ ['\n'])).length := by
  rw [Utf8.encode_append, List.length_append]
  rfl

theorem encode_text_append_cons (h : Header) (t : Text) :
    Utf8.encode (h.text ++ '\n' :: t) = Utf8.encode (h.text ++ ['\n']) ++ Utf8.encode t := by
  rw [← Utf8.encode_append, ← List.append_cons]

/-- The anchor stands behind the header and a line feed. -/
theorem packageLine_anchor (h : Header) {tail : Text} (ht : IsTail tail) :
    packageLine (h.anchor tail) (Utf8.encode (h.text ++ tail)) =
      Utf8.encode (h.text ++ ['\n']) := by
  rcases ht with rfl | ⟨t, rfl⟩
  · rw [packageLine, offset_anchor_nil, List.append_nil, List.take_length, Utf8.encode_append,
      encode_lineFeed]
    rfl
  · rw [packageLine, encode_text_append_cons _ t, offset_anchor_cons, List.take_left]
    exact List.append_nil _

theorem drop_offset_anchor (h : Header) {tail : Text} (ht : IsTail tail) :
    (Utf8.encode (h.text ++ tail)).drop (h.anchor tail).offset =
      Utf8.encode tail.dropLineFeed := by
  rcases ht with rfl | ⟨t, rfl⟩
  · rw [offset_anchor_nil, List.append_nil, List.drop_length]
    rfl
  · rw [encode_text_append_cons _ t, offset_anchor_cons, List.drop_left]
    rfl

end Header

/-! ## The text after a header -/

/-- The text after a header once imports have been put there: they stand between empty lines. -/
def withImports (imports : List Text) (tail : Text) : Text :=
  if imports.isEmpty then tail
  else '\n' :: '\n' :: importBlock imports ++ tail.dropLineFeed.dropLineFeed

namespace Header

/-- The text after a header once a request was added. -/
def addedTail (h : Header) (r : Request) (tail : Text) : Text :=
  withImports r.imports tail ++ (h.text ++ withImports r.imports tail).missingLineFeeds ++ unitOf r

/-- The bytes of a text that goes on after a header, cut at its anchor. -/
theorem insertImports_anchor (h : Header) (imports : List Text) {tail : Text} (ht : IsTail tail) :
    insertImports imports (h.anchor tail).terminated
        ((Utf8.encode (h.text ++ tail)).take (h.anchor tail).offset)
        ((Utf8.encode (h.text ++ tail)).drop (h.anchor tail).offset) =
      Utf8.encode (h.text ++ withImports imports tail) := by
  unfold insertImports withImports
  by_cases hi : imports.isEmpty = true
  · rw [if_pos hi, if_pos hi, List.take_append_drop]
  rw [if_neg hi, if_neg hi, ← packageLine, h.packageLine_anchor ht, h.drop_offset_anchor ht,
    dropLineFeed_encode, ← encode_lineFeed]
  simp only [← Utf8.encode_append, List.append_assoc, List.cons_append, List.nil_append]

/-- Adding a request leaves the header and changes the text after it. -/
theorem add_anchor (h : Header) (r : Request) {tail : Text} (ht : IsTail tail) :
    add r (h.anchor tail) (Utf8.encode (h.text ++ tail)) =
      Utf8.encode (h.text ++ h.addedTail r tail) := by
  rw [add, addImports, h.insertImports_anchor r.imports ht, separator_encode, addedTail]
  simp only [Utf8.encode_append, List.append_assoc]

/-- A header does not end with a line feed. -/
theorem not_isSuffix_text (h : Header) : ¬ ['\n'] <:+ h.text := by
  rintro ⟨s, hs⟩
  obtain ⟨c, d, hc⟩ := (List.eq_nil_or_concat _).resolve_left h.clause_ne_nil
  rw [text, hc, List.concat_eq_append, ← List.append_assoc] at hs
  refine h.not_mem_clause ?_
  rw [hc, ← (List.cons.inj (List.append_inj' hs rfl).2).1]
  simp

theorem missingLineFeeds_text (h : Header) : h.text.missingLineFeeds = ['\n', '\n'] :=
  Text.missingLineFeeds_of_not_isSuffix h.not_isSuffix_text

/-- What comes after a header starts with a line feed once a request was added. -/
theorem exists_addedTail_eq (h : Header) (r : Request) {tail : Text} (ht : IsTail tail) :
    ∃ t, h.addedTail r tail = '\n' :: t := by
  unfold addedTail withImports
  by_cases hi : r.imports.isEmpty = true
  · rw [if_pos hi]
    rcases ht with rfl | ⟨t, rfl⟩
    · rw [List.append_nil, h.missingLineFeeds_text]
      exact ⟨_, rfl⟩
    · exact ⟨_, rfl⟩
  · rw [if_neg hi]
    exact ⟨_, rfl⟩

/-- **What comes of adding to a file** with a header: the same header, with more after it. -/
theorem update_append (h : Header) {r : Request} (hr : r.append = true) {tail : Text}
    (ht : IsTail tail) (hc : hasCrlf (h.text ++ tail) = false) :
    update r (Utf8.encode (h.text ++ tail)) =
      .ok ⟨Utf8.encode (h.text ++ h.addedTail r tail), .keep, some h.package⟩ := by
  rw [update, if_pos hr, Anchor.ofBytes_eq_ok_iff.2 ⟨h, tail, ht, rfl, hc, rfl⟩]
  simp only [h.add_anchor r ht]
  rfl

theorem update_append_of_hasCrlf (h : Header) {r : Request} (hr : r.append = true) {tail : Text}
    (hc : hasCrlf (h.text ++ tail) = true) :
    update r (Utf8.encode (h.text ++ tail)) = .error .crlf := by
  rw [update, if_pos hr, Anchor.ofBytes, Utf8.decode_encode]
  simp only [hc, if_true]

end Header

/-- A request can be added only to a file with a header. -/
theorem exists_header_of_update {r : Request} (hr : r.append = true) {existing : Bytes}
    {u : Update} (hu : update r existing = .ok u) : ∃ (h : Header) (tail : Text), IsTail tail ∧
      existing = Utf8.encode (h.text ++ tail) ∧ hasCrlf (h.text ++ tail) = false ∧
        u = ⟨Utf8.encode (h.text ++ h.addedTail r tail), .keep, some h.package⟩ := by
  cases ha : Anchor.ofBytes existing with
  | error e => simp [update, hr, ha] at hu
  | ok a =>
    obtain ⟨h, tail, ht, rfl, hc, rfl⟩ := Anchor.ofBytes_eq_ok_iff.1 ha
    rw [h.update_append hr ht hc, Except.ok.injEq] at hu
    exact ⟨h, tail, ht, rfl, hc, hu.symm⟩

theorem contentAfter_of_error {r : Request} {existing : Bytes} {e : UpdateError}
    (h : update r existing = .error e) : contentAfter existing r = existing := by
  rw [contentAfter, h]

theorem contentAfter_of_update {r : Request} {existing : Bytes} {u : Update}
    (h : update r existing = .ok u) : contentAfter existing r = u.content := by
  rw [contentAfter, h]

theorem contentAfterAll_append (existing : Bytes) (rs rs' : List Request) :
    contentAfterAll existing (rs ++ rs') = contentAfterAll (contentAfterAll existing rs) rs' :=
  List.foldl_append

theorem updateAll_append (existing : Bytes) (rs rs' : List Request) :
    updateAll existing (rs ++ rs') =
      updateAll existing rs ++ updateAll (contentAfterAll existing rs) rs' := by
  induction rs generalizing existing with
  | nil => rfl
  | cons r rs ih =>
    rw [List.cons_append, updateAll, ih, updateAll, List.cons_append]
    rfl

end GoOptional.GeneratedFile
