import Mathlib
import GoOptional.Proofs.GeneratedFile.Adding

/-!
# The place of an anchor

The offset of an anchor is a sum of numbers of bytes, one for each line that the scan passed. It is
a place between two characters, so that the bytes of a file can be cut there and both parts are
text; and the scan looks no further, so that nothing behind a complete package line matters.

## Main definitions

* `Utf8.IsBoundary`: a place between the characters of a text
* `GeneratedFile.Anchor.IsSafe`: an anchor at whose place a text can be cut

## Main results

* `Utf8.isPrefix_of_encode_isPrefix`: texts start with each other where their bytes do
* `GeneratedFile.Header.ofText_eq_of_take_eq`: what decides about the anchor
* `GeneratedFile.isSafe_of_ofText`: the anchors that are found are safe
-/

namespace GoOptional

/-! ## Places between characters -/

namespace Utf8

variable {s t : Text} {offset : Nat}

/-- **Where bytes of texts start with each other**, the texts do: the characters of a text are read
from its bytes, and those of its start come first among them. -/
theorem isPrefix_of_encode_isPrefix (h : encode s <+: encode t) : s <+: t := by
  obtain ⟨rest, hrest⟩ := h
  have hpieces : t.map Piece.char = s.map Piece.char ++ pieces rest := by
    have ht := pieces_encode_append t []
    rwa [List.append_nil, ← hrest, pieces_encode_append, pieces_eq_nil_iff.2 rfl,
      List.append_nil, eq_comm] at ht
  obtain ⟨u, v, rfl, hu, -⟩ := List.map_eq_append_iff.1 hpieces
  have hinj : Function.Injective (List.map Piece.char) :=
    List.map_injective_iff.2 fun _ _ => Piece.char.inj
  exact hinj hu ▸ List.prefix_append u v

/-- A place in the bytes of a text at which none of its characters is cut. -/
def IsBoundary (s : Text) (offset : Nat) : Prop :=
  ∃ front back, s = front ++ back ∧ (encode front).length = offset

namespace IsBoundary

theorem le_length (h : IsBoundary s offset) : offset ≤ (encode s).length := by
  obtain ⟨front, back, rfl, rfl⟩ := h
  rw [encode_append, List.length_append]
  exact Nat.le_add_right _ _

theorem wellFormed_take (h : IsBoundary s offset) : WellFormed ((encode s).take offset) := by
  obtain ⟨front, back, rfl, rfl⟩ := h
  exact ⟨front, by rw [encode_append, List.take_left]⟩

theorem wellFormed_drop (h : IsBoundary s offset) : WellFormed ((encode s).drop offset) := by
  obtain ⟨front, back, rfl, rfl⟩ := h
  exact ⟨back, by rw [encode_append, List.drop_left]⟩

end IsBoundary

end Utf8

namespace GeneratedFile

/-! ## Anchors of headers -/

/-- An anchor at whose place a text can be cut, and which nothing behind that place changes. -/
structure Anchor.IsSafe (a : Anchor) (s : Text) : Prop where
  le_length : a.offset ≤ (Utf8.encode s).length
  isBoundary : Utf8.IsBoundary s a.offset
  /-- A package line without a line feed is the end of the text. -/
  offset_eq : a.terminated = false → a.offset = (Utf8.encode s).length
  /-- Behind a package line with a line feed nothing matters: every text with the same bytes up to
  there has the same anchor. -/
  ofText_eq : a.terminated = true → ∀ s', (Utf8.encode s').take a.offset =
    (Utf8.encode s).take a.offset → Anchor.ofText s' = .ok a

namespace Header

variable (h : Header) {s tail : Text}

theorem isBoundary_anchor (ht : IsTail tail) :
    Utf8.IsBoundary (h.text ++ tail) (h.anchor tail).offset := by
  rcases ht with rfl | ⟨t, rfl⟩
  · exact ⟨h.text, [], rfl, rfl⟩
  · exact ⟨h.text ++ ['\n'], t, List.append_cons _ _ _, (h.offset_anchor_cons t).symm⟩

/-- **What decides about the anchor** is the header and the line feed behind it. -/
theorem ofText_eq_of_take_eq (t : Text)
    (htake : (Utf8.encode s).take (h.anchor ('\n' :: t)).offset =
      (Utf8.encode (h.text ++ '\n' :: t)).take (h.anchor ('\n' :: t)).offset) :
    Anchor.ofText s = .ok (h.anchor ('\n' :: t)) := by
  rw [encode_text_append_cons _ t, offset_anchor_cons, List.take_left] at htake
  obtain ⟨t', rfl⟩ := Utf8.isPrefix_of_encode_isPrefix (htake ▸ List.take_prefix _ _)
  rw [List.append_assoc, List.singleton_append, h.ofText_append (Or.inr ⟨t', rfl⟩)]
  rfl

end Header

/-! ## Anchors of texts -/

/-- **The anchors that are found are safe.** -/
theorem isSafe_of_ofText {s : Text} {a : Anchor} (ha : Anchor.ofText s = .ok a) : a.IsSafe s := by
  obtain ⟨h, tail, ht, rfl, rfl⟩ := exists_header_of_ofText ha
  have hboundary := h.isBoundary_anchor ht
  refine ⟨hboundary.le_length, hboundary, fun hterm => ?_, fun hterm s' htake => ?_⟩
  · have htail : tail = [] := by simpa [Header.anchor] using hterm
    rw [htail, List.append_nil, Header.offset_anchor_nil]
  · rcases ht with rfl | ⟨t, rfl⟩
    · cases hterm
    · exact h.ofText_eq_of_take_eq t htake

/-- **The place of an anchor is safe**, whatever characters a text holds: no character is cut there,
and nothing behind it matters. So a file to which a unit is added is cut into two texts. -/
theorem offset_safe :
    (∀ s a, Anchor.ofText s = .ok a → a.IsSafe s) ∧
    ∀ existing a, Anchor.ofBytes existing = .ok a → a.offset ≤ existing.length ∧
      Utf8.WellFormed (existing.take a.offset) ∧ Utf8.WellFormed (existing.drop a.offset) := by
  refine ⟨fun s a => isSafe_of_ofText, fun existing a ha => ?_⟩
  obtain ⟨h, tail, ht, rfl, -, rfl⟩ := Anchor.ofBytes_eq_ok_iff.1 ha
  have hboundary := h.isBoundary_anchor ht
  exact ⟨hboundary.le_length, hboundary.wellFormed_take, hboundary.wellFormed_drop⟩

/-- A header whose lines hold characters of two and of three bytes. -/
def accentedHeader : Text :=
  "// été\n// Code generated by 世界. DO NOT EDIT.\npackage é // 世\n".toList

/-- The anchor behind it. -/
def accentedAnchor : Anchor :=
  ⟨"é".toList, 69, true⟩

theorem offset_safe_accentedHeader :
    Anchor.ofText (accentedHeader ++ "// 𝄞".toList) = .ok accentedAnchor ∧
    accentedAnchor.IsSafe (accentedHeader ++ "// 𝄞".toList) ∧
    Anchor.ofText (accentedHeader ++ "\r\npackage b".toList) = .ok accentedAnchor ∧
    Anchor.ofBytes (Utf8.encode (accentedHeader ++ "// 𝄞".toList)) = .ok accentedAnchor ∧
    Utf8.WellFormed ((Utf8.encode (accentedHeader ++ "// 𝄞".toList)).drop 69) := by
  have htext : Anchor.ofText (accentedHeader ++ "// 𝄞".toList) = .ok accentedAnchor := by
    decide +kernel
  have hbytes : Anchor.ofBytes (Utf8.encode (accentedHeader ++ "// 𝄞".toList)) =
      .ok accentedAnchor := by
    decide +kernel
  have hsafe := offset_safe.1 _ _ htext
  exact ⟨htext, hsafe, hsafe.ofText_eq rfl _ (by decide +kernel), hbytes,
    (offset_safe.2 _ _ hbytes).2.2⟩

end GeneratedFile

end GoOptional
