import Mathlib
import GoOptional.GeneratedFile.Update
import GoOptional.Proofs.Text.Utf8

/-!
# Line endings

Bytes are searched for a carriage return before a line feed once, over the whole file, and line
feeds are added and dropped byte by byte. This module says both on characters: what the search
finds in two texts after each other, and which characters the bytes that come and go are.

## Main definitions

* `Text.dropLineFeed`: a text without one line feed at its start
* `Text.missingLineFeeds`: the line feeds that a text lacks to end with an empty line
* `GeneratedFile.BreaksLine`: bytes with a carriage return before a line feed

## Main results

* `GeneratedFile.hasCrlf_append`: the search in two texts after each other
* `GeneratedFile.breaksLine_encode_iff`: what the search finds in a text is in its bytes
* `GeneratedFile.dropLineFeed_encode`, `GeneratedFile.separator_encode`: the operations on bytes
  are those on characters
-/

namespace GoOptional

namespace Text

/-- A text without one line feed at its start. -/
def dropLineFeed : Text → Text
  | [] => []
  | c :: s => if c = '\n' then s else c :: s

/-- The line feeds that a text lacks to end with an empty line. -/
def missingLineFeeds (s : Text) : Text :=
  if ['\n', '\n'].isSuffixOf s then []
  else if ['\n'].isSuffixOf s then ['\n']
  else ['\n', '\n']

theorem missingLineFeeds_of_not_isSuffix {s : Text} (h : ¬ ['\n'] <:+ s) :
    s.missingLineFeeds = ['\n', '\n'] := by
  have htwo : ¬ ['\n', '\n'] <:+ s := fun hs => h ((List.suffix_cons _ _).trans hs)
  simp [missingLineFeeds, List.isSuffixOf_iff_suffix, h, htwo]

end Text

namespace GeneratedFile

/-! ## Carriage returns before line feeds -/

theorem hasCrlf_eq_false_of_not_mem {s : Text} (h : '\r' ∉ s) : hasCrlf s = false := by
  induction s with
  | nil => rfl
  | cons c s ih =>
    rw [List.mem_cons, not_or] at h
    simp [hasCrlf, ih h.2, Ne.symm h.1]

/-- **Two texts after each other** have a carriage return before a line feed where one of them
has, or where they meet. -/
theorem hasCrlf_append (s t : Text) : hasCrlf (s ++ t) = false ↔
    hasCrlf s = false ∧ hasCrlf t = false ∧
      (s.getLast? = some '\r' → t.head? ≠ some '\n') := by
  induction s with
  | nil => simp [hasCrlf]
  | cons c s ih =>
    cases s with
    | nil => cases t <;> simp [hasCrlf, and_comm]
    | cons d s =>
      rw [List.cons_append, hasCrlf, Bool.or_eq_false_iff, ih, ← and_assoc,
        ← Bool.or_eq_false_iff, List.getLast?_cons_cons]
      rfl

/-- A line feed after a carriage return is found, whatever follows. -/
theorem hasCrlf_append_of_getLast? {s : Text} (h : s.getLast? = some '\r') (t : Text) :
    hasCrlf (s ++ '\n' :: t) = true := by
  rw [← Bool.not_eq_false, hasCrlf_append]
  exact fun hc => hc.2.2 h rfl

theorem hasCrlf_iff_isInfix {s : Text} : hasCrlf s = true ↔ ['\r', '\n'] <:+: s := by
  induction s with
  | nil => simp [hasCrlf]
  | cons c s ih =>
    have hhead : s.head? = some '\n' ↔ ['\n'] <+: s := by cases s <;> simp [eq_comm]
    rw [hasCrlf, Bool.or_eq_true, ih, Bool.and_eq_true, beq_iff_eq, beq_iff_eq, hhead,
      List.infix_cons_iff, List.cons_prefix_cons, eq_comm]

/-! ## Line feeds as bytes -/

/-- The byte of a carriage return. -/
def carriageReturn : UInt8 :=
  13

/-- Bytes with a carriage return before a line feed. -/
def BreaksLine (bs : Bytes) : Prop :=
  [carriageReturn, lineFeed] <:+: bs

instance (bs : Bytes) : Decidable (BreaksLine bs) :=
  inferInstanceAs (Decidable ([carriageReturn, lineFeed] <:+: bs))

/-- **What the search finds in a text** is in its bytes, and the other way around. -/
theorem breaksLine_encode_iff {s : Text} : BreaksLine (Utf8.encode s) ↔ hasCrlf s = true := by
  rw [hasCrlf_iff_isInfix]
  constructor
  · rintro ⟨before, after, h⟩
    have h' : Utf8.encode s = before ++ [carriageReturn] ++ lineFeed :: after := by
      simpa using h.symm
    obtain ⟨t, u, rfl, ht, -⟩ := Utf8.exists_of_encode_eq_append_cons (c := '\n') (by decide) h'
    obtain ⟨v, rfl, -⟩ := Utf8.exists_of_encode_eq_append (c := '\r') (by decide) ht.symm
    exact ⟨v, u, by simp⟩
  · rintro ⟨before, after, rfl⟩
    rw [Utf8.encode_append, Utf8.encode_append]
    exact ⟨_, _, rfl⟩

theorem encode_lineFeed : Utf8.encode ['\n'] = [lineFeed] := rfl

theorem isSuffixOf_encode_iff {s : Text} :
    [lineFeed] <:+ Utf8.encode s ↔ ['\n'] <:+ s := by
  constructor
  · rintro ⟨bs, h⟩
    obtain ⟨t, rfl, -⟩ := Utf8.exists_of_encode_eq_append (c := '\n') (by decide) h.symm
    exact List.suffix_append t _
  · rintro ⟨t, rfl⟩
    rw [Utf8.encode_append]
    exact List.suffix_append _ _

theorem isSuffixOf_encode_twice_iff {s : Text} :
    [lineFeed, lineFeed] <:+ Utf8.encode s ↔ ['\n', '\n'] <:+ s := by
  constructor
  · rintro ⟨bs, h⟩
    have h' : Utf8.encode s = bs ++ [lineFeed] ++ [lineFeed] := by simpa using h.symm
    obtain ⟨t, rfl, ht⟩ := Utf8.exists_of_encode_eq_append (c := '\n') (by decide) h'
    obtain ⟨u, rfl, -⟩ := Utf8.exists_of_encode_eq_append (c := '\n') (by decide) ht.symm
    exact ⟨u, by simp⟩
  · rintro ⟨t, rfl⟩
    rw [Utf8.encode_append]
    exact List.suffix_append _ _

/-- The line feeds that bytes of a text lack are those that the text lacks. -/
theorem separator_encode (s : Text) :
    separator (Utf8.encode s) = Utf8.encode s.missingLineFeeds := by
  simp only [separator, Text.missingLineFeeds, List.isSuffixOf_iff_suffix, isSuffixOf_encode_iff,
    isSuffixOf_encode_twice_iff]
  split_ifs <;> rfl

theorem dropLineFeed_encode (s : Text) :
    dropLineFeed (Utf8.encode s) = Utf8.encode s.dropLineFeed := by
  cases s with
  | nil => rfl
  | cons c s =>
    by_cases hc : c = '\n'
    · rw [hc, Text.dropLineFeed, if_pos rfl]
      rfl
    · rw [Text.dropLineFeed, if_neg hc]
      obtain ⟨b, bs, hb⟩ := List.exists_cons_of_ne_nil (String.utf8EncodeChar_ne_nil (c := c))
      have hne : b ≠ lineFeed := by
        rintro rfl
        exact hc (Utf8.eq_of_mem_encodeChar (c := '\n') (by decide) (hb ▸ List.mem_cons_self))
      rw [Utf8.encode_cons, hb, List.cons_append, dropLineFeed, if_neg hne]

end GeneratedFile

end GoOptional
