import Mathlib
import GoOptional.Text.Utf8

/-!
# UTF-8 reads what it writes

The reader of bytes keeps a beginning of which bytes are owed. A character of several bytes is a
first byte, which begins it, and bytes that complete the beginning; the reader emits the
character exactly when it is complete. So a text is read from its own bytes, and from no others.

## Main definitions

* `Utf8.Completes`: the bytes that complete a beginning, with the code point that comes of it
* `Utf8.WellFormed`: bytes that are the bytes of a text

## Main results

* `Utf8.pieces_encode_append`: the characters of a text are read from its bytes, whatever follows
* `Utf8.decode_eq_ok_iff`: bytes are read as a text exactly when they are its bytes
-/

namespace GoOptional.Utf8

/-! ## Beginnings and what completes them -/

/-- What is begun after one more byte. -/
def Begun.goOn (p : Begun) (b : UInt8) : Begun :=
  ⟨p.owed - 1, 0x80, 0xBF, p.value * 64 + (b.toNat - 0x80), p.length + 1⟩

/-- Bytes that complete what was begun, and the code point of the character that comes of it. -/
inductive Completes : Begun → Bytes → Nat → Prop where
  /-- The last byte that is owed. -/
  | last {p : Begun} {b : UInt8} (owed : p.owed = 1) (low : p.low ≤ b) (high : b ≤ p.high) :
      Completes p [b] (p.value * 64 + (b.toNat - 0x80))
  /-- A byte after which more are owed. -/
  | more {p : Begun} {b : UInt8} {bs : Bytes} {n : Nat} (owed : p.owed ≠ 1) (low : p.low ≤ b)
      (high : b ≤ p.high) (rest : Completes (p.goOn b) bs n) : Completes p (b :: bs) n

/-- The pieces before a place stay as they are. -/
theorem piecesAfter_eq (done : List Piece) (begun : Option Begun) (bs : Bytes) :
    piecesAfter done begun bs = done.reverse ++ piecesAfter [] begun bs := by
  induction bs generalizing done begun with
  | nil => cases begun <;> simp [piecesAfter]
  | cons b bs ih =>
    have step_eq (ds : List Piece) : piecesAfter ds begun (b :: bs) =
        piecesAfter ((step begun b).1 ++ ds) (step begun b).2 bs := by
      cases begun <;> rw [piecesAfter]
    rw [step_eq, step_eq, ih, ih (_ ++ [])]
    simp

section Step

variable {p : Begun} {b : UInt8}

/-- The last byte that is owed ends a character. -/
theorem piecesAfter_last (owed : p.owed = 1) (hb : p.low ≤ b ∧ b ≤ p.high) (bs : Bytes) :
    piecesAfter [] (some p) (b :: bs) =
      .char (Char.ofNat (p.value * 64 + (b.toNat - 0x80))) :: pieces bs := by
  rw [piecesAfter, step, if_pos hb]
  simp only [owed, if_true, List.append_nil]
  rw [piecesAfter_eq]
  rfl

/-- A byte after which more are owed goes on. -/
theorem piecesAfter_more (owed : p.owed ≠ 1) (hb : p.low ≤ b ∧ b ≤ p.high) (bs : Bytes) :
    piecesAfter [] (some p) (b :: bs) = piecesAfter [] (some (p.goOn b)) bs := by
  rw [piecesAfter, step, if_pos hb]
  simp only [owed, if_false, List.append_nil]
  rfl

/-- A byte that does not go on makes what was begun a bad piece. -/
theorem piecesAfter_break (hb : ¬ (p.low ≤ b ∧ b ≤ p.high)) (bs : Bytes) :
    piecesAfter [] (some p) (b :: bs) = .bad p.length :: pieces (b :: bs) := by
  rw [piecesAfter, step, if_neg hb, piecesAfter_eq, pieces, piecesAfter,
    piecesAfter_eq (_ ++ [])]
  simp [step]

end Step

/-- What completes a beginning is read as one character. -/
theorem Completes.piecesAfter {p : Begun} {w : Bytes} {n : Nat} (h : Completes p w n)
    (bs : Bytes) : piecesAfter [] (some p) (w ++ bs) = .char (Char.ofNat n) :: pieces bs := by
  induction h with
  | last owed low high => exact piecesAfter_last owed ⟨low, high⟩ bs
  | more owed low high rest ih =>
    rw [List.cons_append, piecesAfter_more owed ⟨low, high⟩]
    exact ih

/-- Where a character is read after a beginning, the bytes start with what completes it. -/
theorem exists_completes {p : Begun} {bs : Bytes} {c : Char} {ps : List Piece}
    (h : piecesAfter [] (some p) bs = .char c :: ps) :
    ∃ w n rest, bs = w ++ rest ∧ Completes p w n := by
  induction bs generalizing p with
  | nil => cases h
  | cons b bs ih =>
    by_cases hb : p.low ≤ b ∧ b ≤ p.high
    · by_cases owed : p.owed = 1
      · exact ⟨[b], _, bs, rfl, .last owed hb.1 hb.2⟩
      · rw [piecesAfter_more owed hb] at h
        obtain ⟨w, n, rest, rfl, hw⟩ := ih h
        exact ⟨b :: w, n, rest, rfl, .more owed hb.1 hb.2 hw⟩
    · rw [piecesAfter_break hb] at h
      cases h

/-! ## The bytes of a character -/

/-- The bytes of a character, by its code point. -/
theorem encodeChar_eq (c : Char) : String.utf8EncodeChar c =
    if c.toNat ≤ 0x7F then [UInt8.ofNat c.toNat]
    else if c.toNat ≤ 0x7FF then
      [UInt8.ofNat (c.toNat / 64 % 32 + 0xC0), UInt8.ofNat (c.toNat % 64 + 0x80)]
    else if c.toNat ≤ 0xFFFF then
      [UInt8.ofNat (c.toNat / 4096 % 16 + 0xE0), UInt8.ofNat (c.toNat / 64 % 64 + 0x80),
        UInt8.ofNat (c.toNat % 64 + 0x80)]
    else
      [UInt8.ofNat (c.toNat / 262144 % 8 + 0xF0), UInt8.ofNat (c.toNat / 4096 % 64 + 0x80),
        UInt8.ofNat (c.toNat / 64 % 64 + 0x80), UInt8.ofNat (c.toNat % 64 + 0x80)] :=
  rfl

/-- What a first byte begins, by the number of bytes of the character. -/
theorem lead_eq (b : UInt8) : lead b =
    if 0xC2 ≤ b.toNat ∧ b.toNat ≤ 0xDF then some ⟨1, 0x80, 0xBF, b.toNat - 0xC0, 1⟩
    else if 0xE0 ≤ b.toNat ∧ b.toNat ≤ 0xEF then
      some ⟨2, if b.toNat = 0xE0 then 0xA0 else 0x80, if b.toNat = 0xED then 0x9F else 0xBF,
        b.toNat - 0xE0, 1⟩
    else if 0xF0 ≤ b.toNat ∧ b.toNat ≤ 0xF4 then
      some ⟨3, if b.toNat = 0xF0 then 0x90 else 0x80, if b.toNat = 0xF4 then 0x8F else 0xBF,
        b.toNat - 0xF0, 1⟩
    else none := by
  simp only [lead, UInt8.le_iff_toNat_le, ← UInt8.toNat_inj, UInt8.reduceToNat]
  split_ifs <;> first | omega | simp_all

theorem toNat_ofNat {n : Nat} (h : n.isValidChar) : (Char.ofNat n).toNat = n :=
  (Char.toNat_ofNat n).trans (if_pos h)

theorem encodeChar_two {b x : UInt8} (hb : 0xC2 ≤ b.toNat ∧ b.toNat ≤ 0xDF)
    (hx : 0x80 ≤ x.toNat ∧ x.toNat ≤ 0xBF) :
    String.utf8EncodeChar (Char.ofNat ((b.toNat - 0xC0) * 64 + (x.toNat - 0x80))) = [b, x] := by
  have hv : ((b.toNat - 0xC0) * 64 + (x.toNat - 0x80)).isValidChar := Or.inl (by omega)
  rw [encodeChar_eq, toNat_ofNat hv, if_neg (by omega), if_pos (by omega)]
  simp only [← UInt8.toNat_inj, UInt8.toNat_ofNat', List.cons.injEq, and_true]
  omega

theorem encodeChar_three {b x y : UInt8} (hb : 0xE0 ≤ b.toNat ∧ b.toNat ≤ 0xEF)
    (hx : 0x80 ≤ x.toNat ∧ x.toNat ≤ 0xBF) (hlow : b.toNat = 0xE0 → 0xA0 ≤ x.toNat)
    (hhigh : b.toNat = 0xED → x.toNat ≤ 0x9F) (hy : 0x80 ≤ y.toNat ∧ y.toNat ≤ 0xBF) :
    String.utf8EncodeChar (Char.ofNat (((b.toNat - 0xE0) * 64 + (x.toNat - 0x80)) * 64 +
      (y.toNat - 0x80))) = [b, x, y] := by
  have hv : (((b.toNat - 0xE0) * 64 + (x.toNat - 0x80)) * 64 + (y.toNat - 0x80)).isValidChar := by
    simp only [Nat.isValidChar]
    omega
  rw [encodeChar_eq, toNat_ofNat hv, if_neg (by omega), if_neg (by omega), if_pos (by omega)]
  simp only [← UInt8.toNat_inj, UInt8.toNat_ofNat', List.cons.injEq, and_true]
  omega

theorem encodeChar_four {b x y z : UInt8} (hb : 0xF0 ≤ b.toNat ∧ b.toNat ≤ 0xF4)
    (hx : 0x80 ≤ x.toNat ∧ x.toNat ≤ 0xBF) (hlow : b.toNat = 0xF0 → 0x90 ≤ x.toNat)
    (hhigh : b.toNat = 0xF4 → x.toNat ≤ 0x8F) (hy : 0x80 ≤ y.toNat ∧ y.toNat ≤ 0xBF)
    (hz : 0x80 ≤ z.toNat ∧ z.toNat ≤ 0xBF) :
    String.utf8EncodeChar (Char.ofNat ((((b.toNat - 0xF0) * 64 + (x.toNat - 0x80)) * 64 +
      (y.toNat - 0x80)) * 64 + (z.toNat - 0x80))) = [b, x, y, z] := by
  have hv : ((((b.toNat - 0xF0) * 64 + (x.toNat - 0x80)) * 64 + (y.toNat - 0x80)) * 64 +
      (z.toNat - 0x80)).isValidChar := by
    simp only [Nat.isValidChar]
    omega
  rw [encodeChar_eq, toNat_ofNat hv, if_neg (by omega), if_neg (by omega), if_neg (by omega)]
  simp only [← UInt8.toNat_inj, UInt8.toNat_ofNat', List.cons.injEq, and_true]
  omega

/-- **A character that is read** has the bytes from which it is read. -/
theorem Completes.encodeChar {b : UInt8} {p : Begun} {w : Bytes} {n : Nat}
    (h : Completes p w n) (hb : lead b = some p) :
    String.utf8EncodeChar (Char.ofNat n) = b :: w := by
  rw [lead_eq] at hb
  by_cases h₁ : 0xC2 ≤ b.toNat ∧ b.toNat ≤ 0xDF
  · rw [if_pos h₁] at hb
    obtain rfl := Option.some.inj hb
    cases h with
    | more owed => simp at owed
    | @last _ x _ low high =>
      simp only [UInt8.le_iff_toNat_le, UInt8.reduceToNat] at low high
      exact encodeChar_two h₁ ⟨low, high⟩
  rw [if_neg h₁] at hb
  by_cases h₂ : 0xE0 ≤ b.toNat ∧ b.toNat ≤ 0xEF
  · rw [if_pos h₂] at hb
    obtain rfl := Option.some.inj hb
    cases h with
    | last owed => simp at owed
    | @more _ x _ _ _ low high rest =>
    cases rest with
    | more owed => simp [Begun.goOn] at owed
    | @last _ y _ low' high' =>
      simp only [Begun.goOn, UInt8.le_iff_toNat_le, apply_ite UInt8.toNat, UInt8.reduceToNat]
        at low high low' high'
      refine encodeChar_three h₂ ?_ ?_ ?_ ⟨low', high'⟩ <;> split_ifs at low high <;> omega
  rw [if_neg h₂] at hb
  by_cases h₃ : 0xF0 ≤ b.toNat ∧ b.toNat ≤ 0xF4
  · rw [if_pos h₃] at hb
    obtain rfl := Option.some.inj hb
    cases h with
    | last owed => simp at owed
    | @more _ x _ _ _ low high rest =>
    cases rest with
    | last owed => simp [Begun.goOn] at owed
    | @more _ y _ _ _ low' high' rest =>
    cases rest with
    | more owed => simp [Begun.goOn] at owed
    | @last _ z _ low'' high'' =>
      simp only [Begun.goOn, UInt8.le_iff_toNat_le, apply_ite UInt8.toNat, UInt8.reduceToNat]
        at low high low' high' low'' high''
      refine encodeChar_four h₃ ?_ ?_ ?_ ⟨low', high'⟩ ⟨low'', high''⟩ <;>
        split_ifs at low high <;> omega
  · rw [if_neg h₃] at hb
    cases hb

theorem toNat_ofNat_byte {n : Nat} (h : n < 256) : (UInt8.ofNat n).toNat = n :=
  UInt8.toNat_ofNat_of_lt' h

theorem exists_lead_two {c : Char} (h : 0x7F < c.toNat) (h₂ : c.toNat ≤ 0x7FF) :
    ∃ b p w, String.utf8EncodeChar c = b :: w ∧ lead b = some p ∧ Completes p w c.toNat := by
  have hb := toNat_ofNat_byte (n := c.toNat / 64 % 32 + 0xC0) (by omega)
  have hz := toNat_ofNat_byte (n := c.toNat % 64 + 0x80) (by omega)
  rw [encodeChar_eq, if_neg (by omega), if_pos h₂]
  refine ⟨_, _, _, rfl, (lead_eq _).trans (if_pos (by omega)), ?_⟩
  generalize UInt8.ofNat (c.toNat / 64 % 32 + 0xC0) = b at hb ⊢
  generalize UInt8.ofNat (c.toNat % 64 + 0x80) = z at hz ⊢
  have hn : c.toNat = (b.toNat - 0xC0) * 64 + (z.toNat - 0x80) := by omega
  rw [hn]
  refine .last rfl ?_ ?_ <;> simp only [UInt8.le_iff_toNat_le, UInt8.reduceToNat] <;> omega

theorem exists_lead_three {c : Char} (h₂ : 0x7FF < c.toNat) (h₃ : c.toNat ≤ 0xFFFF) :
    ∃ b p w, String.utf8EncodeChar c = b :: w ∧ lead b = some p ∧ Completes p w c.toNat := by
  have hv : Nat.isValidChar c.toNat := c.valid
  simp only [Nat.isValidChar] at hv
  have hb := toNat_ofNat_byte (n := c.toNat / 4096 % 16 + 0xE0) (by omega)
  have hy := toNat_ofNat_byte (n := c.toNat / 64 % 64 + 0x80) (by omega)
  have hz := toNat_ofNat_byte (n := c.toNat % 64 + 0x80) (by omega)
  rw [encodeChar_eq, if_neg (by omega), if_neg (by omega), if_pos h₃]
  refine ⟨_, _, _, rfl, (lead_eq _).trans ((if_neg (by omega)).trans (if_pos (by omega))), ?_⟩
  generalize UInt8.ofNat (c.toNat / 4096 % 16 + 0xE0) = b at hb ⊢
  generalize UInt8.ofNat (c.toNat / 64 % 64 + 0x80) = y at hy ⊢
  generalize UInt8.ofNat (c.toNat % 64 + 0x80) = z at hz ⊢
  have hn : c.toNat =
      ((b.toNat - 0xE0) * 64 + (y.toNat - 0x80)) * 64 + (z.toNat - 0x80) := by omega
  rw [hn]
  refine .more (by simp) ?low ?high (.last rfl ?_ ?_)
  all_goals simp only [Begun.goOn, UInt8.le_iff_toNat_le, apply_ite UInt8.toNat, UInt8.reduceToNat]
  case low | high => split_ifs <;> omega
  all_goals omega

theorem exists_lead_four {c : Char} (h₃ : 0xFFFF < c.toNat) :
    ∃ b p w, String.utf8EncodeChar c = b :: w ∧ lead b = some p ∧ Completes p w c.toNat := by
  have hv : Nat.isValidChar c.toNat := c.valid
  simp only [Nat.isValidChar] at hv
  have hb := toNat_ofNat_byte (n := c.toNat / 262144 % 8 + 0xF0) (by omega)
  have hx := toNat_ofNat_byte (n := c.toNat / 4096 % 64 + 0x80) (by omega)
  have hy := toNat_ofNat_byte (n := c.toNat / 64 % 64 + 0x80) (by omega)
  have hz := toNat_ofNat_byte (n := c.toNat % 64 + 0x80) (by omega)
  rw [encodeChar_eq, if_neg (by omega), if_neg (by omega), if_neg (by omega)]
  refine ⟨_, _, _, rfl,
    (lead_eq _).trans ((if_neg (by omega)).trans
      ((if_neg (by omega)).trans (if_pos (by omega)))), ?_⟩
  generalize UInt8.ofNat (c.toNat / 262144 % 8 + 0xF0) = b at hb ⊢
  generalize UInt8.ofNat (c.toNat / 4096 % 64 + 0x80) = x at hx ⊢
  generalize UInt8.ofNat (c.toNat / 64 % 64 + 0x80) = y at hy ⊢
  generalize UInt8.ofNat (c.toNat % 64 + 0x80) = z at hz ⊢
  have hn : c.toNat = (((b.toNat - 0xF0) * 64 + (x.toNat - 0x80)) * 64 + (y.toNat - 0x80)) * 64 +
      (z.toNat - 0x80) := by omega
  rw [hn]
  refine .more (by simp) ?low ?high (.more (by simp [Begun.goOn]) ?_ ?_ (.last rfl ?_ ?_))
  all_goals simp only [Begun.goOn, UInt8.le_iff_toNat_le, apply_ite UInt8.toNat, UInt8.reduceToNat]
  case low | high => split_ifs <;> omega
  all_goals omega

/-- **The bytes of a character** beyond the first 128 are a first byte and what completes it. -/
theorem exists_lead {c : Char} (h : 0x7F < c.toNat) :
    ∃ b p w, String.utf8EncodeChar c = b :: w ∧ lead b = some p ∧ Completes p w c.toNat := by
  rcases Nat.lt_or_ge 0x7FF c.toNat with h₂ | h₂
  · rcases Nat.lt_or_ge 0xFFFF c.toNat with h₃ | h₃
    · exact exists_lead_four h₃
    · exact exists_lead_three h₂ h₃
  · exact exists_lead_two h h₂

theorem not_lt_of_lead {b : UInt8} {p : Begun} (h : lead b = some p) : ¬ b < 0x80 := by
  intro hb
  have hn : b.toNat < 0x80 := UInt8.lt_iff_toNat_lt.1 hb
  rw [lead_eq, if_neg (by omega), if_neg (by omega), if_neg (by omega)] at h
  cases h

/-! ## Reading text from bytes -/

theorem pieces_cons_of_lt {b : UInt8} (h : b < 0x80) (bs : Bytes) :
    pieces (b :: bs) = .char (Char.ofNat b.toNat) :: pieces bs := by
  rw [pieces, piecesAfter, step, start, if_pos h, piecesAfter_eq]
  rfl

theorem pieces_cons_of_lead {b : UInt8} {p : Begun} (h : lead b = some p) (bs : Bytes) :
    pieces (b :: bs) = piecesAfter [] (some p) bs := by
  rw [pieces, piecesAfter, step, start, if_neg (not_lt_of_lead h), h]
  rfl

theorem pieces_cons_of_lead_eq_none {b : UInt8} (h : ¬ b < 0x80) (hl : lead b = none)
    (bs : Bytes) : pieces (b :: bs) = .bad 1 :: pieces bs := by
  rw [pieces, piecesAfter, step, start, if_neg h, hl, piecesAfter_eq]
  rfl

theorem pieces_encodeChar_append (c : Char) (bs : Bytes) :
    pieces (String.utf8EncodeChar c ++ bs) = .char c :: pieces bs := by
  by_cases h : c.toNat ≤ 0x7F
  · have hb := toNat_ofNat_byte (n := c.toNat) (by omega)
    have hlt : UInt8.ofNat c.toNat < 0x80 :=
      UInt8.lt_iff_toNat_lt.2 (hb.trans_lt (Nat.lt_succ_of_le h))
    rw [encodeChar_eq, if_pos h, List.singleton_append, pieces_cons_of_lt hlt, hb, Char.ofNat_toNat]
  · obtain ⟨b, p, w, he, hl, hc⟩ := exists_lead (Nat.lt_of_not_le h)
    rw [he, List.cons_append, pieces_cons_of_lead hl, hc.piecesAfter, Char.ofNat_toNat]

/-- **The characters of a text** are read from its bytes, whatever follows. -/
theorem pieces_encode_append (s : Text) (bs : Bytes) :
    pieces (encode s ++ bs) = s.map .char ++ pieces bs := by
  induction s with
  | nil => rfl
  | cons c s ih => rw [encode_cons, List.append_assoc, pieces_encodeChar_append, ih]; rfl

/-- Where a character is read first, the bytes start with those of the character. -/
theorem exists_encodeChar_append {bs : Bytes} {c : Char} {ps : List Piece}
    (h : pieces bs = .char c :: ps) : ∃ rest, bs = String.utf8EncodeChar c ++ rest ∧
      pieces rest = ps := by
  obtain ⟨d, rest, rfl⟩ : ∃ d rest, bs = String.utf8EncodeChar d ++ rest := by
    cases bs with
    | nil => cases h
    | cons b bs =>
      by_cases hb : b < 0x80
      · have hn : b.toNat < 0x80 := UInt8.lt_iff_toNat_lt.1 hb
        refine ⟨Char.ofNat b.toNat, bs, ?_⟩
        rw [encodeChar_eq, toNat_ofNat (Or.inl (by omega)), if_pos (by omega), UInt8.ofNat_toNat]
        rfl
      · cases hl : lead b with
        | none =>
          rw [pieces_cons_of_lead_eq_none hb hl] at h
          cases h
        | some p =>
          rw [pieces_cons_of_lead hl] at h
          obtain ⟨w, n, rest, rfl, hw⟩ := exists_completes h
          exact ⟨Char.ofNat n, rest, by rw [hw.encodeChar hl]; rfl⟩
  rw [pieces_encodeChar_append, List.cons.injEq, Piece.char.injEq] at h
  exact ⟨rest, by rw [h.1], h.2⟩

/-- **Where characters are read first**, the bytes start with those of the characters. -/
theorem pieces_eq_append_iff {bs : Bytes} {s : Text} {ps : List Piece} :
    pieces bs = s.map .char ++ ps ↔ ∃ rest, bs = encode s ++ rest ∧ pieces rest = ps := by
  constructor
  · intro h
    induction s generalizing bs with
    | nil => exact ⟨bs, rfl, h⟩
    | cons c s ih =>
      obtain ⟨bs', rfl, h'⟩ := exists_encodeChar_append h
      obtain ⟨rest, rfl, hrest⟩ := ih h'
      exact ⟨rest, by rw [encode_cons, List.append_assoc], hrest⟩
  · rintro ⟨rest, rfl, rfl⟩
    exact pieces_encode_append s rest

theorem piecesAfter_some_ne_nil (p : Begun) (bs : Bytes) : piecesAfter [] (some p) bs ≠ [] := by
  induction bs generalizing p with
  | nil => simp [piecesAfter]
  | cons b bs ih =>
    by_cases hb : p.low ≤ b ∧ b ≤ p.high
    · by_cases owed : p.owed = 1
      · rw [piecesAfter_last owed hb]
        exact List.cons_ne_nil _ _
      · rw [piecesAfter_more owed hb]
        exact ih _
    · rw [piecesAfter_break hb]
      exact List.cons_ne_nil _ _

theorem pieces_eq_nil_iff {bs : Bytes} : pieces bs = [] ↔ bs = [] := by
  constructor
  · intro h
    cases bs with
    | nil => rfl
    | cons b bs =>
      by_cases hb : b < 0x80
      · rw [pieces_cons_of_lt hb] at h
        cases h
      · cases hl : lead b with
        | none =>
          rw [pieces_cons_of_lead_eq_none hb hl] at h
          cases h
        | some p =>
          rw [pieces_cons_of_lead hl] at h
          exact absurd h (piecesAfter_some_ne_nil p bs)
  · rintro rfl
    rfl

theorem eq_encode_of_pieces {bs : Bytes} {cs : Text} (h : pieces bs = cs.map .char) :
    bs = encode cs := by
  rw [← List.append_nil (cs.map _), pieces_eq_append_iff] at h
  obtain ⟨rest, rfl, hrest⟩ := h
  rw [pieces_eq_nil_iff.1 hrest, List.append_nil]

theorem textAfter_map_char (index : Nat) (done cs : Text) :
    textAfter index done (cs.map .char) = .ok (done.reverse ++ cs) := by
  induction cs generalizing index done with
  | nil => simp [textAfter]
  | cons c cs ih => rw [List.map_cons, textAfter, ih]; simp

theorem eq_map_char_of_textAfter {index : Nat} {done s : Text} {ps : List Piece}
    (h : textAfter index done ps = .ok s) : ∃ cs, ps = cs.map .char ∧ s = done.reverse ++ cs := by
  induction ps generalizing index done with
  | nil => exact ⟨[], rfl, by simpa [textAfter, eq_comm] using h⟩
  | cons p ps ih =>
    cases p with
    | char c =>
      obtain ⟨cs, rfl, rfl⟩ := ih h
      exact ⟨c :: cs, rfl, by simp⟩
    | bad n => cases h
    | cut n => cases h

@[simp] theorem decode_encode (s : Text) : decode (encode s) = .ok s := by
  have h := pieces_encode_append s []
  rw [List.append_nil] at h
  rw [decode, h, pieces, piecesAfter, List.reverse_nil, List.append_nil, textAfter_map_char]
  rfl

theorem encode_injective : Function.Injective encode := by
  intro s t h
  have hs := decode_encode s
  rw [h, decode_encode, Except.ok.injEq] at hs
  exact hs.symm

/-- **UTF-8 reads what it writes**: bytes are read as a text exactly when they are its bytes. -/
theorem decode_eq_ok_iff {bs : Bytes} {s : Text} : decode bs = .ok s ↔ bs = encode s := by
  constructor
  · intro h
    obtain ⟨cs, hp, rfl⟩ := eq_map_char_of_textAfter h
    exact eq_encode_of_pieces hp
  · rintro rfl
    exact decode_encode s

/-- Bytes that are the bytes of a text. -/
def WellFormed (bs : Bytes) : Prop :=
  ∃ s, bs = encode s

theorem decode?_eq_some_iff {bs : Bytes} {s : Text} : decode? bs = some s ↔ bs = encode s := by
  rw [← decode_eq_ok_iff, decode?]
  cases decode bs <;> simp [Except.toOption]

theorem decode?_isSome_iff {bs : Bytes} : (decode? bs).isSome ↔ WellFormed bs := by
  simp only [Option.isSome_iff_exists, decode?_eq_some_iff, WellFormed]

/-! ## Characters of one byte -/

theorem encodeChar_of_le {c : Char} (hc : c.toNat ≤ 0x7F) :
    String.utf8EncodeChar c = [UInt8.ofNat c.toNat] := by
  rw [encodeChar_eq, if_pos hc]

theorem le_of_mem_encodeChar {c : Char} (hc : 0x7F < c.toNat) {b : UInt8}
    (hb : b ∈ String.utf8EncodeChar c) : 0x80 ≤ b.toNat := by
  rw [encodeChar_eq, if_neg (by omega)] at hb
  split_ifs at hb <;> simp only [List.mem_cons, List.not_mem_nil, or_false] at hb <;>
    rcases hb with rfl | rfl | rfl | rfl <;> rw [UInt8.toNat_ofNat'] <;> omega

/-- The byte of a character of one byte is in no other character. -/
theorem eq_of_mem_encodeChar {c d : Char} (hc : c.toNat ≤ 0x7F)
    (h : UInt8.ofNat c.toNat ∈ String.utf8EncodeChar d) : d = c := by
  have hcn := toNat_ofNat_byte (n := c.toNat) (by omega)
  by_cases hd : d.toNat ≤ 0x7F
  · have hdn := toNat_ofNat_byte (n := d.toNat) (by omega)
    rw [encodeChar_of_le hd, List.mem_singleton, ← UInt8.toNat_inj, hcn, hdn] at h
    rw [← Char.ofNat_toNat d, ← h, Char.ofNat_toNat]
  · have := le_of_mem_encodeChar (Nat.lt_of_not_le hd) h
    omega

/-- Bytes of a text that end with a character of one byte are those of a text that does. -/
theorem exists_of_encode_eq_append {s : Text} {bs : Bytes} {c : Char} (hc : c.toNat ≤ 0x7F)
    (h : encode s = bs ++ [UInt8.ofNat c.toNat]) : ∃ t, s = t ++ [c] ∧ bs = encode t := by
  rcases List.eq_nil_or_concat s with rfl | ⟨t, d, rfl⟩
  · simp at h
  rw [List.concat_eq_append, encode_append, encode_cons, encode_nil, List.append_nil] at h
  obtain rfl : d = c := by
    obtain ⟨bs', b, hb⟩ := (List.eq_nil_or_concat _).resolve_left
      (String.utf8EncodeChar_ne_nil (c := d))
    refine eq_of_mem_encodeChar hc ?_
    rw [hb, List.concat_eq_append, ← List.append_assoc] at h
    rw [hb, ← (List.cons.inj (List.append_inj' h rfl).2).1]
    simp
  rw [encodeChar_of_le hc] at h
  exact ⟨t, List.concat_eq_append, (List.append_inj' h rfl).1.symm⟩

/-- Bytes of a text are cut at a character of one byte where the text is. -/
theorem exists_of_encode_eq_append_cons {s : Text} {before after : Bytes} {c : Char}
    (hc : c.toNat ≤ 0x7F) (h : encode s = before ++ UInt8.ofNat c.toNat :: after) :
    ∃ t u, s = t ++ c :: u ∧ before = encode t ∧ after = encode u := by
  induction s generalizing before with
  | nil => simp at h
  | cons d s ih =>
    rw [encode_cons] at h
    rcases List.append_eq_append_iff.1 h with ⟨rest, rfl, hs⟩ | ⟨rest, hd, hs⟩
    · obtain ⟨t, u, rfl, rfl, rfl⟩ := ih hs
      exact ⟨d :: t, u, rfl, rfl, rfl⟩
    cases rest with
    | nil =>
      obtain ⟨t, u, rfl, ht, rfl⟩ : ∃ t u, s = t ++ c :: u ∧ [] = encode t ∧ after = encode u :=
        ih hs.symm
      rw [List.append_nil] at hd
      exact ⟨d :: t, u, rfl, by rw [encode_cons, ← ht, hd, List.append_nil], rfl⟩
    | cons b rest =>
      obtain ⟨rfl, hafter⟩ := List.cons.inj hs
      obtain rfl : d = c := eq_of_mem_encodeChar hc (hd ▸ by simp)
      rw [encodeChar_of_le hc, eq_comm, List.append_eq_singleton_iff] at hd
      rcases hd with ⟨rfl, hrest⟩ | ⟨-, hrest⟩
      · rw [(List.cons.inj hrest).2] at hafter
        exact ⟨[], s, rfl, rfl, hafter⟩
      · cases hrest

end GoOptional.Utf8
