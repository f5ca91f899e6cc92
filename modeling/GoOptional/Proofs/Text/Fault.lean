import Mathlib
import GoOptional.Proofs.Text.Utf8

/-!
# Where bytes stop being UTF-8

The reader reports the first place at which bytes are no text, and how many bytes there could have
begun a character. This module says which place and which number these are without the reader:
by the texts of which the bytes are a beginning.

## Main definitions

* `Utf8.Begins`: bytes with which a text can begin
* `Utf8.BeginsLonger`: bytes with which a text can begin that is longer
* `Utf8.IsLongest`: the length of the longest beginning with a property
* `Utf8.IsFirstFault`: the first fault of bytes, by their beginnings

## Main results

* `Utf8.begins_iff`: a text can begin with the bytes exactly when no piece of them is bad
* `Utf8.decode_eq_error_iff`: the fault that is reported is the first one
-/

namespace GoOptional.Utf8

/-- Bytes with which a text can begin. -/
def Begins (bs : Bytes) : Prop :=
  ∃ s, bs <+: encode s

/-- Some bytes, but not all, with which a text can begin: the text goes on after them. -/
def BeginsLonger (bs : Bytes) : Prop :=
  bs ≠ [] ∧ ∃ s, bs <+: encode s ∧ bs ≠ encode s

/-- The length of the longest beginning of bytes that has the property. -/
def IsLongest (P : Bytes → Prop) (bs : Bytes) (n : Nat) : Prop :=
  IsGreatest {k | k ≤ bs.length ∧ P (bs.take k)} n

/-- The first fault of bytes that are no text. It stands after the longest text with which the
bytes start. If a text could go on after all that follows, then the bytes end too early; else the
fault takes as many bytes as a text could have begun with there, and at least one. -/
inductive IsFirstFault (bs : Bytes) : Fault → Prop where
  /-- A byte does not go on with what was begun, or begins nothing. -/
  | invalid {index length : Nat} (text : IsLongest WellFormed bs index)
      (broken : ¬ BeginsLonger (bs.drop index)) (begun : IsLongest Begins (bs.drop index) length) :
      IsFirstFault bs (.invalid index (max 1 length))
  /-- The bytes end too early. -/
  | incomplete {index : Nat} (text : IsLongest WellFormed bs index)
      (begun : BeginsLonger (bs.drop index)) : IsFirstFault bs (.incomplete index)

variable {begun : Option Begun} {p : Begun} {b : UInt8} {bs w : Bytes} {s : Text} {fault : Fault}
  {n : Nat} {P : Bytes → Prop}

/-! ## What is begun after some bytes -/

/-- The pieces that bytes complete, and what is begun after them. -/
def after : Option Begun → Bytes → List Piece × Option Begun
  | begun, [] => ([], begun)
  | begun, b :: bs =>
    ((step begun b).1.reverse ++ (after (step begun b).2 bs).1, (after (step begun b).2 bs).2)

/-- A beginning that some byte goes on with. -/
structure Begun.IsOpen (p : Begun) : Prop where
  owed : 1 ≤ p.owed
  low_le : p.low ≤ p.high

theorem Begun.IsOpen.goOn (howed : p.owed ≠ 1) (h : p.IsOpen) (b : UInt8) :
    (p.goOn b).IsOpen where
  owed := Nat.le_sub_one_of_lt (Nat.lt_of_le_of_ne h.owed howed.symm)
  low_le := (by decide : (0x80 : UInt8) ≤ 0xBF)

/-- **An open beginning** can be completed. -/
theorem Begun.IsOpen.exists_completes (h : p.IsOpen) : ∃ w n, Completes p w n := by
  obtain ⟨k, hk⟩ := Nat.exists_eq_add_of_le' h.owed
  induction k generalizing p with
  | zero => exact ⟨_, _, .last hk h.low_le UInt8.le_rfl⟩
  | succ k ih =>
    have howed : p.owed ≠ 1 := by omega
    obtain ⟨w, n, hw⟩ := ih (h.goOn howed p.high) (by simp only [Begun.goOn]; omega)
    exact ⟨_, _, .more howed h.low_le UInt8.le_rfl hw⟩

theorem isOpen_of_lead (h : lead b = some p) : p.IsOpen := by
  rw [lead] at h
  split_ifs at h <;> cases h <;> constructor <;> simp

theorem length_eq_of_lead (h : lead b = some p) : p.length = 1 := by
  rw [lead] at h
  split_ifs at h <;> cases h <;> rfl

theorem isOpen_start (h : (start b).2 = some p) : p.IsOpen := by
  rw [start] at h
  split at h
  · cases h
  · cases hl : lead b with
    | none =>
      rw [hl] at h
      cases h
    | some q =>
      rw [hl] at h
      obtain rfl : q = p := Option.some.inj h
      exact isOpen_of_lead hl

theorem isOpen_step (hbegun : ∀ p, begun = some p → p.IsOpen)
    (h : (step begun b).2 = some p) : p.IsOpen := by
  cases begun with
  | none => exact isOpen_start h
  | some q =>
    rw [step] at h
    split at h
    case isFalse => exact isOpen_start h
    case isTrue =>
      by_cases howed : q.owed = 1
      · simp [howed] at h
      · simp only [howed, if_false, Option.some.injEq] at h
        rw [← h]
        exact (hbegun q rfl).goOn howed b

theorem isOpen_after (hbegun : ∀ p, begun = some p → p.IsOpen)
    (h : (after begun bs).2 = some p) : p.IsOpen := by
  induction bs generalizing begun with
  | nil => exact hbegun p h
  | cons b bs ih => exact ih (fun q hq => isOpen_step hbegun hq) h

theorem cut_not_mem_start (b : UInt8) : .cut n ∉ (start b).1 := by
  rw [start]
  split
  · simp
  · cases lead b <;> simp

theorem cut_not_mem_after : .cut n ∉ (after begun bs).1 := by
  induction bs generalizing begun with
  | nil => exact List.not_mem_nil
  | cons b bs ih =>
    rw [after, List.mem_append, List.mem_reverse, not_or]
    refine ⟨?_, ih⟩
    cases begun with
    | none => exact cut_not_mem_start b
    | some p =>
      rw [step]
      split_ifs <;> simp [cut_not_mem_start]

/-- The pieces of two parts of bytes. -/
theorem piecesAfter_append (begun : Option Begun) (bs rest : Bytes) :
    piecesAfter [] begun (bs ++ rest) =
      (after begun bs).1 ++ piecesAfter [] (after begun bs).2 rest := by
  induction bs generalizing begun with
  | nil => rfl
  | cons b bs ih =>
    have step_eq : piecesAfter [] begun (b :: (bs ++ rest)) =
        piecesAfter ((step begun b).1 ++ []) (step begun b).2 (bs ++ rest) := by
      cases begun <;> rw [piecesAfter]
    rw [List.cons_append, step_eq, piecesAfter_eq, ih, List.append_nil, after, List.append_assoc]

/-- **What has been read** stays, and what is begun can be completed. -/
theorem exists_pieces_append (bs : Bytes) : ∃ done : List Piece, (∀ n, .cut n ∉ done) ∧
    (∀ rest, done <+: pieces (bs ++ rest)) ∧ (pieces bs = done ∨ ∃ n w c, w ≠ [] ∧
      pieces bs = done ++ [.cut n] ∧ pieces (bs ++ w) = done ++ [.char c]) := by
  have happend (rest : Bytes) : pieces (bs ++ rest) =
      (after none bs).1 ++ piecesAfter [] (after none bs).2 rest := piecesAfter_append none bs rest
  have hbs := happend []
  rw [List.append_nil] at hbs
  refine ⟨_, fun n => cut_not_mem_after, fun rest => ⟨_, (happend rest).symm⟩, ?_⟩
  cases hp : (after none bs).2 with
  | none =>
    left
    rw [hbs, hp]
    exact List.append_nil _
  | some p =>
    right
    obtain ⟨w, n, hw⟩ := (isOpen_after (by simp) hp).exists_completes
    have hpieces := hw.piecesAfter []
    rw [List.append_nil] at hpieces
    refine ⟨p.length, w, Char.ofNat n, ?_, by rw [hbs, hp]; rfl, ?_⟩
    · rintro rfl
      cases hw
    · rw [happend, hp, hpieces]
      rfl

/-! ## The beginnings of texts -/

theorem eq_map_char {ps : List Piece} (hbad : ∀ n, .bad n ∉ ps) (hcut : ∀ n, .cut n ∉ ps) :
    ∃ s : Text, ps = s.map .char := by
  induction ps with
  | nil => exact ⟨[], rfl⟩
  | cons q ps ih =>
    obtain ⟨s, rfl⟩ := ih (fun n hn => hbad n (List.mem_cons_of_mem q hn))
      (fun n hn => hcut n (List.mem_cons_of_mem q hn))
    cases q with
    | char c => exact ⟨c :: s, rfl⟩
    | bad n => exact absurd List.mem_cons_self (hbad n)
    | cut n => exact absurd List.mem_cons_self (hcut n)

/-- **A text can begin with the bytes** exactly when no piece of them is bad: what is bad is so
whatever follows. -/
theorem begins_iff : Begins bs ↔ ∀ n, .bad n ∉ pieces bs := by
  obtain ⟨done, hcut, hstays, hpieces⟩ := exists_pieces_append bs
  constructor
  · rintro ⟨s, rest, hs⟩ n hn
    have hdone : .bad n ∈ done := by
      rcases hpieces with h | ⟨k, w, c, -, h, -⟩
      · exact h ▸ hn
      · rw [h, List.mem_append] at hn
        exact hn.resolve_right (by simp)
    have hmem := (hstays rest).subset hdone
    rw [hs, ← List.append_nil (encode s), pieces_encode_append] at hmem
    simp [pieces, piecesAfter] at hmem
  · intro hbad
    have hdone : ∀ n, .bad n ∉ done := by
      intro n hn
      have hmem := (hstays []).subset hn
      rw [List.append_nil] at hmem
      exact hbad n hmem
    obtain ⟨s, rfl⟩ := eq_map_char hdone hcut
    rcases hpieces with h | ⟨k, w, c, -, -, h⟩
    · exact ⟨s, by rw [eq_encode_of_pieces h]⟩
    · have htext : bs ++ w = encode (s ++ [c]) := eq_encode_of_pieces (by rw [h]; simp)
      exact ⟨s ++ [c], w, htext⟩

theorem Begins.of_isPrefix (h : Begins bs) (hw : w <+: bs) : Begins w := by
  obtain ⟨s, hs⟩ := h
  exact ⟨s, hw.trans hs⟩

/-! ## Longest beginnings -/

theorem IsLongest.unique {m : Nat} (hm : IsLongest P bs m) (hn : IsLongest P bs n) : m = n :=
  IsGreatest.unique hm hn

/-- The longest beginning of a text ends before the byte with which it would be none. -/
theorem isLongest_begins {x : UInt8} {rest : Bytes} (hw : Begins w) (hx : ¬ Begins (w ++ [x])) :
    IsLongest Begins (w ++ x :: rest) w.length := by
  constructor
  · exact ⟨by simp, by rwa [List.take_left]⟩
  · rintro k ⟨-, hk⟩
    by_contra hlt
    refine hx (hk.of_isPrefix ?_)
    have hle : (w ++ [x]).length ≤ k := by
      rw [List.length_append, List.length_singleton]
      omega
    rw [List.prefix_take_iff, List.append_cons w x rest]
    exact ⟨List.prefix_append _ _, hle⟩

/-- A bad piece is what was begun before a byte that does not go on. -/
theorem exists_of_piecesAfter_eq_bad {ps : List Piece}
    (h : piecesAfter [] (some p) bs = .bad n :: ps) : ∃ w x rest, bs = w ++ x :: rest ∧
      n = p.length + w.length ∧ piecesAfter [] (some p) w = [.cut n] ∧
        .bad n ∈ piecesAfter [] (some p) (w ++ [x]) := by
  induction bs generalizing p with
  | nil => cases h
  | cons b bs ih =>
    by_cases hb : p.low ≤ b ∧ b ≤ p.high
    · by_cases owed : p.owed = 1
      · rw [piecesAfter_last owed hb] at h
        cases h
      · rw [piecesAfter_more owed hb] at h
        obtain ⟨w, x, rest, rfl, rfl, hcut, hbad⟩ := ih h
        refine ⟨b :: w, x, rest, rfl, ?_, ?_, ?_⟩
        · simp only [Begun.goOn, List.length_cons]
          omega
        · rw [piecesAfter_more owed hb, hcut]
        · rw [List.cons_append, piecesAfter_more owed hb]
          exact hbad
    · rw [piecesAfter_break hb] at h
      cases h
      refine ⟨[], b, bs, rfl, rfl, rfl, ?_⟩
      rw [List.nil_append, piecesAfter_break hb]
      exact List.mem_cons_self

/-- **The length of a bad piece** is that of the longest beginning, or one. -/
theorem exists_of_pieces_eq_bad {ps : List Piece} (h : pieces bs = .bad n :: ps) :
    ∃ m, IsLongest Begins bs m ∧ n = max 1 m := by
  cases bs with
  | nil => cases h
  | cons b bs =>
    by_cases hb : b < 0x80
    · rw [pieces_cons_of_lt hb] at h
      cases h
    cases hl : lead b with
    | none =>
      rw [pieces_cons_of_lead_eq_none hb hl] at h
      have hone : ¬ Begins ([] ++ [b]) := by
        rw [begins_iff, List.nil_append, pieces_cons_of_lead_eq_none hb hl]
        exact fun hbad => hbad 1 List.mem_cons_self
      refine ⟨0, isLongest_begins (w := []) ⟨[], List.nil_prefix⟩ hone, ?_⟩
      cases h
      rfl
    | some p =>
      rw [pieces_cons_of_lead hl] at h
      obtain ⟨w, x, rest, rfl, hn, hcut, hbad⟩ := exists_of_piecesAfter_eq_bad h
      have hw : Begins (b :: w) := by
        rw [begins_iff, pieces_cons_of_lead hl, hcut]
        simp
      have hx : ¬ Begins (b :: w ++ [x]) := by
        rw [begins_iff, List.cons_append, pieces_cons_of_lead hl]
        exact fun h => h n hbad
      refine ⟨_, isLongest_begins hw hx, ?_⟩
      rw [hn, length_eq_of_lead hl, List.length_cons]
      omega

/-- **A piece that is cut** is all that is left. -/
theorem beginsLonger_of_pieces_eq_cut {ps : List Piece} (h : pieces bs = .cut n :: ps) :
    BeginsLonger bs := by
  obtain ⟨done, hcut, -, hpieces⟩ := exists_pieces_append bs
  have hhead (qs : List Piece) (hq : pieces bs = done ++ qs) : done = [] := by
    cases done with
    | nil => rfl
    | cons q done =>
      rw [hq, List.cons_append, List.cons.injEq] at h
      exact absurd List.mem_cons_self (h.1 ▸ hcut n)
  rcases hpieces with hq | ⟨k, w, c, hw, hq, hc⟩
  · obtain rfl := hhead [] (by rw [hq, List.append_nil])
    rw [hq] at h
    cases h
  · obtain rfl := hhead _ hq
    have htext : bs ++ w = encode [c] := eq_encode_of_pieces hc
    refine ⟨?_, [c], ⟨w, htext⟩, ?_⟩
    · rintro rfl
      cases hq
    · rw [← htext]
      simpa using hw

/-! ## The first fault -/

theorem exists_of_textAfter_eq_error {index : Nat} {done : Text} {ps : List Piece}
    (h : textAfter index done ps = .error fault) : ∃ (s : Text) (q : Piece) (qs : List Piece),
      ps = s.map .char ++ q :: qs ∧
        ((∃ n, q = .bad n ∧ fault = .invalid (index + (encode s).length) n) ∨
          (∃ n, q = .cut n ∧ fault = .incomplete (index + (encode s).length))) := by
  induction ps generalizing index done with
  | nil => cases h
  | cons p ps ih =>
    cases p with
    | char c =>
      obtain ⟨s, q, qs, rfl, hq⟩ := ih h
      refine ⟨c :: s, q, qs, rfl, ?_⟩
      rw [encode_cons, List.length_append, String.length_utf8EncodeChar, ← Nat.add_assoc]
      exact hq
    | bad n => exact ⟨[], _, ps, rfl, .inl ⟨n, rfl, by cases h; rfl⟩⟩
    | cut n => exact ⟨[], _, ps, rfl, .inr ⟨n, rfl, by cases h; rfl⟩⟩

/-- Characters that are read before a piece of another kind. -/
theorem isPrefix_of_map_char {t : Text} {q : Piece} {ps qs : List Piece} (hq : ∀ c, q ≠ .char c)
    (h : s.map Piece.char ++ q :: qs = t.map Piece.char ++ ps) : t <+: s := by
  have hinj : Function.Injective (List.map Piece.char) :=
    List.map_injective_iff.2 fun _ _ => Piece.char.inj
  rcases List.append_eq_append_iff.1 h with ⟨more, ht, hmore⟩ | ⟨more, hs, -⟩
  · cases more with
    | nil =>
      rw [List.append_nil] at ht
      exact hinj ht ▸ List.prefix_rfl
    | cons q' more =>
      obtain ⟨rfl, -⟩ := List.cons.inj hmore
      have hmem : q ∈ t.map Piece.char := ht ▸ by simp
      obtain ⟨c, -, hc⟩ := List.mem_map.1 hmem
      exact absurd hc.symm (hq c)
  · obtain ⟨u, v, rfl, hu, -⟩ := List.map_eq_append_iff.1 hs
    exact hinj hu ▸ List.prefix_append u v

/-- A text is the longest one with which bytes start where a faulty piece follows. -/
theorem isLongest_wellFormed {rest : Bytes} {q : Piece} {qs : List Piece}
    (hrest : pieces rest = q :: qs) (hq : ∀ c, q ≠ .char c) :
    IsLongest WellFormed (encode s ++ rest) (encode s).length := by
  constructor
  · exact ⟨by simp, s, List.take_left⟩
  · rintro k ⟨hk, t, ht⟩
    have hpieces : s.map Piece.char ++ q :: qs =
        t.map .char ++ pieces ((encode s ++ rest).drop k) := by
      rw [← hrest, ← pieces_encode_append, ← pieces_encode_append, ← ht, List.take_append_drop]
    obtain ⟨u, rfl⟩ := isPrefix_of_map_char hq hpieces
    have hlength := congrArg List.length ht
    rw [List.length_take, Nat.min_eq_left hk] at hlength
    rw [hlength, encode_append, List.length_append]
    exact Nat.le_add_right _ _

theorem IsFirstFault.unique {fault' : Fault} (h : IsFirstFault bs fault)
    (h' : IsFirstFault bs fault') : fault = fault' := by
  cases h with
  | invalid text broken begun =>
    cases h' with
    | invalid text' broken' begun' =>
      obtain rfl := text.unique text'
      rw [begun.unique begun']
    | incomplete text' begun' =>
      obtain rfl := text.unique text'
      exact absurd begun' broken
  | incomplete text begun =>
    cases h' with
    | invalid text' broken' begun' =>
      obtain rfl := text.unique text'
      exact absurd begun broken'
    | incomplete text' begun' => rw [text.unique text']

/-- **The fault that is reported** is a first fault. -/
theorem isFirstFault_of_decode (h : decode bs = .error fault) : IsFirstFault bs fault := by
  obtain ⟨s, q, qs, hpieces, hq⟩ := exists_of_textAfter_eq_error h
  obtain ⟨rest, rfl, hrest⟩ := pieces_eq_append_iff.1 hpieces
  have hdrop : (encode s ++ rest).drop (encode s).length = rest := List.drop_left
  rw [Nat.zero_add] at hq
  rcases hq with ⟨n, rfl, rfl⟩ | ⟨n, rfl, rfl⟩
  · obtain ⟨m, hm, rfl⟩ := exists_of_pieces_eq_bad hrest
    refine .invalid (isLongest_wellFormed hrest (by simp)) ?_ (by rwa [hdrop])
    rw [hdrop]
    rintro ⟨-, t, ht, -⟩
    exact begins_iff.1 ⟨t, ht⟩ _ (hrest ▸ List.mem_cons_self)
  · refine .incomplete (isLongest_wellFormed hrest (by simp)) ?_
    rw [hdrop]
    exact beginsLonger_of_pieces_eq_cut hrest

theorem exists_decode_eq_error (h : ¬ WellFormed bs) : ∃ fault, decode bs = .error fault := by
  cases hd : decode bs with
  | error fault => exact ⟨fault, rfl⟩
  | ok s => exact absurd ⟨s, decode_eq_ok_iff.1 hd⟩ h

/-- **The first fault is reported**, and only where bytes are no text. -/
theorem decode_eq_error_iff :
    decode bs = .error fault ↔ ¬ WellFormed bs ∧ IsFirstFault bs fault := by
  constructor
  · intro h
    refine ⟨?_, isFirstFault_of_decode h⟩
    rintro ⟨s, rfl⟩
    rw [decode_encode] at h
    cases h
  · rintro ⟨hbs, hfault⟩
    obtain ⟨fault', h⟩ := exists_decode_eq_error hbs
    rw [h, hfault.unique (isFirstFault_of_decode h)]

/-- The second character is begun by two bytes, and the third byte begins another one. -/
example : decode [0x61, 0xE1, 0x80, 0x62] = .error (.invalid 1 2) := by decide

end GoOptional.Utf8
