import Mathlib
import GoOptional.CommandLine.GoStyle
import GoOptional.Proofs.Text.Utf8

/-!
# How options are spelled

A long option is spelled with two dashes, its name, and perhaps an equals sign and a value. No name
has an equals sign, so the first one ends the name, and the value may be any bytes: the argument
has the form of its option, and it is no option with one dash, whatever the value holds.

## Main definitions

* `CommandLine.longArgument`: the argument of a long option
* `CommandLine.StandsAlone`: a value that can be an argument of its own

## Main results

* `CommandLine.ofBytes_valued`, `CommandLine.ofBytes_switch`: the forms of the arguments of long
  options
* `CommandLine.normalize_eq_self`: arguments of which none is a long option with one dash
-/

namespace GoOptional.CommandLine

variable {word : Text} {attached : Option Bytes} {args : List Bytes} {arg value : Bytes}

/-- The argument of a long option: two dashes, the name, and perhaps a value after an equals
sign. -/
def longArgument (word : Text) (attached : Option Bytes) : Bytes :=
  dash :: dash :: (Utf8.encode word ++ attached.elim [] (equalsSign :: ·))

/-- A value that can be an argument of its own: it starts with no dash, unless it is one. -/
def StandsAlone (value : Bytes) : Prop :=
  value.head? = some dash → value = [dash]

instance (value : Bytes) : Decidable (StandsAlone value) :=
  inferInstanceAs (Decidable (value.head? = some dash → value = [dash]))

/-! ## Names and what is attached to them -/

/-- Names that options can have: they are neither empty nor start with a dash, and the first
equals sign is behind them. -/
structure IsWord (word : Text) : Prop where
  ne_nil : Utf8.encode word ≠ []
  head?_ne : (Utf8.encode word).head? ≠ some dash
  not_mem : equalsSign ∉ Utf8.encode word

theorem isWord_of_mem : ∀ word ∈ goStyleNames, IsWord word := by
  have hall : ∀ word ∈ goStyleNames, Utf8.encode word ≠ [] ∧
      (Utf8.encode word).head? ≠ some dash ∧ equalsSign ∉ Utf8.encode word := by
    decide
  exact fun word h => ⟨(hall word h).1, (hall word h).2.1, (hall word h).2.2⟩

theorem word_mem_goStyleNames (o : Valued) : o.word ∈ goStyleNames := by
  cases o <;> decide

theorem switch_word_mem_goStyleNames (o : Switch) : o.word ∈ goStyleNames := by
  cases o <;> decide

theorem bne_equalsSign (h : equalsSign ∉ value) : ∀ b ∈ value, (b != equalsSign) = true := by
  intro b hb
  rw [bne_iff_ne]
  rintro rfl
  exact h hb

theorem beforeEquals_append (h : equalsSign ∉ value) (attached : Option Bytes) :
    beforeEquals (value ++ attached.elim [] (equalsSign :: ·)) = value := by
  rw [beforeEquals, List.takeWhile_append_of_pos (bne_equalsSign h)]
  cases attached <;> simp

theorem afterEquals?_append (h : equalsSign ∉ value) (attached : Option Bytes) :
    afterEquals? (value ++ attached.elim [] (equalsSign :: ·)) = attached := by
  rw [afterEquals?, List.dropWhile_append_of_pos (bne_equalsSign h)]
  cases attached <;> simp

/-- Bytes are what comes before their first equals sign and what is attached behind it. -/
theorem beforeEquals_append_afterEquals? (bs : Bytes) :
    beforeEquals bs ++ (afterEquals? bs).elim [] (equalsSign :: ·) = bs := by
  have hafter : (afterEquals? bs).elim [] (equalsSign :: ·) =
      bs.dropWhile (· != equalsSign) := by
    have hhead := List.head?_dropWhile_not (· != equalsSign) bs
    unfold afterEquals?
    cases hdrop : bs.dropWhile (· != equalsSign) with
    | nil => rfl
    | cons b value =>
      have hb : b = equalsSign := by simpa [hdrop] using hhead
      rw [hb]
      rfl
  rw [hafter, beforeEquals, List.takeWhile_append_dropWhile]

/-! ## The forms of arguments -/

/-- **The argument of a long option** has the form that its name and its value have. -/
theorem ofBytes_longArgument (h : IsWord word) (attached : Option Bytes) :
    Argument.ofBytes (longArgument word attached) =
      Argument.ofLong (Utf8.encode word) attached := by
  rw [longArgument, Argument.ofBytes, if_neg (by simp), if_neg (by simp),
    beforeEquals_append h.not_mem, afterEquals?_append h.not_mem, if_neg]
  simp [h.ne_nil]

theorem ofLong_valued (o : Valued) (attached : Option Bytes) :
    Argument.ofLong (Utf8.encode o.word) attached = .valued o attached := by
  cases o <;> rfl

theorem ofLong_switch (o : Switch) (attached : Option Bytes) :
    Argument.ofLong (Utf8.encode o.word) attached = Argument.bare (.switch o) attached := by
  cases o <;> rfl

/-- The argument of an option with a value. -/
theorem ofBytes_valued (o : Valued) (attached : Option Bytes) :
    Argument.ofBytes (longArgument o.word attached) = .valued o attached := by
  rw [ofBytes_longArgument (isWord_of_mem _ (word_mem_goStyleNames o)), ofLong_valued]

/-- The argument of an option without a value. -/
theorem ofBytes_switch (o : Switch) (attached : Option Bytes) :
    Argument.ofBytes (longArgument o.word attached) = Argument.bare (.switch o) attached := by
  rw [ofBytes_longArgument (isWord_of_mem _ (switch_word_mem_goStyleNames o)), ofLong_switch]

theorem StandsAlone.ofBytes (h : StandsAlone value) : Argument.ofBytes value = .value value := by
  match value with
  | [] => rfl
  | [b] => rfl
  | b :: c :: rest =>
    have hb : b ≠ dash := by
      rintro rfl
      cases h rfl
    rw [Argument.ofBytes, if_pos hb]

/-! ## Long options with one dash -/

/-- An argument that starts with two dashes is no option with one. -/
theorem isGoStyle_dash_dash (bs : Bytes) : isGoStyle (dash :: dash :: bs) = false := by
  have hname : beforeEquals (dash :: bs) = dash :: beforeEquals bs :=
    List.takeWhile_cons_of_pos rfl
  rw [isGoStyle, hname, Bool.and_eq_false_iff]
  right
  rw [List.contains_eq_mem, decide_eq_false_iff_not]
  intro hmem
  obtain ⟨word, hword, he⟩ := List.mem_map.1 hmem
  apply (isWord_of_mem word hword).head?_ne
  rw [he, List.head?_cons]

theorem isGoStyle_longArgument (word : Text) (attached : Option Bytes) :
    isGoStyle (longArgument word attached) = false :=
  isGoStyle_dash_dash _

theorem StandsAlone.isGoStyle (h : StandsAlone value) : isGoStyle value = false := by
  cases value with
  | nil => rfl
  | cons b rest =>
    by_cases hb : b = dash
    · subst hb
      cases h rfl
      decide
    · simp [CommandLine.isGoStyle, hb]

/-- **Arguments of which none is a long option with one dash** are left as they are. -/
theorem normalize_eq_self (h : ∀ arg ∈ args, isGoStyle arg = false) : normalize args = args := by
  induction args with
  | nil => rfl
  | cons arg args ih =>
    obtain ⟨harg, hargs⟩ := List.forall_mem_cons.1 h
    rw [normalize, normalizeArgument, harg, if_neg Bool.false_ne_true, ih hargs, ite_self]

end GoOptional.CommandLine
