import Mathlib
import GoOptional.Proofs.CommandLine.OneDash

/-!
# Normalized arguments

Arguments are normalized one by one, each in its place: a long option with one dash gets a second
one, and all others are left. From the separator on nothing changes. An argument that got a dash is
neither the separator nor an option with one dash, so that normalizing twice changes nothing more,
and arguments can be normalized in parts.

## Main definitions

* `CommandLine.IsOneDashed`: the arguments that lack a dash
* `CommandLine.Becomes`: what becomes of an argument

## Main results

* `CommandLine.isGoStyle_iff`: the arguments that lack a dash are found
* `CommandLine.normalize_append`, `CommandLine.normalize_append_of_mem`: arguments in parts
* `CommandLine.normalize_normalize`: normalizing twice
* `CommandLine.normalize_inPlace`: what normalizing does to arguments
-/

namespace GoOptional.CommandLine

variable {arg : Bytes} {args front : List Bytes}

/-! ## One argument -/

/-- An argument that is text, and a long option with one dash. -/
def IsOneDashed (arg : Bytes) : Prop :=
  Utf8.WellFormed arg ∧ ∃ word ∈ goStyleNames, ∃ attached, arg = goStyleArgument word attached

/-- What becomes of an argument: a dash is put in front if one is lacking. -/
def Becomes (arg arg' : Bytes) : Prop :=
  IsOneDashed arg ∧ arg' = dash :: arg ∨ ¬ IsOneDashed arg ∧ arg' = arg

/-- **The arguments that lack a dash are found.** -/
theorem isGoStyle_iff : isGoStyle arg = true ↔ IsOneDashed arg := by
  constructor
  · intro h
    cases arg with
    | nil => cases h
    | cons b rest =>
      simp only [isGoStyle, Bool.and_eq_true, beq_iff_eq, List.contains_eq_mem,
        decide_eq_true_eq] at h
      obtain ⟨⟨rfl, htext⟩, hname⟩ := h
      obtain ⟨word, hword, he⟩ := List.mem_map.1 hname
      refine ⟨Utf8.decode?_isSome_iff.1 htext, word, hword, afterEquals? rest, ?_⟩
      rw [goStyleArgument, he, beforeEquals_append_afterEquals?]
  · rintro ⟨htext, word, hword, attached, rfl⟩
    rw [isGoStyle_goStyleArgument_iff hword]
    exact (wellFormed_goStyleArgument_iff word attached).1 htext

theorem becomes_normalizeArgument (arg : Bytes) : Becomes arg (normalizeArgument arg) := by
  unfold normalizeArgument
  split_ifs with h
  · exact Or.inl ⟨isGoStyle_iff.1 h, rfl⟩
  · exact Or.inr ⟨isGoStyle_iff.not.1 h, rfl⟩

/-- What has become of an argument does not lack a dash. -/
theorem isGoStyle_normalizeArgument (arg : Bytes) : isGoStyle (normalizeArgument arg) = false := by
  rw [normalizeArgument]
  split_ifs with h
  · obtain ⟨-, word, -, attached, rfl⟩ := isGoStyle_iff.1 h
    exact isGoStyle_dash_dash _
  · simpa using h

theorem normalizeArgument_normalizeArgument (arg : Bytes) :
    normalizeArgument (normalizeArgument arg) = normalizeArgument arg := by
  rw [normalizeArgument, isGoStyle_normalizeArgument, if_neg Bool.false_ne_true]

/-- No other argument becomes the separator. -/
theorem normalizeArgument_ne_separator (h : arg ≠ separator) :
    normalizeArgument arg ≠ separator := by
  rw [normalizeArgument]
  split_ifs with hstyle
  · intro he
    rw [(List.cons.inj he).2] at hstyle
    cases hstyle
  · exact h

/-! ## All arguments -/

@[simp] theorem normalize_separator (rest : List Bytes) :
    normalize (separator :: rest) = separator :: rest :=
  if_pos rfl

theorem normalize_cons (h : arg ≠ separator) (rest : List Bytes) :
    normalize (arg :: rest) = normalizeArgument arg :: normalize rest :=
  if_neg h

/-- **Arguments in parts**: those before the separator are normalized for themselves. -/
theorem normalize_append (h : separator ∉ front) (rest : List Bytes) :
    normalize (front ++ rest) = normalize front ++ normalize rest := by
  induction front with
  | nil => rfl
  | cons arg front ih =>
    rw [List.mem_cons, not_or] at h
    have harg : arg ≠ separator := Ne.symm h.1
    rw [List.cons_append, normalize_cons harg, ih h.2, normalize_cons harg, List.cons_append]

/-- What follows arguments with the separator is left. -/
theorem normalize_append_of_mem (h : separator ∈ front) (rest : List Bytes) :
    normalize (front ++ rest) = normalize front ++ rest := by
  obtain ⟨before, after, rfl, hbefore⟩ := List.eq_append_cons_of_mem h
  rw [List.append_assoc, normalize_append hbefore, normalize_append hbefore, List.cons_append,
    normalize_separator, normalize_separator, List.append_assoc, List.cons_append]

/-- Before the separator every argument becomes what it becomes for itself. -/
theorem forall₂_becomes (h : separator ∉ args) : List.Forall₂ Becomes args (normalize args) := by
  induction args with
  | nil => exact .nil
  | cons arg args ih =>
    rw [List.mem_cons, not_or] at h
    rw [normalize_cons (Ne.symm h.1)]
    exact .cons (becomes_normalizeArgument arg) (ih h.2)

theorem not_mem_normalize (h : separator ∉ args) : separator ∉ normalize args := by
  induction args with
  | nil => exact List.not_mem_nil
  | cons arg args ih =>
    rw [List.mem_cons, not_or] at h
    rw [normalize_cons (Ne.symm h.1)]
    exact List.not_mem_cons_of_ne_of_not_mem
      (Ne.symm (normalizeArgument_ne_separator (Ne.symm h.1))) (ih h.2)

/-- An argument stays as it was or has one dash more, wherever it stands. -/
theorem forall₂_eq_or_eq_cons (args : List Bytes) :
    List.Forall₂ (fun arg arg' => arg' = arg ∨ arg' = dash :: arg) args (normalize args) := by
  induction args with
  | nil => exact .nil
  | cons arg args ih =>
    by_cases harg : arg = separator
    · rw [harg, normalize_separator]
      exact List.forall₂_same.2 fun _ _ => Or.inl rfl
    · rw [normalize_cons harg]
      exact .cons ((becomes_normalizeArgument arg).imp And.right And.right).symm ih

/-- **Normalizing twice** changes nothing more. -/
theorem normalize_normalize (args : List Bytes) : normalize (normalize args) = normalize args := by
  induction args with
  | nil => rfl
  | cons arg args ih =>
    by_cases harg : arg = separator
    · rw [harg, normalize_separator, normalize_separator]
    · rw [normalize_cons harg, normalize_cons (normalizeArgument_ne_separator harg),
        normalizeArgument_normalizeArgument, ih]

/-- **Normalizing arguments** puts a dash before some of them and leaves their order. Up to the
separator these are the long options with one dash that are text; the separator keeps its place,
and nothing changes from there on. Normalizing again changes nothing, and arguments can be
normalized in parts. -/
theorem normalize_inPlace :
    (∀ args, (normalize args).length = args.length ∧
      List.Forall₂ (fun arg arg' => arg' = arg ∨ arg' = dash :: arg) args (normalize args)) ∧
    (∀ front, separator ∉ front →
      List.Forall₂ Becomes front (normalize front) ∧ separator ∉ normalize front ∧
        ∀ rest, normalize (front ++ separator :: rest) = normalize front ++ separator :: rest) ∧
    (∀ args, normalize (normalize args) = normalize args) ∧
    (∀ front, separator ∉ front → ∀ rest,
      normalize (front ++ rest) = normalize front ++ normalize rest) ∧
    ∀ front, separator ∈ front → ∀ rest, normalize (front ++ rest) = normalize front ++ rest := by
  refine ⟨fun args => ?_, fun front h => ?_, normalize_normalize, fun _ => normalize_append,
    fun _ => normalize_append_of_mem⟩
  · exact ⟨(forall₂_eq_or_eq_cons args).length_eq.symm, forall₂_eq_or_eq_cons args⟩
  · refine ⟨forall₂_becomes h, not_mem_normalize h, fun rest => ?_⟩
    rw [normalize_append h, normalize_separator]

/-- Arguments in front of a separator: an option with one dash, one with a value that is no text, a
short option, and a dash alone. -/
def mixedArguments : List Bytes :=
  [goStyleArgument "append".toList none, goStyleArgument "output".toList (some [0xFF]),
    Utf8.encode "-o".toList, [dash]]

theorem normalize_inPlace_mixedArguments :
    separator ∉ mixedArguments ∧
    normalize (mixedArguments ++ separator :: mixedArguments) =
      longArgument "append".toList none :: mixedArguments.tail ++ separator :: mixedArguments ∧
    separator ∈ mixedArguments ++ [separator] ∧
    normalize (mixedArguments ++ [separator] ++ mixedArguments) =
      normalize (mixedArguments ++ [separator]) ++ mixedArguments := by
  have hfront : separator ∉ mixedArguments := by decide
  have hmem : separator ∈ mixedArguments ++ [separator] := by decide
  have hnormal : normalize mixedArguments =
      longArgument "append".toList none :: mixedArguments.tail := by
    decide +kernel
  refine ⟨hfront, ?_, hmem, normalize_inPlace.2.2.2.2 _ hmem _⟩
  rw [(normalize_inPlace.2.1 _ hfront).2.2, hnormal]

end GoOptional.CommandLine
