import Mathlib
import GoOptional.Program
import GoOptional.Proofs.CommandLine.Spelling

/-!
# One dash or two

A long option with one dash gets its second dash before the arguments are read, so it makes no
difference whether it was written with one or with two. This holds where the argument is text. An
argument that is no text keeps its one dash, and is then read as short options: mostly as unknown
ones, but with the name of the output as its short option with another value.

## Main definitions

* `CommandLine.goStyleArgument`: the argument of a long option with one dash
* `CommandLine.OneDash`: arguments in which some long options lost a dash

## Main results

* `CommandLine.OneDash.normalize_eq`: the dash comes back where the argument is text
* `CommandLine.ofBytes_goStyleArgument`: how an argument with one dash is read
* `CommandLine.optionsOf_oneDash_iff`: the values with which one dash makes no difference
-/

namespace GoOptional.CommandLine

/-- The argument of a long option with one dash. -/
def goStyleArgument (word : Text) (attached : Option Bytes) : Bytes :=
  dash :: (Utf8.encode word ++ attached.elim [] (equalsSign :: ·))

/-- Arguments in which some long options lost one of their dashes: options that may be written with
one dash, before the separator, and with values for which `P` holds. -/
inductive OneDash (P : Text → Bytes → Prop) : List Bytes → List Bytes → Prop
  | nil : OneDash P [] []
  | separated (rest : List Bytes) : OneDash P (separator :: rest) (separator :: rest)
  | keep {arg args args'} (harg : arg ≠ separator) (h : OneDash P args args') :
      OneDash P (arg :: args) (arg :: args')
  | drop {word attached args args'} (hword : word ∈ goStyleNames)
      (hvalue : ∀ value, attached = some value → P word value) (h : OneDash P args args') :
      OneDash P (longArgument word attached :: args) (goStyleArgument word attached :: args')

variable {word : Text} {attached : Option Bytes} {args args' : List Bytes} {arg value : Bytes}
  {P Q : Text → Bytes → Prop}

/-! ## Arguments that are text -/

/-- An argument is text if its value is: the equals sign is a character of its own, so the text is
cut there. -/
theorem wellFormed_goStyleArgument_iff (word : Text) (attached : Option Bytes) :
    Utf8.WellFormed (goStyleArgument word attached) ↔
      ∀ value, attached = some value → Utf8.WellFormed value := by
  have hstart : dash :: Utf8.encode word = Utf8.encode ('-' :: word) := rfl
  rw [goStyleArgument, ← List.cons_append, hstart]
  cases attached with
  | none =>
    simp only [reduceCtorEq, false_imp_iff, implies_true, iff_true]
    exact ⟨_, List.append_nil _⟩
  | some value =>
    simp only [Option.elim_some, Option.some.injEq, forall_eq']
    constructor
    · rintro ⟨s, hs⟩
      obtain ⟨t, u, -, -, rfl⟩ :=
        Utf8.exists_of_encode_eq_append_cons (c := '=') (by decide) hs.symm
      exact ⟨u, rfl⟩
    · rintro ⟨u, rfl⟩
      exact ⟨('-' :: word) ++ '=' :: u, by rw [Utf8.encode_append]; rfl⟩

theorem isGoStyle_goStyleArgument_iff (hword : word ∈ goStyleNames) :
    isGoStyle (goStyleArgument word attached) = true ↔
      ∀ value, attached = some value → Utf8.WellFormed value := by
  have hname : beforeEquals (Utf8.encode word ++ attached.elim [] (equalsSign :: ·)) =
      Utf8.encode word :=
    beforeEquals_append (isWord_of_mem word hword).not_mem attached
  have hmem : (goStyleNames.map Utf8.encode).contains (Utf8.encode word) = true := by
    rw [List.contains_eq_mem, decide_eq_true_eq]
    exact List.mem_map_of_mem hword
  rw [← wellFormed_goStyleArgument_iff word, ← Utf8.decode?_isSome_iff]
  unfold isGoStyle
  simp only [goStyleArgument, hname, hmem, beq_self_eq_true, Bool.true_and, Bool.and_true]

theorem goStyleArgument_ne_separator (hword : word ∈ goStyleNames) (attached : Option Bytes) :
    goStyleArgument word attached ≠ separator := by
  obtain ⟨b, bs, hb⟩ := List.exists_cons_of_ne_nil (isWord_of_mem word hword).ne_nil
  have hne := (isWord_of_mem word hword).head?_ne
  rw [hb, List.head?_cons] at hne
  rw [goStyleArgument, hb, separator]
  intro h
  exact hne (congrArg some (List.cons.inj (List.cons.inj h).2).1)

theorem longArgument_ne_separator (hword : word ∈ goStyleNames) (attached : Option Bytes) :
    longArgument word attached ≠ separator := by
  obtain ⟨b, bs, hb⟩ := List.exists_cons_of_ne_nil (isWord_of_mem word hword).ne_nil
  rw [longArgument, hb, separator]
  simp

/-- **The dash comes back** where the value is text. -/
theorem OneDash.normalize_eq (h : OneDash (fun _ value => Utf8.WellFormed value) args args') :
    normalize args' = normalize args := by
  induction h with
  | nil => rfl
  | separated rest => rfl
  | keep harg _ ih => rw [normalize, if_neg harg, ih, normalize, if_neg harg]
  | @drop word attached args args' hword hvalue _ ih =>
    have hone : normalizeArgument (goStyleArgument word attached) =
        longArgument word attached := by
      rw [normalizeArgument, if_pos ((isGoStyle_goStyleArgument_iff hword).2 hvalue)]
      rfl
    have htwo : normalizeArgument (longArgument word attached) = longArgument word attached := by
      rw [normalizeArgument, isGoStyle_longArgument, if_neg Bool.false_ne_true]
    rw [normalize, if_neg (goStyleArgument_ne_separator hword attached), hone, ih, normalize,
      if_neg (longArgument_ne_separator hword attached), htwo]

theorem OneDash.mono (h : OneDash P args args') (hPQ : ∀ word ∈ goStyleNames, ∀ value,
    P word value → Q word value) : OneDash Q args args' := by
  induction h with
  | nil => exact .nil
  | separated rest => exact .separated rest
  | keep harg _ ih => exact .keep harg ih
  | drop hword hvalue _ ih =>
    exact .drop hword (fun value hv => hPQ _ hword value (hvalue value hv)) ih

/-! ## Arguments that are no text -/

theorem exists_of_mem_goStyleNames (h : word ∈ goStyleNames) :
    (∃ o : Valued, o.word = word) ∨ ∃ o : Switch, o.word = word := by
  rw [goStyleNames, List.mem_append, List.mem_map, List.mem_map] at h
  exact h.imp (fun ⟨o, _, ho⟩ => ⟨o, ho⟩) (fun ⟨o, _, ho⟩ => ⟨o, ho⟩)

/-- **An argument with one dash** is read as short options. The names of the options start with
no short option, but for the one of the output. -/
theorem ofBytes_goStyleArgument_valued {o : Valued} (ho : o ≠ .output)
    (attached : Option Bytes) : Argument.ofBytes (goStyleArgument o.word attached) = .unknown := by
  cases o with
  | output => exact absurd rfl ho
  | _ => rfl

theorem ofBytes_goStyleArgument_switch (o : Switch) (attached : Option Bytes) :
    Argument.ofBytes (goStyleArgument o.word attached) = .unknown := by
  cases o <;> rfl

/-- What is left of the name of the output counts as the start of its value. -/
theorem ofBytes_goStyleArgument_output (value : Bytes) :
    Argument.ofBytes (goStyleArgument Valued.output.word (some value)) =
      .valued .output (some (Utf8.encode "utput=".toList ++ value)) :=
  rfl

/-- Arguments that are read as they are, if the first one is no option. -/
theorem optionsOf_of_unknown (hstyle : isGoStyle arg = false)
    (hform : Argument.ofBytes arg = .unknown) (env : Environment) :
    Program.optionsOf env [arg] = .error .unknownArgument := by
  rw [Program.optionsOf, normalize_eq_self (by simpa using hstyle), parse, readFrom, hform]

theorem optionsOf_longArgument_valued {o : Valued} (ho : o ≠ .output)
    (hvalue : ¬ Utf8.WellFormed value) (env : Environment) :
    Program.optionsOf env [longArgument o.word (some value)] = .error .notUtf8 := by
  have htext : Given.textValue value = .error .notUtf8 := by
    rw [Given.textValue, Option.not_isSome_iff_eq_none.1 (Utf8.decode?_isSome_iff.not.2 hvalue)]
  have htake : Given.nothing.take o value = .error .notUtf8 := by
    cases o with
    | output => exact absurd rfl ho
    | _ =>
      unfold Given.take Given.add
      rw [htext]
      rfl
  have hnormal : normalize [longArgument o.word (some value)] =
      [longArgument o.word (some value)] :=
    normalize_eq_self (by simpa using isGoStyle_longArgument _ _)
  rw [Program.optionsOf, hnormal, parse, readFrom, ofBytes_valued]
  simp only [settle, htake]

theorem optionsOf_longArgument_switch (o : Switch) (value : Bytes) (env : Environment) :
    Program.optionsOf env [longArgument o.word (some value)] = .error .excessValue := by
  have hform : Argument.ofBytes (longArgument o.word (some value)) = .excess :=
    ofBytes_switch o (some value)
  have hnormal : normalize [longArgument o.word (some value)] =
      [longArgument o.word (some value)] :=
    normalize_eq_self (by simpa using isGoStyle_longArgument _ _)
  rw [Program.optionsOf, hnormal, parse, readFrom, hform]

/-- An argument that gives a type. -/
def typeArgument : Bytes :=
  longArgument Valued.type.word (some (Utf8.encode "T".toList))

/-- Options that give that type and an output. -/
def optionsWithOutput (value : Bytes) : Options where
  type := "T".toList
  name := none
  output := some value
  imports := []
  append := false
  package := none
  dryRun := false
  json := false
  verbose := false

theorem optionsOf_typeArgument (hstyle : isGoStyle arg = false)
    (hform : Argument.ofBytes arg = .valued .output (some value)) (hne : value ≠ []) :
    Program.optionsOf ⟨none, none, none, none⟩ [typeArgument, arg] =
      .ok (optionsWithOutput value) := by
  have hnormal : normalize [typeArgument, arg] = [typeArgument, arg] :=
    normalize_eq_self (List.forall_mem_cons.2 ⟨by decide, by simpa using hstyle⟩)
  have htype : Argument.ofBytes typeArgument =
      .valued .type (some (Utf8.encode "T".toList)) := rfl
  have htake : Given.nothing.take .type (Utf8.encode "T".toList) =
      .ok { Given.nothing with type := some "T".toList } := rfl
  have hoption : Given.take { Given.nothing with type := some "T".toList } .output value =
      .ok { Given.nothing with type := some "T".toList, output := some value } := by
    have hfree : Given.has { Given.nothing with type := some "T".toList } .output = false := rfl
    rw [Given.take, hfree, if_neg Bool.false_ne_true, Given.add, if_neg (by simpa using hne)]
  rw [Program.optionsOf, hnormal, parse, readFrom, htype]
  simp only [settle, htake]
  rw [readFrom, hform]
  simp only [settle, hoption]
  rfl

/-- An output that is no text has another value if its option has one dash. -/
theorem optionsOf_goStyleArgument_output_ne (hvalue : ¬ Utf8.WellFormed value) :
    Program.optionsOf ⟨none, none, none, none⟩
        [typeArgument, goStyleArgument Valued.output.word (some value)] ≠
      Program.optionsOf ⟨none, none, none, none⟩
        [typeArgument, longArgument Valued.output.word (some value)] := by
  have hne : value ≠ [] := by
    rintro rfl
    exact hvalue ⟨[], rfl⟩
  have hstyle : isGoStyle (goStyleArgument Valued.output.word (some value)) = false := by
    rw [← Bool.not_eq_true, isGoStyle_goStyleArgument_iff (word_mem_goStyleNames .output)]
    exact fun h => hvalue (h value rfl)
  rw [optionsOf_typeArgument hstyle (ofBytes_goStyleArgument_output value) (by simp),
    optionsOf_typeArgument (isGoStyle_longArgument _ _) (ofBytes_valued .output _) hne]
  intro h
  have houtput : Utf8.encode "utput=".toList ++ value = value :=
    Option.some.inj (congrArg Options.output (Except.ok.inj h))
  have hlength := congrArg List.length houtput
  have hsix : (Utf8.encode "utput=".toList).length = 6 := rfl
  rw [List.length_append, hsix] at hlength
  omega

/-- **With a value that is no text**, one dash makes a difference for every option. -/
theorem exists_oneDash_ne (hword : word ∈ goStyleNames) (hP : P word value)
    (hvalue : ¬ Utf8.WellFormed value) : ∃ env args args', OneDash P args args' ∧
      Program.optionsOf env args' ≠ Program.optionsOf env args := by
  have hdrop {args args' : List Bytes} (h : OneDash P args args') :
      OneDash P (longArgument word (some value) :: args)
        (goStyleArgument word (some value) :: args') :=
    .drop hword (fun v hv => Option.some.inj hv ▸ hP) h
  have hstyle : isGoStyle (goStyleArgument word (some value)) = false := by
    rw [← Bool.not_eq_true, isGoStyle_goStyleArgument_iff hword]
    exact fun h => hvalue (h value rfl)
  rcases exists_of_mem_goStyleNames hword with ⟨o, rfl⟩ | ⟨o, rfl⟩
  · by_cases ho : o = .output
    · subst ho
      have htype : OneDash P [typeArgument, longArgument Valued.output.word (some value)]
          [typeArgument, goStyleArgument Valued.output.word (some value)] :=
        .keep (by decide) (hdrop .nil)
      exact ⟨_, _, _, htype, optionsOf_goStyleArgument_output_ne hvalue⟩
    · refine ⟨⟨none, none, none, none⟩, _, _, hdrop .nil, ?_⟩
      rw [optionsOf_of_unknown hstyle (ofBytes_goStyleArgument_valued ho _),
        optionsOf_longArgument_valued ho hvalue]
      simp
  · refine ⟨⟨none, none, none, none⟩, _, _, hdrop .nil, ?_⟩
    rw [optionsOf_of_unknown hstyle (ofBytes_goStyleArgument_switch o _),
      optionsOf_longArgument_switch]
    simp

/-! ## One dash or two -/

/-- **One dash or two.** Long options can be written with one dash wherever their values are text,
and with no other value: then what is read from the arguments, options or an error, is the same in
every environment. -/
theorem optionsOf_oneDash_iff (P : Text → Bytes → Prop) :
    (∀ env args args', OneDash P args args' →
      Program.optionsOf env args' = Program.optionsOf env args) ↔
    ∀ word ∈ goStyleNames, ∀ value, P word value → Utf8.WellFormed value := by
  constructor
  · intro hsame word hword value hP
    by_contra hvalue
    obtain ⟨env, args, args', hdash, hne⟩ := exists_oneDash_ne hword hP hvalue
    exact hne (hsame env args args' hdash)
  · intro htext env args args' hdash
    rw [Program.optionsOf, Program.optionsOf, (hdash.mono htext).normalize_eq]

/-- An output that is one byte, and no text. -/
theorem optionsOf_oneDash_byte :
    OneDash (fun _ _ => True)
      [typeArgument, longArgument "output".toList (some [0xFF])]
      [typeArgument, goStyleArgument "output".toList (some [0xFF])] ∧
    Program.optionsOf ⟨none, none, none, none⟩
        [typeArgument, longArgument "output".toList (some [0xFF])] =
      .ok (optionsWithOutput [0xFF]) ∧
    Program.optionsOf ⟨none, none, none, none⟩
        [typeArgument, goStyleArgument "output".toList (some [0xFF])] =
      .ok (optionsWithOutput (Utf8.encode "utput=".toList ++ [0xFF])) ∧
    optionsWithOutput (Utf8.encode "utput=".toList ++ [0xFF]) ≠ optionsWithOutput [0xFF] := by
  have hdrop : OneDash (fun _ _ => True) [longArgument "output".toList (some [0xFF])]
      [goStyleArgument "output".toList (some [0xFF])] :=
    .drop (by decide) (fun _ _ => trivial) .nil
  exact ⟨.keep (by decide) hdrop, by decide, by decide, by decide⟩

end GoOptional.CommandLine
