import Mathlib
import GoOptional.Program
import GoOptional.Proofs.CommandLine.Spelling

/-!
# What arguments give

A value is taken up some time after its option was read, and what an argument means depends on
those before it. Yet where reading succeeds, the options that have been given are those that some
argument names, wherever it stands; an option that no argument names is looked up in the
environment.

## Main results

* `CommandLine.ofBytes_eq_valued_iff`: the arguments that name an option with a value
* `CommandLine.has_of_readFrom`: the options that arguments give
* `CommandLine.package_eq_none_iff`: the options without a package
-/

namespace GoOptional.CommandLine

variable {arg value : Bytes} {args : List Bytes} {o option : Valued} {g g' : Given}
  {waiting : Option Waiting} {env : Environment}

/-! ## Arguments that name an option -/

theorem ofLong_eq_valued {name : Bytes} {attached attached' : Option Bytes}
    (h : Argument.ofLong name attached = .valued o attached') :
    name = Utf8.encode o.word ∧ attached' = attached := by
  unfold Argument.ofLong at h
  split at h
  · next other hfind =>
    obtain ⟨rfl, rfl⟩ := Argument.valued.inj h
    have hname := List.find?_some hfind
    exact ⟨(beq_iff_eq.1 hname).symm, rfl⟩
  · unfold Argument.bare at h
    split at h
    · split_ifs at h
    · split_ifs at h

/-- **The arguments that name an option with a value** have two dashes and its long name. Only the
output has a short name as well. -/
theorem ofBytes_eq_valued_iff (ho : o ≠ .output) (attached : Option Bytes) :
    Argument.ofBytes arg = .valued o attached ↔ arg = longArgument o.word attached := by
  constructor
  · intro h
    match arg with
    | [] => cases h
    | [b] => cases h
    | b :: c :: rest =>
      simp only [Argument.ofBytes] at h
      split_ifs at h with hb hc hrest
      · unfold Argument.ofShort at h
        split_ifs at h
        exact absurd (Argument.valued.inj h).1.symm ho
      · obtain ⟨hname, rfl⟩ := ofLong_eq_valued h
        rw [not_not] at hb hc
        rw [longArgument, ← hname, beforeEquals_append_afterEquals?, hb, hc]
  · rintro rfl
    exact ofBytes_valued o attached

/-! ## Reading -/

namespace Given

theorem has_of_add (ho : o ≠ .importPath) (h : g.add option value = .ok g') :
    g'.has o = true ↔ g.has o = true ∨ option = o := by
  have htext {f : Text → Given} (h : (textValue value).map f = .ok g') : ∃ s, g' = f s := by
    cases hs : textValue value with
    | error e => rw [hs] at h; cases h
    | ok s => rw [hs] at h; exact ⟨s, (Except.ok.inj h).symm⟩
  cases option with
  | output =>
    rw [add] at h
    split_ifs at h
    cases h
    cases o <;> simp_all [has]
  | _ =>
    obtain ⟨s, rfl⟩ := htext h
    cases o <;> simp_all [has]

theorem has_of_take (ho : o ≠ .importPath) (h : g.take option value = .ok g') :
    g'.has o = true ↔ g.has o = true ∨ option = o := by
  rw [take] at h
  split_ifs at h
  exact has_of_add ho h

theorem has_of_turnOn {switch : Switch} (h : g.turnOn switch = .ok g') (o : Valued) :
    g'.has o = g.has o := by
  rw [turnOn] at h
  split_ifs at h
  cases h
  cases o <;> rfl

end Given

theorem has_of_settle (ho : o ≠ .importPath) (h : settle g waiting = .ok g') :
    g'.has o = true ↔ g.has o = true ∨ waiting.map Waiting.option = some o := by
  match waiting with
  | none =>
    cases h
    simp
  | some ⟨_, none⟩ => cases h
  | some ⟨option, some value⟩ =>
    rw [Given.has_of_take ho h]
    simp

/-- **The options that arguments give** are those that were given before, the one that waits, and
those that some argument names. Only two forms of arguments change what is given. -/
theorem has_of_readFrom (ho : o ≠ .importPath) (h : readFrom g waiting args = .ok g') :
    g'.has o = true ↔ g.has o = true ∨ waiting.map Waiting.option = some o ∨
      ∃ arg ∈ args, ∃ attached, Argument.ofBytes arg = .valued o attached := by
  induction args generalizing g waiting with
  | nil =>
    rw [has_of_settle ho h]
    simp
  | cons arg rest ih =>
    rw [readFrom] at h
    cases hform : Argument.ofBytes arg with
    | unknown => rw [hform] at h; cases h
    | excess => rw [hform] at h; cases h
    | separator =>
      simp only [hform] at h
      split_ifs at h with hrest
      rw [has_of_settle ho h]
      simp [hform, List.isEmpty_iff.1 hrest]
    | value value =>
      simp only [hform] at h
      split at h
      · rw [ih h]
        simp [hform]
      · cases h
    | valued option attached =>
      cases hsettle : settle g waiting with
      | error e => cases attached <;> simp [hform, hsettle] at h
      | ok g₁ =>
        have hsettled := has_of_settle ho hsettle
        cases attached with
        | none =>
          simp only [hform, hsettle] at h
          rw [ih h, hsettled]
          simp [hform, or_assoc]
        | some value =>
          simp only [hform, hsettle] at h
          split at h
          · cases h
          · next g₂ htake =>
            rw [ih h, Given.has_of_take ho htake, hsettled]
            simp [hform, or_assoc]
    | switch option =>
      cases hsettle : settle g waiting with
      | error e => simp [hform, hsettle] at h
      | ok g₁ =>
        simp only [hform, hsettle] at h
        split at h
        · cases h
        · next g₂ hturnOn =>
          rw [ih h, Given.has_of_turnOn hturnOn, has_of_settle ho hsettle]
          simp [hform, or_assoc]
    | help =>
      simp only [hform] at h
      split at h <;> cases h
    | version =>
      simp only [hform] at h
      split at h <;> cases h

/-! ## The package -/

theorem packageOf_of_complete {options : Options} (h : complete g env = .ok options) :
    packageOf g env = .ok options.package := by
  unfold complete at h
  split at h
  · cases h
  · next package hpackage =>
    rw [hpackage]
    split at h
    · cases h
    · split_ifs at h
      split at h
      · cases h
      · cases h
        rfl

theorem packageOf_eq_none_iff :
    packageOf g env = .ok none ↔ g.has .package = false ∧ env.package = none := by
  unfold packageOf Given.has
  cases g.package with
  | some package => simp
  | none =>
    cases env.package with
    | none => simp
    | some value => cases h : Given.textValue value <;> simp [h, Except.map]

/-- **The options without a package** are those whose arguments do not name it, where the
environment does not give it. -/
theorem package_eq_none_iff {options : Options}
    (h : Program.optionsOf env args = .ok options) : options.package = none ↔
      env.package = none ∧
        ∀ attached, longArgument Valued.package.word attached ∉ normalize args := by
  rw [Program.optionsOf, parse] at h
  split at h
  · cases h
  · next g hread =>
    have hpackage : options.package = none ↔ packageOf g env = .ok none := by
      rw [packageOf_of_complete h, Except.ok.injEq]
    have hgiven := has_of_readFrom (o := .package) (by decide) hread
    rw [hpackage, packageOf_eq_none_iff, ← Bool.not_eq_true, hgiven, and_comm]
    simp [Given.has, Given.nothing, ofBytes_eq_valued_iff]

end GoOptional.CommandLine
