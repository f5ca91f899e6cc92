import Mathlib
import GoOptional.Proofs.CommandLine.Given
import GoOptional.Proofs.Request.TypeParts
import GoOptional.Proofs.Run.DryRun

/-!
# Refusals before any file is looked at

A run is refused for its options when they give no package, or else when there is no name for the
optional: the name that is given has no characters, or the type of which it is made has no last
name. Such a run does nothing at all, and with all other options the request is what they say.

## Main definitions

* `Run.NamesNothing`: options that give the optional no name
* `Run.IsNameOf`: the name that options give the optional
* `Run.Settles`: what options settle before any file is looked at

## Main results

* `WrappedType.suggestedName_eq_nil_iff`: the types without a last name
* `Run.requestOf_cases`: the two refusals, and the request of all other options
* `Run.not_isRefusal_planInTree`: no run with a plan is refused for its options
* `Run.options_settle`: all runs, on all files
-/

namespace GoOptional

/-! ## The name of a type -/

theorem Text.isAfterLast_nil_iff {mark : Char} {s : Text} :
    IsAfterLast mark s [] ↔ s = [] ∨ [mark] <:+ s := by
  simp [IsAfterLast, List.IsSuffix, eq_comm]

namespace WrappedType

variable {t : WrappedType} {stars : Nat} {rest part : Text}

theorem IsMadeOf.suggestedName_eq (h : t.IsMadeOf stars rest)
    (hpart : Text.IsAfterLast '.' rest part) : t.suggestedName = part.capitalize := by
  rw [suggestedName, lastName, h.pointee_eq, Text.isAfterLast_iff.1 hpart]

/-- **The types without a last name** are those whose rest after the stars is empty or ends in a
point. No other name becomes empty in upper case. -/
theorem suggestedName_eq_nil_iff : t.suggestedName = [] ↔
    ∃ stars rest, t.IsMadeOf stars rest ∧ (rest = [] ∨ ['.'] <:+ rest) := by
  rw [suggestedName, Text.capitalize_eq_nil_iff, lastName, ← Text.isAfterLast_iff,
    Text.isAfterLast_nil_iff]
  constructor
  · exact fun h => ⟨_, _, t.isMadeOf_pointee, h⟩
  · rintro ⟨stars, rest, hparts, h⟩
    rwa [hparts.pointee_eq]

end WrappedType

namespace Run

open CommandLine (Environment Options Valued longArgument normalize)
open FileTree (Fault)

variable {o : Options} {env : Environment} {t : FileTree} {p : Plan} {e : Failure} {name : Text}

/-! ## The name of the optional -/

/-- Options that give the optional no name: the one that is given has no characters, or none is
given, and between blanks the type has nothing after its stars or ends in a point. -/
def NamesNothing (o : Options) : Prop :=
  o.name = some [] ∨ o.name = none ∧
    ∃ stars rest, WrappedType.IsMadeOf ⟨o.type⟩ stars rest ∧ (rest = [] ∨ ['.'] <:+ rest)

/-- The name that options give the optional. -/
inductive IsNameOf (o : Options) : Text → Prop where
  /-- It is given. -/
  | given {name : Text} (hname : o.name = some name) : IsNameOf o name
  /-- None is given, and it is made of what comes after the last point of the type, with the first
  character in upper case. -/
  | derived {stars : Nat} {rest others : Text} {first : Char} (hname : o.name = none)
      (hparts : WrappedType.IsMadeOf ⟨o.type⟩ stars rest)
      (hlast : Text.IsAfterLast '.' rest (first :: others)) :
      IsNameOf o (Character.toUpper first ++ others)

theorem namesNothing_iff :
    NamesNothing o ↔ o.name.getD (WrappedType.suggestedName ⟨o.type⟩) = [] := by
  rw [NamesNothing, ← WrappedType.suggestedName_eq_nil_iff]
  cases o.name <;> simp

theorem isNameOf_of_getD_eq (hne : name ≠ [])
    (h : o.name.getD (WrappedType.suggestedName ⟨o.type⟩) = name) : IsNameOf o name := by
  cases hname : o.name with
  | some given =>
    rw [hname, Option.getD_some] at h
    exact .given (h ▸ hname)
  | none =>
    rw [hname, Option.getD_none] at h
    have hparts := WrappedType.isMadeOf_pointee ⟨o.type⟩
    have hlast := Text.isAfterLast_afterLast '.' (WrappedType.pointee ⟨o.type⟩)
    have hsuggested := hparts.suggestedName_eq hlast
    cases hpart : (WrappedType.pointee ⟨o.type⟩).afterLast '.' with
    | nil => exact absurd (h.symm.trans (hsuggested.trans (by rw [hpart]; rfl))) hne
    | cons first others =>
      rw [hpart] at hlast hsuggested
      rw [← h, hsuggested]
      exact .derived hname hparts hlast

/-! ## The request -/

/-- **What options make**: they are refused for their package, or else for the name, or they make a
request of just what they say. -/
theorem requestOf_cases (o : Options) :
    (o.package = none ∧ requestOf o = .error .noPackage) ∨
    (o.package ≠ none ∧ NamesNothing o ∧ requestOf o = .error (.noName o.type)) ∨
    ∃ package name, o.package = some package ∧ ¬ NamesNothing o ∧ name ≠ [] ∧ IsNameOf o name ∧
      requestOf o = .ok ⟨package, name, ⟨o.type⟩, o.imports, o.append⟩ := by
  rw [requestOf, namesNothing_iff]
  cases o.package with
  | none => exact .inl ⟨rfl, rfl⟩
  | some package =>
    refine .inr ?_
    cases hname : o.name.getD (WrappedType.suggestedName ⟨o.type⟩) with
    | nil => exact .inl ⟨Option.some_ne_none _, rfl, rfl⟩
    | cons first others =>
      have hne : first :: others ≠ [] := List.cons_ne_nil _ _
      exact .inr ⟨package, _, rfl, hne, hne, isNameOf_of_getD_eq hne hname, rfl⟩

/-! ## Refusals -/

/-- The failures of a run that is refused for its options. -/
def Failure.IsRefusal : Failure → Prop
  | .noPackage => True
  | .noName _ => True
  | _ => False

theorem Plan.not_isRefusal_of_update {found : Except Fault Bytes}
    (h : p.update found = .error e) : ¬ e.IsRefusal := by
  rcases update_eq_error h with ⟨_, rfl⟩ | ⟨_, rfl⟩ <;> exact id

/-- **No run with a plan is refused** for its options. -/
theorem not_isRefusal_planInTree {logs : List LogRecord}
    (h : (planInTree t p logs).1.outcome = .error e) : ¬ e.IsRefusal := by
  rw [outcome_planInTree] at h
  have hreporting (h : p.reporting = .error e) : ¬ e.IsRefusal := by
    rcases p.reporting_eq_or with hok | herror
    · rw [hok] at h
      cases h
    · rw [herror] at h
      cases h
      exact id
  split at h
  · next hupdate =>
    cases h
    exact Plan.not_isRefusal_of_update hupdate
  · split_ifs at h
    · exact hreporting h
    · split at h
      · cases h
        exact id
      · exact hreporting h

/-! ## Runs -/

/-- What options settle before any file is looked at. -/
structure Settles (o : Options) (env : Environment) : Prop where
  /-- A run has no package just if the options give none. -/
  noPackage_iff : ∀ t, (inTree t o env).1.outcome = .error .noPackage ↔ o.package = none
  /-- Else it has no name just if they name nothing; it tells the type. -/
  noName_iff : ∀ t type, (inTree t o env).1.outcome = .error (.noName type) ↔
    type = o.type ∧ o.package ≠ none ∧ NamesNothing o
  /-- Then it ends at once, whatever the files are, with nothing logged and nothing printed. -/
  perform_eq : o.package = none ∨ NamesNothing o →
    ∃ e, e.IsRefusal ∧ (∀ t, inTree t o env = (.failed e [], t)) ∧
      ∀ (m : Type → Type) [Monad m] (files : Files m), perform files o env = pure (.failed e [])
  /-- Else it has a plan, whose request is what the options say, with a name. -/
  request_eq : o.package ≠ none → ¬ NamesNothing o →
    ∃ p package name, Plan.ofOptions o = .ok p ∧
      (∀ t, inTree t o env = planInTree t p (p.opening env)) ∧
      o.package = some package ∧ name ≠ [] ∧ IsNameOf o name ∧
      p.request = ⟨package, name, ⟨o.type⟩, o.imports, o.append⟩

theorem inTree_of_refused (env : Environment) (h : requestOf o = .error e) (t : FileTree) :
    inTree t o env = (.failed e [], t) :=
  inTree_of_error t env (by rw [Plan.ofOptions, h])

theorem perform_of_refused (h : requestOf o = .error e) (m : Type → Type) [Monad m]
    (files : Files m) : perform files o env = pure (.failed e []) := by
  simp only [perform, Plan.ofOptions, h]

theorem Plan.exists_ofOptions_of_ok {r : Request} (h : requestOf o = .ok r) :
    ∃ p, Plan.ofOptions o = .ok p ∧ p.request = r := by
  rw [ofOptions, h]
  exact ⟨_, rfl, rfl⟩

/-- **What options settle.** The package is missing where neither an argument nor the environment
gives it. Whatever options a run has, in every tree, it is refused for the package first and for
the name after it, and does nothing then; with all other options its request is what they say. -/
theorem options_settle :
    (∀ env args o, Program.optionsOf env args = .ok o → (o.package = none ↔
      env.package = none ∧
        ∀ attached, longArgument Valued.package.word attached ∉ normalize args)) ∧
    ∀ o env, Settles o env := by
  refine ⟨fun env args o => CommandLine.package_eq_none_iff, fun o env => ?_⟩
  rcases requestOf_cases o with ⟨hpackage, hrequest⟩ | ⟨hpackage, hname, hrequest⟩ |
    ⟨package, name, hpackage, hname, hne, hnameOf, hrequest⟩
  · have hrun := inTree_of_refused env hrequest
    exact {
      noPackage_iff := fun t => by simp [hrun, Result.failed, hpackage]
      noName_iff := fun t type => by simp [hrun, Result.failed, hpackage]
      perform_eq := fun _ => ⟨.noPackage, trivial, hrun, perform_of_refused hrequest⟩
      request_eq := fun h => absurd hpackage h }
  · have hrun := inTree_of_refused env hrequest
    exact {
      noPackage_iff := fun t => by simp [hrun, Result.failed, hpackage]
      noName_iff := fun t type => by simp [hrun, Result.failed, hpackage, hname, eq_comm]
      perform_eq := fun _ => ⟨.noName o.type, trivial, hrun, perform_of_refused hrequest⟩
      request_eq := fun _ h => absurd hname h }
  · obtain ⟨p, hplan, hp⟩ := Plan.exists_ofOptions_of_ok hrequest
    have hrun (t : FileTree) := inTree_of_ok t env hplan
    have hrefusal (t : FileTree) {e : Failure} (he : e.IsRefusal) :
        (inTree t o env).1.outcome ≠ .error e :=
      fun h => not_isRefusal_planInTree (hrun t ▸ h) he
    exact {
      noPackage_iff := fun t => by simp [hrefusal t (e := .noPackage) trivial, hpackage]
      noName_iff := fun t type => by simp [hrefusal t (e := .noName type) trivial, hname]
      perform_eq := fun h => absurd h (by simp [hpackage, hname])
      request_eq := fun _ _ => ⟨p, package, name, hplan, hrun, hpackage, hne, hnameOf, hp⟩ }

/-- Options without a package, whose type has no last name. -/
def pointOptions : Options where
  type := " **os.".toList
  name := none
  output := none
  imports := []
  append := false
  package := none
  dryRun := false
  json := false
  verbose := false

theorem options_settle_pointOptions :
    Program.optionsOf noEnvironment [Utf8.encode "-type= **os.".toList] = .ok pointOptions ∧
    (∀ attached, longArgument Valued.package.word attached ∉
      normalize [Utf8.encode "-type= **os.".toList]) ∧
    (∀ t, (inTree t pointOptions noEnvironment).1.outcome = .error .noPackage) ∧
    ∀ t, (inTree t { pointOptions with package := some "main".toList } noEnvironment).1.outcome =
      .error (.noName pointOptions.type) := by
  have hparse : Program.optionsOf noEnvironment [Utf8.encode "-type= **os.".toList] =
      .ok pointOptions := by decide +kernel
  have hparts : WrappedType.IsMadeOf ⟨" **os.".toList⟩ 2 "os.".toList :=
    ⟨by decide +kernel, by decide +kernel⟩
  refine ⟨hparse, ((options_settle.1 _ _ _ hparse).1 rfl).2,
    fun t => ((options_settle.2 _ _).noPackage_iff t).2 rfl,
    fun t => ((options_settle.2 _ _).noName_iff t _).2 ⟨rfl, Option.some_ne_none _, ?_⟩⟩
  exact .inr ⟨rfl, 2, _, hparts, .inr ⟨"os".toList, rfl⟩⟩

end Run

end GoOptional
