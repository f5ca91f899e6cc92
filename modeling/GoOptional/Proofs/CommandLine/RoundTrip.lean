import Mathlib
import GoOptional.Program
import GoOptional.Proofs.CommandLine.Spelling

/-!
# Options written as arguments and read back

Options can be written as arguments in many ways: in any order that keeps the import paths in
theirs, and each value attached to its option or as an argument of its own. A reader takes up what
is written item by item. What it has been given and what is still to come make up the options all
along; so it never meets an option a second time, and in the end it has been given the options.

## Main definitions

* `CommandLine.Item`: an option with what is given to it
* `CommandLine.Written`, `CommandLine.Written.arguments`: an item as it is written
* `CommandLine.IsWriting`: items that write options, in some order
* `CommandLine.Given.Awaits`: what is given, and what is still to come, make up options
* `CommandLine.Options.completedFrom`: options that are completed from the environment

## Main results

* `CommandLine.Given.exists_put`: the next item is taken up
* `CommandLine.readFrom_arguments`: what is written is read item by item
* `CommandLine.optionsOf_arguments`: options that are written are read back
-/

namespace GoOptional.CommandLine

/-! ## What is written -/

/-- An option with what is given to it. -/
inductive Item where
  /-- An option with its value. -/
  | valued (option : Valued) (value : Bytes)
  /-- An option without a value. -/
  | switch (option : Switch)
  deriving DecidableEq, Repr

/-- An item as it is written. -/
inductive Written where
  /-- The value is attached to its option. -/
  | attached (option : Valued) (value : Bytes)
  /-- The value is an argument of its own. -/
  | apart (option : Valued) (value : Bytes)
  /-- There is no value. -/
  | switch (option : Switch)
  deriving DecidableEq, Repr

/-- What is written. -/
def Written.item : Written → Item
  | .attached option value => .valued option value
  | .apart option value => .valued option value
  | .switch option => .switch option

/-- The arguments with which an item is written. -/
def Written.arguments : Written → List Bytes
  | .attached option value => [longArgument option.word (some value)]
  | .apart option value => [longArgument option.word none, value]
  | .switch option => [longArgument option.word none]

/-- A value that is an argument of its own stands alone. -/
def Written.IsClear : Written → Prop
  | .attached _ _ => True
  | .apart _ value => StandsAlone value
  | .switch _ => True

instance (w : Written) : Decidable w.IsClear :=
  match w with
  | .attached _ _ => isTrue trivial
  | .apart _ value => inferInstanceAs (Decidable (StandsAlone value))
  | .switch _ => isTrue trivial

namespace Options

/-- The values of an option, in order. -/
def values (o : Options) : Valued → List Bytes
  | .type => [Utf8.encode o.type]
  | .name => o.name.toList.map Utf8.encode
  | .output => o.output.toList
  | .importPath => o.imports.map Utf8.encode
  | .package => o.package.toList.map Utf8.encode

/-- Whether an option without a value is on. -/
def isOn (o : Options) : Switch → Bool
  | .append => o.append
  | .dryRun => o.dryRun
  | .json => o.json
  | .verbose => o.verbose

/-- The options without a value that are on. -/
def switches (o : Options) : List Switch :=
  Switch.all.filter o.isOn

/-- All that options give. -/
def items (o : Options) : List Item :=
  (Valued.all.flatMap fun option => (o.values option).map (.valued option)) ++
    o.switches.map .switch

end Options

/-- The values that items give to an option, in order. -/
def valuesOf (option : Valued) : List Item → List Bytes :=
  List.filterMap fun
    | .valued o value => if o = option then some value else none
    | .switch _ => none

/-- The options without a value that items turn on. -/
def switchesOf : List Item → List Switch :=
  List.filterMap fun
    | .valued _ _ => none
    | .switch o => some o

/-- Items that write options: all that the options give in some order, with the import paths in
theirs, and every value that is an argument of its own can be one. -/
structure IsWriting (o : Options) (ws : List Written) : Prop where
  perm : (ws.map Written.item).Perm o.items
  imports_eq : valuesOf .importPath (ws.map Written.item) = o.values .importPath
  isClear : ∀ w ∈ ws, w.IsClear

section Items

variable {o : Options} {items : List Item} {option other : Valued} {value : Bytes}
  {switch : Switch}

@[simp] theorem valuesOf_nil : valuesOf option [] = [] := rfl

@[simp] theorem valuesOf_cons_valued : valuesOf other (.valued option value :: items) =
    (if option = other then [value] else []) ++ valuesOf other items := by
  by_cases h : option = other <;> simp [valuesOf, h]

@[simp] theorem valuesOf_cons_switch :
    valuesOf option (.switch switch :: items) = valuesOf option items := rfl

@[simp] theorem switchesOf_nil : switchesOf [] = [] := rfl

@[simp] theorem switchesOf_cons_valued :
    switchesOf (.valued option value :: items) = switchesOf items := rfl

@[simp] theorem switchesOf_cons_switch :
    switchesOf (.switch switch :: items) = switch :: switchesOf items := rfl

/-- All that options give holds their values. -/
theorem valuesOf_items (o : Options) (option : Valued) :
    valuesOf option o.items = o.values option := by
  cases option <;>
    simp [Options.items, valuesOf, List.filterMap_append, List.filterMap_map, Valued.all]

theorem switchesOf_items (o : Options) : switchesOf o.items = o.switches := by
  simp [Options.items, switchesOf, List.filterMap_append, List.filterMap_map, Valued.all]

theorem length_values_le (o : Options) (h : option ≠ .importPath) :
    (o.values option).length ≤ 1 := by
  cases option with
  | type => simp [Options.values]
  | name => cases hname : o.name <;> simp [Options.values, hname]
  | output => cases houtput : o.output <;> simp [Options.values, houtput]
  | importPath => exact absurd rfl h
  | package => cases hpackage : o.package <;> simp [Options.values, hpackage]

/-- **The order of items** leaves the values of each option in theirs. -/
theorem IsWriting.valuesOf_eq {ws : List Written} (h : IsWriting o ws) (option : Valued) :
    valuesOf option (ws.map Written.item) = o.values option := by
  by_cases hoption : option = .importPath
  · rw [hoption]
    exact h.imports_eq
  · have hperm : (valuesOf option (ws.map Written.item)).Perm (o.values option) := by
      rw [← valuesOf_items o option]
      exact h.perm.filterMap _
    have hlength := length_values_le o hoption
    cases hvalues : o.values option with
    | nil =>
      rw [hvalues] at hperm
      exact hperm.eq_nil
    | cons value values =>
      rw [hvalues, List.length_cons] at hlength
      obtain rfl : values = [] := List.eq_nil_of_length_eq_zero (by omega)
      rw [hvalues] at hperm
      exact hperm.eq_singleton

theorem IsWriting.switchesOf_perm {ws : List Written} (h : IsWriting o ws) :
    (switchesOf (ws.map Written.item)).Perm o.switches := by
  rw [← switchesOf_items o]
  exact h.perm.filterMap _

end Items

/-! ## What is given, and what is still to come -/

namespace Given

/-- The values that an option has been given, in order. -/
def values (g : Given) : Valued → List Bytes
  | .type => g.type.toList.map Utf8.encode
  | .name => g.name.toList.map Utf8.encode
  | .output => g.output.toList
  | .importPath => g.imports.map Utf8.encode
  | .package => g.package.toList.map Utf8.encode

/-- What is given when an item is taken up. -/
def put (g : Given) : Item → Except ArgumentError Given
  | .valued option value => g.take option value
  | .switch option => g.turnOn option

/-- What is given, and the items that are still to come, make up options. -/
structure Awaits (g : Given) (items : List Item) (o : Options) : Prop where
  values_eq : ∀ option, g.values option ++ valuesOf option items = o.values option
  switches_perm : (g.switches ++ switchesOf items).Perm o.switches

variable {g : Given} {o : Options} {option : Valued} {value : Bytes} {i : Item}
  {items : List Item}

theorem textValue_encode (s : Text) : textValue (Utf8.encode s) = .ok s := by
  rw [textValue, Utf8.decode?, Utf8.decode_encode]
  rfl

theorem has_eq_false (h : option = .importPath ∨ g.values option = []) :
    g.has option = false := by
  rcases h with rfl | h
  · rfl
  · cases option <;> simp_all [has, values]

/-- A value of options is added behind those that have been given. -/
theorem exists_add (houtput : o.output ≠ some []) (hvalue : value ∈ o.values option)
    (hfree : g.has option = false) :
    ∃ g', g.add option value = .ok g' ∧ g'.switches = g.switches ∧
      ∀ other, g'.values other = g.values other ++ if option = other then [value] else [] := by
  cases option with
  | type =>
    obtain rfl : value = Utf8.encode o.type := by simpa [Options.values] using hvalue
    have hnone : g.type = none := by simpa [has] using hfree
    refine ⟨{ g with type := some o.type }, ?_, rfl, fun other => ?_⟩
    · rw [add, textValue_encode]
      rfl
    · cases other <;> simp [values, hnone]
  | name =>
    obtain ⟨s, -, rfl⟩ : ∃ s, o.name = some s ∧ Utf8.encode s = value := by
      simpa [Options.values] using hvalue
    have hnone : g.name = none := by simpa [has] using hfree
    refine ⟨{ g with name := some s }, ?_, rfl, fun other => ?_⟩
    · rw [add, textValue_encode]
      rfl
    · cases other <;> simp [values, hnone]
  | output =>
    have hsome : o.output = some value := by simpa [Options.values] using hvalue
    have hnone : g.output = none := by simpa [has] using hfree
    have hne : value ≠ [] := by
      rintro rfl
      exact houtput hsome
    refine ⟨{ g with output := some value }, ?_, rfl, fun other => ?_⟩
    · rw [add, if_neg (by simpa using hne)]
    · cases other <;> simp [values, hnone]
  | importPath =>
    obtain ⟨s, -, rfl⟩ : ∃ s ∈ o.imports, Utf8.encode s = value := by
      simpa [Options.values] using hvalue
    refine ⟨{ g with imports := g.imports ++ [s] }, ?_, rfl, fun other => ?_⟩
    · rw [add, textValue_encode]
      rfl
    · cases other <;> simp [values]
  | package =>
    obtain ⟨s, -, rfl⟩ : ∃ s, o.package = some s ∧ Utf8.encode s = value := by
      simpa [Options.values] using hvalue
    have hnone : g.package = none := by simpa [has] using hfree
    refine ⟨{ g with package := some s }, ?_, rfl, fun other => ?_⟩
    · rw [add, textValue_encode]
      rfl
    · cases other <;> simp [values, hnone]

/-- **The next item is taken up**, and what is left makes up the same options. -/
theorem exists_put (houtput : o.output ≠ some []) (h : g.Awaits (i :: items) o) :
    ∃ g', g.put i = .ok g' ∧ g'.Awaits items o := by
  cases i with
  | valued option value =>
    have hvalues : g.values option ++ value :: valuesOf option items = o.values option := by
      simpa using h.values_eq option
    have hfree : g.has option = false := by
      apply has_eq_false
      by_contra hnot
      rw [not_or] at hnot
      have hlength := length_values_le o hnot.1
      have hpos := List.length_pos_iff.2 hnot.2
      rw [← hvalues, List.length_append, List.length_cons] at hlength
      omega
    have hmem : value ∈ o.values option := by
      rw [← hvalues]
      simp
    obtain ⟨g', hadd, hswitches, hall⟩ := exists_add houtput hmem hfree
    refine ⟨g', ?_, fun other => ?_, ?_⟩
    · rw [put, take, hfree, if_neg Bool.false_ne_true, hadd]
    · rw [hall, List.append_assoc, ← valuesOf_cons_valued]
      exact h.values_eq other
    · rw [hswitches]
      exact h.switches_perm
  | switch option =>
    have hperm : (option :: (g.switches ++ switchesOf items)).Perm o.switches :=
      List.perm_middle.symm.trans h.switches_perm
    have hnodup : o.switches.Nodup := List.Nodup.filter _ (by decide)
    have hmem : option ∉ g.switches := by
      have hcons := hperm.nodup_iff.2 hnodup
      intro hmem
      exact (List.nodup_cons.1 hcons).1 (List.mem_append_left _ hmem)
    refine ⟨{ g with switches := option :: g.switches }, ?_, fun other => ?_, hperm⟩
    · rw [put, turnOn, if_neg hmem]
    · exact h.values_eq other

theorem eq_of_map_encode {x y : Option Text}
    (h : x.toList.map Utf8.encode = y.toList.map Utf8.encode) : x = y := by
  have hlist : x.toList = y.toList := List.map_injective_iff.2 Utf8.encode_injective h
  cases x <;> cases y <;> simp_all

/-- What options give has been given. -/
structure IsGiven (g : Given) (o : Options) : Prop where
  type_eq : g.type = some o.type
  name_eq : g.name = o.name
  output_eq : g.output = o.output
  imports_eq : g.imports = o.imports
  package_eq : g.package = o.package
  mem_switches : ∀ s, s ∈ g.switches ↔ o.isOn s = true

/-- When nothing is still to come, all has been given. -/
theorem Awaits.isGiven (h : g.Awaits [] o) : g.IsGiven o := by
  have hvalues (option : Valued) : g.values option = o.values option := by
    simpa using h.values_eq option
  have hperm : g.switches.Perm o.switches := by simpa using h.switches_perm
  refine ⟨eq_of_map_encode (hvalues .type), eq_of_map_encode (hvalues .name), ?_,
    List.map_injective_iff.2 Utf8.encode_injective (hvalues .importPath),
    eq_of_map_encode (hvalues .package), fun s => ?_⟩
  · have hlist : g.output.toList = o.output.toList := hvalues .output
    cases hg : g.output <;> cases ho : o.output <;> simp_all
  · have hall : s ∈ Switch.all := by cases s <;> decide
    rw [hperm.mem_iff, Options.switches, List.mem_filter, and_iff_right hall]

end Given

/-! ## Reading what is written -/

section Reading

variable {g g₁ g₂ : Given} {waiting : Option Waiting} {o : Options} {w : Written}
  {ws : List Written}

/-- **What is written is read** item by item: the item is taken up once what waits has been; a value
that is an argument of its own waits for the next option. -/
theorem exists_readFrom_append (hclear : w.IsClear) (hsettle : settle g waiting = .ok g₁)
    (hput : g₁.put w.item = .ok g₂) :
    ∃ g' waiting', settle g' waiting' = .ok g₂ ∧
      ∀ rest, readFrom g waiting (w.arguments ++ rest) = readFrom g' waiting' rest := by
  cases w with
  | attached option value =>
    have htake : g₁.take option value = .ok g₂ := hput
    refine ⟨g₂, none, rfl, fun rest => ?_⟩
    rw [Written.arguments, List.singleton_append, readFrom, ofBytes_valued]
    simp only [hsettle, htake]
  | apart option value =>
    have hvalue : Argument.ofBytes value = .value value := StandsAlone.ofBytes hclear
    refine ⟨g₁, some ⟨option, some value⟩, hput, fun rest => ?_⟩
    rw [Written.arguments, List.cons_append, List.singleton_append, readFrom, ofBytes_valued]
    simp only [hsettle]
    rw [readFrom, hvalue]
  | switch option =>
    have hform : Argument.ofBytes (longArgument option.word none) = .switch option :=
      ofBytes_switch option none
    have hturnOn : g₁.turnOn option = .ok g₂ := hput
    refine ⟨g₂, none, rfl, fun rest => ?_⟩
    rw [Written.arguments, List.singleton_append, readFrom, hform]
    simp only [hsettle, hturnOn]

theorem exists_readFrom_flatMap (houtput : o.output ≠ some []) (hclear : ∀ w ∈ ws, w.IsClear)
    (hsettle : settle g waiting = .ok g₁) (h : g₁.Awaits (ws.map Written.item) o) :
    ∃ g', readFrom g waiting (ws.flatMap Written.arguments) = .ok g' ∧ g'.Awaits [] o := by
  induction ws generalizing g g₁ waiting with
  | nil => exact ⟨g₁, hsettle, h⟩
  | cons w ws ih =>
    obtain ⟨hw, hws⟩ := List.forall_mem_cons.1 hclear
    rw [List.map_cons] at h
    obtain ⟨g₂, hput, hawaits⟩ := Given.exists_put houtput h
    obtain ⟨g', waiting', hsettle', hread⟩ := exists_readFrom_append hw hsettle hput
    rw [List.flatMap_cons, hread]
    exact ih hws hsettle' hawaits

theorem Given.nothing_awaits (h : IsWriting o ws) :
    Given.nothing.Awaits (ws.map Written.item) o where
  values_eq := by
    intro option
    rw [h.valuesOf_eq]
    cases option <;> rfl
  switches_perm := h.switchesOf_perm

/-- None of the arguments with which options are written is a long option with one dash. -/
theorem isGoStyle_of_mem_arguments (hclear : w.IsClear) :
    ∀ arg ∈ w.arguments, isGoStyle arg = false := by
  cases w with
  | attached option value =>
    rintro arg harg
    rw [List.mem_singleton.1 harg]
    exact isGoStyle_longArgument _ _
  | apart option value =>
    refine List.forall_mem_cons.2 ⟨isGoStyle_longArgument _ _, ?_⟩
    refine List.forall_mem_cons.2 ⟨StandsAlone.isGoStyle hclear, ?_⟩
    exact List.forall_mem_nil _
  | switch option =>
    rintro arg harg
    rw [List.mem_singleton.1 harg]
    exact isGoStyle_longArgument _ _

theorem normalize_flatMap_arguments (hclear : ∀ w ∈ ws, w.IsClear) :
    normalize (ws.flatMap Written.arguments) = ws.flatMap Written.arguments := by
  apply normalize_eq_self
  intro arg harg
  obtain ⟨w, hw, hmem⟩ := List.mem_flatMap.1 harg
  exact isGoStyle_of_mem_arguments (hclear w hw) arg hmem

end Reading

/-! ## The environment -/

/-- Options that are completed from the environment. -/
def Options.completedFrom (o : Options) (env : Environment) : Options :=
  { o with
    package := o.package.or (env.package.bind Utf8.decode?)
    verbose := o.verbose || env.verbose == some (Utf8.encode "true".toList) }

/-- The variables that options leave to the environment are unset, or have values that they can
have. -/
structure Environment.Suits (env : Environment) (o : Options) : Prop where
  package : o.package = none → ∀ value, env.package = some value → (Utf8.decode? value).isSome
  verbose : o.verbose = false → ∀ value, env.verbose = some value →
    value = Utf8.encode "true".toList ∨ value = Utf8.encode "false".toList

section Environment

variable {g : Given} {o : Options} {env : Environment}

/-- What has been given is completed to the options, but for what the environment says. -/
theorem complete_eq (h : g.IsGiven o) (hflags : ¬ (o.json = true ∧ o.dryRun = true))
    (env : Environment) : complete g env = match packageOf g env with
      | .error e => .error e
      | .ok package => match verboseOf g env with
        | .error e => .error e
        | .ok verbose => .ok { o with package, verbose } := by
  unfold complete
  cases packageOf g env with
  | error e => rfl
  | ok package =>
    cases verboseOf g env with
    | error e => rfl
    | ok verbose =>
      simp only [h.type_eq, h.name_eq, h.output_eq, h.imports_eq, h.mem_switches, Options.isOn,
        if_neg hflags, Bool.decide_eq_true]

theorem packageOf_of_some {package : Text} (h : g.package = some package) (env : Environment) :
    packageOf g env = .ok (some package) := by
  rw [packageOf, h]

theorem verboseOf_of_mem (h : .verbose ∈ g.switches) (env : Environment) :
    verboseOf g env = .ok true := by
  rw [verboseOf, if_pos h]

theorem packageOf_eq (h : g.IsGiven o) (henv : env.Suits o) :
    packageOf g env = .ok (o.package.or (env.package.bind Utf8.decode?)) := by
  have hpackage := h.package_eq
  cases hp : o.package with
  | some package =>
    rw [hp] at hpackage
    exact packageOf_of_some hpackage env
  | none =>
    rw [hp] at hpackage
    rw [packageOf, hpackage]
    cases hvalue : env.package with
    | none => rfl
    | some value =>
      obtain ⟨s, hs⟩ := Option.isSome_iff_exists.1 (henv.package hp value hvalue)
      simp only [Given.textValue, hs, Option.none_or, Option.bind_some]
      rfl

theorem verboseOf_eq (h : g.IsGiven o) (henv : env.Suits o) : verboseOf g env =
    .ok (o.verbose || env.verbose == some (Utf8.encode "true".toList)) := by
  have hmem : .verbose ∈ g.switches ↔ o.verbose = true := h.mem_switches .verbose
  cases hv : o.verbose with
  | true => exact verboseOf_of_mem (hmem.2 hv) env
  | false =>
    rw [verboseOf, if_neg (by simp [hmem, hv]), Bool.false_or]
    cases hvalue : env.verbose with
    | none => rfl
    | some value =>
      rcases henv.verbose hv value hvalue with rfl | rfl
      · rfl
      · rfl

end Environment

/-! ## The round trip -/

/-- **Options that are written are read back**, in any order and spelling, completed from the
environment. What they give themselves is not looked up there. -/
theorem optionsOf_arguments {o : Options} {ws : List Written} (h : IsWriting o ws)
    (houtput : o.output ≠ some []) (hflags : ¬ (o.json = true ∧ o.dryRun = true))
    (env : Environment) :
    (env.Suits o → Program.optionsOf env (ws.flatMap Written.arguments) =
      .ok (o.completedFrom env)) ∧
    (o.package ≠ none → ∀ package,
      Program.optionsOf { env with package } (ws.flatMap Written.arguments) =
        Program.optionsOf env (ws.flatMap Written.arguments)) ∧
    (o.verbose = true → ∀ verbose,
      Program.optionsOf { env with verbose } (ws.flatMap Written.arguments) =
        Program.optionsOf env (ws.flatMap Written.arguments)) := by
  have hsettle : settle .nothing none = .ok .nothing := rfl
  obtain ⟨g, hread, hawaits⟩ :=
    exists_readFrom_flatMap houtput h.isClear hsettle (Given.nothing_awaits h)
  have hg := hawaits.isGiven
  have hoptions (env : Environment) :
      Program.optionsOf env (ws.flatMap Written.arguments) = complete g env := by
    rw [Program.optionsOf, normalize_flatMap_arguments h.isClear, parse, hread]
  refine ⟨fun henv => ?_, fun hpackage package => ?_, fun hverbose verbose => ?_⟩
  · rw [hoptions, complete_eq hg hflags, packageOf_eq hg henv, verboseOf_eq hg henv]
    rfl
  · obtain ⟨given, hgiven⟩ := Option.ne_none_iff_exists'.1 (hg.package_eq ▸ hpackage)
    rw [hoptions, hoptions, complete_eq hg hflags, complete_eq hg hflags,
      packageOf_of_some hgiven, packageOf_of_some hgiven]
    rfl
  · have hgiven := (hg.mem_switches .verbose).2 hverbose
    rw [hoptions, hoptions, complete_eq hg hflags, complete_eq hg hflags,
      verboseOf_of_mem hgiven, verboseOf_of_mem hgiven]
    rfl

/-- Options whose values look like options, hold equals signs, or are no text. -/
def dashedOptions : Options where
  type := "--name=T".toList
  name := some []
  output := some [0xFF, equalsSign]
  imports := ["-".toList, "--".toList, "a=b".toList]
  append := true
  package := none
  dryRun := false
  json := true
  verbose := true

/-- One of the ways to write them. -/
def dashedWriting : List Written :=
  [.apart .importPath [dash], .switch .json, .attached .importPath separator, .apart .name [],
    .attached .type (Utf8.encode "--name=T".toList), .switch .verbose,
    .apart .importPath (Utf8.encode "a=b".toList), .attached .output [0xFF, equalsSign],
    .switch .append]

/-- An environment that gives a package, and a value for the summary that is none. -/
def halfValidEnvironment : Environment :=
  ⟨some (Utf8.encode "main".toList), some [0xFF], none, none⟩

theorem optionsOf_arguments_dashedOptions :
    IsWriting dashedOptions dashedWriting ∧ dashedOptions.output ≠ some [] ∧
    ¬ (dashedOptions.json = true ∧ dashedOptions.dryRun = true) ∧
    halfValidEnvironment.Suits dashedOptions ∧
    Program.optionsOf halfValidEnvironment (dashedWriting.flatMap Written.arguments) =
      .ok { dashedOptions with package := some "main".toList } ∧
    ∀ verbose,
      Program.optionsOf { halfValidEnvironment with verbose }
          (dashedWriting.flatMap Written.arguments) =
        Program.optionsOf halfValidEnvironment (dashedWriting.flatMap Written.arguments) := by
  have hwriting : IsWriting dashedOptions dashedWriting :=
    ⟨by decide, by decide, by decide⟩
  have houtput : dashedOptions.output ≠ some [] := by decide
  have hflags : ¬ (dashedOptions.json = true ∧ dashedOptions.dryRun = true) := by decide
  have hsuits : halfValidEnvironment.Suits dashedOptions :=
    ⟨fun _ value hvalue => by cases hvalue; decide, fun hverbose => by cases hverbose⟩
  obtain ⟨hread, -, hverbose⟩ :=
    optionsOf_arguments hwriting houtput hflags halfValidEnvironment
  exact ⟨hwriting, houtput, hflags, hsuits, hread hsuits, hverbose rfl⟩

end GoOptional.CommandLine
