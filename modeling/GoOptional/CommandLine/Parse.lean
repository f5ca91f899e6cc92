import GoOptional.CommandLine.Argument

/-!
# Reading the command line

Arguments are read from left to right. A value that is an argument of its own is taken up only
when the next option is read, or at the end: an argument that is no option, an unknown option or
an option with a value too many is reported before anything that is wrong with that value.

## Main definitions

* `CommandLine.Options`: what the arguments and the environment say
* `CommandLine.Environment`: the variables that count
* `CommandLine.ArgumentError`: why there are no options
* `CommandLine.parse`: the options of arguments in an environment
-/

namespace GoOptional.CommandLine

/-- What the arguments and the environment say. -/
structure Options where
  /-- The type that is wrapped. -/
  type : Text
  /-- The name of the optional, if one is given. -/
  name : Option Text
  /-- The file that is written, if one is given. -/
  output : Option Bytes
  /-- The import paths, in order. -/
  imports : List Text
  /-- Whether units in the file are kept. -/
  append : Bool
  /-- The package of a fresh file, if one is given. -/
  package : Option Text
  /-- Whether the content is printed and the file is left. -/
  dryRun : Bool
  /-- Whether a report is printed as JSON. -/
  json : Bool
  /-- Whether a summary is printed. -/
  verbose : Bool
  deriving DecidableEq, Repr

/-- The variables of the environment that count. -/
structure Environment where
  /-- The package, where no argument gives one. -/
  package : Option Bytes
  /-- Whether a summary is printed, where no argument says so. -/
  verbose : Option Bytes
  /-- The file whose directive is being run. -/
  file : Option Bytes
  /-- The line of that directive. -/
  line : Option Bytes
  deriving DecidableEq, Repr

/-- Why there are no options. -/
inductive ArgumentError where
  /-- Help is asked for. -/
  | help
  /-- The version is asked for. -/
  | version
  /-- An argument is no option and no value of one. -/
  | unknownArgument
  /-- An option is given twice, or together with one that excludes it. -/
  | conflict
  /-- An option that takes no value has one. -/
  | excessValue
  /-- A value is not text. -/
  | notUtf8
  /-- A value is missing, or not one that the option can have. -/
  | invalidValue
  /-- The type is not given. -/
  | missingType
  deriving DecidableEq, Repr

/-! ## What the arguments give -/

/-- What the arguments that have been read give. -/
structure Given where
  /-- The type. -/
  type : Option Text
  /-- The name of the optional. -/
  name : Option Text
  /-- The file. -/
  output : Option Bytes
  /-- The import paths, in order. -/
  imports : List Text
  /-- The package. -/
  package : Option Text
  /-- The options without a value. -/
  switches : List Switch
  deriving DecidableEq, Repr

namespace Given

/-- What no arguments give. -/
def nothing : Given :=
  ⟨none, none, none, [], none, []⟩

/-- Whether an option that may come only once has come. -/
def has (g : Given) : Valued → Bool
  | .type => g.type.isSome
  | .name => g.name.isSome
  | .output => g.output.isSome
  | .importPath => false
  | .package => g.package.isSome

/-- The value of an option as text. -/
def textValue (value : Bytes) : Except ArgumentError Text :=
  match Utf8.decode? value with
  | some s => .ok s
  | none => .error .notUtf8

/-- What is given when the value of an option is added, which has not come before. -/
def add (g : Given) (option : Valued) (value : Bytes) : Except ArgumentError Given :=
  match option with
  | .type => (textValue value).map fun s => { g with type := some s }
  | .name => (textValue value).map fun s => { g with name := some s }
  | .output => if value.isEmpty then .error .invalidValue else .ok { g with output := some value }
  | .importPath => (textValue value).map fun s => { g with imports := g.imports ++ [s] }
  | .package => (textValue value).map fun s => { g with package := some s }

/-- What is given when the value of an option is taken up. -/
def take (g : Given) (option : Valued) (value : Bytes) : Except ArgumentError Given :=
  if g.has option then .error .conflict else g.add option value

/-- What is given when an option without a value is taken up. -/
def turnOn (g : Given) (option : Switch) : Except ArgumentError Given :=
  if option ∈ g.switches then .error .conflict
  else .ok { g with switches := option :: g.switches }

end Given

/-! ## From left to right -/

/-- An option whose value has not been taken up, with the value if it has come. -/
structure Waiting where
  /-- The option. -/
  option : Valued
  /-- Its value. -/
  value : Option Bytes
  deriving DecidableEq, Repr

/-- What is given when the value that waits is taken up. -/
def settle (g : Given) : Option Waiting → Except ArgumentError Given
  | none => .ok g
  | some ⟨_, none⟩ => .error .invalidValue
  | some ⟨option, some value⟩ => g.take option value

/-- What the rest of the arguments adds to what is given and to the option that waits. -/
def readFrom (g : Given) (waiting : Option Waiting) : List Bytes → Except ArgumentError Given
  | [] => settle g waiting
  | arg :: rest =>
    match Argument.ofBytes arg with
    | .unknown => .error .unknownArgument
    | .excess => .error .excessValue
    | .separator => if rest.isEmpty then settle g waiting else .error .unknownArgument
    -- no option takes two values, and nothing else takes a value
    | .value value =>
      match waiting with
      | some ⟨option, none⟩ => readFrom g (some ⟨option, some value⟩) rest
      | _ => .error .unknownArgument
    | .valued option none =>
      match settle g waiting with
      | .error e => .error e
      | .ok g => readFrom g (some ⟨option, none⟩) rest
    | .valued option (some value) =>
      match settle g waiting with
      | .error e => .error e
      | .ok g =>
        match g.take option value with
        | .error e => .error e
        | .ok g => readFrom g none rest
    | .switch option =>
      match settle g waiting with
      | .error e => .error e
      | .ok g =>
        match g.turnOn option with
        | .error e => .error e
        | .ok g => readFrom g none rest
    | .help =>
      match settle g waiting with
      | .error e => .error e
      | .ok _ => .error .help
    | .version =>
      match settle g waiting with
      | .error e => .error e
      | .ok _ => .error .version

/-! ## The environment -/

/-- The package that is given, or else that of the environment. -/
def packageOf (g : Given) (env : Environment) : Except ArgumentError (Option Text) :=
  match g.package, env.package with
  | some package, _ => .ok (some package)
  | none, none => .ok none
  | none, some value => (Given.textValue value).map some

/-- Whether the summary is asked for, or else what the environment says: one of two words. -/
def verboseOf (g : Given) (env : Environment) : Except ArgumentError Bool :=
  if .verbose ∈ g.switches then .ok true
  else match env.verbose with
    | none => .ok false
    | some value =>
      if value = Utf8.encode "true".toList then .ok true
      else if value = Utf8.encode "false".toList then .ok false
      else .error .invalidValue

/-- The options of what is given, completed from the environment. -/
def complete (g : Given) (env : Environment) : Except ArgumentError Options :=
  match packageOf g env with
  | .error e => .error e
  | .ok package =>
    match verboseOf g env with
    | .error e => .error e
    | .ok verbose =>
      if .json ∈ g.switches ∧ .dryRun ∈ g.switches then .error .conflict
      else match g.type with
        | none => .error .missingType
        | some type => .ok {
            type := type
            name := g.name
            output := g.output
            imports := g.imports
            append := .append ∈ g.switches
            package := package
            dryRun := .dryRun ∈ g.switches
            json := .json ∈ g.switches
            verbose := verbose }

/-- The options of arguments in an environment. -/
def parse (env : Environment) (args : List Bytes) : Except ArgumentError Options :=
  match readFrom .nothing none args with
  | .error e => .error e
  | .ok g => complete g env

end GoOptional.CommandLine
