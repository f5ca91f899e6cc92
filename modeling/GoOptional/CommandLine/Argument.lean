import GoOptional.Text.Utf8

/-!
# Arguments

The forms that a command-line argument can have. An argument is a list of bytes: only the names
of options must be text.

## Main definitions

* `CommandLine.Valued`, `CommandLine.Switch`: the options with and without a value
* `CommandLine.Argument`: the forms of an argument
* `CommandLine.Argument.ofBytes`: the form of an argument
-/

namespace GoOptional.CommandLine

/-- The options that take a value. -/
inductive Valued where
  /-- The type that is wrapped. -/
  | type
  /-- The name of the optional. -/
  | name
  /-- The file that is written. -/
  | output
  /-- An import path; it may be given more than once. -/
  | importPath
  /-- The package of a fresh file. -/
  | package
  deriving DecidableEq, Repr

/-- The options that take no value. -/
inductive Switch where
  /-- Keep the units in the file. -/
  | append
  /-- Print the content and leave the file. -/
  | dryRun
  /-- Print a report as JSON. -/
  | json
  /-- Print a summary. -/
  | verbose
  deriving DecidableEq, Repr

/-- The long name of an option. -/
def Valued.word : Valued → Text
  | .type => "type".toList
  | .name => "name".toList
  | .output => "output".toList
  | .importPath => "import".toList
  | .package => "package".toList

/-- The long name of an option. -/
def Switch.word : Switch → Text
  | .append => "append".toList
  | .dryRun => "dry-run".toList
  | .json => "json".toList
  | .verbose => "verbose".toList

/-- All options that take a value. -/
def Valued.all : List Valued :=
  [.type, .name, .output, .importPath, .package]

/-- All options that take no value. -/
def Switch.all : List Switch :=
  [.append, .dryRun, .json, .verbose]

/-! ## The forms of an argument -/

/-- The byte of a dash. -/
def dash : UInt8 :=
  45

/-- The byte of an equals sign. -/
def equalsSign : UInt8 :=
  61

/-- The argument that ends the options. -/
def separator : Bytes :=
  [dash, dash]

/-- The bytes before the first equals sign. -/
def beforeEquals (bs : Bytes) : Bytes :=
  bs.takeWhile (· != equalsSign)

/-- The bytes after the first equals sign, if there is one. -/
def afterEquals? (bs : Bytes) : Option Bytes :=
  match bs.dropWhile (· != equalsSign) with
  | [] => none
  | _ :: value => some value

/-- The forms of an argument. -/
inductive Argument where
  /-- The argument that ends the options. -/
  | separator
  /-- An argument that is no option: a value, if an option waits for one. -/
  | value (bytes : Bytes)
  /-- An option with a value, perhaps attached to it. -/
  | valued (option : Valued) (attached : Option Bytes)
  /-- An option without a value. -/
  | switch (option : Switch)
  /-- The option that asks for help. -/
  | help
  /-- The option that asks for the version. -/
  | version
  /-- An option without a value to which a value is attached. -/
  | excess
  /-- An option that does not exist. -/
  | unknown
  deriving DecidableEq, Repr

namespace Argument

/-- The form of an option that takes no value, unless one is attached to it. -/
def bare (form : Argument) (attached : Option Bytes) : Argument :=
  if attached.isSome then .excess else form

/-- The form of an option with a long name. -/
def ofLong (name : Bytes) (attached : Option Bytes) : Argument :=
  match Valued.all.find? fun o => Utf8.encode o.word == name with
  | some o => .valued o attached
  | none =>
    match Switch.all.find? fun o => Utf8.encode o.word == name with
    | some o => bare (.switch o) attached
    | none =>
      if name = Utf8.encode "help".toList then bare .help attached
      else if name = Utf8.encode "version".toList then bare .version attached
      else .unknown

/-- The value that is attached to a short option: all that follows its letter, without an
equals sign at the start. -/
def shortValue? (rest : Bytes) : Option Bytes :=
  match rest with
  | [] => none
  | b :: more => if b = equalsSign then some more else some rest

/-- The form of an option with a short name, of which more may follow in the argument: those for
help and for the version leave nothing to read after them, and the one for the output takes
all the rest. -/
def ofShort (name : UInt8) (rest : Bytes) : Argument :=
  if name = 'o'.toUInt8 then .valued .output (shortValue? rest)
  else if name = 'h'.toUInt8 then .help
  else if name = 'V'.toUInt8 then .version
  else .unknown

/-- The form of an argument. A single dash is no option. -/
def ofBytes : Bytes → Argument
  | [] => .value []
  | [b] => .value [b]
  | b :: c :: rest =>
    if b ≠ dash then .value (b :: c :: rest)
    else if c ≠ dash then ofShort c rest
    else if rest.isEmpty then .separator
    else ofLong (beforeEquals rest) (afterEquals? rest)

end Argument

end GoOptional.CommandLine
