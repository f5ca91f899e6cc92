import GoOptional.CommandLine.Argument

/-!
# Options with one dash

Go's own tools write long options with one dash. Such options get their second dash before the
arguments are read.

## Main definitions

* `CommandLine.isGoStyle`: a long option with one dash
* `CommandLine.normalize`: the arguments with two dashes
-/

namespace GoOptional.CommandLine

/-- The names of options that may be written with one dash. -/
def goStyleNames : List Text :=
  Valued.all.map Valued.word ++ Switch.all.map Switch.word

/-- Whether the argument is text and a long option with one dash. -/
def isGoStyle (arg : Bytes) : Bool :=
  match arg with
  | [] => false
  | b :: rest =>
    b == dash && (Utf8.decode? arg).isSome &&
      (goStyleNames.map Utf8.encode).contains (beforeEquals rest)

/-- The argument with a second dash if it is a long option with one. -/
def normalizeArgument (arg : Bytes) : Bytes :=
  if isGoStyle arg then dash :: arg else arg

/-- The arguments with two dashes before long options; what follows the separator is left. -/
def normalize : List Bytes → List Bytes
  | [] => []
  | arg :: rest =>
    if arg = separator then arg :: rest else normalizeArgument arg :: normalize rest

end GoOptional.CommandLine
