import GoOptional.Text.Basic

/-!
# The parts of a generated file

A generated file is a header that marks it as generated and declares its package, then import
declarations, then one unit for every optional.

## Main definitions

* `GeneratedFile.header`: the marker and the package clause
* `GeneratedFile.importDeclaration`: the declaration of an import
* `GeneratedFile.unit`: the declarations of an optional
-/

namespace GoOptional.GeneratedFile

/-- The marker line and the package clause, each with an empty line after it. -/
def header (package : Text) : Text :=
  "// Code generated by github.com/acomagu/optional. DO NOT EDIT.\n\npackage ".toList ++
    package ++ "\n\n".toList

/-- The declaration of an import, with an empty line after it. -/
def importDeclaration (path : Text) : Text :=
  "import \"".toList ++ path ++ "\"\n\n".toList

/-- The declarations of an optional: its type, its two constructors and its getter. -/
def unit (name type : Text) : Text :=
  "// ".toList ++ name ++
  "\ntype Optional".toList ++ name ++ " struct \x7b\n\tv   ".toList ++ type ++
  "\n\thas bool\n\x7d\n\nfunc None".toList ++ name ++ "() Optional".toList ++ name ++
  " \x7b\n\treturn Optional".toList ++ name ++ "\x7b\x7d\n\x7d\n\nfunc Some".toList ++ name ++
  "(v ".toList ++ type ++ ") Optional".toList ++ name ++ " \x7b\n\treturn Optional".toList ++
  name ++ "\x7b\n\t\tv:   v,\n\t\thas: true,\n\t\x7d\n\x7d\n\nfunc (o Optional".toList ++ name ++
  ") Get() (".toList ++ type ++ ", bool) \x7b\n\treturn o.v, o.has\n\x7d\n".toList

end GoOptional.GeneratedFile
