import GoOptional.Character.Printable
import GoOptional.Text.Basic

/-!
# Quoted text

Text between quotation marks, with every character that would not show as itself written as an
escape. Messages quote the text of arguments in this form.

## Main definitions

* `Text.hexDigits`: a number in lower-case hexadecimal digits
* `Character.escaped`: a character inside of a quoted text
* `Text.quoted`: a quoted text
-/

namespace GoOptional

/-- A number in lower-case hexadecimal digits. -/
def Text.hexDigits (n : Nat) : Text :=
  Nat.toDigits 16 n

/-- A character inside of a quoted text: the quotation mark, the backslash and the common
controls have short escapes, other characters that are not printable are given by their code
point. -/
def Character.escaped (c : Char) : Text :=
  if c = '"' then "\\\"".toList
  else if c = '\\' then "\\\\".toList
  else if c = '\n' then "\\n".toList
  else if c = '\r' then "\\r".toList
  else if c = '\t' then "\\t".toList
  else if c = '\x00' then "\\0".toList
  else if Character.isPrintable c then [c]
  else "\\u\x7b".toList ++ Text.hexDigits c.toNat ++ "\x7d".toList

/-- The text between quotation marks. -/
def Text.quoted (s : Text) : Text :=
  '"' :: s.flatMap Character.escaped ++ ['"']

end GoOptional
