import GoOptional.Json.Numeral

/-!
# JSON tokens

The tokens of a JSON text, with the whitespace between them left out. Reading tokens never
fails: a place where no token can be read becomes the last token, and the reader that comes to it
decides which error it is.

## Main definitions

* `Json.Token`: the tokens
* `Json.Lexer.step`: what a character adds to the tokens before it
* `Json.tokens`: the tokens of a text
-/

namespace GoOptional.Json

/-- The words of JSON. -/
inductive Word where
  /-- The word `true`. -/
  | yes
  /-- The word `false`. -/
  | no
  /-- The word `null`. -/
  | nothing
  deriving DecidableEq, Repr

/-- The letters of a word. -/
def Word.letters : Word → Text
  | .yes => "true".toList
  | .no => "false".toList
  | .nothing => "null".toList

/-- A part of a string. -/
inductive StringUnit where
  /-- A character, written as such or with a short escape. -/
  | char (c : Char)
  /-- A code of 16 bits, written with four hexadecimal digits. -/
  | code (n : Nat)
  deriving DecidableEq, Repr

/-- How a string ends. -/
inductive StringEnd where
  /-- With a quotation mark. -/
  | closed
  /-- At a character or an escape that no string can hold. -/
  | broken
  /-- At the end of the text. -/
  | cut
  deriving DecidableEq, Repr

/-- The tokens of JSON, and the places where no token can be read. -/
inductive Token where
  /-- An opening brace. -/
  | objectOpen
  /-- A closing brace. -/
  | objectClose
  /-- An opening bracket. -/
  | arrayOpen
  /-- A closing bracket. -/
  | arrayClose
  /-- A colon. -/
  | colon
  /-- A comma. -/
  | comma
  /-- One of the words. -/
  | word (w : Word)
  /-- A number. -/
  | number (n : Numeral)
  /-- A string; after one that is not closed there are no more tokens. -/
  | string (units : List StringUnit) (ending : StringEnd)
  /-- A place where a character goes on with no token. -/
  | malformed
  /-- A word that the end of the text cuts off. -/
  | cutWord
  /-- A number that the end of the text cuts off. -/
  | cutNumber
  deriving DecidableEq, Repr

/-- The token that is being read. -/
inductive Reading where
  /-- None: the last token is complete. -/
  | between
  /-- A word of which letters are still to come. -/
  | word (w : Word) (left : Text)
  /-- A number. -/
  | number (n : Numeral)
  /-- A string, with its units so far, last first. -/
  | string (units : List StringUnit)
  /-- An escape of a string, after the backslash. -/
  | escape (units : List StringUnit)
  /-- An escape with hexadecimal digits: how many are to come, and the value of the others. -/
  | hex (units : List StringUnit) (left value : Nat)
  /-- An escape with a character that is no digit: the bytes until its four places are filled. -/
  | badHex (units : List StringUnit) (left : Nat)
  /-- Nothing more: there was a place where no token can be read. -/
  | stopped
  deriving DecidableEq, Repr

/-- The tokens so far, last first, and the token that is being read. -/
structure Lexer where
  /-- The complete tokens, last first. -/
  done : List Token
  /-- The token that is being read. -/
  reading : Reading
  deriving DecidableEq, Repr

namespace Lexer

/-- Whitespace between tokens. -/
def isSpace (c : Char) : Bool :=
  c == ' ' || c == '\n' || c == '\t' || c == '\r'

/-- The character that a short escape stands for. -/
def shortEscape? (c : Char) : Option Char :=
  match c with
  | '"' => some '"'
  | '\\' => some '\\'
  | '/' => some '/'
  | 'b' => some '\x08'
  | 'f' => some '\x0c'
  | 'n' => some '\n'
  | 'r' => some '\r'
  | 't' => some '\t'
  | _ => none

/-- The value of a hexadecimal digit. -/
def hexDigit? (c : Char) : Option Nat :=
  if '0' ≤ c ∧ c ≤ '9' then some (c.toNat - '0'.toNat)
  else if 'a' ≤ c ∧ c ≤ 'f' then some (c.toNat - 'a'.toNat + 10)
  else if 'A' ≤ c ∧ c ≤ 'F' then some (c.toNat - 'A'.toNat + 10)
  else none

/-- A token is complete. -/
def push (done : List Token) (t : Token) : Lexer :=
  ⟨t :: done, .between⟩

/-- No token can be read from here on. -/
def stop (done : List Token) (t : Token) : Lexer :=
  ⟨t :: done, .stopped⟩

/-- A character between tokens. -/
def start (done : List Token) (c : Char) : Lexer :=
  if isSpace c then ⟨done, .between⟩
  else if c = '\x7b' then push done .objectOpen
  else if c = '\x7d' then push done .objectClose
  else if c = '[' then push done .arrayOpen
  else if c = ']' then push done .arrayClose
  else if c = ':' then push done .colon
  else if c = ',' then push done .comma
  else if c = '"' then ⟨done, .string []⟩
  else if c = 't' then ⟨done, .word .yes (Word.letters .yes).tail⟩
  else if c = 'f' then ⟨done, .word .no (Word.letters .no).tail⟩
  else if c = 'n' then ⟨done, .word .nothing (Word.letters .nothing).tail⟩
  else match Numeral.begin? c with
    | some n => ⟨done, .number n⟩
    | none => stop done .malformed

/-- A character that may go on with a word. -/
def inWord (done : List Token) (w : Word) (left : Text) (c : Char) : Lexer :=
  match left with
  | [] => stop done .malformed
  | [l] => if c = l then push done (.word w) else stop done .malformed
  | l :: left => if c = l then ⟨done, .word w left⟩ else stop done .malformed

/-- A character that may go on with a number. -/
def inNumber (done : List Token) (n : Numeral) (c : Char) : Lexer :=
  match n.next c with
  | .more n => ⟨done, .number n⟩
  | .complete => start (.number n :: done) c
  | .malformed => stop done .malformed

/-- A character of a string: control characters must be written as escapes. -/
def inString (done : List Token) (units : List StringUnit) (c : Char) : Lexer :=
  if c = '"' then push done (.string units.reverse .closed)
  else if c = '\\' then ⟨done, .escape units⟩
  else if c.toNat < 0x20 then stop done (.string units.reverse .broken)
  else ⟨done, .string (.char c :: units)⟩

/-- The character after a backslash. -/
def inEscape (done : List Token) (units : List StringUnit) (c : Char) : Lexer :=
  if c = 'u' then ⟨done, .hex units 4 0⟩
  else match shortEscape? c with
    | some c => ⟨done, .string (.char c :: units)⟩
    | none => stop done (.string units.reverse .broken)

/-- A character that fills bytes of an escape that is no escape. -/
def inBadHex (done : List Token) (units : List StringUnit) (left : Nat) (c : Char) : Lexer :=
  if left ≤ c.utf8Size then stop done (.string units.reverse .broken)
  else ⟨done, .badHex units (left - c.utf8Size)⟩

/-- A character of an escape with hexadecimal digits. -/
def inHex (done : List Token) (units : List StringUnit) (left value : Nat) (c : Char) : Lexer :=
  match hexDigit? c with
  | some d =>
    if left ≤ 1 then ⟨done, .string (.code (value * 16 + d) :: units)⟩
    else ⟨done, .hex units (left - 1) (value * 16 + d)⟩
  | none => inBadHex done units left c

/-- What a character adds to the tokens before it. -/
def step (l : Lexer) (c : Char) : Lexer :=
  match l.reading with
  | .between => start l.done c
  | .word w left => inWord l.done w left c
  | .number n => inNumber l.done n c
  | .string units => inString l.done units c
  | .escape units => inEscape l.done units c
  | .hex units left value => inHex l.done units left value c
  | .badHex units left => inBadHex l.done units left c
  | .stopped => l

/-- The tokens at the end of the text, in order. -/
def finish (l : Lexer) : List Token :=
  match l.reading with
  | .between => l.done.reverse
  | .stopped => l.done.reverse
  | .word _ _ => (.cutWord :: l.done).reverse
  | .number n => ((if n.isComplete then .number n else .cutNumber) :: l.done).reverse
  | .string units => (.string units.reverse .cut :: l.done).reverse
  | .escape units => (.string units.reverse .cut :: l.done).reverse
  | .hex units _ _ => (.string units.reverse .cut :: l.done).reverse
  | .badHex units _ => (.string units.reverse .cut :: l.done).reverse

end Lexer

/-- The tokens of a text. -/
def tokens (s : Text) : List Token :=
  (s.foldl Lexer.step ⟨[], .between⟩).finish

end GoOptional.Json
