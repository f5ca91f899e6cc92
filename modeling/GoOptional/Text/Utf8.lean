import GoOptional.Text.Basic

/-!
# UTF-8

Reading bytes as text. The bytes are cut, from left to right, into characters and into maximal
parts that are no character; text is read where there are only characters.

## Main definitions

* `Utf8.encode`: the bytes of a text
* `Utf8.Fault`, `Utf8.Fault.message`: the first place where bytes are not UTF-8
* `Utf8.pieces`: the characters and the faulty parts of bytes
* `Utf8.decode`: the text of bytes, or the first fault
* `Utf8.decodeLossy`: the text of bytes, with a replacement character for every faulty part

## Main results

* `Utf8.encode_append`: the bytes of two texts after each other
-/

namespace GoOptional

/-- A number in decimal digits. -/
def Text.ofNat (n : Nat) : Text :=
  Nat.toDigits 10 n

namespace Utf8

/-! ## Encoding -/

/-- The bytes of a text. -/
def encode (s : Text) : Bytes :=
  s.flatMap String.utf8EncodeChar

@[simp] theorem encode_nil : encode [] = [] := rfl

@[simp] theorem encode_cons (c : Char) (s : Text) :
    encode (c :: s) = String.utf8EncodeChar c ++ encode s := rfl

@[simp] theorem encode_append (s t : Text) : encode (s ++ t) = encode s ++ encode t :=
  List.flatMap_append

/-! ## The pieces of bytes -/

/-- The first place where bytes are not UTF-8. -/
inductive Fault where
  /-- The bytes at the index begin no character; `length` of them could have begun one. -/
  | invalid (index length : Nat)
  /-- The bytes end inside of the character at the index. -/
  | incomplete (index : Nat)
  deriving DecidableEq, Repr

/-- The fault in words. -/
def Fault.message : Fault → Text
  | .invalid index length =>
    "invalid utf-8 sequence of ".toList ++ Text.ofNat length ++ " bytes from index ".toList ++
      Text.ofNat index
  | .incomplete index => "incomplete utf-8 byte sequence from index ".toList ++ Text.ofNat index

/-- A part of bytes: a character, or a maximal part that is none. -/
inductive Piece where
  /-- The bytes of a character. -/
  | char (c : Char)
  /-- As many bytes as could have begun a character, before a byte that does not go on. -/
  | bad (length : Nat)
  /-- The beginning of a character, before the end of the bytes. -/
  | cut (length : Nat)
  deriving DecidableEq, Repr

/-- The beginning of a character of which bytes are still owed. -/
structure Begun where
  /-- How many bytes are owed, at least one. -/
  owed : Nat
  /-- The least byte that goes on. -/
  low : UInt8
  /-- The greatest byte that goes on. -/
  high : UInt8
  /-- The bits read so far, as a number. -/
  value : Nat
  /-- How many bytes have been read. -/
  length : Nat

/-- What the first byte of a character of several bytes begins. The bounds on the second byte
leave out the longer forms of a character, the surrogates and what lies above U+10FFFF. -/
def lead (b : UInt8) : Option Begun :=
  if 0xC2 ≤ b ∧ b ≤ 0xDF then some ⟨1, 0x80, 0xBF, b.toNat - 0xC0, 1⟩
  else if b = 0xE0 then some ⟨2, 0xA0, 0xBF, 0, 1⟩
  else if b = 0xED then some ⟨2, 0x80, 0x9F, 0xD, 1⟩
  else if 0xE1 ≤ b ∧ b ≤ 0xEF then some ⟨2, 0x80, 0xBF, b.toNat - 0xE0, 1⟩
  else if b = 0xF0 then some ⟨3, 0x90, 0xBF, 0, 1⟩
  else if b = 0xF4 then some ⟨3, 0x80, 0x8F, 4, 1⟩
  else if 0xF1 ≤ b ∧ b ≤ 0xF3 then some ⟨3, 0x80, 0xBF, b.toNat - 0xF0, 1⟩
  else none

/-- A byte between characters: the pieces that it completes, last first, and what it begins. -/
def start (b : UInt8) : List Piece × Option Begun :=
  if b < 0x80 then ([.char (Char.ofNat b.toNat)], none)
  else match lead b with
    | some p => ([], some p)
    | none => ([.bad 1], none)

/-- A byte after the given beginning: the pieces that it completes, last first, and what is
begun after it. -/
def step : Option Begun → UInt8 → List Piece × Option Begun
  | none, b => start b
  | some p, b =>
    if p.low ≤ b ∧ b ≤ p.high then
      let value := p.value * 64 + (b.toNat - 0x80)
      if p.owed = 1 then ([.char (Char.ofNat value)], none)
      else ([], some ⟨p.owed - 1, 0x80, 0xBF, value, p.length + 1⟩)
    else ((start b).1 ++ [.bad p.length], (start b).2)

/-- The pieces of the bytes that follow the pieces `done`, last first, and a beginning. -/
def piecesAfter (done : List Piece) : Option Begun → Bytes → List Piece
  | none, [] => done.reverse
  | some p, [] => (.cut p.length :: done).reverse
  | begun, b :: bs => piecesAfter ((step begun b).1 ++ done) (step begun b).2 bs

/-- The characters and the faulty parts of bytes, in order. -/
def pieces (bs : Bytes) : List Piece :=
  piecesAfter [] none bs

/-! ## Decoding -/

/-- The text of pieces that follow the characters `done`, last first, and that start at the
index. -/
def textAfter (index : Nat) (done : Text) : List Piece → Except Fault Text
  | [] => .ok done.reverse
  | .char c :: ps => textAfter (index + c.utf8Size) (c :: done) ps
  | .bad length :: _ => .error (.invalid index length)
  | .cut _ :: _ => .error (.incomplete index)

/-- The text of bytes, or the first place where they are not UTF-8. -/
def decode (bs : Bytes) : Except Fault Text :=
  textAfter 0 [] (pieces bs)

/-- The text of bytes where they are UTF-8. -/
def decode? (bs : Bytes) : Option Text :=
  (decode bs).toOption

/-- The character that a piece shows: a faulty part shows as U+FFFD. -/
def Piece.shown : Piece → Char
  | .char c => c
  | .bad _ => '\uFFFD'
  | .cut _ => '\uFFFD'

/-- The text of bytes, with a replacement character for every faulty part. -/
def decodeLossy (bs : Bytes) : Text :=
  (pieces bs).map Piece.shown

end Utf8

end GoOptional
