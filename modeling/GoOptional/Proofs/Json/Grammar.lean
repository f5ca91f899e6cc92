import Mathlib
import GoOptional.Json.Read
import GoOptional.Proofs.Json.Lexing

/-!
# The grammar of JSON

What JSON texts look like, said of whole texts and not of what a reader does at each character: a
text spells a value, which it may do in many ways, with whitespace, escapes and numbers as it likes.
The tokens of the text depend on the value alone.

## Main definitions

* `Json.Tree`: the values of JSON
* `Json.Spells`: the texts that spell a value
* `Json.Encodes`: the text that the units of a string stand for
* `Json.Tree.tokens`: the tokens of a value

## Main results

* `Json.stringText_eq_ok_iff`: the text of a string is the one that its units stand for
* `Json.Spells.tokens_eq`: the tokens of a text that spells a value
* `Json.SpellsText.unique`: a text is spelled by its spellings alone
-/

namespace GoOptional.Json

/-! ## Values -/

/-- The values of JSON: a number by its spelling, a string by its units, and an object by its
members in order, whatever their keys. -/
inductive Tree where
  /-- One of the words. -/
  | word (w : Word)
  /-- A number. -/
  | number (digits : Text)
  /-- A string. -/
  | string (units : List StringUnit)
  /-- An array of values. -/
  | array (items : List Tree)
  /-- An object. -/
  | object (members : List (List StringUnit × Tree))

/-! ## Strings -/

/-- The character after the backslash of a short escape, and the one that the escape stands for. -/
def shortEscapes : List (Char × Char) :=
  [('"', '"'), ('\\', '\\'), ('/', '/'), ('b', '\x08'), ('f', '\x0c'), ('n', '\n'), ('r', '\r'),
    ('t', '\t')]

/-- A hexadecimal digit, in either case, has a value. -/
def IsHexDigit (c : Char) (d : Nat) : Prop :=
  "0123456789abcdef".toList[d]? = some c ∨ "0123456789ABCDEF".toList[d]? = some c

/-- A text spells a unit of a string. -/
inductive SpellsUnit : Text → StringUnit → Prop
  /-- A character that is written as such. -/
  | itself {c : Char} (hquote : c ≠ '"') (hback : c ≠ '\\') (hcontrol : 0x20 ≤ c.toNat) :
    SpellsUnit [c] (.char c)
  /-- A short escape. -/
  | short {e c : Char} (h : (e, c) ∈ shortEscapes) : SpellsUnit ['\\', e] (.char c)
  /-- Four hexadecimal digits. -/
  | code {c₁ c₂ c₃ c₄ : Char} {d₁ d₂ d₃ d₄ : Nat} (h₁ : IsHexDigit c₁ d₁) (h₂ : IsHexDigit c₂ d₂)
    (h₃ : IsHexDigit c₃ d₃) (h₄ : IsHexDigit c₄ d₄) :
    SpellsUnit ['\\', 'u', c₁, c₂, c₃, c₄] (.code (((d₁ * 16 + d₂) * 16 + d₃) * 16 + d₄))

/-- The units of a string stand for a text. A code of a surrogate stands for nothing by itself, and
two of them for one character. -/
inductive Encodes : List StringUnit → Text → Prop
  /-- The end of the string. -/
  | nil : Encodes [] []
  /-- A character. -/
  | char {units : List StringUnit} {t : Text} (c : Char) (h : Encodes units t) :
    Encodes (.char c :: units) (c :: t)
  /-- The code of a character. -/
  | code {n : Nat} {units : List StringUnit} {t : Text} (hn : n < 0xD800 ∨ 0xE000 ≤ n)
    (h : Encodes units t) : Encodes (.code n :: units) (Char.ofNat n :: t)
  /-- The two codes of a character. -/
  | pair {high low : Nat} {c : Char} {units : List StringUnit} {t : Text}
    (hhigh : 0xD800 ≤ high ∧ high < 0xDC00) (hlow : 0xDC00 ≤ low ∧ low < 0xE000)
    (hc : c.toNat = 0x10000 + (high - 0xD800) * 0x400 + (low - 0xDC00)) (h : Encodes units t) :
    Encodes (.code high :: .code low :: units) (c :: t)

/-! ## Texts -/

/-- The characters of which there may be any number between tokens. -/
def whitespace : Text :=
  [' ', '\t', '\n', '\r']

/-- A text spells a value: it is one token or a bracketed list of texts that spell values, each with
whitespace around it. -/
inductive Spells : Text → Tree → Prop
  /-- Whitespace before the value. -/
  | before {c : Char} {s : Text} {v : Tree} (hc : c ∈ whitespace) (h : Spells s v) :
    Spells (c :: s) v
  /-- Whitespace after the value. -/
  | after {c : Char} {s : Text} {v : Tree} (hc : c ∈ whitespace) (h : Spells s v) :
    Spells (s ++ [c]) v
  /-- A word. -/
  | word (w : Word) : Spells w.letters (.word w)
  /-- A number. -/
  | number {s : Text} (h : IsNumber s) : Spells s (.number s)
  /-- A string, unit by unit. -/
  | string {parts : List (Text × StringUnit)} (h : ∀ p ∈ parts, SpellsUnit p.1 p.2) :
    Spells ('"' :: parts.flatMap Prod.fst ++ ['"']) (.string (parts.map Prod.snd))
  /-- An array; there may be whitespace behind the last item, or where there is none. -/
  | array {items : List (Text × Tree)} {space : Text} (h : ∀ p ∈ items, Spells p.1 p.2)
    (hspace : ∀ c ∈ space, c ∈ whitespace) :
    Spells ('[' :: Text.join ",".toList (items.map Prod.fst) ++ (space ++ [']']))
      (.array (items.map Prod.snd))
  /-- An object, with the spellings of the key and of the value for each member. -/
  | object {members : List ((Text × List StringUnit) × (Text × Tree))} {space : Text}
    (hkey : ∀ m ∈ members, Spells m.1.1 (.string m.1.2)) (h : ∀ m ∈ members, Spells m.2.1 m.2.2)
    (hspace : ∀ c ∈ space, c ∈ whitespace) :
    Spells ('\x7b' :: Text.join ",".toList (members.map fun m => m.1.1 ++ ':' :: m.2.1) ++
        (space ++ ['\x7d']))
      (.object (members.map fun m => (m.1.2, m.2.2)))

/-- A text spells another one as a JSON string. -/
def SpellsText (s t : Text) : Prop :=
  ∃ units, Spells s (.string units) ∧ Encodes units t

/-- A text is that of a member of an object: it spells the key, and behind the colon it holds the
text of the value. -/
def IsMemberText (s key value : Text) : Prop :=
  ∃ front space, s = front ++ ':' :: (space ++ value) ∧ SpellsText front key ∧
    (∀ c ∈ space, c ∈ whitespace) ∧ ∃ v, Spells value v

/-- A text is that of an object with the given keys and texts of values, in order. -/
def IsObjectText (s : Text) (members : List (Text × Text)) : Prop :=
  ∃ parts space, s = '\x7b' :: Text.join ",".toList parts ++ (space ++ ['\x7d']) ∧
    (∀ c ∈ space, c ∈ whitespace) ∧
    List.Forall₂ (fun part m => IsMemberText part m.1 m.2) parts members

/-- Whitespace before a value, as much as there is. -/
theorem Spells.behind {s space : Text} {v : Tree} (hspace : ∀ c ∈ space, c ∈ whitespace)
    (h : Spells s v) : Spells (space ++ s) v := by
  induction space with
  | nil => exact h
  | cons c space ih =>
    obtain ⟨hc, hspace⟩ := List.forall_mem_cons.1 hspace
    exact .before hc (ih hspace)

/-- **The text of an object** is that of a value. -/
theorem IsObjectText.exists_spells {s : Text} {members : List (Text × Text)}
    (h : IsObjectText s members) : ∃ v, Spells s v := by
  obtain ⟨parts, space, rfl, hspace, hparts⟩ := h
  obtain ⟨ms, rfl, hkey, hvalue⟩ : ∃ ms : List ((Text × List StringUnit) × (Text × Tree)),
      parts = ms.map (fun m => m.1.1 ++ ':' :: m.2.1) ∧
        (∀ m ∈ ms, Spells m.1.1 (.string m.1.2)) ∧ ∀ m ∈ ms, Spells m.2.1 m.2.2 := by
    clear hspace
    induction hparts with
    | nil => exact ⟨[], rfl, by simp, by simp⟩
    | cons hpart _ ih =>
      obtain ⟨front, space, rfl, ⟨units, hfront, -⟩, hspace, v, hv⟩ := hpart
      obtain ⟨ms, rfl, hkey, hvalue⟩ := ih
      exact ⟨((front, units), (space ++ _, v)) :: ms, rfl, List.forall_mem_cons.2 ⟨hfront, hkey⟩,
        List.forall_mem_cons.2 ⟨hv.behind hspace, hvalue⟩⟩
  exact ⟨_, .object hkey hvalue hspace⟩

/-! ## Tokens -/

/-- The token of a number. -/
def Token.ofNumber (digits : Text) : Token :=
  match Numeral.ofText? digits with
  | some n => .number n
  | none => .malformed

namespace Tree

mutual

/-- The tokens of a value. -/
def tokens : Tree → List Token
  | .word w => [.word w]
  | .number digits => [.ofNumber digits]
  | .string units => [.string units .closed]
  | .array items => .arrayOpen :: (Token.separated (itemTokens items) ++ [.arrayClose])
  | .object members => .objectOpen :: (Token.separated (memberTokens members) ++ [.objectClose])

/-- The tokens of the items of an array. -/
def itemTokens : List Tree → List (List Token)
  | [] => []
  | v :: items => v.tokens :: itemTokens items

/-- The tokens of the members of an object. -/
def memberTokens : List (List StringUnit × Tree) → List (List Token)
  | [] => []
  | (units, v) :: members =>
    (.string units .closed :: .colon :: v.tokens) :: memberTokens members

end

theorem itemTokens_eq (items : List Tree) : itemTokens items = items.map tokens := by
  induction items with
  | nil => rfl
  | cons v items ih => rw [itemTokens, ih, List.map_cons]

theorem memberTokens_eq (members : List (List StringUnit × Tree)) : memberTokens members =
    members.map fun m => .string m.1 .closed :: .colon :: m.2.tokens := by
  induction members with
  | nil => rfl
  | cons m members ih => rw [memberTokens, ih, List.map_cons]

end Tree

/-! ## The text of a string -/

theorem isHighSurrogate_iff {n : Nat} : isHighSurrogate n = true ↔ 0xD800 ≤ n ∧ n < 0xDC00 := by
  simp [isHighSurrogate]

theorem isLowSurrogate_iff {n : Nat} : isLowSurrogate n = true ↔ 0xDC00 ≤ n ∧ n < 0xE000 := by
  simp [isLowSurrogate]

theorem toNat_pairChar {high low : Nat} (hhigh : 0xD800 ≤ high ∧ high < 0xDC00)
    (hlow : 0xDC00 ≤ low ∧ low < 0xE000) :
    (pairChar high low).toNat = 0x10000 + (high - 0xD800) * 0x400 + (low - 0xDC00) := by
  have hvalid : ((high - 0xD800) * 0x400 + (low - 0xDC00) + 0x10000).isValidChar :=
    Or.inr ⟨by omega, by omega⟩
  rw [pairChar, Char.toNat_ofNat, if_pos hvalid]
  omega

/-- The text that units stand for is read from them, after what stands before it. -/
theorem Encodes.textAfter_eq {units : List StringUnit} {t : Text} (h : Encodes units t)
    (done : Text) : textAfter .closed done units = .ok (done.reverse ++ t) := by
  induction h generalizing done with
  | nil => rw [textAfter, List.append_nil]
  | char c _ ih => rw [textAfter, ih, List.reverse_cons, List.append_assoc, List.singleton_append]
  | @code n _ _ hn _ ih =>
    have hlow : ¬ isLowSurrogate n = true := by
      rw [isLowSurrogate_iff]
      omega
    have hhigh : ¬ isHighSurrogate n = true := by
      rw [isHighSurrogate_iff]
      omega
    rw [textAfter.eq_def]
    simp only [if_neg hlow, if_neg hhigh]
    rw [ih, List.reverse_cons, List.append_assoc, List.singleton_append]
  | @pair high _ _ _ _ hhigh hlow hc _ ih =>
    have hfirst : ¬ isLowSurrogate high = true := by
      rw [isLowSurrogate_iff]
      omega
    have hchar := Char.toNat_inj.1 ((toNat_pairChar hhigh hlow).trans hc.symm)
    rw [textAfter.eq_def]
    simp only [if_neg hfirst, if_pos (isHighSurrogate_iff.2 hhigh),
      if_pos (isLowSurrogate_iff.2 hlow)]
    rw [hchar, ih, List.reverse_cons, List.append_assoc, List.singleton_append]

/-- What is read from units is what they stand for. -/
theorem exists_encodes {done t : Text} {units : List StringUnit}
    (h : textAfter .closed done units = .ok t) :
    ∃ t', t = done.reverse ++ t' ∧ Encodes units t' := by
  fun_induction textAfter .closed done units with
  | case1 done =>
    cases h
    exact ⟨[], (List.append_nil _).symm, .nil⟩
  | case4 done c units ih =>
    obtain ⟨t', rfl, ht'⟩ := ih h
    exact ⟨c :: t', by simp, .char c ht'⟩
  | case8 done high _ hhigh low units hlow ih =>
    obtain ⟨t', rfl, ht'⟩ := ih h
    have hpair := toNat_pairChar (isHighSurrogate_iff.1 hhigh) (isLowSurrogate_iff.1 hlow)
    exact ⟨pairChar high low :: t', by simp,
      .pair (isHighSurrogate_iff.1 hhigh) (isLowSurrogate_iff.1 hlow) hpair ht'⟩
  | case10 done n units hlow hhigh ih =>
    obtain ⟨t', rfl, ht'⟩ := ih h
    have hn : n < 0xD800 ∨ 0xE000 ≤ n := by
      rw [isLowSurrogate_iff] at hlow
      rw [isHighSurrogate_iff] at hhigh
      omega
    exact ⟨Char.ofNat n :: t', by simp, .code hn ht'⟩
  | _ => cases h

/-- **The text of a string** is the one that its units stand for. -/
theorem stringText_eq_ok_iff {units : List StringUnit} {t : Text} :
    stringText units .closed = .ok t ↔ Encodes units t := by
  constructor
  · intro h
    obtain ⟨t', rfl, ht'⟩ := exists_encodes h
    exact ht'
  · exact fun h => h.textAfter_eq []

theorem Encodes.unique {units : List StringUnit} {t t' : Text} (h : Encodes units t)
    (h' : Encodes units t') : t = t' :=
  Except.ok.inj ((stringText_eq_ok_iff.2 h).symm.trans (stringText_eq_ok_iff.2 h'))

/-! ## Spellings between tokens -/

variable {s : Text} {c : Char}

/-! ### Whitespace -/

theorem lexes_whitespace (hc : c ∈ whitespace) : Lexes [c] [] := by
  intro done
  simp only [whitespace, List.mem_cons, List.not_mem_nil, or_false] at hc
  rcases hc with rfl | rfl | rfl | rfl <;> rfl

theorem lexes_space (hs : ∀ c ∈ s, c ∈ whitespace) : Lexes s [] := by
  induction s with
  | nil => exact .nil
  | cons c s ih =>
    obtain ⟨hc, hs⟩ := List.forall_mem_cons.1 hs
    exact (lexes_whitespace hc).append (ih hs)

theorem isDelimiter_of_mem_whitespace (hc : c ∈ whitespace) : isDelimiter c = true := by
  simp only [whitespace, List.mem_cons, List.not_mem_nil, or_false] at hc
  rcases hc with rfl | rfl | rfl | rfl <;> decide

/-! ### Numbers -/

/-- The characters of a number that has begun. -/
theorem foldl_step_number {n n' : Numeral} (h : s.foldlM Numeral.more? n = some n')
    (done : List Token) : s.foldl Lexer.step ⟨done, .number n⟩ = ⟨done, .number n'⟩ := by
  induction s generalizing n with
  | nil => cases h; rfl
  | cons c s ih =>
    rw [List.foldlM_cons, Option.bind_eq_bind, Option.bind_eq_some_iff] at h
    obtain ⟨m, hm, hs⟩ := h
    have hstep : Lexer.step ⟨done, .number n⟩ c = ⟨done, .number m⟩ := by
      have hnext := Numeral.next_of_more? hm
      simp only [Lexer.step, Lexer.inNumber, hnext]
    rw [List.foldl_cons, hstep, ih hs]

theorem begin?_eq_none (hc : c ∈ [' ', '\n', '\t', '\r', '\x7b', '\x7d', '[', ']', ':', ',', '"',
    't', 'f', 'n']) : Numeral.begin? c = none := by
  simp only [List.mem_cons, List.not_mem_nil, or_false] at hc
  rcases hc with rfl | rfl | rfl | rfl | rfl | rfl | rfl | rfl | rfl | rfl | rfl | rfl | rfl |
    rfl <;> simp [Numeral.begin?, Numeral.digit?]

/-- The characters that begin a number begin nothing else. -/
theorem start_of_begin? {n : Numeral} (h : Numeral.begin? c = some n) (done : List Token) :
    Lexer.start done c = ⟨done, .number n⟩ := by
  have hc := mt begin?_eq_none (h ▸ Option.some_ne_none n)
  simp only [List.mem_cons, List.not_mem_nil, or_false, not_or] at hc
  simp [Lexer.start, Lexer.isSpace, hc, h]

/-- A number is complete at the end of the text, or at the delimiter, which is then read itself. -/
theorem lexesBefore_number (h : IsNumber s) : LexesBefore s [.ofNumber s] := by
  obtain ⟨n, hn, hcomplete⟩ := h.exists_ofText?
  have htoken : Token.ofNumber s = .number n := by rw [Token.ofNumber, hn]
  intro done rest hrest
  have hread : s.foldl Lexer.step ⟨done, .between⟩ = ⟨done, .number n⟩ := by
    cases s with
    | nil => cases hn
    | cons c s =>
      rw [Numeral.ofText?, Option.bind_eq_some_iff] at hn
      obtain ⟨m, hm, hs⟩ := hn
      have hstep : Lexer.step ⟨done, .between⟩ c = ⟨done, .number m⟩ := start_of_begin? hm done
      rw [List.foldl_cons, hstep, foldl_step_number hs]
  rw [List.foldl_append, hread, htoken]
  cases rest with
  | nil => simp only [List.foldl_nil, Lexer.finish, hcomplete, if_true]; rfl
  | cons c rest =>
    have hnext := Numeral.next_of_isDelimiter hcomplete (hrest c rfl)
    have hstep : Lexer.step ⟨done, .number n⟩ c = Lexer.step ⟨.number n :: done, .between⟩ c := by
      simp only [Lexer.step, Lexer.inNumber, hnext]
    rw [List.foldl_cons, hstep]
    rfl

/-! ### Strings -/

theorem IsHexDigit.hexDigit?_eq {d : Nat} (h : IsHexDigit c d) : Lexer.hexDigit? c = some d := by
  have hall : ∀ d < 16, "0123456789abcdef".toList[d]?.bind Lexer.hexDigit? = some d ∧
      "0123456789ABCDEF".toList[d]?.bind Lexer.hexDigit? = some d := by decide
  rcases h with h | h <;> obtain ⟨hd, -⟩ := List.getElem?_eq_some_iff.1 h
  · have hboth := (hall d hd).1
    rwa [h] at hboth
  · have hboth := (hall d hd).2
    rwa [h] at hboth

/-- **A unit** of a string is read as such, however it is spelled. -/
theorem SpellsUnit.foldl_step {u : StringUnit} (h : SpellsUnit s u) (done : List Token)
    (units : List StringUnit) :
    s.foldl Lexer.step ⟨done, .string units⟩ = ⟨done, .string (u :: units)⟩ := by
  cases h with
  | @itself c hquote hback hcontrol =>
    have hstep : Lexer.step ⟨done, .string units⟩ c = Lexer.inString done units c := rfl
    rw [List.foldl_cons, List.foldl_nil, hstep, Lexer.inString, if_neg hquote, if_neg hback,
      if_neg (not_lt.2 hcontrol)]
  | short h =>
    simp only [shortEscapes, List.mem_cons, List.not_mem_nil, or_false, Prod.mk.injEq] at h
    rcases h with ⟨rfl, rfl⟩ | ⟨rfl, rfl⟩ | ⟨rfl, rfl⟩ | ⟨rfl, rfl⟩ | ⟨rfl, rfl⟩ | ⟨rfl, rfl⟩ |
      ⟨rfl, rfl⟩ | ⟨rfl, rfl⟩ <;> rfl
  | @code c₁ c₂ c₃ c₄ _ _ _ _ h₁ h₂ h₃ h₄ =>
    have hmark : ['\\', 'u'].foldl Lexer.step ⟨done, .string units⟩ = ⟨done, .hex units 4 0⟩ := rfl
    have hdigits : ['\\', 'u', c₁, c₂, c₃, c₄] = ['\\', 'u'] ++ [c₁, c₂, c₃, c₄] := rfl
    rw [hdigits, List.foldl_append, hmark]
    simp [Lexer.step, Lexer.inHex, h₁.hexDigit?_eq, h₂.hexDigit?_eq, h₃.hexDigit?_eq,
      h₄.hexDigit?_eq]

theorem lexes_string {parts : List (Text × StringUnit)} (h : ∀ p ∈ parts, SpellsUnit p.1 p.2) :
    Lexes ('"' :: parts.flatMap Prod.fst ++ ['"']) [.string (parts.map Prod.snd) .closed] := by
  have hunits (done : List Token) (units : List StringUnit) :
      (parts.flatMap Prod.fst).foldl Lexer.step ⟨done, .string units⟩ =
        ⟨done, .string ((parts.map Prod.snd).reverse ++ units)⟩ := by
    induction parts generalizing units with
    | nil => rfl
    | cons p parts ih =>
      obtain ⟨hp, hparts⟩ := List.forall_mem_cons.1 h
      rw [List.flatMap_cons, List.foldl_append, hp.foldl_step, ih hparts, List.map_cons,
        List.reverse_cons, List.append_assoc, List.singleton_append]
  intro done
  have hopen : Lexer.step ⟨done, .between⟩ '"' = ⟨done, .string []⟩ := rfl
  have hclose (units : List StringUnit) : ['"'].foldl Lexer.step ⟨done, .string units⟩ =
      ⟨.string units.reverse .closed :: done, .between⟩ := rfl
  have hbody : ('"' :: parts.flatMap Prod.fst).foldl Lexer.step ⟨done, .between⟩ =
      ⟨done, .string (parts.map Prod.snd).reverse⟩ := by
    rw [List.foldl_cons, hopen, hunits, List.append_nil]
  rw [List.foldl_append, hbody, hclose, List.reverse_reverse]
  rfl

/-! ### Lists in brackets -/

/-- Whitespace before the end of a list in brackets. -/
theorem exists_space_append (hspace : ∀ c ∈ s, c ∈ whitespace) (hc : isDelimiter c = true) :
    ∃ d rest, s ++ [c] = d :: rest ∧ isDelimiter d = true := by
  cases s with
  | nil => exact ⟨c, [], rfl, hc⟩
  | cons d s =>
    exact ⟨d, s ++ [c], rfl, isDelimiter_of_mem_whitespace (hspace d (List.mem_cons_self))⟩

/-- A list in brackets: what opens it, its parts, perhaps whitespace, and what closes it. -/
theorem lexesBefore_brackets {α : Type} {xs : List α} {f : α → Text} {g : α → List Token}
    {opening closing : Char} {topening tclosing : Token} {space : Text}
    (hopening : ∀ done, Lexer.start done opening = Lexer.push done topening)
    (hclosing : ∀ done, Lexer.start done closing = Lexer.push done tclosing)
    (hc : isDelimiter closing = true) (hspace : ∀ c ∈ space, c ∈ whitespace)
    (h : ∀ x ∈ xs, LexesBefore (f x) (g x)) :
    LexesBefore (opening :: Text.join ",".toList (xs.map f) ++ (space ++ [closing]))
      (topening :: (Token.separated (xs.map g) ++ [tclosing])) := by
  have hclose : Lexes (space ++ [closing]) [tclosing] :=
    (lexes_space hspace).append (.cons hclosing .nil)
  obtain ⟨d, rest, hd, hdelimiter⟩ := exists_space_append hspace hc
  rw [hd] at hclose ⊢
  have hopen : Lexes [opening] [topening] := .cons hopening .nil
  exact hopen.before (lexesBefore_join h hdelimiter (.of_lexes hclose))

/-! ## Every spelling -/

/-- **A text that spells a value** is read as the tokens of the value, before all that may come
after a value. The colon may come behind a key, as what closes an object may come behind a value. -/
theorem Spells.lexesBefore {v : Tree} (h : Spells s v) : LexesBefore s v.tokens := by
  induction h with
  | before hc _ ih => exact (lexes_whitespace hc).before ih
  | after hc _ ih =>
    have hspace := LexesBefore.of_lexes (lexes_whitespace hc)
    have happend := ih.append (isDelimiter_of_mem_whitespace hc) hspace
    rwa [List.append_nil] at happend
  | word w =>
    refine .of_lexes fun done => ?_
    cases w <;> rfl
  | number h => exact lexesBefore_number h
  | string h => exact .of_lexes (lexes_string h)
  | array _ hspace ih =>
    rw [Tree.tokens, Tree.itemTokens_eq, List.map_map]
    exact lexesBefore_brackets (fun _ => rfl) (fun _ => rfl) (by decide) hspace ih
  | object _ _ hspace ihkey ih =>
    rw [Tree.tokens, Tree.memberTokens_eq, List.map_map]
    refine lexesBefore_brackets (fun _ => rfl) (fun _ => rfl) (by decide) hspace fun m hm => ?_
    have hcolon : Lexes [':'] [.colon] := .cons (fun _ => rfl) .nil
    exact (ihkey m hm).append (by decide) (hcolon.before (ih m hm))

/-- **The tokens of a text** that spells a value are those of the value. -/
theorem Spells.tokens_eq {v : Tree} (h : Spells s v) : tokens s = v.tokens :=
  h.lexesBefore.tokens_eq

/-- **A spelling spells one text** only. -/
theorem SpellsText.unique {t t' : Text} (h : SpellsText s t) (h' : SpellsText s t') : t = t' := by
  obtain ⟨units, hs, ht⟩ := h
  obtain ⟨units', hs', ht'⟩ := h'
  have htokens := hs.tokens_eq.symm.trans hs'.tokens_eq
  simp only [Tree.tokens, List.cons.injEq, Token.string.injEq, and_true] at htokens
  exact (htokens ▸ ht).unique ht'

end GoOptional.Json
