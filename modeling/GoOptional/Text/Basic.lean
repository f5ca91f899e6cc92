import GoOptional.Character.Blank

/-!
# Text

Text is a list of characters, and what files, arguments and paths hold is a list of bytes: the
laws of both are proved by induction. This module holds the operations on text that the rest
is built from.

## Main definitions

* `Text`, `Bytes`: text, and raw bytes
* `Text.trimStart`, `Text.trim`: text without the blanks around it
* `Text.splitLast?`: the parts of a text around the last occurrence of a character
* `Text.dropStart?`: the text after a given start
* `Text.Line`, `Text.lines`: the lines of a text

## Main results

* `Text.join_lines`: the lines of a text hold all of it
* `Text.splitLast?_eq_some_iff`: the split at the last occurrence
-/

namespace GoOptional

/-- Text: a sequence of characters. -/
abbrev Text := List Char

/-- What a file, an argument or a path holds: a sequence of bytes. -/
abbrev Bytes := List UInt8

namespace Text

/-! ## Blanks around a text -/

/-- The text from its first character that is not blank. -/
def trimStart (s : Text) : Text :=
  s.dropWhile Character.isBlank

/-- The text up to its last character that is not blank. -/
def trimEnd (s : Text) : Text :=
  (s.reverse.dropWhile Character.isBlank).reverse

/-- The text without the blanks at its two ends. -/
def trim (s : Text) : Text :=
  trimEnd (trimStart s)

/-! ## Splitting -/

/-- The parts of a text before and after the last occurrence of a character. -/
def splitLast? (mark : Char) : Text → Option (Text × Text)
  | [] => none
  | c :: s =>
    match splitLast? mark s with
    | some (before, after) => some (c :: before, after)
    | none => if c = mark then some ([], s) else none

/-- What follows the last occurrence of a character, or the whole text where there is none. -/
def afterLast (mark : Char) (s : Text) : Text :=
  match splitLast? mark s with
  | some (_, after) => after
  | none => s

/-- What follows a given start of the text. -/
def dropStart? (s start : Text) : Option Text :=
  if start.isPrefixOf s then some (s.drop start.length) else none

/-- The texts one after the other, with a separator between them. -/
def join (separator : Text) (parts : List Text) : Text :=
  (parts.intersperse separator).flatten

theorem dropStart?_eq_some_iff {s start rest : Text} :
    dropStart? s start = some rest ↔ s = start ++ rest := by
  unfold dropStart?
  split
  case isTrue h =>
    obtain ⟨tail, rfl⟩ := List.isPrefixOf_iff_prefix.1 h
    simp
  case isFalse h =>
    rw [List.isPrefixOf_iff_prefix] at h
    simp only [reduceCtorEq, false_iff]
    rintro rfl
    exact h (List.prefix_append start rest)

theorem splitLast?_eq_none_iff {mark : Char} {s : Text} : splitLast? mark s = none ↔ mark ∉ s := by
  induction s with
  | nil => simp [splitLast?]
  | cons c s ih =>
    rw [splitLast?, List.mem_cons, not_or, ← ih]
    cases splitLast? mark s with
    | some p => simp
    | none => simp [eq_comm]

/-- **The split at the last occurrence** of a character: the text is the first part, the
character and the second part, and the character is not in the second part. -/
theorem splitLast?_eq_some_iff {mark : Char} {s before after : Text} :
    splitLast? mark s = some (before, after) ↔ s = before ++ mark :: after ∧ mark ∉ after := by
  induction s generalizing before with
  | nil => simp [splitLast?]
  | cons c s ih =>
    cases h : splitLast? mark s with
    | some p =>
      obtain ⟨b, a⟩ := p
      cases before with
      | nil =>
        simp only [splitLast?, h, Option.some.injEq, Prod.mk.injEq, reduceCtorEq, false_and,
          List.nil_append, List.cons.injEq, false_iff, not_and, and_imp]
        rintro - rfl
        exact fun hn => by simp [splitLast?_eq_none_iff.2 hn] at h
      | cons x before =>
        simp only [splitLast?, h, Option.some.injEq, Prod.mk.injEq, List.cons.injEq,
          List.cons_append, and_assoc]
        rw [← ih, h]
        simp
    | none =>
      have hn := splitLast?_eq_none_iff.1 h
      cases before with
      | nil =>
        by_cases hc : c = mark
        · subst hc
          simp only [splitLast?, h, if_pos, Option.some.injEq, Prod.mk.injEq, true_and,
            List.nil_append, List.cons.injEq]
          exact ⟨fun e => ⟨e, e ▸ hn⟩, And.left⟩
        · simp [splitLast?, h, hc]
      | cons x before =>
        simp only [splitLast?, h, List.cons_append, List.cons.injEq]
        constructor
        · split <;> simp
        · rintro ⟨⟨-, rfl⟩, -⟩
          simp at hn

/-! ## Lines -/

/-- A line of a text, without its line feed. -/
structure Line where
  /-- The characters of the line. -/
  text : Text
  /-- Whether a line feed ends the line. -/
  terminated : Bool
  deriving DecidableEq, Repr

/-- The text of a line with its line feed. -/
def Line.whole (l : Line) : Text :=
  l.text ++ if l.terminated then ['\n'] else []

/-- The lines of the text that starts with the given character, from the lines of the rest. -/
def addToLines (c : Char) (rest : List Line) : List Line :=
  if c = '\n' then ⟨[], true⟩ :: rest
  else match rest with
    | [] => [⟨[c], false⟩]
    | l :: rest => ⟨c :: l.text, l.terminated⟩ :: rest

/-- The lines of a text: each ends with a line feed, but perhaps the last. -/
def lines (s : Text) : List Line :=
  s.foldr addToLines []

@[simp] theorem lines_nil : lines [] = [] := rfl

@[simp] theorem lines_cons (c : Char) (s : Text) : lines (c :: s) = addToLines c (lines s) := rfl

theorem flatMap_whole_addToLines (c : Char) (rest : List Line) :
    (addToLines c rest).flatMap Line.whole = c :: rest.flatMap Line.whole := by
  unfold addToLines
  split
  · simp_all [Line.whole]
  · split <;> simp [Line.whole]

/-- **The lines of a text hold all of it**, in order. -/
theorem join_lines (s : Text) : (lines s).flatMap Line.whole = s := by
  induction s with
  | nil => rfl
  | cons c s ih => rw [lines_cons, flatMap_whole_addToLines, ih]

end Text

end GoOptional
