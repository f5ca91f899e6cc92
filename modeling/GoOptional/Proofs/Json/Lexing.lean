import Mathlib
import GoOptional.Json.Token
import GoOptional.Proofs.Json.Numeral

/-!
# Tokens of texts in parts

A text that starts and ends between tokens has its tokens wherever it stands, so a text in parts is
read part by part. A text that ends in a number does not end by itself: its last token is complete
only before something that may come after a value, as which commas and closing brackets count.

## Main definitions

* `Json.Lexes`: a text is read as tokens, wherever it stands between others
* `Json.LexesBefore`: a text is read as tokens, before all that may come after a value
* `Json.Token.separated`: the tokens of parts with commas between them

## Main results

* `Json.LexesBefore.tokens_eq`: the tokens of such a text
* `Json.lexesBefore_join`: parts with commas between them are read one after the other
-/

namespace GoOptional.Json

variable {s s' : Text} {ts ts' : List Token} {c : Char} {t : Token}

/-! ## Texts between tokens -/

/-- A text is read as tokens: it starts between tokens, and it ends there. -/
def Lexes (s : Text) (ts : List Token) : Prop :=
  ∀ done, s.foldl Lexer.step ⟨done, .between⟩ = ⟨ts.reverse ++ done, .between⟩

namespace Lexes

theorem nil : Lexes [] [] := fun _ => rfl

theorem append (h : Lexes s ts) (h' : Lexes s' ts') : Lexes (s ++ s') (ts ++ ts') := by
  intro done
  rw [List.foldl_append, h, h', List.reverse_append, List.append_assoc]

/-- A character that is a token of its own. -/
theorem cons (ht : ∀ done, Lexer.start done c = Lexer.push done t) (h : Lexes s ts) :
    Lexes (c :: s) (t :: ts) := by
  intro done
  have hstep : Lexer.step ⟨done, .between⟩ c = ⟨t :: done, .between⟩ := ht done
  rw [List.foldl_cons, hstep, h, List.reverse_cons, List.append_assoc, List.singleton_append]

end Lexes

/-! ## Tokens before a delimiter -/

/-- What comes next, if anything does, may come after a value. -/
def Delimits (rest : Text) : Prop :=
  ∀ c ∈ rest.head?, isDelimiter c = true

/-- A text is read as tokens before all that may come after a value: it starts between tokens, and
what comes next is read as if between tokens. -/
def LexesBefore (s : Text) (ts : List Token) : Prop :=
  ∀ done rest, Delimits rest → ((s ++ rest).foldl Lexer.step ⟨done, .between⟩).finish =
    (rest.foldl Lexer.step ⟨ts.reverse ++ done, .between⟩).finish

theorem Lexes.before (h : Lexes s ts) (h' : LexesBefore s' ts') :
    LexesBefore (s ++ s') (ts ++ ts') := by
  intro done rest hrest
  rw [List.append_assoc, List.foldl_append, h, h' _ _ hrest, List.reverse_append,
    List.append_assoc]

namespace LexesBefore

theorem nil : LexesBefore [] [] := fun _ _ _ => rfl

theorem of_lexes (h : Lexes s ts) : LexesBefore s ts := by
  have hbefore := h.before .nil
  rwa [List.append_nil, List.append_nil] at hbefore

/-- What comes after a value starts with a delimiter. -/
theorem append (h : LexesBefore s ts) (hc : isDelimiter c = true)
    (h' : LexesBefore (c :: s') ts') : LexesBefore (s ++ c :: s') (ts ++ ts') := by
  intro done rest hrest
  have hdelimits : Delimits (c :: s' ++ rest) := by
    rintro _ ⟨⟩
    exact hc
  rw [List.append_assoc, h _ _ hdelimits, h' _ _ hrest, List.reverse_append, List.append_assoc]

/-- **The tokens of a text** are complete at its end. -/
theorem tokens_eq (h : LexesBefore s ts) : tokens s = ts := by
  have hend := h [] [] (fun _ hc => nomatch hc)
  rw [List.append_nil, List.append_nil] at hend
  exact hend.trans (List.reverse_reverse ts)

end LexesBefore

/-! ## Lists -/

/-- The tokens of parts with commas between them. -/
def Token.separated : List (List Token) → List Token
  | [] => []
  | ts :: tss => ts ++ tss.flatMap (.comma :: ·)

/-- Parts after each other, with the separator before each one but the first. -/
theorem join_cons (separator part : Text) (parts : List Text) :
    Text.join separator (part :: parts) = part ++ parts.flatMap (separator ++ ·) := by
  induction parts generalizing part with
  | nil => simp [Text.join]
  | cons next parts ih =>
    have hjoin : Text.join separator (part :: next :: parts) =
        part ++ (separator ++ Text.join separator (next :: parts)) := by
      simp [Text.join]
    rw [hjoin, ih, List.flatMap_cons, List.append_assoc]

/-- Parts with a comma before each one, before what closes them. -/
theorem lexesBefore_flatMap {α : Type} {xs : List α} {f : α → Text} {g : α → List Token}
    (h : ∀ x ∈ xs, LexesBefore (f x) (g x)) (hc : isDelimiter c = true)
    (hclose : LexesBefore (c :: s') ts') :
    LexesBefore (xs.flatMap (fun x => ',' :: f x) ++ c :: s')
      (xs.flatMap (fun x => .comma :: g x) ++ ts') := by
  have hcomma : Lexes [','] [.comma] := .cons (fun _ => rfl) .nil
  induction xs with
  | nil => exact hclose
  | cons x xs ih =>
    obtain ⟨hx, hxs⟩ := List.forall_mem_cons.1 h
    rw [List.flatMap_cons, List.flatMap_cons, List.append_assoc, List.append_assoc]
    refine hcomma.before ?_
    cases xs with
    | nil => exact hx.append hc hclose
    | cons y xs => exact hx.append (by decide) (ih hxs)

/-- **Parts with commas between them** are read one after the other. -/
theorem lexesBefore_join {α : Type} {xs : List α} {f : α → Text} {g : α → List Token}
    (h : ∀ x ∈ xs, LexesBefore (f x) (g x)) (hc : isDelimiter c = true)
    (hclose : LexesBefore (c :: s') ts') :
    LexesBefore (Text.join ",".toList (xs.map f) ++ c :: s')
      (Token.separated (xs.map g) ++ ts') := by
  cases xs with
  | nil => exact hclose
  | cons x xs =>
    obtain ⟨hx, hxs⟩ := List.forall_mem_cons.1 h
    have hrest := lexesBefore_flatMap hxs hc hclose
    rw [List.map_cons, List.map_cons, join_cons, Token.separated, List.flatMap_map,
      List.flatMap_map, List.append_assoc, List.append_assoc]
    cases xs with
    | nil => exact hx.append hc hrest
    | cons y xs => exact hx.append (by decide) hrest

end GoOptional.Json
