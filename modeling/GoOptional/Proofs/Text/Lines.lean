import Mathlib
import GoOptional.Text.Basic

/-!
# Lines of a text in parts

A text is cut after each line feed, so what comes after a line feed does not change the lines
before it. Lines that are complete can therefore be taken off the front of a text and put back.

## Main definitions

* `Text.Line.IsWhole`: a line that ends with its only line feed

## Main results

* `Text.lines_flatMap_whole_append`: whole lines at the start of a text are its first lines
* `Text.isWhole_of_lines_eq`: all lines before another one are whole
-/

namespace GoOptional.Text

/-- A line with a line feed at its end, and none before. -/
def Line.IsWhole (l : Line) : Prop :=
  l.terminated = true ∧ '\n' ∉ l.text

/-! ## The lines of two texts after each other -/

theorem addToLines_lineFeed (rest : List Line) : addToLines '\n' rest = ⟨[], true⟩ :: rest :=
  if_pos rfl

theorem addToLines_nil {c : Char} (h : c ≠ '\n') : addToLines c [] = [⟨[c], false⟩] :=
  if_neg h

theorem addToLines_cons {c : Char} (h : c ≠ '\n') (l : Line) (rest : List Line) :
    addToLines c (l :: rest) = ⟨c :: l.text, l.terminated⟩ :: rest :=
  if_neg h

theorem lines_append_of_not_mem {s : Text} (h : '\n' ∉ s) (t : Text) :
    lines (s ++ '\n' :: t) = ⟨s, true⟩ :: lines t := by
  induction s with
  | nil => exact addToLines_lineFeed _
  | cons c s ih =>
    rw [List.mem_cons, not_or] at h
    rw [List.cons_append, lines_cons, ih h.2, addToLines_cons (Ne.symm h.1)]

theorem lines_of_not_mem {s : Text} (h : '\n' ∉ s) (hs : s ≠ []) : lines s = [⟨s, false⟩] := by
  induction s with
  | nil => exact absurd rfl hs
  | cons c s ih =>
    rw [List.mem_cons, not_or] at h
    cases s with
    | nil => exact addToLines_nil (Ne.symm h.1)
    | cons d s => rw [lines_cons, ih h.2 (List.cons_ne_nil _ _), addToLines_cons (Ne.symm h.1)]

/-- **Whole lines at the start of a text** are its first lines. -/
theorem lines_flatMap_whole_append {ls : List Line} (h : ∀ l ∈ ls, l.IsWhole) (t : Text) :
    lines (ls.flatMap Line.whole ++ t) = ls ++ lines t := by
  induction ls with
  | nil => rfl
  | cons l ls ih =>
    obtain ⟨ht, hn⟩ := h l List.mem_cons_self
    rw [List.flatMap_cons, Line.whole, ht, if_pos rfl, List.append_assoc, List.append_assoc,
      List.singleton_append, lines_append_of_not_mem hn,
      ih fun k hk => h k (List.mem_cons_of_mem _ hk), ← ht]
    rfl

/-! ## The lines of a text one by one -/

theorem not_mem_of_mem_lines {s : Text} {l : Line} (h : l ∈ lines s) : '\n' ∉ l.text := by
  induction s generalizing l with
  | nil => cases h
  | cons c s ih =>
    rw [lines_cons] at h
    by_cases hc : c = '\n'
    · rw [hc, addToLines_lineFeed] at h
      rcases List.mem_cons.1 h with rfl | h
      · exact List.not_mem_nil
      · exact ih h
    · cases hl : lines s with
      | nil =>
        rw [hl, addToLines_nil hc, List.mem_singleton] at h
        simpa [h] using Ne.symm hc
      | cons k ks =>
        rw [hl, addToLines_cons hc] at h
        rcases List.mem_cons.1 h with rfl | h
        · exact List.not_mem_cons_of_ne_of_not_mem (Ne.symm hc) (ih (hl ▸ List.mem_cons_self))
        · exact ih (hl ▸ List.mem_cons_of_mem _ h)

/-- Only the last line of a text can lack a line feed. -/
theorem terminated_of_lines_eq {s : Text} (front : List Line) {l k : Line} {rest : List Line}
    (h : lines s = front ++ l :: k :: rest) : l.terminated = true := by
  induction s generalizing front l with
  | nil => simp at h
  | cons c s ih =>
    rw [lines_cons] at h
    by_cases hc : c = '\n'
    · rw [hc, addToLines_lineFeed] at h
      cases front with
      | nil => exact (List.cons.inj h).1 ▸ rfl
      | cons f front => exact ih front (List.cons.inj h).2
    · cases hl : lines s with
      | nil =>
        rw [hl, addToLines_nil hc] at h
        have hlength := congrArg List.length h
        simp at hlength
        omega
      | cons m ms =>
        rw [hl, addToLines_cons hc] at h
        cases front with
        | nil =>
          obtain ⟨rfl, rfl⟩ := List.cons.inj h
          exact ih [] (l := m) hl
        | cons f front => exact ih (m :: front) (by rw [hl, (List.cons.inj h).2]; rfl)

/-- All lines before another one are whole. -/
theorem isWhole_of_lines_eq {s : Text} {front rest : List Line} {k : Line}
    (h : lines s = front ++ k :: rest) {l : Line} (hl : l ∈ front) : l.IsWhole := by
  refine ⟨?_, not_mem_of_mem_lines (h ▸ List.mem_append_left _ hl)⟩
  obtain ⟨before, after, rfl⟩ := List.append_of_mem hl
  cases after with
  | nil =>
    rw [List.append_assoc] at h
    exact terminated_of_lines_eq before h
  | cons m after =>
    rw [List.append_assoc] at h
    exact terminated_of_lines_eq before h

end GoOptional.Text
