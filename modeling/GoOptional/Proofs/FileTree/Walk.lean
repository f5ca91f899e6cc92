import Mathlib
import GoOptional.FileTree.Resolve

/-!
# Walks

A walk along a path that leads somewhere is a derivation: one rule for every kind of step and of
entry. What is known of the entries on the way is then used by induction on the derivation. The
links that a walk follows are counted, and a walk with fewer links left finds nothing else; it only
gives up earlier.

## Main definitions

* `FileTree.Leads`: steps lead from a directory to a destination

## Main results

* `FileTree.walk_eq_ok_iff`: the walks that succeed
* `FileTree.Leads.exists_walk_append`: a walk goes on from the directory to which it led
* `FileTree.Leads.of_append`: a walk to a directory leads to directories on the way
* `FileTree.walk_of_le`: what more links change
-/

namespace GoOptional.FileTree

open GoOptional.Path (Step)

/-- Steps lead from a directory to a destination, with at most `n` links followed. -/
inductive Leads (t : FileTree) : Nat → Location → List Step → Destination → Prop
  | done {n l} : Leads t n l [] (.directory l)
  | here {n l rest d} (h : Leads t n l rest d) : Leads t n l (.here :: rest) d
  | up {n l rest d} (h : Leads t n l.tail rest d) : Leads t n l (.up :: rest) d
  | vacant {n l name} (hname : name.length ≤ nameLimit) (hentry : t.get? (name :: l) = none) :
      Leads t n l [.down name] (.vacant (name :: l))
  | file {n l name mode content} (hname : name.length ≤ nameLimit)
      (hentry : t.get? (name :: l) = some (.file mode content)) :
      Leads t n l [.down name] (.file (name :: l) mode content)
  | directory {n l name rest d} (hname : name.length ≤ nameLimit)
      (hentry : t.get? (name :: l) = some .directory) (h : Leads t n (name :: l) rest d) :
      Leads t n l (.down name :: rest) d
  | link {n l name rest d target} (hname : name.length ≤ nameLimit)
      (hentry : t.get? (name :: l) = some (.link target))
      (h : Leads t n (startOf target l) (target.steps ++ rest) d) :
      Leads t (n + 1) l (.down name :: rest) d

variable {t : FileTree} {n : Nat} {l : Location} {steps rest : List Step} {name : Bytes}
  {d : Destination}

/-! ## One step of a walk -/

theorem walk_nil : t.walk n l [] = .ok (.directory l) := by
  cases n <;> rfl

theorem walk_here : t.walk n l (.here :: rest) = t.walk n l rest := by
  cases n <;> rfl

theorem walk_up : t.walk n l (.up :: rest) = t.walk n l.tail rest := by
  cases n <;> rfl

theorem walk_of_nameLimit_lt (h : nameLimit < name.length) :
    t.walk n l (.down name :: rest) = .error .nameTooLong := by
  cases n <;> rw [walk, walkWith, if_pos h]

section Down

variable (hname : name.length ≤ nameLimit)
include hname

theorem walk_of_none (h : t.get? (name :: l) = none) : t.walk n l (.down name :: rest) =
    if rest.isEmpty then .ok (.vacant (name :: l)) else .error .notFound := by
  cases n <;> rw [walk, walkWith, if_neg (Nat.not_lt.2 hname), h]

theorem walk_of_directory (h : t.get? (name :: l) = some .directory) :
    t.walk n l (.down name :: rest) = t.walk n (name :: l) rest := by
  cases n <;> rw [walk, walkWith, if_neg (Nat.not_lt.2 hname), h]

theorem walk_of_file {mode : Nat} {content : Bytes}
    (h : t.get? (name :: l) = some (.file mode content)) : t.walk n l (.down name :: rest) =
      if rest.isEmpty then .ok (.file (name :: l) mode content) else .error .notDirectory := by
  cases n <;> rw [walk, walkWith, if_neg (Nat.not_lt.2 hname), h]

theorem walk_zero_of_link {target : Path} (h : t.get? (name :: l) = some (.link target)) :
    t.walk 0 l (.down name :: rest) = .error .linkLoop := by
  rw [walk, walkWith, if_neg (Nat.not_lt.2 hname), h]

theorem walk_succ_of_link {target : Path} (h : t.get? (name :: l) = some (.link target)) :
    t.walk (n + 1) l (.down name :: rest) =
      t.walk n (startOf target l) (target.steps ++ rest) := by
  rw [walk, walkWith, if_neg (Nat.not_lt.2 hname), h]

end Down

/-- Steps get fewer, but for those of a link, which leaves fewer links to be followed. So what is
proved of walks is proved on the links that are left, and on the steps while their number stays. -/
theorem walk_induction {motive : Nat → Location → List Step → Prop}
    (nil : ∀ n l, motive n l [])
    (here : ∀ n l rest, motive n l rest → motive n l (.here :: rest))
    (up : ∀ n l rest, motive n l.tail rest → motive n l (.up :: rest))
    (down : ∀ n l name rest, motive n (name :: l) rest →
      (∀ m, n = m + 1 → ∀ k steps, motive m k steps) → motive n l (.down name :: rest))
    (n : Nat) (l : Location) (steps : List Step) : motive n l steps := by
  induction n using Nat.strong_induction_on generalizing l steps with
  | _ n ih =>
    induction steps generalizing l with
    | nil => exact nil n l
    | cons s rest ihs =>
      cases s with
      | here => exact here n l rest (ihs l)
      | up => exact up n l rest (ihs l.tail)
      | down name => exact down n l name rest (ihs (name :: l)) fun m hm => ih m (by omega)

/-! ## Walks that succeed -/

theorem Leads.walk_eq (h : Leads t n l steps d) : t.walk n l steps = .ok d := by
  induction h with
  | done => exact walk_nil
  | here _ ih => rw [walk_here, ih]
  | up _ ih => rw [walk_up, ih]
  | vacant hname hentry => rw [walk_of_none hname hentry]; rfl
  | file hname hentry => rw [walk_of_file hname hentry]; rfl
  | directory hname hentry _ ih => rw [walk_of_directory hname hentry, ih]
  | link hname hentry _ ih => rw [walk_succ_of_link hname hentry, ih]

/-- A step down that succeeds has a name that is not too long. -/
theorem length_le_of_walk_eq (h : t.walk n l (.down name :: rest) = .ok d) :
    name.length ≤ nameLimit := by
  by_contra hlong
  rw [walk_of_nameLimit_lt (Nat.not_le.1 hlong)] at h
  cases h

/-- A walk that succeeds ends with no error on the way, and what is left are the rules. -/
theorem leads_of_walk_eq (h : t.walk n l steps = .ok d) : Leads t n l steps d := by
  induction n, l, steps using walk_induction with
  | nil n l =>
    rw [walk_nil, Except.ok.injEq] at h
    exact h ▸ .done
  | here n l rest ih => exact .here (ih (walk_here ▸ h))
  | up n l rest ih => exact .up (ih (walk_up ▸ h))
  | down n l name rest ih ihlink =>
    have hname := length_le_of_walk_eq h
    cases hentry : t.get? (name :: l) with
    | none =>
      rw [walk_of_none hname hentry] at h
      cases rest with
      | nil => cases h; exact .vacant hname hentry
      | cons s rest => cases h
    | some e =>
      cases e with
      | directory => exact .directory hname hentry (ih (walk_of_directory hname hentry ▸ h))
      | file mode content =>
        rw [walk_of_file hname hentry] at h
        cases rest with
        | nil => cases h; exact .file hname hentry
        | cons s rest => cases h
      | link target =>
        cases n with
        | zero => rw [walk_zero_of_link hname hentry] at h; cases h
        | succ n =>
          exact .link hname hentry (ihlink n rfl _ _ (walk_succ_of_link hname hentry ▸ h))

/-- **The walks that succeed** are derivations. -/
theorem walk_eq_ok_iff : t.walk n l steps = .ok d ↔ Leads t n l steps d :=
  ⟨leads_of_walk_eq, Leads.walk_eq⟩

/-! ## Links that are left -/

/-- One more link changes nothing, unless links ran out. -/
theorem walk_succ (h : t.walk n l steps ≠ .error .linkLoop) :
    t.walk (n + 1) l steps = t.walk n l steps := by
  induction n, l, steps using walk_induction with
  | nil n l => rw [walk_nil, walk_nil]
  | here n l rest ih =>
    rw [walk_here] at h ⊢
    rw [walk_here, ih h]
  | up n l rest ih =>
    rw [walk_up] at h ⊢
    rw [walk_up, ih h]
  | down n l name rest ih ihlink =>
    by_cases hlong : nameLimit < name.length
    · rw [walk_of_nameLimit_lt hlong, walk_of_nameLimit_lt hlong]
    have hname := Nat.not_lt.1 hlong
    cases hentry : t.get? (name :: l) with
    | none => rw [walk_of_none hname hentry, walk_of_none hname hentry]
    | some e =>
      cases e with
      | directory =>
        rw [walk_of_directory hname hentry] at h ⊢
        rw [walk_of_directory hname hentry, ih h]
      | file mode content => rw [walk_of_file hname hentry, walk_of_file hname hentry]
      | link target =>
        cases n with
        | zero => exact absurd (walk_zero_of_link hname hentry) h
        | succ n =>
          rw [walk_succ_of_link hname hentry] at h ⊢
          rw [walk_succ_of_link hname hentry, ihlink n rfl _ _ h]

/-- **More links change nothing**, unless links ran out. -/
theorem walk_of_le {m : Nat} (hnm : n ≤ m) (h : t.walk n l steps ≠ .error .linkLoop) :
    t.walk m l steps = t.walk n l steps := by
  induction m, hnm using Nat.le_induction with
  | base => rfl
  | succ m _ ih => rw [walk_succ (by rwa [ih]), ih]

/-- With any number of links, a walk leads to where it leads or links run out: whichever of two
walks has fewer links, the other one agrees with it. -/
theorem Leads.walk_eq_or {m : Nat} (h : Leads t n l steps d) :
    t.walk m l steps = .ok d ∨ t.walk m l steps = .error .linkLoop := by
  by_cases hloop : t.walk m l steps = .error .linkLoop
  · exact Or.inr hloop
  · left
    rcases Nat.le_total n m with hnm | hmn
    · rw [walk_of_le hnm (by rw [h.walk_eq]; simp), h.walk_eq]
    · rw [← walk_of_le hmn hloop, h.walk_eq]

/-! ## Walks after each other -/

/-- **A walk goes on** from the directory to which it led. -/
theorem Leads.exists_walk_append {k : Location} (h : Leads t n l steps (.directory k)) :
    ∃ m ≤ n, ∀ rest, t.walk n l (steps ++ rest) = t.walk m k rest := by
  generalize hd : Destination.directory k = d at h
  induction h with
  | done =>
    obtain rfl := Destination.directory.inj hd
    exact ⟨_, le_rfl, fun rest => rfl⟩
  | here _ ih =>
    obtain ⟨m, hm, hwalk⟩ := ih hd
    exact ⟨m, hm, fun rest => by rw [List.cons_append, walk_here, hwalk]⟩
  | up _ ih =>
    obtain ⟨m, hm, hwalk⟩ := ih hd
    exact ⟨m, hm, fun rest => by rw [List.cons_append, walk_up, hwalk]⟩
  | vacant => cases hd
  | file => cases hd
  | directory hname hentry _ ih =>
    obtain ⟨m, hm, hwalk⟩ := ih hd
    exact ⟨m, hm, fun rest => by rw [List.cons_append, walk_of_directory hname hentry, hwalk]⟩
  | link hname hentry _ ih =>
    obtain ⟨m, hm, hwalk⟩ := ih hd
    refine ⟨m, hm.trans (Nat.le_succ _), fun rest => ?_⟩
    rw [List.cons_append, walk_succ_of_link hname hentry, ← List.append_assoc, hwalk]

/-- **A walk to a directory** leads to a directory with its first steps. The steps of a link on the
way come before what is left of the first steps. -/
theorem Leads.of_append {first : List Step} {k : Location}
    (h : Leads t n l (first ++ rest) (.directory k)) :
    ∃ j, Leads t n l first (.directory j) := by
  generalize hs : first ++ rest = steps at h
  generalize hd : Destination.directory k = d at h
  induction h generalizing first with
  | done =>
    rw [(List.append_eq_nil_iff.1 hs).1]
    exact ⟨_, .done⟩
  | here _ ih =>
    rcases List.append_eq_cons_iff.1 hs with ⟨rfl, -⟩ | ⟨first', rfl, hs'⟩
    · exact ⟨_, .done⟩
    · obtain ⟨j, hj⟩ := ih hs'.symm hd
      exact ⟨j, .here hj⟩
  | up _ ih =>
    rcases List.append_eq_cons_iff.1 hs with ⟨rfl, -⟩ | ⟨first', rfl, hs'⟩
    · exact ⟨_, .done⟩
    · obtain ⟨j, hj⟩ := ih hs'.symm hd
      exact ⟨j, .up hj⟩
  | vacant => cases hd
  | file => cases hd
  | directory hname hentry _ ih =>
    rcases List.append_eq_cons_iff.1 hs with ⟨rfl, -⟩ | ⟨first', rfl, hs'⟩
    · exact ⟨_, .done⟩
    · obtain ⟨j, hj⟩ := ih hs'.symm hd
      exact ⟨j, .directory hname hentry hj⟩
  | link hname hentry _ ih =>
    rcases List.append_eq_cons_iff.1 hs with ⟨rfl, -⟩ | ⟨first', rfl, rfl⟩
    · exact ⟨_, .done⟩
    · obtain ⟨j, hj⟩ := ih (List.append_assoc _ _ _) hd
      exact ⟨j, .link hname hentry hj⟩

end GoOptional.FileTree
