import Mathlib
import GoOptional.Proofs.FileTree.Replace

/-!
# The parent of a path

The directory of a file is looked up in two ways: along the path up to its last name, and along the
parent of the path as it is spelled. The spelling leaves out slashes and steps that stay in their
directory at its end, so both ways lead to the same directory if one of them leads to any.

## Main definitions

* `Path.EndsWithName`: a path that ends with a name that a file can have
* `Path.Stays`: steps that stay in their directory

## Main results

* `Path.pieces_ofPieces`: a path is cut into the pieces of which it is made
* `Path.exists_steps_parent`: the steps of a parent, and where they start
* `FileTree.leads_of_parent`: the steps before the last name of a path lead to its parent
* `FileTree.slot_eq_of_parent`: the last name of a path stands for an entry of its parent
-/

namespace GoOptional

namespace Path

/-! ## Pieces -/

theorem pieces_cons (b : UInt8) (p : Path) : pieces (b :: p) = addToPieces b (pieces p) := rfl

theorem addToPieces_slash (ps : List Bytes) : addToPieces slash ps = [] :: ps :=
  if_pos rfl

theorem addToPieces_cons {b : UInt8} (h : b ≠ slash) (q : Bytes) (ps : List Bytes) :
    addToPieces b (q :: ps) = (b :: q) :: ps :=
  if_neg h

theorem pieces_of_not_mem {s : Bytes} (h : slash ∉ s) : pieces s = [s] := by
  induction s with
  | nil => rfl
  | cons b s ih =>
    rw [List.mem_cons, not_or] at h
    rw [pieces_cons, ih h.2, addToPieces_cons (Ne.symm h.1)]

theorem exists_pieces_eq_cons (p : Path) : ∃ q ps, pieces p = q :: ps := by
  cases p with
  | nil => exact ⟨[], [], rfl⟩
  | cons b p =>
    rw [pieces_cons]
    by_cases hb : b = slash
    · rw [hb, addToPieces_slash]
      exact ⟨_, _, rfl⟩
    · cases pieces p with
      | nil => exact ⟨[b], [], if_neg hb⟩
      | cons q ps => exact ⟨b :: q, ps, addToPieces_cons hb q ps⟩

/-- **A slash cuts a path** in two. -/
theorem pieces_append_slash (p s : Path) : pieces (p ++ slash :: s) = pieces p ++ pieces s := by
  induction p with
  | nil => exact addToPieces_slash _
  | cons b p ih =>
    rw [List.cons_append, pieces_cons, ih, pieces_cons]
    by_cases hb : b = slash
    · rw [hb, addToPieces_slash, addToPieces_slash, List.cons_append]
    · obtain ⟨q, ps, hp⟩ := exists_pieces_eq_cons p
      rw [hp, List.cons_append, addToPieces_cons hb, addToPieces_cons hb, List.cons_append]

theorem not_mem_of_mem_pieces {p : Path} {q : Bytes} (h : q ∈ pieces p) : slash ∉ q := by
  induction p generalizing q with
  | nil =>
    rw [List.mem_singleton.1 h]
    exact List.not_mem_nil
  | cons b p ih =>
    rw [pieces_cons] at h
    by_cases hb : b = slash
    · rw [hb, addToPieces_slash] at h
      rcases List.mem_cons.1 h with rfl | h
      · exact List.not_mem_nil
      · exact ih h
    · obtain ⟨r, ps, hp⟩ := exists_pieces_eq_cons p
      rw [hp, addToPieces_cons hb] at h
      rcases List.mem_cons.1 h with rfl | h
      · exact List.not_mem_cons_of_ne_of_not_mem (Ne.symm hb) (ih (hp ▸ List.mem_cons_self))
      · exact ih (hp ▸ List.mem_cons_of_mem _ h)

/-- **A path is cut into the pieces** of which it is made. -/
theorem pieces_ofPieces {ps : List Bytes} (hne : ps ≠ []) (h : ∀ q ∈ ps, slash ∉ q) :
    pieces (ofPieces ps) = ps := by
  induction ps with
  | nil => exact absurd rfl hne
  | cons q ps ih =>
    obtain ⟨hq, hps⟩ := List.forall_mem_cons.1 h
    cases ps with
    | nil =>
      rw [ofPieces, List.intersperse_singleton, List.flatten_singleton, pieces_of_not_mem hq]
    | cons r ps =>
      have hof : ofPieces (q :: r :: ps) = q ++ slash :: ofPieces (r :: ps) := by
        simp [ofPieces, List.intersperse]
      rw [hof, pieces_append_slash, pieces_of_not_mem hq, ih (List.cons_ne_nil _ _) hps]
      rfl

theorem endsWithSlash_of_pieces {p : Path} {ps : List Bytes} {q : Bytes}
    (hp : pieces p = ps ++ [q]) (hq : q ≠ []) : endsWithSlash p = false := by
  rw [endsWithSlash, beq_eq_false_iff_ne]
  intro hlast
  obtain ⟨front, rfl⟩ := List.getLast?_eq_some_iff.1 hlast
  rw [pieces_append_slash] at hp
  exact hq (List.cons.inj (List.append_inj' hp rfl).2).1.symm

/-! ## Steps that stay where they are -/

/-- Steps that stay in their directory. -/
def Stays (steps : List Step) : Prop :=
  ∀ s ∈ steps, s = .here

/-- The pieces that are left out at the end of a parent are those that lead nowhere: an empty piece
is no step, and a dot is one that stays. -/
theorem exists_trimPieces_eq (absolute : Bool) (ps : List Bytes) :
    ∃ dropped, ps = dropped ++ trimPieces absolute ps ∧ Stays (dropped.filterMap step?) ∧
      ∀ q rest, trimPieces absolute ps = q :: rest → q ≠ [] := by
  induction ps with
  | nil => exact ⟨[], rfl, List.forall_mem_nil _, fun q rest h => by cases h⟩
  | cons q ps ih =>
    rw [trimPieces]
    split_ifs with hq
    · obtain ⟨dropped, hdropped, hstays, hhead⟩ := ih
      refine ⟨q :: dropped, by rw [List.cons_append, ← hdropped], ?_, hhead⟩
      rw [Bool.or_eq_true, List.isEmpty_iff, Bool.and_eq_true, decide_eq_true_eq] at hq
      rcases hq with rfl | ⟨rfl, -⟩
      · exact hstays
      · exact List.forall_mem_cons.2 ⟨rfl, hstays⟩
    · refine ⟨[], rfl, List.forall_mem_nil _, fun r rest h => ?_⟩
      obtain ⟨rfl, -⟩ := List.cons.inj h
      rw [Bool.or_eq_true, not_or, List.isEmpty_iff] at hq
      exact hq.1

/-- A path that starts with an empty piece starts at the root, if it is not empty itself. -/
theorem isAbsolute_of_pieces {p : Path} {ps : List Bytes} (hp : pieces p = [] :: ps)
    (hne : ps ≠ []) : p.isAbsolute = true := by
  cases p with
  | nil => exact absurd (List.cons.inj hp).2.symm hne
  | cons b p =>
    by_cases hb : b = slash
    · rw [hb]
      rfl
    · obtain ⟨q, qs, hq⟩ := exists_pieces_eq_cons p
      rw [pieces_cons, hq, addToPieces_cons hb] at hp
      cases hp

/-- The pieces before the last one, without the empty piece at the start of an absolute path, which
is neither a name nor a step. -/
theorem exists_body_eq {p : Path} {before : List Bytes} {name : Bytes}
    (hp : pieces p = before ++ [name]) (hname : name ≠ []) :
    ∃ front, (if p.isAbsolute then p.pieces.tail else p.pieces) = front ++ [name] ∧
      front.filterMap step? = before.filterMap step? ∧ (∀ q ∈ front, slash ∉ q) ∧
      (p.isAbsolute = false → front.head? ≠ some []) := by
  have hslash : ∀ q ∈ before, slash ∉ q := fun q hq =>
    not_mem_of_mem_pieces (hp ▸ List.mem_append_left _ hq)
  split_ifs with habs
  · obtain ⟨rest, rfl⟩ : ∃ rest, p = slash :: rest := by
      cases p with
      | nil => cases habs
      | cons b rest => exact ⟨rest, by rw [Option.some.inj (beq_iff_eq.1 habs)]⟩
    rw [pieces_cons, addToPieces_slash] at hp ⊢
    cases before with
    | nil => exact absurd (List.cons.inj hp).1.symm hname
    | cons q before =>
      obtain ⟨rfl, hrest⟩ := List.cons.inj hp
      exact ⟨before, hrest, rfl, (List.forall_mem_cons.1 hslash).2, fun h => by cases h⟩
  · refine ⟨before, hp, rfl, hslash, fun _ hhead => habs ?_⟩
    obtain ⟨before, rfl⟩ := List.head?_eq_some_iff.1 hhead
    exact isAbsolute_of_pieces hp (List.append_ne_nil_of_right_ne_nil _ (List.cons_ne_nil _ _))

theorem steps_of_pieces {p : Path} {ps : List Bytes} {q : Bytes} (hp : pieces p = ps ++ [q])
    (hq : q ≠ []) : p.steps = (ps ++ [q]).filterMap step? := by
  rw [steps, endsWithSlash_of_pieces hp hq, if_neg Bool.false_ne_true, List.append_nil, hp]

/-- A parent as it is spelled, from the pieces that are left of it. -/
def spell (absolute : Bool) (kept : List Bytes) : Path :=
  let spelled := (if absolute then [slash] else []) ++ ofPieces kept
  if spelled.isEmpty then dot else spelled

theorem parent_eq {p : Path} {front : List Bytes} {name : Bytes}
    (hbody : (if p.isAbsolute then p.pieces.tail else p.pieces) = front ++ [name])
    (hname : name ≠ []) (hdot : name ≠ dot) :
    p.parent = spell p.isAbsolute (trimPieces p.isAbsolute front.reverse).reverse := by
  have htrim : trimPieces p.isAbsolute (front ++ [name]).reverse = name :: front.reverse := by
    rw [List.reverse_append, List.reverse_singleton, List.singleton_append, trimPieces,
      if_neg (by simp [hname, hdot])]
  rw [parent, hbody, htrim, spell]

/-- The steps of a parent are those of its pieces; the root, and the directory itself, are spelled
with a step that stays. -/
theorem exists_steps_spell (absolute : Bool) {kept : List Bytes} (hslash : ∀ q ∈ kept, slash ∉ q)
    (hlast : ∀ ps q, kept = ps ++ [q] → q ≠ []) :
    ∃ here, (spell absolute kept).steps = kept.filterMap step? ++ here ∧ Stays here := by
  rcases List.eq_nil_or_concat' kept with rfl | ⟨ps, q, rfl⟩
  · exact ⟨[.here], by cases absolute <;> rfl, by simp [Stays]⟩
  · have hq := hlast ps q rfl
    have hpieces : pieces (ofPieces (ps ++ [q])) = ps ++ [q] :=
      pieces_ofPieces (List.append_ne_nil_of_right_ne_nil _ (List.cons_ne_nil _ _)) hslash
    refine ⟨[], ?_, List.forall_mem_nil _⟩
    rw [List.append_nil]
    cases absolute with
    | true =>
      have hcut : pieces (slash :: ofPieces (ps ++ [q])) = ([] :: ps) ++ [q] := by
        rw [pieces_cons, addToPieces_slash, hpieces, List.cons_append]
      exact (steps_of_pieces hcut hq).trans rfl
    | false =>
      have hne : ofPieces (ps ++ [q]) ≠ [] := by
        intro hnil
        rw [hnil] at hpieces
        have hend : some [] = some q := by simpa [pieces] using congrArg List.getLast? hpieces
        exact hq (Option.some.inj hend).symm
      rw [spell, if_neg Bool.false_ne_true, List.nil_append, if_neg (by simpa using hne)]
      exact steps_of_pieces hpieces hq

/-- A parent starts at the root if its first piece does. -/
theorem isAbsolute_spell {absolute : Bool} {kept : List Bytes} (hslash : ∀ q ∈ kept, slash ∉ q)
    (hfirst : absolute = false → kept.head? ≠ some []) :
    (spell absolute kept).isAbsolute = absolute := by
  cases absolute with
  | true => rfl
  | false =>
    cases kept with
    | nil => rfl
    | cons q kept =>
      cases q with
      | nil => exact absurd rfl (hfirst rfl)
      | cons b q =>
        have hb : b ≠ slash := fun h => hslash _ List.mem_cons_self (h ▸ List.mem_cons_self)
        have hspell : ∃ rest, spell false ((b :: q) :: kept) = b :: rest := by
          cases kept with
          | nil => exact ⟨_, rfl⟩
          | cons r kept => exact ⟨_, rfl⟩
        obtain ⟨rest, hrest⟩ := hspell
        rw [hrest, isAbsolute, List.head?_cons, beq_eq_false_iff_ne]
        exact fun h => hb (Option.some.inj h)

/-- **The steps of a parent** are those before the last name, but for steps at the end that stay
where they are, and they start where those of the path start. -/
theorem exists_steps_parent {p : Path} {before : List Bytes} {name : Bytes}
    (hp : pieces p = before ++ [name]) (hname : name ≠ []) (hdot : name ≠ dot) :
    p.parent.isAbsolute = p.isAbsolute ∧ ∃ base here here', p.parent.steps = base ++ here ∧
      before.filterMap step? = base ++ here' ∧ Stays here ∧ Stays here' := by
  obtain ⟨front, hbody, hfront, hslash, hfirst⟩ := exists_body_eq hp hname
  obtain ⟨dropped, hdropped, hstays, hhead⟩ := exists_trimPieces_eq p.isAbsolute front.reverse
  rw [parent_eq hbody hname hdot]
  generalize trimPieces p.isAbsolute front.reverse = kept at hdropped hhead ⊢
  have hsplit : front = kept.reverse ++ dropped.reverse := by
    rw [← List.reverse_append, ← hdropped, List.reverse_reverse]
  have hkept : ∀ q ∈ kept.reverse, slash ∉ q := fun q hq =>
    hslash q (hsplit ▸ List.mem_append_left _ hq)
  have hkeptFirst : p.isAbsolute = false → kept.reverse.head? ≠ some [] := by
    intro habs hnil
    obtain ⟨rest, hrest⟩ := List.head?_eq_some_iff.1 hnil
    refine hfirst habs ?_
    rw [hsplit, hrest]
    rfl
  obtain ⟨here, hsteps, hhere⟩ := exists_steps_spell p.isAbsolute hkept
    (fun ps q h => hhead q ps.reverse (by rw [← List.reverse_reverse kept, h]; simp))
  refine ⟨isAbsolute_spell hkept hkeptFirst, _, here, (dropped.filterMap step?).reverse, hsteps,
    ?_, hhere, ?_⟩
  · rw [← hfront, hsplit, List.filterMap_append, List.filterMap_reverse (l := dropped)]
  · exact fun s hs => hstays s (List.mem_reverse.1 hs)

/-! ## Paths to files -/

/-- A path that ends with a name that a file can have: there is no slash after it, and it is no
step to the directory itself or to its parent. -/
structure EndsWithName (p : Path) (name : Bytes) : Prop where
  eq_or : p = name ∨ ∃ front, p = front ++ slash :: name
  slash_not_mem : slash ∉ name
  ne_nil : name ≠ []
  ne_dot : name ≠ dot
  ne_dotDot : name ≠ dotDot

namespace EndsWithName

variable {p : Path} {name : Bytes}

theorem exists_pieces_eq (h : p.EndsWithName name) : ∃ before, p.pieces = before ++ [name] := by
  rcases h.eq_or with rfl | ⟨front, rfl⟩
  · exact ⟨[], pieces_of_not_mem h.slash_not_mem⟩
  · exact ⟨front.pieces, by rw [pieces_append_slash, pieces_of_not_mem h.slash_not_mem]⟩

theorem step?_eq (h : p.EndsWithName name) : step? name = some (.down name) := by
  rw [step?, if_neg (by simpa using h.ne_nil), if_neg h.ne_dot, if_neg h.ne_dotDot]

end EndsWithName

end Path

namespace FileTree

open GoOptional.Path (Stays Step)

variable {t : FileTree} {n : Nat} {l : Location} {p : Path} {name : Bytes}

/-! ## The directory of a path -/

theorem walk_of_stays {steps : List Step} (h : Stays steps) :
    t.walk n l steps = .ok (.directory l) := by
  induction steps with
  | nil => exact walk_nil
  | cons s steps ih =>
    obtain ⟨rfl, hstays⟩ := List.forall_mem_cons.1 h
    rw [walk_here, ih hstays]

/-- Steps that stay in their directory can be replaced by others. -/
theorem Leads.append_stays {base here here' : List Step} {directory : Location}
    (h : Leads t n l (base ++ here) (.directory directory)) (hhere : Stays here)
    (hhere' : Stays here') : Leads t n l (base ++ here') (.directory directory) := by
  obtain ⟨j, hbase⟩ := h.of_append
  obtain ⟨m, -, hwalk⟩ := hbase.exists_walk_append
  have hj := h.walk_eq
  rw [hwalk, walk_of_stays hhere] at hj
  rw [← walk_eq_ok_iff, hwalk, walk_of_stays hhere', hj]

/-- **The steps before the last name** of a path lead where its parent leads. -/
theorem leads_of_parent (hp : p.EndsWithName name) (hparent : t.resolveDirectory p.parent = .ok l) :
    ∃ before, p.pieces.filterMap Path.step? = before ++ [.down name] ∧ p.endsWithSlash = false ∧
      Leads t linkLimit (t.start p) before (.directory l) := by
  obtain ⟨before, hpieces⟩ := hp.exists_pieces_eq
  obtain ⟨habs, base, here, here', hsteps, hbefore, hhere, hhere'⟩ :=
    Path.exists_steps_parent hpieces hp.ne_nil hp.ne_dot
  have hstart : t.start p.parent = t.start p := by rw [start, start, startOf, startOf, habs]
  have hleads := (resolve_eq_ok_iff.1 (resolveDirectory_eq_ok_iff.1 hparent)).2
  rw [hsteps, hstart] at hleads
  refine ⟨before.filterMap Path.step?, ?_, Path.endsWithSlash_of_pieces hpieces hp.ne_nil, ?_⟩
  · rw [hpieces, List.filterMap_append, List.filterMap_cons_some hp.step?_eq, List.filterMap_nil]
  · rw [hbefore]
    exact hleads.append_stays hhere hhere'

/-- **The last name of a path** stands for an entry of the parent, if it is not too long. -/
theorem slot_eq_ite_of_parent (hp : p.EndsWithName name)
    (hparent : t.resolveDirectory p.parent = .ok l) : t.slot p =
      if 0 ∈ p then .error .zeroByte
      else if nameLimit < name.length then .error .nameTooLong
      else .ok (name :: l) := by
  obtain ⟨before, hsteps, hslash, hleads⟩ := leads_of_parent hp hparent
  unfold slot
  rw [hsteps, List.reverse_append, List.reverse_singleton, List.singleton_append]
  simp only [List.reverse_reverse, followToDirectory_eq_ok_iff.2 hleads, lastSlot, hslash,
    if_neg Bool.false_ne_true]

theorem slot_eq_of_parent (hp : p.EndsWithName name) (hzero : 0 ∉ p)
    (hname : name.length ≤ nameLimit) (hparent : t.resolveDirectory p.parent = .ok l) :
    t.slot p = .ok (name :: l) := by
  rw [slot_eq_ite_of_parent hp hparent, if_neg hzero, if_neg (Nat.not_lt.2 hname)]

end FileTree

end GoOptional
