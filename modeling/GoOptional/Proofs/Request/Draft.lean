import Mathlib
import GoOptional.Proofs.Json.Grammar
import GoOptional.Request.FromJson

/-!
# What a request is read from

A request is read from values that hold its fields. The members of an object fill in a draft one
after the other: a member under the key of a field gives the draft the field, which it must not have
yet, and a member under another key gives it nothing. So the draft becomes a request exactly when
each of the fields comes once.

## Main definitions

* `Request.Holds`: a value holds a field of a request
* `Request.IsMember`: a member holds a field of a request, or stands under another key
* `Request.Draft.Fills`: members fill in a draft
* `Request.Draft.Lacks`: a draft has the fields of a request, but for some

## Main results

* `Request.Draft.lacks_cons_iff`: a field that a draft gets
* `Request.Draft.fills_iff`: the members that make a draft a request
-/

namespace GoOptional

/-- A value is a text. -/
def Json.Tree.IsText (v : Tree) (t : Text) : Prop :=
  ∃ units, v = .string units ∧ Encodes units t

namespace Request

open Json (Encodes StringUnit Tree)

variable {r r' : Request} {d d' : Draft} {f g : Field} {fields : List Field} {v : Tree}
  {members : List (List StringUnit × Tree)}

/-! ## Keys -/

namespace Field

theorem ofKey?_eq_some_iff {key : Text} : ofKey? key = some f ↔ key = f.key := by
  constructor
  · intro h
    have hkey := List.find?_some h
    exact (beq_iff_eq.1 hkey).symm
  · rintro rfl
    cases f <;> decide +kernel

/-- A key is that of one field only. -/
theorem key_inj : f.key = g.key ↔ f = g := by
  rw [← ofKey?_eq_some_iff, ofKey?_eq_some_iff.2 rfl, Option.some.injEq]

theorem mem_all (f : Field) : f ∈ all := by
  cases f <;> decide

end Field

/-! ## Values and members -/

/-- A value holds a field of a request. -/
def Holds (r : Request) (v : Tree) : Field → Prop
  | .package => v.IsText r.package
  | .name => v.IsText r.name
  | .type => v.IsText r.type.descriptor
  | .imports => ∃ items, v = .array items ∧ List.Forall₂ Tree.IsText items r.imports
  | .append => v = .word (if r.append then .yes else .no)

/-- A member holds a field of a request under the key of the field, or it stands under a key that
is that of no field. -/
def IsMember (r : Request) (m : List StringUnit × Tree) : Option Field → Prop
  | some f => Encodes m.1 f.key ∧ Holds r m.2 f
  | none => ∃ key, Encodes m.1 key ∧ ∀ f : Field, key ≠ f.key

/-! ## Drafts -/

namespace Draft

/-- The draft once it has got a field of a request. -/
def put (r : Request) (d : Draft) : Field → Draft
  | .package => { d with package := some r.package }
  | .name => { d with name := some r.name }
  | .type => { d with type := some r.type.descriptor }
  | .imports => { d with imports := some r.imports }
  | .append => { d with append := some r.append }

theorem has_put_self (r : Request) (d : Draft) (f : Field) : (d.put r f).has f = true := by
  cases f <;> rfl

/-- A field leaves the others. -/
theorem has_put (r : Request) (d : Draft) {f g : Field} (h : g ≠ f) :
    (d.put r f).has g = d.has g := by
  cases f <;> cases g <;> first | rfl | exact absurd rfl h

theorem put_put_self (r : Request) (d : Draft) (f : Field) : (d.put r f).put r f = d.put r f := by
  cases f <;> rfl

/-- Once a draft has got a field, it has another one if it had it before. -/
theorem put_put_eq_iff (h : g ≠ f) : (d.put r' f).put r g = d.put r' f ↔ d.put r g = d := by
  obtain ⟨package, name, type, imports, append⟩ := d
  cases f <;> cases g <;> first | exact absurd rfl h | simp [put]

/-- The field of one request that a draft has got may be that of another request as well. -/
theorem put_eq_of_put_put_eq (h : (d.put r' f).put r f = d.put r' f) : d.put r' f = d.put r f := by
  rw [← h]
  cases f <;> rfl

/-- **A draft with all fields** of a request, and only such a draft, is the request. -/
theorem request?_eq_some_iff : d.request? = some r ↔ ∀ f, d.put r f = d := by
  constructor
  · intro h f
    unfold request? at h
    split at h
    · cases h
      cases f <;> rfl
    · cases h
  · intro h
    have hall : Field.all.foldl (put r) d = d := by
      simp only [Field.all, List.foldl_cons, List.foldl_nil, h]
    rw [← hall]
    rfl

end Draft

/-- What holds a field of one request holds that of another if no draft can tell them apart. -/
theorem Holds.of_put_eq (h : Holds r' v f) (heq : d.put r' f = d.put r f) : Holds r v f := by
  cases f <;>
    simp only [Draft.put, Draft.mk.injEq, Option.some.injEq, true_and, and_true] at heq <;>
    simp only [Holds] at h ⊢ <;> rw [← heq] <;> exact h

namespace Draft

/-! ### Fields that are still to come -/

/-- A draft has the fields of a request but for the given ones, of which it has none. -/
def Lacks (r : Request) (d : Draft) (fields : List Field) : Prop :=
  fields.Nodup ∧ ∀ f, f ∈ fields ∧ d.has f = false ∨ f ∉ fields ∧ d.put r f = d

theorem lacks_nil_iff : d.Lacks r [] ↔ d.request? = some r := by
  simp [Lacks, request?_eq_some_iff]

theorem lacks_empty_iff : empty.Lacks r fields ↔ fields.Perm Field.all := by
  have hempty (f : Field) : empty.has f = false ∧ empty.put r f ≠ empty := by
    cases f <;> exact ⟨rfl, by simp [put, empty]⟩
  simp only [Lacks, hempty, and_true, and_false, or_false]
  constructor
  · rintro ⟨hnodup, hmem⟩
    exact (List.perm_ext_iff_of_nodup hnodup (by decide)).2 fun f => by simp [hmem, Field.mem_all]
  · exact fun h => ⟨h.nodup_iff.2 (by decide), fun f => h.mem_iff.2 f.mem_all⟩

/-- What a draft has got is not to come any more, so it is what the draft should have. -/
theorem Lacks.not_mem_and_put_eq (h : (d.put r' f).Lacks r fields) :
    f ∉ fields ∧ d.put r' f = d.put r f := by
  have hf := (h.2 f).resolve_left fun h => by
    rw [has_put_self] at h
    cases h.2
  exact ⟨hf.1, put_eq_of_put_put_eq hf.2⟩

/-- **A field that is to come** is to come no more once the draft has got it, and for the other
fields nothing changes. -/
theorem lacks_cons_iff :
    d.Lacks r (f :: fields) ↔ d.has f = false ∧ (d.put r f).Lacks r fields := by
  constructor
  · rintro ⟨hnodup, hall⟩
    obtain ⟨hmem, hnodup⟩ := List.nodup_cons.1 hnodup
    have hf := (hall f).elim And.right fun h => absurd List.mem_cons_self h.1
    refine ⟨hf, hnodup, fun g => ?_⟩
    by_cases hg : g = f
    · subst hg
      exact Or.inr ⟨hmem, put_put_self r d g⟩
    · rw [has_put r d hg, put_put_eq_iff hg]
      simpa [hg] using hall g
  · rintro ⟨hf, h⟩
    refine ⟨List.nodup_cons.2 ⟨h.not_mem_and_put_eq.1, h.1⟩, fun g => ?_⟩
    by_cases hg : g = f
    · subst hg
      exact Or.inl ⟨List.mem_cons_self, hf⟩
    · have hrest := h.2 g
      rw [has_put r d hg, put_put_eq_iff hg] at hrest
      simpa [hg] using hrest

/-! ### Members -/

/-- What a draft becomes by a member of an object: it gets the field that it lacks, or none. -/
inductive Takes : Draft → List StringUnit × Tree → Draft → Prop
  /-- A member under another key. -/
  | other {d : Draft} {m : List StringUnit × Tree} {key : Text} (hkey : Encodes m.1 key)
    (hother : ∀ f : Field, key ≠ f.key) : Takes d m d
  /-- The member of a field. -/
  | own {r : Request} {d : Draft} {f : Field} {m : List StringUnit × Tree}
    (hkey : Encodes m.1 f.key) (hf : d.has f = false) (hvalue : Holds r m.2 f) :
    Takes d m (d.put r f)

/-- The members of an object fill in a draft, one after the other. -/
inductive Fills : Draft → List (List StringUnit × Tree) → Draft → Prop
  /-- No member. -/
  | nil (d : Draft) : Fills d [] d
  /-- A member and those after it. -/
  | cons {d d₁ d' : Draft} {m : List StringUnit × Tree} {members : List (List StringUnit × Tree)}
    (hm : Takes d m d₁) (h : Fills d₁ members d') : Fills d (m :: members) d'

/-- **A draft that is filled in** becomes a request if and only if the members hold the fields of
the request that the draft lacks, each field once, or stand under other keys. -/
theorem fills_iff : (∃ d', Fills d members d' ∧ d'.request? = some r) ↔
    ∃ fs, List.Forall₂ (IsMember r) members fs ∧ d.Lacks r fs.reduceOption := by
  induction members generalizing d with
  | nil =>
    simp only [List.forall₂_nil_left_iff, exists_eq_left, List.reduceOption_nil, lacks_nil_iff]
    constructor
    · rintro ⟨_, ⟨⟩, hr⟩
      exact hr
    · exact fun hr => ⟨d, .nil d, hr⟩
  | cons m members ih =>
    constructor
    · rintro ⟨d', ⟨⟩ | ⟨hm, h⟩, hr⟩
      obtain ⟨fs, hfs, hlacks⟩ := ih.1 ⟨d', h, hr⟩
      cases hm with
      | other hkey hother => exact ⟨none :: fs, .cons ⟨_, hkey, hother⟩ hfs, hlacks⟩
      | own hkey hf hvalue =>
        have hput := hlacks.not_mem_and_put_eq.2
        exact ⟨some _ :: fs, .cons ⟨hkey, hvalue.of_put_eq hput⟩ hfs,
          lacks_cons_iff.2 ⟨hf, hput ▸ hlacks⟩⟩
    · rintro ⟨_, hmembers, hlacks⟩
      obtain _ | @⟨_, o, _, fs, hm, hfs⟩ := hmembers
      cases o with
      | none =>
        obtain ⟨key, hkey, hother⟩ := hm
        obtain ⟨d', hfills, hr⟩ := ih.2 ⟨fs, hfs, hlacks⟩
        exact ⟨d', .cons (.other hkey hother) hfills, hr⟩
      | some f =>
        obtain ⟨hf, hlacks⟩ := lacks_cons_iff.1 hlacks
        obtain ⟨d', hfills, hr⟩ := ih.2 ⟨fs, hfs, hlacks⟩
        exact ⟨d', .cons (.own hm.1 hf hm.2) hfills, hr⟩

end Draft

end Request

end GoOptional
