import Mathlib
import GoOptional.Proofs.Json.Written
import GoOptional.Proofs.Request.Reading

/-!
# Requests written as JSON and read back

What is written for a request spells the value of the request, whose members are the fields in the
order of their declaration. So the request is read back from it, in either written form.

## Main definitions

* `Request.memberTrees`: the members that are written for a request

## Main results

* `Request.fromJson_of_spells`: the texts that spell the value of a request
* `Request.toJson_roundTrip`: what follows for all JSON texts
-/

namespace GoOptional.Request

open Json (Encodes Spells StringUnit Tree Value)

variable {s : Text}

/-- The value of a field holds the field. -/
theorem holds_tree_fieldValue (r : Request) (f : Field) : Holds r (r.fieldValue f).tree f := by
  cases f with
  | package => exact ⟨_, rfl, Json.encodes_map_ofChar r.package⟩
  | name => exact ⟨_, rfl, Json.encodes_map_ofChar r.name⟩
  | type => exact ⟨_, rfl, Json.encodes_map_ofChar r.type.descriptor⟩
  | append => rfl
  | imports =>
    refine ⟨(r.imports.map Value.string).map Value.tree, ?_, ?_⟩
    · rw [fieldValue, Value.tree, Value.itemTrees_eq]
    · rw [List.map_map, List.forall₂_map_left_iff, List.forall₂_same]
      exact fun path _ => ⟨_, rfl, Json.encodes_map_ofChar path⟩

/-- The trees of the members that are written for a request. -/
def memberTrees (r : Request) : List (List StringUnit × Tree) :=
  Field.all.map fun f => (f.key.map .ofChar, (r.fieldValue f).tree)

theorem tree_toValue (r : Request) : r.toValue.tree = .object r.memberTrees := by
  rw [toValue, Value.tree, Value.memberTrees_eq, List.map_map]
  rfl

/-- The members that are written for a request are its fields. -/
theorem forall₂_memberTrees (r : Request) :
    List.Forall₂ (fun m f => Encodes m.1 f.key ∧ Holds r m.2 f) r.memberTrees Field.all := by
  rw [memberTrees, List.forall₂_map_left_iff, List.forall₂_same]
  exact fun f _ => ⟨Json.encodes_map_ofChar f.key, holds_tree_fieldValue r f⟩

/-- **A request is read** from every text that spells its value. -/
theorem fromJson_of_spells {r : Request} (h : Spells s r.toValue.tree) : fromJson s = .ok r := by
  rw [tree_toValue] at h
  refine (fromJson_object_iff h).2 ⟨Field.all.map some, ?_, .refl _⟩
  rw [List.forall₂_map_right_iff]
  exact r.forall₂_memberTrees

/-- **A request is read back** from what is written for it. -/
theorem fromJson_toJson (r : Request) : fromJson r.toJson = .ok r :=
  fromJson_of_spells r.toValue.spells_compact

/-- **Writing and reading.** Every request is read back from its text and written as the same text
again; what is read from any text at all is read from the text that is written for it; and the text
determines the request. -/
theorem toJson_roundTrip :
    (∀ r : Request, fromJson r.toJson = .ok r ∧ (fromJson r.toJson).map toJson = .ok r.toJson) ∧
    (∀ s r, fromJson s = .ok r → fromJson r.toJson = .ok r) ∧
    ∀ r r' : Request, r.toJson = r'.toJson → r = r' := by
  refine ⟨fun r => ⟨fromJson_toJson r, ?_⟩, fun _ r _ => fromJson_toJson r, fun r r' h => ?_⟩
  · rw [fromJson_toJson]
    rfl
  · have hread := fromJson_toJson r
    rw [h, fromJson_toJson, Except.ok.injEq] at hread
    exact hread.symm

end GoOptional.Request
