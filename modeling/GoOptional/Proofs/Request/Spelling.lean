import Mathlib
import GoOptional.Proofs.Request.RoundTrip

/-!
# The spellings of a request

A request has many texts: its members come in any order, members under other keys come anywhere
among them, and every value may be spelled in any way. What is read is the same for all of them, and
no object text is accepted that is not one of them. Only a key that is no text, since it has half of
a surrogate pair, is refused wherever it stands.

## Main definitions

* `Request.Describes`: the members of an object are those of a request, and others
* `Request.HasTextKeys`: the keys of an object are texts

## Main results

* `Request.fromJson_eq_ok_iff`: the objects that are read as a request
* `Request.fromJson_spelling`: what is read does not depend on the spelling
-/

namespace GoOptional.Request

open Json (Encodes Spells SpellsUnit StringUnit Tree)

variable {r : Request} {f : Field} {v : Tree} {m m' : List StringUnit × Tree}
  {members : List (List StringUnit × Tree)} {fs : List (Option Field)} {s : Text}

/-- The members of an object describe a request: one for each field, and any number of others under
other keys, with any values, all of them in any order. -/
def Describes (r : Request) (members : List (List StringUnit × Tree)) : Prop :=
  ∃ own others, List.Forall₂ (fun m f => Encodes m.1 f.key ∧ Holds r m.2 f) own Field.all ∧
    (∀ m ∈ others, ∀ f : Field, ¬ Encodes m.1 f.key) ∧ members.Perm (own ++ others)

/-- The keys of an object are texts, so none of them has half of a surrogate pair. -/
def HasTextKeys (members : List (List StringUnit × Tree)) : Prop :=
  ∀ m ∈ members, ∃ key, Encodes m.1 key

/-! ## Members in any order -/

/-- A member stands under another key if its key is a text and that of no field. -/
theorem isMember_none_iff :
    IsMember r m none ↔ (∃ key, Encodes m.1 key) ∧ ∀ f : Field, ¬ Encodes m.1 f.key := by
  constructor
  · rintro ⟨key, hkey, hother⟩
    exact ⟨⟨key, hkey⟩, fun f hf => hother f (hkey.unique hf)⟩
  · rintro ⟨⟨key, hkey⟩, hother⟩
    refine ⟨key, hkey, fun f hf => hother f ?_⟩
    rwa [← hf]

theorem IsMember.exists_encodes {o : Option Field} (h : IsMember r m o) :
    ∃ key, Encodes m.1 key := by
  cases o with
  | none => exact (isMember_none_iff.1 h).1
  | some f => exact ⟨f.key, h.1⟩

/-- Members of which each one holds a field or stands under another key, taken apart. -/
theorem exists_own_others (h : List.Forall₂ (IsMember r) members fs) :
    ∃ own others, List.Forall₂ (fun m f => Encodes m.1 f.key ∧ Holds r m.2 f) own fs.reduceOption ∧
      (∀ m ∈ others, ∀ f : Field, ¬ Encodes m.1 f.key) ∧ members.Perm (own ++ others) := by
  induction h with
  | nil => exact ⟨[], [], .nil, by simp, .nil⟩
  | @cons m o members fs hm _ ih =>
    obtain ⟨own, others, hown, hothers, hperm⟩ := ih
    cases o with
    | none =>
      refine ⟨own, m :: others, ?_, List.forall_mem_cons.2 ⟨(isMember_none_iff.1 hm).2, hothers⟩,
        (hperm.cons m).trans List.perm_middle.symm⟩
      rwa [List.reduceOption_cons_of_none]
    | some f =>
      refine ⟨m :: own, others, ?_, hothers, hperm.cons m⟩
      rw [List.reduceOption_cons_of_some]
      exact .cons hm hown

theorem hasTextKeys_of_forall₂ (h : List.Forall₂ (IsMember r) members fs) :
    HasTextKeys members := by
  induction h with
  | nil => exact List.forall_mem_nil _
  | cons hm _ ih => exact List.forall_mem_cons.2 ⟨hm.exists_encodes, ih⟩

/-- **The members of a request**, each once and in any order, with others among them. -/
theorem describes_iff : Describes r members ∧ HasTextKeys members ↔
    ∃ fs, List.Forall₂ (IsMember r) members fs ∧ fs.reduceOption.Perm Field.all := by
  constructor
  · rintro ⟨⟨own, others, hown, hothers, hperm⟩, hkeys⟩
    have hother : ∀ m ∈ others, IsMember r m none := fun m hm => isMember_none_iff.2
      ⟨hkeys m (hperm.mem_iff.2 (List.mem_append_right own hm)), hothers m hm⟩
    have hall : List.Forall₂ (IsMember r) (own ++ others)
        (Field.all.map some ++ others.map fun _ => none) := by
      refine List.rel_append ?_ ?_
      · rw [List.forall₂_map_right_iff]
        exact hown
      · rw [List.forall₂_map_right_iff, List.forall₂_same]
        exact hother
    obtain ⟨fs, hfs, hfsperm⟩ := List.perm_comp_forall₂ hperm hall
    refine ⟨fs, hfs, (hfsperm.filterMap id).trans (.of_eq ?_)⟩
    simp
  · rintro ⟨fs, hfs, hfsperm⟩
    obtain ⟨own, others, hown, hothers, hperm⟩ := exists_own_others hfs
    obtain ⟨own', hownperm, hown'⟩ : Relation.Comp List.Perm (List.Forall₂ _) own Field.all := by
      rw [← List.forall₂_comp_perm_eq_perm_comp_forall₂]
      exact ⟨_, hown, hfsperm⟩
    exact ⟨⟨own', others, hown', hothers, hperm.trans (hownperm.append_right others)⟩,
      hasTextKeys_of_forall₂ hfs⟩

/-- **The objects that are read as a request** are those that describe it, with texts as keys. -/
theorem fromJson_eq_ok_iff (h : Spells s (.object members)) :
    fromJson s = .ok r ↔ Describes r members ∧ HasTextKeys members := by
  rw [fromJson_object_iff h, describes_iff]

/-! ## Keys -/

/-- A member under the key of a field holds the field. -/
theorem IsMember.eq_some {o : Option Field} (h : IsMember r m o) (hkey : Encodes m.1 f.key) :
    o = some f := by
  cases o with
  | none => exact absurd hkey ((isMember_none_iff.1 h).2 f)
  | some g => exact congrArg some (Field.key_inj.1 (h.1.unique hkey))

/-- Some of the members, with what they hold. -/
theorem exists_sublist {l : List (List StringUnit × Tree)} (hsub : l.Sublist members)
    (h : List.Forall₂ (IsMember r) members fs) :
    ∃ os, List.Forall₂ (IsMember r) l os ∧ os.Sublist fs := by
  induction hsub generalizing fs with
  | slnil => exact ⟨[], .nil, List.nil_sublist fs⟩
  | cons m _ ih =>
    obtain _ | ⟨_, h⟩ := h
    obtain ⟨os, hos, hsub⟩ := ih h
    exact ⟨os, hos, hsub.cons _⟩
  | cons_cons m _ ih =>
    obtain _ | ⟨hm, h⟩ := h
    obtain ⟨os, hos, hsub⟩ := ih h
    exact ⟨_, .cons hm hos, hsub.cons_cons _⟩

/-- **No key** of a field is absent. -/
theorem Describes.exists_mem (h : Describes r members) (f : Field) :
    ∃ m ∈ members, Encodes m.1 f.key := by
  obtain ⟨own, others, hown, -, hperm⟩ := h
  obtain ⟨hlength, hget⟩ := List.forall₂_iff_get.1 hown
  obtain ⟨i, hi⟩ := List.get_of_mem f.mem_all
  have hlt : i.1 < own.length := hlength.symm ▸ i.2
  refine ⟨own.get ⟨i, hlt⟩, hperm.mem_iff.2 (List.mem_append_left others (List.get_mem own _)), ?_⟩
  rw [← hi]
  exact (hget i hlt i.2).1

/-- **No key** of a field occurs twice, since both members would hold the field. -/
theorem Describes.not_sublist (h : Describes r members) (hkeys : HasTextKeys members)
    (hm : Encodes m.1 f.key) (hm' : Encodes m'.1 f.key) : ¬ [m, m'].Sublist members := by
  intro hsub
  obtain ⟨fs, hfs, hperm⟩ := describes_iff.1 ⟨h, hkeys⟩
  obtain ⟨os, hos, hsubfs⟩ := exists_sublist hsub hfs
  rcases hos with _ | ⟨ho, _ | ⟨ho', ⟨⟩⟩⟩
  rw [ho.eq_some hm, ho'.eq_some hm'] at hsubfs
  have htwice : [f, f].Sublist fs.reduceOption := hsubfs.filterMap id
  have hnodup : fs.reduceOption.Nodup := hperm.nodup_iff.2 (by decide)
  exact List.nodup_iff_sublist.1 hnodup f htwice

/-! ## A member before those that are written -/

/-- A member under another key, before those that are written for a request. -/
theorem describes_cons (hother : ∀ f : Field, ¬ Encodes m.1 f.key) :
    Describes r (m :: r.memberTrees) :=
  ⟨r.memberTrees, [m], r.forall₂_memberTrees, List.forall_mem_singleton.2 hother,
    (List.perm_append_singleton m r.memberTrees).symm⟩

/-- The text of a member, before those that are written for a request. -/
theorem spells_cons {key value : Text} {units : List StringUnit}
    (hkey : Spells key (.string units)) (hvalue : Spells value v) (r : Request) :
    Spells ('\x7b' :: Text.join ",".toList ((key ++ ':' :: value) ::
      Field.all.map fun f => Json.quoted f.key ++ ':' :: (r.fieldValue f).compact) ++ ['\x7d'])
      (.object ((units, v) :: r.memberTrees)) := by
  have hobject := @Spells.object (((key, units), (value, v)) :: Field.all.map fun f =>
    ((Json.quoted f.key, f.key.map .ofChar), ((r.fieldValue f).compact, (r.fieldValue f).tree))) []
    (List.forall_mem_cons.2 ⟨hkey, List.forall_mem_map.2 fun f _ => Json.spells_quoted f.key⟩)
    (List.forall_mem_cons.2
      ⟨hvalue, List.forall_mem_map.2 fun f _ => (r.fieldValue f).spells_compact⟩)
    (List.forall_mem_nil (· ∈ Json.whitespace))
  rwa [List.map_cons, List.map_map, List.map_cons, List.map_map] at hobject

/-! ## Any spelling -/

/-- **Reading does not depend on the spelling.** An object is read as a request if and only if its
members are those of the request, in any order, and others under other keys that are texts; the
array of the five values is read as the request as well; and no object in which the key of a field
is absent or occurs twice is ever accepted. -/
theorem fromJson_spelling :
    (∀ r s members, Spells s (.object members) →
      (fromJson s = .ok r ↔ Describes r members ∧ HasTextKeys members)) ∧
    (∀ r s items, Spells s (.array items) → List.Forall₂ (Holds r) items Field.all →
      fromJson s = .ok r) ∧
    (∀ s members (f : Field), Spells s (.object members) →
      (∀ m ∈ members, ¬ Encodes m.1 f.key) → ∀ r, fromJson s ≠ .ok r) ∧
    ∀ s members m m' (f : Field), Spells s (.object members) → [m, m'].Sublist members →
      Encodes m.1 f.key → Encodes m'.1 f.key → ∀ r, fromJson s ≠ .ok r := by
  refine ⟨fun r s members h => fromJson_eq_ok_iff h, fun r s items => fromJson_array,
    fun s members f h habsent r hr => ?_, fun s members m m' f h hsub hm hm' r hr => ?_⟩
  · obtain ⟨m, hmem, hkey⟩ := ((fromJson_eq_ok_iff h).1 hr).1.exists_mem f
    exact habsent m hmem hkey
  · obtain ⟨hdescribes, hkeys⟩ := (fromJson_eq_ok_iff h).1 hr
    exact hdescribes.not_sublist hkeys hm hm' hsub

example : fromJson ("\x7b\"append\": true, \"x\": [1e9, \"\\ud800\"], \"option_name\":" ++
    "\"\\u0041\", \"imports\": [ ], \"x\": \"\", \"package_name\": \"p\", " ++
    "\"element_type\": \"int\"\x7d").toList =
      .ok ⟨"p".toList, "A".toList, ⟨"int".toList⟩, [], true⟩ := by decide +kernel

/-- An object that describes a request is malformed all the same if one of the other keys has half
of a surrogate pair. -/
theorem fromJson_surrogateKey : ∃ members,
    Spells ("\x7b\"\\ud800\":0,\"package_name\":\"p\",\"option_name\":\"A\"," ++
      "\"element_type\":\"int\",\"imports\":[],\"append\":false\x7d").toList (.object members) ∧
    Describes (fresh "p".toList "A".toList ⟨"int".toList⟩) members ∧
    fromJson ("\x7b\"\\ud800\":0,\"package_name\":\"p\",\"option_name\":\"A\"," ++
      "\"element_type\":\"int\",\"imports\":[],\"append\":false\x7d").toList =
        .error .malformed := by
  have hunit : SpellsUnit "\\ud800".toList (.code (((13 * 16 + 8) * 16 + 0) * 16 + 0)) :=
    .code (Or.inl rfl) (Or.inl rfl) (Or.inl rfl) (Or.inl rfl)
  have hkey : Spells "\"\\ud800\"".toList (.string [.code 0xD800]) :=
    @Spells.string [(_, _)] (List.forall_mem_singleton.2 hunit)
  have hnone (t : Text) : ¬ Encodes [.code 0xD800] t := by
    rintro ⟨⟩
    omega
  have hspells := spells_cons hkey (.number (Json.isNumber_ofNat 0))
    (fresh "p".toList "A".toList ⟨"int".toList⟩)
  refine ⟨_, ?_, describes_cons (m := (_, .number (Text.ofNat 0))) fun f => hnone f.key, ?_⟩
  · convert hspells using 1
    decide +kernel
  · decide +kernel

end GoOptional.Request
