import Mathlib
import GoOptional.Proofs.Request.Draft

/-!
# Reading a request

A reader goes through the tokens of a value. At a place for a field it takes exactly the values that
hold the field for some request; it passes over every value under another key, however deep; and
what it has taken fills in a draft. So an object is accepted as a request if and only if its members
are the fields of the request, each once, and members under other keys.

## Main definitions

* `Request.Reader.Reads`: tokens lead a reader from one state to another
* `Request.Reader.skipping`: the reader that passes over a value

## Main results

* `Request.Reader.reads_skipped`: every value is passed over
* `Request.Reader.reads_value_iff`: the values that are taken for a field
* `Request.Reader.reads_members_iff`: an object fills in a draft
* `Request.fromJson_object_iff`: the objects that are read as a request
* `Request.fromJson_array`: the array of the fields is read as the request
-/

namespace GoOptional

/-! ## First tokens -/

namespace Json.Tree

variable {v : Tree}

/-- The first token of a value. -/
def firstToken : Tree → Token
  | .word w => .word w
  | .number digits => .ofNumber digits
  | .string units => .string units .closed
  | .array _ => .arrayOpen
  | .object _ => .objectOpen

theorem exists_tokens_eq (v : Tree) : ∃ ts, v.tokens = v.firstToken :: ts := by
  cases v <;> exact ⟨_, by rw [tokens, firstToken]⟩

theorem firstToken_ne_arrayClose (v : Tree) : v.firstToken ≠ .arrayClose := by
  cases v with
  | number digits =>
    rw [firstToken, Token.ofNumber]
    split <;> simp
  | _ => simp [firstToken]

theorem firstToken_ne_arrayOpen (h : ∀ items, v ≠ .array items) : v.firstToken ≠ .arrayOpen := by
  cases v with
  | array items => exact absurd rfl (h items)
  | number digits =>
    rw [firstToken, Token.ofNumber]
    split <;> simp
  | _ => simp [firstToken]

theorem text_firstToken (h : ∀ units, v ≠ .string units) :
    v.firstToken.text = .error v.firstToken.mismatch := by
  cases v with
  | string units => exact absurd rfl (h units)
  | number digits =>
    rw [firstToken, Token.ofNumber]
    split <;> rfl
  | _ => rfl

theorem boolean_firstToken (h : ∀ w, v ≠ .word w) :
    v.firstToken.boolean = .error v.firstToken.mismatch := by
  cases v with
  | word w => exact absurd rfl (h w)
  | number digits =>
    rw [firstToken, Token.ofNumber]
    split <;> rfl
  | _ => rfl

end Json.Tree

namespace Request

open Json (Encodes Frame ReadError Skip Spells StringUnit Token Tree Want)

variable {r : Request} {d : Draft} {f : Field} {v : Tree} {items : List Tree}
  {m : List StringUnit × Tree} {members : List (List StringUnit × Tree)} {s : Text}

/-! ## Tokens -/

namespace Reader

/-- Tokens lead a reader from one state to another. -/
def Reads (a : Reader) (ts : List Token) (b : Reader) : Prop :=
  ts.foldlM step a = .ok b

variable {a b c : Reader} {t : Token} {ts ts' : List Token}

theorem reads_nil_iff : Reads a [] b ↔ b = a := by
  rw [Reads, List.foldlM_nil]
  exact ⟨fun h => (Except.ok.inj h).symm, fun h => congrArg Except.ok h.symm⟩

theorem reads_append_iff : Reads a (ts ++ ts') c ↔ ∃ b, Reads a ts b ∧ Reads b ts' c := by
  rw [Reads, List.foldlM_append]
  cases h : ts.foldlM step a with
  | error e => simp [Reads, h, bind, Except.bind]
  | ok b => simp [Reads, h, bind, Except.bind]

theorem reads_cons_iff : Reads a (t :: ts) c ↔ ∃ b, a.step t = .ok b ∧ Reads b ts c := by
  rw [Reads, List.foldlM_cons]
  cases h : a.step t with
  | error e => simp [bind, Except.bind]
  | ok b => simp [Reads, bind, Except.bind]

theorem reads_single_iff : Reads a [t] b ↔ a.step t = .ok b := by
  simp only [reads_cons_iff, reads_nil_iff, exists_eq_right']

namespace Reads

theorem cons (h : a.step t = .ok b) (h' : Reads b ts c) : Reads a (t :: ts) c :=
  reads_cons_iff.2 ⟨b, h, h'⟩

theorem append (h : Reads a ts b) (h' : Reads b ts' c) : Reads a (ts ++ ts') c :=
  reads_append_iff.2 ⟨b, h, h'⟩

theorem single (h : a.step t = .ok b) : Reads a [t] b :=
  reads_single_iff.2 h

/-- Where two states read the first token of a value alike, they read the value alike. -/
theorem of_step_eq (heq : a.step v.firstToken = b.step v.firstToken) (h : Reads b v.tokens c) :
    Reads a v.tokens c := by
  obtain ⟨ts, hts⟩ := v.exists_tokens_eq
  rw [hts, reads_cons_iff] at h ⊢
  rwa [heq]

/-- A value is refused at its first token. -/
theorem step_ne_error (h : Reads a v.tokens b) (e : ReadError) :
    a.step v.firstToken ≠ .error e := by
  obtain ⟨ts, hts⟩ := v.exists_tokens_eq
  rw [hts, reads_cons_iff] at h
  obtain ⟨_, hstep, -⟩ := h
  simp [hstep]

/-- Tokens lead to one state only. -/
theorem iff_eq (h : Reads a ts b) : Reads a ts c ↔ c = b := by
  rw [Reads, show ts.foldlM step a = .ok b from h]
  exact ⟨fun h => (Except.ok.inj h).symm, fun h => congrArg Except.ok h.symm⟩

end Reads

/-! ### Values that are passed over -/

/-- The reader that passes over a value, or has passed over it. -/
def skipping (d : Draft) (skip : Skip) : Reader :=
  ⟨d, false, if skip.isDone then .memberEnd else .skipped skip⟩

theorem step_skipping {skip : Skip} (h : skip.isDone = false) (t : Token) :
    (skipping d skip).step t = (skip.step t).map (skipping d) := by
  rw [skipping, h]
  rfl

theorem step_skipping_of_eq {skip skip' : Skip} (hdone : skip.isDone = false)
    (h : skip.step t = .ok skip') : (skipping d skip).step t = .ok (skipping d skip') := by
  rw [step_skipping hdone, h]
  rfl

theorem isDone_value (frames : List Frame) : Skip.isDone ⟨.value, frames⟩ = false := by
  simp [Skip.isDone]

theorem isDone_cons (want : Want) (frame : Frame) (frames : List Frame) :
    Skip.isDone ⟨want, frame :: frames⟩ = false := by
  simp [Skip.isDone]

/-- Parts with commas between them; the state before the first one may differ from that before the
others. -/
theorem reads_separated {α : Type} {xs : List α} {f : α → List Token}
    (hfirst : ∀ x ∈ xs, Reads a (f x) b) (hnext : ∀ x ∈ xs, Reads c (f x) b)
    (hcomma : b.step .comma = .ok c) (hne : xs ≠ []) : Reads a (Token.separated (xs.map f)) b := by
  cases xs with
  | nil => exact absurd rfl hne
  | cons x xs =>
    have hrest : ∀ ys : List α, (∀ y ∈ ys, Reads c (f y) b) →
        Reads b (ys.flatMap fun y => .comma :: f y) b := by
      intro ys hys
      induction ys with
      | nil => exact reads_nil_iff.2 rfl
      | cons y ys ih =>
        obtain ⟨hy, hys⟩ := List.forall_mem_cons.1 hys
        rw [List.flatMap_cons]
        exact (Reads.cons hcomma hy).append (ih hys)
    rw [List.map_cons, Token.separated, List.flatMap_map]
    exact (hfirst x List.mem_cons_self).append
      (hrest xs fun y hy => hnext y (List.mem_cons_of_mem x hy))

/-- A list in brackets that is passed over. -/
theorem reads_brackets {α : Type} {xs : List α} {f : α → List Token} {frame : Frame}
    {frames : List Frame} {opening closing : Token} (first next : Want)
    (hopen : Skip.step ⟨.value, frames⟩ opening = .ok ⟨first, frame :: frames⟩)
    (hempty : Skip.step ⟨first, frame :: frames⟩ closing = .ok ⟨.separator, frames⟩)
    (hcomma : Skip.step ⟨.separator, frame :: frames⟩ .comma = .ok ⟨next, frame :: frames⟩)
    (hclose : Skip.step ⟨.separator, frame :: frames⟩ closing = .ok ⟨.separator, frames⟩)
    (hfirst : ∀ x ∈ xs, Reads (skipping d ⟨first, frame :: frames⟩) (f x)
      (skipping d ⟨.separator, frame :: frames⟩))
    (hnext : ∀ x ∈ xs, Reads (skipping d ⟨next, frame :: frames⟩) (f x)
      (skipping d ⟨.separator, frame :: frames⟩)) :
    Reads (skipping d ⟨.value, frames⟩) (opening :: (Token.separated (xs.map f) ++ [closing]))
      (skipping d ⟨.separator, frames⟩) := by
  refine .cons (step_skipping_of_eq (isDone_value frames) hopen) ?_
  by_cases hxs : xs = []
  · subst hxs
    exact .single (step_skipping_of_eq (isDone_cons _ _ _) hempty)
  · have hparts := reads_separated hfirst hnext
      (step_skipping_of_eq (isDone_cons _ _ _) hcomma) hxs
    exact hparts.append (.single (step_skipping_of_eq (isDone_cons _ _ _) hclose))

/-- The first item of an array that is passed over, where there could be the end of the array as
well. -/
theorem reads_first_item {frames : List Frame}
    (h : Reads (skipping d ⟨.value, .array :: frames⟩) v.tokens b) :
    Reads (skipping d ⟨.element, .array :: frames⟩) v.tokens b := by
  refine .of_step_eq ?_ h
  rw [step_skipping (isDone_cons _ _ _), step_skipping (isDone_value _), Skip.step,
    if_neg v.firstToken_ne_arrayClose]
  rfl

/-- A member of an object that is passed over. -/
theorem reads_keyed {frames : List Frame} {want : Want} (hwant : want = .member ∨ want = .key)
    (h : Reads (skipping d ⟨.value, .object :: frames⟩) v.tokens b) (units : List StringUnit) :
    Reads (skipping d ⟨want, .object :: frames⟩)
      (.string units .closed :: .colon :: v.tokens) b := by
  have hunits : Skip.step ⟨want, .object :: frames⟩ (.string units .closed) =
      .ok ⟨.colon, .object :: frames⟩ := by
    rcases hwant with rfl | rfl <;> rfl
  have hcolon : Skip.step ⟨.colon, .object :: frames⟩ .colon =
      .ok ⟨.value, .object :: frames⟩ := rfl
  exact .cons (step_skipping_of_eq (isDone_cons _ _ _) hunits)
    (.cons (step_skipping_of_eq (isDone_cons _ _ _) hcolon) h)

/-- **Every value is passed over**, whatever encloses it. -/
theorem reads_skipped (h : Spells s v) (d : Draft) (frames : List Frame) :
    Reads (skipping d ⟨.value, frames⟩) v.tokens (skipping d ⟨.separator, frames⟩) := by
  induction h generalizing frames with
  | before _ _ ih => exact ih frames
  | after _ _ ih => exact ih frames
  | word w => exact .single (step_skipping_of_eq (isDone_value frames) rfl)
  | number h =>
    obtain ⟨n, hn, -⟩ := h.exists_ofText?
    rw [Tree.tokens, Token.ofNumber, hn]
    exact .single (step_skipping_of_eq (isDone_value frames) rfl)
  | string _ => exact .single (step_skipping_of_eq (isDone_value frames) rfl)
  | array _ _ ih =>
    rw [Tree.tokens, Tree.itemTokens_eq, List.map_map]
    exact reads_brackets .element .value rfl rfl rfl rfl
      (fun p hp => reads_first_item (ih p hp _)) fun p hp => ih p hp _
  | object _ _ _ _ ih =>
    rw [Tree.tokens, Tree.memberTokens_eq, List.map_map]
    exact reads_brackets .member .key rfl rfl rfl rfl
      (fun m hm => reads_keyed (Or.inl rfl) (ih m hm _) m.1.2)
      fun m hm => reads_keyed (Or.inr rfl) (ih m hm _) m.1.2

/-! ### Values of fields -/

/-- **A text** is taken where one is expected, and nothing else: what is no string is refused at its
first token. -/
theorem reads_text_iff {k : Text → Reader} (hstep : ∀ t ≠ .arrayClose, a.step t = t.text.map k) :
    Reads a v.tokens b ↔ ∃ t, v.IsText t ∧ b = k t := by
  constructor
  · intro h
    have hfirst := hstep v.firstToken v.firstToken_ne_arrayClose
    by_cases hv : ∃ units, v = .string units
    · obtain ⟨units, rfl⟩ := hv
      rw [Tree.tokens, reads_single_iff, hstep _ (by simp), Token.text] at h
      cases hunits : Json.stringText units .closed with
      | error e => rw [hunits] at h; cases h
      | ok t =>
        rw [hunits] at h
        exact ⟨t, ⟨units, rfl, Json.stringText_eq_ok_iff.1 hunits⟩, (Except.ok.inj h).symm⟩
    · rw [Tree.text_firstToken (not_exists.1 hv)] at hfirst
      exact absurd hfirst (h.step_ne_error _)
  · rintro ⟨t, ⟨units, rfl, ht⟩, rfl⟩
    rw [Tree.tokens, reads_single_iff, hstep _ (by simp), Token.text,
      Json.stringText_eq_ok_iff.2 ht]
    rfl

/-- **A truth value** is taken where one is expected, and nothing else. -/
theorem reads_boolean_iff {k : Bool → Reader} (hstep : ∀ t, a.step t = t.boolean.map k) :
    Reads a v.tokens b ↔ ∃ x, v = .word (if x then .yes else .no) ∧ b = k x := by
  constructor
  · intro h
    have hfirst := hstep v.firstToken
    by_cases hv : ∃ w, v = .word w
    · obtain ⟨w, rfl⟩ := hv
      rw [Tree.tokens, reads_single_iff, hstep] at h
      cases w with
      | yes => exact ⟨true, rfl, (Except.ok.inj h).symm⟩
      | no => exact ⟨false, rfl, (Except.ok.inj h).symm⟩
      | nothing => cases h
    · rw [Tree.boolean_firstToken (not_exists.1 hv)] at hfirst
      exact absurd hfirst (h.step_ne_error _)
  · rintro ⟨x, rfl, rfl⟩
    rw [Tree.tokens, reads_single_iff, hstep]
    cases x <;> rfl

section Values

variable {listed : Bool}

/-- The import paths behind others, to the end of their array. -/
theorem reads_flatMap_imports_iff {done : List Text} :
    Reads ⟨d, listed, .importEnd done⟩
      (items.flatMap (fun v => .comma :: v.tokens) ++ [.arrayClose]) b ↔
    ∃ paths, List.Forall₂ Tree.IsText items paths ∧
      b = afterImports ⟨d, listed, .firstImport⟩ (paths.reverse ++ done) := by
  induction items generalizing done with
  | nil =>
    have hclose : step ⟨d, listed, .importEnd done⟩ .arrayClose =
        .ok (afterImports ⟨d, listed, .firstImport⟩ done) := rfl
    rw [List.flatMap_nil, List.nil_append, (Reads.single hclose).iff_eq]
    simp
  | cons v items ih =>
    have hcomma : step ⟨d, listed, .importEnd done⟩ .comma =
        .ok ⟨d, listed, .nextImport done⟩ := rfl
    have hpath : ∀ t ≠ .arrayClose, step ⟨d, listed, .nextImport done⟩ t =
        t.text.map fun path => ⟨d, listed, .importEnd (path :: done)⟩ := fun _ _ => rfl
    rw [List.flatMap_cons, List.append_assoc, List.cons_append, reads_cons_iff]
    simp only [hcomma, Except.ok.injEq, exists_eq_left', reads_append_iff, reads_text_iff hpath]
    constructor
    · rintro ⟨_, ⟨path, hv, rfl⟩, hrest⟩
      obtain ⟨paths, hpaths, rfl⟩ := ih.1 (reads_append_iff.2 hrest)
      exact ⟨path :: paths, .cons hv hpaths, by simp⟩
    · rintro ⟨_, hpaths, rfl⟩
      cases hpaths with
      | @cons _ path _ paths hv hpaths =>
        exact ⟨_, ⟨path, hv, rfl⟩, reads_append_iff.1 (ih.2 ⟨paths, hpaths, by simp⟩)⟩

/-- **The import paths** behind their opening bracket. -/
theorem reads_imports_iff : Reads ⟨d, listed, .firstImport⟩
      (Token.separated (items.map Tree.tokens) ++ [.arrayClose]) b ↔
    ∃ paths, List.Forall₂ Tree.IsText items paths ∧
      b = afterImports ⟨d, listed, .firstImport⟩ paths.reverse := by
  cases items with
  | nil =>
    have hclose : step ⟨d, listed, .firstImport⟩ .arrayClose =
        .ok (afterImports ⟨d, listed, .firstImport⟩ []) := rfl
    rw [List.map_nil, Token.separated, List.nil_append, (Reads.single hclose).iff_eq]
    simp
  | cons v items =>
    have hpath : ∀ t ≠ .arrayClose, step ⟨d, listed, .firstImport⟩ t =
        t.text.map fun path => ⟨d, listed, .importEnd [path]⟩ := fun _ hne => if_neg hne
    rw [List.map_cons, Token.separated, List.flatMap_map, List.append_assoc, reads_append_iff]
    simp only [reads_text_iff hpath]
    constructor
    · rintro ⟨_, ⟨path, hv, rfl⟩, hrest⟩
      obtain ⟨paths, hpaths, rfl⟩ := reads_flatMap_imports_iff.1 hrest
      exact ⟨path :: paths, .cons hv hpaths, by simp⟩
    · rintro ⟨_, hpaths, rfl⟩
      cases hpaths with
      | @cons _ path _ paths hv hpaths =>
        exact ⟨_, ⟨path, hv, rfl⟩, reads_flatMap_imports_iff.2 ⟨paths, hpaths, by simp⟩⟩

/-- **An array of import paths** is taken where one is expected, and nothing else. -/
theorem reads_array_iff : Reads ⟨d, listed, .value .imports⟩ v.tokens b ↔
    ∃ items paths, v = .array items ∧ List.Forall₂ Tree.IsText items paths ∧
      b = afterImports ⟨d, listed, .firstImport⟩ paths.reverse := by
  have hopen : step ⟨d, listed, .value .imports⟩ .arrayOpen = .ok ⟨d, listed, .firstImport⟩ := rfl
  have harray (items : List Tree) : Reads ⟨d, listed, .value .imports⟩ (Tree.array items).tokens b ↔
      ∃ paths, List.Forall₂ Tree.IsText items paths ∧
        b = afterImports ⟨d, listed, .firstImport⟩ paths.reverse := by
    rw [Tree.tokens, Tree.itemTokens_eq, reads_cons_iff]
    simp only [hopen, Except.ok.injEq, exists_eq_left', reads_imports_iff]
  constructor
  · intro h
    by_cases hv : ∃ items, v = .array items
    · obtain ⟨items, rfl⟩ := hv
      obtain ⟨paths, hpaths, hb⟩ := (harray items).1 h
      exact ⟨items, paths, rfl, hpaths, hb⟩
    · have hstep : step ⟨d, listed, .value .imports⟩ v.firstToken =
          .error v.firstToken.mismatch := if_neg (Tree.firstToken_ne_arrayOpen (not_exists.1 hv))
      exact absurd hstep (h.step_ne_error _)
  · rintro ⟨items, paths, rfl, hpaths, hb⟩
    exact (harray items).2 ⟨paths, hpaths, hb⟩

/-- **The value of a field** is taken if it holds the field of some request, and nothing else is. -/
theorem reads_value_iff : Reads ⟨d, listed, .value f⟩ v.tokens b ↔
    ∃ r, Holds r v f ∧ b = afterValue ⟨d, listed, .value f⟩ f (d.put r f) := by
  cases f with
  | package =>
    rw [reads_text_iff (fun _ _ => rfl)]
    exact ⟨fun ⟨t, ht, hb⟩ => ⟨.fresh t [] ⟨[]⟩, ht, hb⟩, fun ⟨r, hr, hb⟩ => ⟨r.package, hr, hb⟩⟩
  | name =>
    rw [reads_text_iff (fun _ _ => rfl)]
    exact ⟨fun ⟨t, ht, hb⟩ => ⟨.fresh [] t ⟨[]⟩, ht, hb⟩, fun ⟨r, hr, hb⟩ => ⟨r.name, hr, hb⟩⟩
  | type =>
    rw [reads_text_iff (fun _ _ => rfl)]
    exact ⟨fun ⟨t, ht, hb⟩ => ⟨.fresh [] [] ⟨t⟩, ht, hb⟩,
      fun ⟨r, hr, hb⟩ => ⟨r.type.descriptor, hr, hb⟩⟩
  | append =>
    rw [reads_boolean_iff (fun _ => rfl)]
    exact ⟨fun ⟨x, hx, hb⟩ => ⟨(Request.fresh [] [] ⟨[]⟩).appending x, hx, hb⟩,
      fun ⟨r, hr, hb⟩ => ⟨r.append, hr, hb⟩⟩
  | imports =>
    rw [reads_array_iff]
    constructor
    · rintro ⟨items, paths, hv, hpaths, rfl⟩
      refine ⟨(Request.fresh [] [] ⟨[]⟩).importing paths, ⟨items, hv, hpaths⟩, ?_⟩
      simp [afterImports, afterValue, Draft.put, Request.importing]
    · rintro ⟨r, ⟨items, hv, hpaths⟩, rfl⟩
      exact ⟨items, r.imports, hv, hpaths, by simp [afterImports, afterValue, Draft.put]⟩

end Values

/-! ### Members -/

/-- The tokens of a member. -/
def keyedTokens (m : List StringUnit × Tree) : List Token :=
  .string m.1 .closed :: .colon :: m.2.tokens

/-- A key is taken if it is a text, and that of a field only if the field is still to come; one of
which no text can be read is refused. -/
theorem step_key_eq_ok_iff {e : Expected} (he : e = .member ∨ e = .key) {units : List StringUnit} :
    step ⟨d, false, e⟩ (.string units .closed) = .ok a ↔ ∃ key, Encodes units key ∧
      (((∀ f : Field, key ≠ f.key) ∧ a = ⟨d, false, .colon none⟩) ∨
        ∃ f : Field, key = f.key ∧ d.has f = false ∧ a = ⟨d, false, .colon (some f)⟩) := by
  have hstep : step ⟨d, false, e⟩ (.string units .closed) =
      afterKey ⟨d, false, e⟩ (.string units .closed) := by
    have hne : Token.string units .closed ≠ .objectClose := by simp
    rcases he with rfl | rfl
    · rw [step, if_neg hne]
    · rfl
  rw [hstep, afterKey]
  cases hkey : Json.stringText units .closed with
  | error err =>
    have hnone (key : Text) : ¬ Encodes units key := fun h => by
      rw [Json.stringText_eq_ok_iff.2 h] at hkey
      cases hkey
    simp [hnone]
  | ok key =>
    have hunique (key' : Text) : Encodes units key' ↔ key' = key := by
      rw [← Json.stringText_eq_ok_iff, hkey, Except.ok.injEq, eq_comm]
    simp only [hunique, exists_eq_left]
    cases hfield : Field.ofKey? key with
    | none =>
      have hother : ∀ f : Field, key ≠ f.key := fun f h => by
        rw [Field.ofKey?_eq_some_iff.2 h] at hfield
        cases hfield
      simp [hother, expecting, @eq_comm _ a]
    | some f =>
      obtain rfl := Field.ofKey?_eq_some_iff.1 hfield
      cases hf : d.has f <;> simp [Field.key_inj, hf, expecting, @eq_comm _ a]

/-- **A member** is passed over, or fills in a field that is still to come. -/
theorem reads_member_iff {e : Expected} (he : e = .member ∨ e = .key) (h : Spells s m.2) :
    Reads ⟨d, false, e⟩ (keyedTokens m) b ↔
      ∃ d', d.Takes m d' ∧ b = ⟨d', false, .memberEnd⟩ := by
  have hother : Reads ⟨d, false, .colon none⟩ (.colon :: m.2.tokens) ⟨d, false, .memberEnd⟩ :=
    .cons rfl (reads_skipped h d [])
  have hown (f : Field) : Reads ⟨d, false, .colon (some f)⟩ (.colon :: m.2.tokens) b ↔
      ∃ r, Holds r m.2 f ∧ b = ⟨d.put r f, false, .memberEnd⟩ := by
    have hcolon : step ⟨d, false, .colon (some f)⟩ .colon = .ok ⟨d, false, .value f⟩ := rfl
    simp only [reads_cons_iff, hcolon, Except.ok.injEq, exists_eq_left', reads_value_iff]
    rfl
  rw [keyedTokens, reads_cons_iff]
  simp only [step_key_eq_ok_iff he]
  constructor
  · rintro ⟨_, ⟨key, hkey, ⟨hnone, rfl⟩ | ⟨f, rfl, hf, rfl⟩⟩, hrest⟩
    · exact ⟨d, .other hkey hnone, hother.iff_eq.1 hrest⟩
    · obtain ⟨r, hr, rfl⟩ := (hown f).1 hrest
      exact ⟨d.put r f, .own hkey hf hr, rfl⟩
  · rintro ⟨d', hm, rfl⟩
    cases hm with
    | other hkey hnone => exact ⟨_, ⟨_, hkey, Or.inl ⟨hnone, rfl⟩⟩, hother⟩
    | own hkey hf hr => exact ⟨_, ⟨_, hkey, Or.inr ⟨_, rfl, hf, rfl⟩⟩, (hown _).2 ⟨_, hr, rfl⟩⟩

/-- The members behind others. -/
theorem reads_flatMap_members_iff (h : ∀ m ∈ members, ∃ s, Spells s m.2) :
    Reads ⟨d, false, .memberEnd⟩ (members.flatMap fun m => .comma :: keyedTokens m) b ↔
      ∃ d', d.Fills members d' ∧ b = ⟨d', false, .memberEnd⟩ := by
  induction members generalizing d with
  | nil =>
    rw [List.flatMap_nil, reads_nil_iff]
    constructor
    · exact fun hb => ⟨d, .nil d, hb⟩
    · rintro ⟨_, ⟨⟩, hb⟩
      exact hb
  | cons m members ih =>
    obtain ⟨⟨s, hs⟩, hmembers⟩ := List.forall_mem_cons.1 h
    have hcomma : step ⟨d, false, .memberEnd⟩ .comma = .ok ⟨d, false, .key⟩ := rfl
    rw [List.flatMap_cons, List.cons_append, reads_cons_iff]
    simp only [hcomma, Except.ok.injEq, exists_eq_left', reads_append_iff,
      reads_member_iff (Or.inr rfl) hs]
    constructor
    · rintro ⟨_, ⟨d₁, hm, rfl⟩, hrest⟩
      obtain ⟨d', hfills, rfl⟩ := (ih hmembers).1 hrest
      exact ⟨d', .cons hm hfills, rfl⟩
    · rintro ⟨d', ⟨⟩ | ⟨hm, hfills⟩, rfl⟩
      exact ⟨_, ⟨_, hm, rfl⟩, (ih hmembers).2 ⟨d', hfills, rfl⟩⟩

/-- The object may end if no field is missing. -/
theorem step_objectClose_iff {e : Expected} (he : e = .member ∨ e = .memberEnd) :
    step ⟨d, false, e⟩ .objectClose = .ok b ↔
      d.request?.isSome ∧ b = ⟨d, false, .nothing⟩ := by
  have hstep : step ⟨d, false, e⟩ .objectClose = complete ⟨d, false, e⟩ := by
    rcases he with rfl | rfl <;> rfl
  rw [hstep, complete]
  split_ifs with hd <;> simp [hd, expecting, @eq_comm _ b]

/-- **An object** is accepted if its members fill in all fields. -/
theorem reads_members_iff (h : ∀ m ∈ members, ∃ s, Spells s m.2) :
    Reads ⟨d, false, .member⟩ (Token.separated (members.map keyedTokens) ++ [.objectClose]) b ↔
      ∃ d', d.Fills members d' ∧ d'.request?.isSome ∧ b = ⟨d', false, .nothing⟩ := by
  cases members with
  | nil =>
    rw [List.map_nil, Token.separated, List.nil_append, reads_single_iff,
      step_objectClose_iff (Or.inl rfl)]
    constructor
    · exact fun hb => ⟨d, .nil d, hb⟩
    · rintro ⟨_, ⟨⟩, hb⟩
      exact hb
  | cons m members =>
    obtain ⟨⟨s, hs⟩, hmembers⟩ := List.forall_mem_cons.1 h
    rw [List.map_cons, Token.separated, List.flatMap_map]
    simp only [reads_append_iff, reads_member_iff (Or.inl rfl) hs]
    constructor
    · rintro ⟨_, ⟨_, ⟨d₁, hm, rfl⟩, hrest⟩, hb⟩
      obtain ⟨d', hfills, rfl⟩ := (reads_flatMap_members_iff hmembers).1 hrest
      rw [reads_single_iff, step_objectClose_iff (Or.inr rfl)] at hb
      exact ⟨d', .cons hm hfills, hb⟩
    · rintro ⟨d', ⟨⟩ | ⟨hm, hfills⟩, hb⟩
      refine ⟨_, ⟨_, ⟨_, hm, rfl⟩, (reads_flatMap_members_iff hmembers).2 ⟨d', hfills, rfl⟩⟩, ?_⟩
      rwa [reads_single_iff, step_objectClose_iff (Or.inr rfl)]

/-! ### Elements -/

/-- An element behind others. -/
theorem reads_element (h : Holds r v f) :
    Reads ⟨d, true, .elementEnd (some f)⟩ (.comma :: v.tokens)
      ⟨d.put r f, true, .elementEnd f.next?⟩ :=
  .cons rfl (reads_value_iff.2 ⟨r, h, rfl⟩)

/-- The first element, where there could be the end of the array as well. -/
theorem reads_element_first (h : Holds r v .package) :
    Reads ⟨d, true, .element⟩ v.tokens ⟨d.put r .package, true, .elementEnd (some .name)⟩ := by
  have hvalue : Reads ⟨d, true, .value .package⟩ v.tokens
      ⟨d.put r .package, true, .elementEnd (some .name)⟩ := reads_value_iff.2 ⟨r, h, rfl⟩
  refine .of_step_eq ?_ hvalue
  rw [step, if_neg v.firstToken_ne_arrayClose]
  rfl

/-- **The array of the fields** in the order of their declaration is accepted. -/
theorem reads_elements (h : List.Forall₂ (Holds r) items Field.all) :
    Reads start (Tree.array items).tokens
      ⟨Field.all.foldl (Draft.put r) .empty, true, .nothing⟩ := by
  rw [Tree.tokens, Tree.itemTokens_eq]
  rcases h with _ | ⟨hpackage, _ | ⟨hname, _ | ⟨htype, _ | ⟨himports, _ | ⟨happend, ⟨⟩⟩⟩⟩⟩⟩
  have hopen : step start .arrayOpen = .ok ⟨.empty, true, .element⟩ := rfl
  have hclose : step ⟨Field.all.foldl (Draft.put r) .empty, true, .elementEnd none⟩ .arrayClose =
      .ok ⟨Field.all.foldl (Draft.put r) .empty, true, .nothing⟩ := rfl
  refine .cons hopen (.append (.append (reads_element_first hpackage) ?_) (.single hclose))
  simp only [List.flatMap_cons, List.map_cons, List.map_nil]
  exact .append (reads_element hname) (.append (reads_element htype)
    (.append (reads_element himports) (.append (reads_element happend) (reads_nil_iff.2 rfl))))

end Reader

/-! ## Texts -/

theorem ofTokens_eq_ok_iff {ts : List Token} :
    ofTokens ts = .ok r ↔ ∃ b, Reader.Reads .start ts b ∧ b.finish = .ok r := by
  rw [ofTokens]
  cases h : ts.foldlM Reader.step Reader.start with
  | error e => simp [Reader.Reads, h]
  | ok b => simp [Reader.Reads, h]

/-- The values of the members of an object are spelled. -/
theorem exists_spells_of_mem (h : Spells s (.object members)) :
    ∀ m ∈ members, ∃ s, Spells s m.2 := by
  generalize hv : Tree.object members = v at h
  induction h with
  | before _ _ ih => exact ih hv
  | after _ _ ih => exact ih hv
  | object _ h _ =>
    cases hv
    exact List.forall_mem_map.2 fun m hm => ⟨_, h m hm⟩
  | _ => cases hv

/-- **An object is read as a request** if and only if its members are the fields of the request,
each once, and members under other keys. -/
theorem fromJson_object_iff (h : Spells s (.object members)) : fromJson s = .ok r ↔
    ∃ fs, List.Forall₂ (IsMember r) members fs ∧ fs.reduceOption.Perm Field.all := by
  have hopen : Reader.step .start .objectOpen = .ok ⟨.empty, false, .member⟩ := rfl
  have hread : fromJson s = .ok r ↔ ∃ d, Draft.empty.Fills members d ∧ d.request? = some r := by
    rw [fromJson, h.tokens_eq, Tree.tokens, Tree.memberTokens_eq, ofTokens_eq_ok_iff]
    simp only [Reader.reads_cons_iff, hopen, Except.ok.injEq, exists_eq_left']
    constructor
    · rintro ⟨b, hb, hr⟩
      obtain ⟨d, hfills, hd, rfl⟩ := (Reader.reads_members_iff (exists_spells_of_mem h)).1 hb
      obtain ⟨r', hr'⟩ := Option.isSome_iff_exists.1 hd
      rw [Reader.finish, hr'] at hr
      exact ⟨d, hfills, hr'.trans (congrArg some (Except.ok.inj hr))⟩
    · rintro ⟨d, hfills, hr⟩
      refine ⟨_, (Reader.reads_members_iff (exists_spells_of_mem h)).2 ⟨d, hfills, ?_, rfl⟩, ?_⟩
      · rw [hr, Option.isSome_some]
      · rw [Reader.finish, hr]
  simp only [hread, Draft.fills_iff, Draft.lacks_empty_iff]

/-- **The array of the fields** of a request is read as the request. -/
theorem fromJson_array (h : Spells s (.array items))
    (hitems : List.Forall₂ (Holds r) items Field.all) : fromJson s = .ok r := by
  rw [fromJson, h.tokens_eq, ofTokens_eq_ok_iff]
  exact ⟨_, Reader.reads_elements hitems, rfl⟩

end Request

end GoOptional
