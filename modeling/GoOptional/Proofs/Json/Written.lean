import Mathlib
import GoOptional.Json.Value
import GoOptional.Proofs.Json.Grammar

/-!
# What is written as JSON

The two written forms of a value spell the same tree: the form without whitespace, and the form with
a line for every part, at any depth. They differ in whitespace only, all of it outside strings, so
the first one is what is left of the second one without it.

## Main definitions

* `Json.StringUnit.ofChar`, `Json.Value.tree`: what a written character and a written value spell
* `Json.withoutSpace`: a text without the whitespace outside its strings

## Main results

* `Json.spellsText_quoted`: a text is spelled by its JSON string
* `Json.Value.spells_compact`, `Json.Value.spells_prettyAt`: a value is spelled by its two forms
* `Json.Value.withoutSpace_prettyAt`: what is left of the longer form without whitespace
-/

namespace GoOptional.Json

/-! ## Strings -/

/-- The unit that a written character spells: the code of a control character without a short
escape, else the character. -/
def StringUnit.ofChar (c : Char) : StringUnit :=
  if c.toNat < 0x20 ∧ c ∉ ['\x08', '\t', '\n', '\x0c', '\r'] then .code c.toNat else .char c

theorem isHexDigit_digitChar {d : Nat} (h : d < 16) : IsHexDigit (Nat.digitChar d) d := by
  have hall : ∀ d < 16, "0123456789abcdef".toList[d]? = some (Nat.digitChar d) := by decide
  exact Or.inl (hall d h)

/-- **A written character** spells one unit: one with a short escape, a control character without
one, or one that stands for itself. -/
theorem spellsUnit_escaped (c : Char) : SpellsUnit (escaped c) (.ofChar c) := by
  unfold escaped
  split_ifs with hquote hback h8 hc hn hr ht hcontrol
  iterate 7
    · subst c
      exact .short (by decide)
  · have hcode : StringUnit.ofChar c =
        .code (((0 * 16 + 0) * 16 + c.toNat / 16) * 16 + c.toNat % 16) := by
      rw [StringUnit.ofChar, if_pos ⟨hcontrol, by simp [h8, hc, hn, hr, ht]⟩]
      congr 1
      omega
    rw [hcode]
    exact .code (isHexDigit_digitChar (by decide)) (isHexDigit_digitChar (by decide))
      (isHexDigit_digitChar (by omega)) (isHexDigit_digitChar (by omega))
  · have hchar : StringUnit.ofChar c = .char c := if_neg fun h => hcontrol h.1
    rw [hchar]
    exact .itself hquote hback (not_lt.1 hcontrol)

/-- The written characters of a text, with their units. -/
def unitParts (s : Text) : List (Text × StringUnit) :=
  s.map fun c => (escaped c, .ofChar c)

theorem quoted_eq (s : Text) : quoted s = '"' :: (unitParts s).flatMap Prod.fst ++ ['"'] := by
  rw [quoted, unitParts, List.flatMap_map]

theorem spellsUnit_unitParts (s : Text) : ∀ p ∈ unitParts s, SpellsUnit p.1 p.2 := by
  rintro p hp
  obtain ⟨c, -, rfl⟩ := List.mem_map.1 hp
  exact spellsUnit_escaped c

theorem spells_quoted (s : Text) : Spells (quoted s) (.string (s.map StringUnit.ofChar)) := by
  have hspells := Spells.string (spellsUnit_unitParts s)
  rwa [← quoted_eq, unitParts, List.map_map] at hspells

theorem encodes_map_ofChar (s : Text) : Encodes (s.map StringUnit.ofChar) s := by
  induction s with
  | nil => exact .nil
  | cons c s ih =>
    rw [List.map_cons, StringUnit.ofChar]
    split_ifs with hcontrol
    · have hcode := Encodes.code (n := c.toNat) (by omega) ih
      rwa [Char.ofNat_toNat] at hcode
    · exact .char c ih

/-- **A text is spelled** by its JSON string. -/
theorem spellsText_quoted (s : Text) : SpellsText (quoted s) s :=
  ⟨_, spells_quoted s, encodes_map_ofChar s⟩

/-! ## Numbers -/

theorem head?_toDigits_ne {n : Nat} (h : 0 < n) : (Nat.toDigits 10 n).head? ≠ some '0' := by
  induction n using Nat.strong_induction_on with
  | h n ih =>
    rw [Nat.toDigits_eq_if (by decide)]
    split_ifs with hlt
    · have hall : ∀ d < 10, 0 < d → Nat.digitChar d ≠ '0' := by decide
      simpa using hall n hlt h
    · have hfirst := ih (n / 10) (by omega) (by omega)
      rwa [List.head?_append_of_ne_nil _ Nat.toDigits_ne_nil]

theorem areDigits_ofNat (n : Nat) : AreDigits (Text.ofNat n) := by
  refine ⟨Nat.toDigits_ne_nil, fun c hc => ?_⟩
  have hdigit := Nat.isDigit_of_mem_toDigits (by decide) (by decide) hc
  rw [Char.isDigit, Bool.and_eq_true, decide_eq_true_eq, decide_eq_true_eq] at hdigit
  exact hdigit

/-- **A natural number** is written as a number. -/
theorem isNumber_ofNat (n : Nat) : IsNumber (Text.ofNat n) := by
  have hwhole : IsWhole (Text.ofNat n) := by
    refine ⟨areDigits_ofNat n, fun rest hrest => ?_⟩
    rcases Nat.eq_zero_or_pos n with rfl | hpos
    · exact (List.cons.inj hrest).2.symm
    · have hfirst : (Text.ofNat n).head? = some '0' := by rw [hrest, List.head?_cons]
      exact absurd hfirst (head?_toDigits_ne hpos)
  exact ⟨[], Text.ofNat n, [], [], by simp, Or.inl rfl, hwhole, Or.inl rfl, Or.inl rfl⟩

/-! ## Lists in brackets -/

section Lists

variable {α : Type} {xs : List α} {space : Text}

theorem Spells.array_map {f : α → Text} {g : α → Tree} (h : ∀ x ∈ xs, Spells (f x) (g x))
    (hspace : ∀ c ∈ space, c ∈ whitespace) :
    Spells ('[' :: Text.join ",".toList (xs.map f) ++ (space ++ [']'])) (.array (xs.map g)) := by
  have hitems : ∀ p ∈ xs.map fun x => (f x, g x), Spells p.1 p.2 := List.forall_mem_map.2 h
  have harray := Spells.array hitems hspace
  rwa [List.map_map, List.map_map] at harray

theorem Spells.object_map {k f : α → Text} {units : α → List StringUnit} {g : α → Tree}
    (hkey : ∀ x ∈ xs, Spells (k x) (.string (units x))) (h : ∀ x ∈ xs, Spells (f x) (g x))
    (hspace : ∀ c ∈ space, c ∈ whitespace) :
    Spells ('\x7b' :: Text.join ",".toList (xs.map fun x => k x ++ ':' :: f x) ++
      (space ++ ['\x7d'])) (.object (xs.map fun x => (units x, g x))) := by
  have hkeys : ∀ m ∈ xs.map fun x => ((k x, units x), (f x, g x)), Spells m.1.1 (.string m.1.2) :=
    List.forall_mem_map.2 hkey
  have hobject := Spells.object hkeys (List.forall_mem_map.2 h) hspace
  rwa [List.map_map, List.map_map] at hobject

end Lists

namespace Value

/-! ## Trees -/

mutual

/-- The tree of a value. -/
def tree : Value → Tree
  | .string s => .string (s.map StringUnit.ofChar)
  | .boolean b => .word (if b then .yes else .no)
  | .number n => .number (Text.ofNat n)
  | .array items => .array (itemTrees items)
  | .object members => .object (memberTrees members)

/-- The trees of the items of an array. -/
def itemTrees : List Value → List Tree
  | [] => []
  | v :: items => v.tree :: itemTrees items

/-- The trees of the members of an object. -/
def memberTrees : List (Text × Value) → List (List StringUnit × Tree)
  | [] => []
  | (key, v) :: members => (key.map StringUnit.ofChar, v.tree) :: memberTrees members

end

theorem itemTrees_eq (items : List Value) : itemTrees items = items.map tree := by
  induction items with
  | nil => rfl
  | cons v items ih => rw [itemTrees, ih, List.map_cons]

theorem memberTrees_eq (members : List (Text × Value)) :
    memberTrees members = members.map fun m => (m.1.map StringUnit.ofChar, m.2.tree) := by
  induction members with
  | nil => rfl
  | cons m members ih => rw [memberTrees, ih, List.map_cons]

theorem compactItems_eq (items : List Value) : compactItems items = items.map compact := by
  induction items with
  | nil => rfl
  | cons v items ih => rw [compactItems, ih, List.map_cons]

theorem compactMembers_eq (members : List (Text × Value)) :
    compactMembers members = members.map fun m => quoted m.1 ++ ':' :: m.2.compact := by
  induction members with
  | nil => rfl
  | cons m members ih => rw [compactMembers, ih, List.map_cons]

theorem prettyItems_eq (depth : Nat) (items : List Value) :
    prettyItems depth items = items.map (prettyAt depth) := by
  induction items with
  | nil => rfl
  | cons v items ih => rw [prettyItems, ih, List.map_cons]

theorem prettyMembers_eq (depth : Nat) (members : List (Text × Value)) :
    prettyMembers depth members =
      members.map fun m => quoted m.1 ++ ": ".toList ++ m.2.prettyAt depth := by
  induction members with
  | nil => rfl
  | cons m members ih => rw [prettyMembers, ih, List.map_cons]

/-- Induction on values: an array from its items, an object from the values of its members. -/
@[elab_as_elim]
theorem induction {P : Value → Prop} (string : ∀ s, P (.string s)) (boolean : ∀ b, P (.boolean b))
    (number : ∀ n, P (.number n)) (array : ∀ items, (∀ v ∈ items, P v) → P (.array items))
    (object : ∀ members, (∀ m ∈ members, P m.2) → P (.object members)) (v : Value) : P v :=
  @Value.rec P (fun items => ∀ v ∈ items, P v) (fun members => ∀ m ∈ members, P m.2)
    (fun m => P m.2) string boolean number array object
    (fun _ h => nomatch h) (fun _ _ hv hitems => List.forall_mem_cons.2 ⟨hv, hitems⟩)
    (fun _ h => nomatch h) (fun _ _ hm hmembers => List.forall_mem_cons.2 ⟨hm, hmembers⟩)
    (fun _ _ hv => hv) v

/-! ## Both forms -/

theorem spells_boolText (b : Bool) : Spells (boolText b) (.word (if b then .yes else .no)) := by
  cases b
  · exact .word .no
  · exact .word .yes

/-- **A value is spelled** by its form without whitespace. -/
theorem spells_compact (v : Value) : Spells v.compact v.tree := by
  induction v using Value.induction with
  | string s => exact spells_quoted s
  | boolean b => exact spells_boolText b
  | number n => exact .number (isNumber_ofNat n)
  | array items ih =>
    rw [compact, compactItems_eq, tree, itemTrees_eq]
    exact .array_map ih (List.forall_mem_nil (· ∈ whitespace))
  | object members ih =>
    rw [compact, compactMembers_eq, tree, memberTrees_eq]
    exact .object_map (fun m _ => spells_quoted m.1) ih (List.forall_mem_nil (· ∈ whitespace))

/-- The start of a line is whitespace. -/
theorem mem_whitespace_of_mem_newLine {depth : Nat} : ∀ c ∈ newLine depth, c ∈ whitespace := by
  intro c h
  rw [newLine, List.mem_cons, List.mem_replicate] at h
  rcases h with rfl | ⟨-, rfl⟩ <;> decide

/-- Lines with a comma between them: each part stands behind the start of its line. -/
theorem newLine_append_join (depth : Nat) {parts : List Text} (h : parts ≠ []) :
    newLine depth ++ Text.join (',' :: newLine depth) parts =
      Text.join ",".toList (parts.map (newLine depth ++ ·)) := by
  cases parts with
  | nil => exact absurd rfl h
  | cons part parts =>
    rw [List.map_cons, join_cons, join_cons, List.flatMap_map, List.append_assoc]
    rfl

/-- What is enclosed is a list of texts with whitespace behind it. -/
theorem exists_enclosed_eq (depth : Nat) (parts : List Text) : ∃ space,
    enclosed depth parts = Text.join ",".toList (parts.map (newLine (depth + 1) ++ ·)) ++ space ∧
      ∀ c ∈ space, c ∈ whitespace := by
  by_cases h : parts = []
  · subst h
    exact ⟨[], rfl, fun _ h => nomatch h⟩
  · refine ⟨newLine depth, ?_, mem_whitespace_of_mem_newLine⟩
    rw [enclosed, if_neg (by simpa using h), newLine_append_join _ h]

/-- **A value is spelled** by its form with lines, at every depth. -/
theorem spells_prettyAt (depth : Nat) (v : Value) : Spells (v.prettyAt depth) v.tree := by
  induction v using Value.induction generalizing depth with
  | string s => exact spells_quoted s
  | boolean b => exact spells_boolText b
  | number n => exact .number (isNumber_ofNat n)
  | array items ih =>
    obtain ⟨space, henclosed, hspace⟩ := exists_enclosed_eq depth (items.map (prettyAt (depth + 1)))
    rw [prettyAt, prettyItems_eq, henclosed, tree, itemTrees_eq, List.map_map, ← List.cons_append,
      List.append_assoc]
    exact .array_map
      (fun v hv => .behind mem_whitespace_of_mem_newLine (ih v hv (depth + 1))) hspace
  | object members ih =>
    obtain ⟨space, henclosed, hspace⟩ := exists_enclosed_eq depth
      (members.map fun m => quoted m.1 ++ ": ".toList ++ m.2.prettyAt (depth + 1))
    have hmember (m : Text × Value) :
        newLine (depth + 1) ++ (quoted m.1 ++ ": ".toList ++ m.2.prettyAt (depth + 1)) =
          newLine (depth + 1) ++ quoted m.1 ++ ':' :: ' ' :: m.2.prettyAt (depth + 1) := by
      simp
    rw [prettyAt, prettyMembers_eq, henclosed, tree, memberTrees_eq, List.map_map,
      ← List.cons_append, List.append_assoc]
    simp only [Function.comp_def, hmember]
    exact .object_map (fun m _ => .behind mem_whitespace_of_mem_newLine (spells_quoted m.1))
      (fun m hm => .before (by decide) (ih m hm (depth + 1))) hspace

/-- **The form of an object with lines** holds those of its values. -/
theorem isObjectText_prettyAt (depth : Nat) (members : List (Text × Value)) :
    IsObjectText ((Value.object members).prettyAt depth)
      (members.map fun m => (m.1, m.2.prettyAt (depth + 1))) := by
  let parts := members.map fun m => quoted m.1 ++ ": ".toList ++ m.2.prettyAt (depth + 1)
  obtain ⟨space, henclosed, hspace⟩ := exists_enclosed_eq depth parts
  refine ⟨parts.map (newLine (depth + 1) ++ ·), space, ?_, hspace, ?_⟩
  · rw [prettyAt, prettyMembers_eq, henclosed, ← List.cons_append, List.append_assoc]
    rfl
  · rw [List.map_map, List.forall₂_map_left_iff, List.forall₂_map_right_iff, List.forall₂_same]
    intro m _
    refine ⟨newLine (depth + 1) ++ quoted m.1, [' '], by simp, ⟨m.1.map StringUnit.ofChar, ?_, ?_⟩,
      by simp [whitespace], m.2.tree, spells_prettyAt (depth + 1) m.2⟩
    · exact .behind mem_whitespace_of_mem_newLine (spells_quoted m.1)
    · exact encodes_map_ofChar m.1

end Value

/-! ## Whitespace outside strings -/

/-- Where a text is left. -/
inductive Place where
  /-- Outside a string. -/
  | outside
  /-- Inside a string. -/
  | inside
  /-- Inside a string, after a backslash. -/
  | escape
  deriving DecidableEq

/-- The text from a place on, without the whitespace outside strings. -/
def withoutSpaceFrom : Place → Text → Text
  | _, [] => []
  | .outside, c :: s =>
    if c ∈ whitespace then withoutSpaceFrom .outside s
    else c :: withoutSpaceFrom (if c = '"' then .inside else .outside) s
  | .inside, c :: s =>
    c :: withoutSpaceFrom (if c = '"' then .outside else if c = '\\' then .escape else .inside) s
  | .escape, c :: s => c :: withoutSpaceFrom .inside s

/-- A text without the whitespace outside its strings. -/
def withoutSpace (s : Text) : Text :=
  withoutSpaceFrom .outside s

/-- A text that starts and ends outside strings is another one without whitespace. -/
def LeavesBehind (s s' : Text) : Prop :=
  ∀ rest, withoutSpaceFrom .outside (s ++ rest) = s' ++ withoutSpaceFrom .outside rest

namespace LeavesBehind

variable {s s' t t' : Text} {c : Char}

theorem nil : LeavesBehind [] [] := fun _ => rfl

theorem append (h : LeavesBehind s s') (h' : LeavesBehind t t') :
    LeavesBehind (s ++ t) (s' ++ t') := by
  intro rest
  rw [List.append_assoc, h, h', List.append_assoc]

theorem whitespace (hs : ∀ c ∈ s, c ∈ whitespace) : LeavesBehind s [] := by
  induction s with
  | nil => exact nil
  | cons c s ih =>
    obtain ⟨hc, hs⟩ := List.forall_mem_cons.1 hs
    intro rest
    rw [List.cons_append, withoutSpaceFrom, if_pos hc, ih hs]

/-- A character that is neither whitespace nor the start of a string. -/
theorem single (hc : c ∉ Json.whitespace) (hquote : c ≠ '"') : LeavesBehind [c] [c] := by
  intro rest
  rw [List.singleton_append, withoutSpaceFrom, if_neg hc, if_neg hquote, List.singleton_append]

/-- A text without whitespace and strings. -/
theorem plain (hs : ∀ c ∈ s, c ∉ Json.whitespace ∧ c ≠ '"') : LeavesBehind s s := by
  induction s with
  | nil => exact nil
  | cons c s ih =>
    obtain ⟨⟨hc, hquote⟩, hs⟩ := List.forall_mem_cons.1 hs
    exact (single hc hquote).append (ih hs)

theorem withoutSpace_eq (h : LeavesBehind s s') : withoutSpace s = s' := by
  have hend := h []
  rwa [List.append_nil, withoutSpaceFrom.eq_1, List.append_nil] at hend

end LeavesBehind

theorem IsHexDigit.ne_mark {c : Char} {d : Nat} (h : IsHexDigit c d) : c ≠ '"' ∧ c ≠ '\\' := by
  have hdigit := h.hexDigit?_eq
  constructor
  · rintro rfl
    simp [Lexer.hexDigit?] at hdigit
  · rintro rfl
    simp [Lexer.hexDigit?] at hdigit

/-- A unit of a string is left as it is. -/
theorem SpellsUnit.withoutSpaceFrom_eq {s : Text} {u : StringUnit} (h : SpellsUnit s u)
    (rest : Text) : withoutSpaceFrom .inside (s ++ rest) = s ++ withoutSpaceFrom .inside rest := by
  cases h with
  | @itself c hquote hback hcontrol => simp [withoutSpaceFrom, hquote, hback]
  | short h => simp [withoutSpaceFrom]
  | @code c₁ c₂ c₃ c₄ _ _ _ _ h₁ h₂ h₃ h₄ =>
    simp [withoutSpaceFrom, h₁.ne_mark, h₂.ne_mark, h₃.ne_mark, h₄.ne_mark]

namespace LeavesBehind

/-- **A written string** is left as it is. -/
theorem string {parts : List (Text × StringUnit)} (h : ∀ p ∈ parts, SpellsUnit p.1 p.2) :
    LeavesBehind ('"' :: parts.flatMap Prod.fst ++ ['"'])
      ('"' :: parts.flatMap Prod.fst ++ ['"']) := by
  have hunits (rest : Text) : withoutSpaceFrom .inside (parts.flatMap Prod.fst ++ rest) =
      parts.flatMap Prod.fst ++ withoutSpaceFrom .inside rest := by
    induction parts with
    | nil => rfl
    | cons p parts ih =>
      obtain ⟨hp, hparts⟩ := List.forall_mem_cons.1 h
      rw [List.flatMap_cons, List.append_assoc, hp.withoutSpaceFrom_eq, ih hparts,
        List.append_assoc]
  intro rest
  have hopen (s : Text) :
      withoutSpaceFrom .outside ('"' :: s) = '"' :: withoutSpaceFrom .inside s := rfl
  have hclose (s : Text) :
      withoutSpaceFrom .inside ('"' :: s) = '"' :: withoutSpaceFrom .outside s := rfl
  simp [hopen, hclose, hunits]

theorem quoted (s : Text) : LeavesBehind (Json.quoted s) (Json.quoted s) := by
  rw [quoted_eq]
  exact string (spellsUnit_unitParts s)

/-- A number is left as it is. -/
theorem ofNat (n : Nat) : LeavesBehind (Text.ofNat n) (Text.ofNat n) := by
  refine plain fun c hc => ?_
  have hrange := (areDigits_ofNat n).2 c hc
  constructor
  · intro hspace
    have hdelimiter := isDelimiter_of_mem_whitespace hspace
    exact (not_more_of_isDelimiter hdelimiter).1 hrange
  · rintro rfl
    exact absurd hrange (by decide)

theorem flatMap {α : Type} {xs : List α} {f g : α → Text}
    (h : ∀ x ∈ xs, LeavesBehind (f x) (g x)) : LeavesBehind (xs.flatMap f) (xs.flatMap g) := by
  induction xs with
  | nil => exact nil
  | cons x xs ih =>
    obtain ⟨hx, hxs⟩ := List.forall_mem_cons.1 h
    rw [List.flatMap_cons, List.flatMap_cons]
    exact hx.append (ih hxs)

/-- Parts with commas between them. -/
theorem join {α : Type} {xs : List α} {f g : α → Text} (h : ∀ x ∈ xs, LeavesBehind (f x) (g x)) :
    LeavesBehind (Text.join ",".toList (xs.map f)) (Text.join ",".toList (xs.map g)) := by
  have hcomma : LeavesBehind [','] [','] := single (by decide) (by decide)
  cases xs with
  | nil => exact nil
  | cons x xs =>
    obtain ⟨hx, hxs⟩ := List.forall_mem_cons.1 h
    rw [List.map_cons, List.map_cons, join_cons, join_cons, List.flatMap_map, List.flatMap_map]
    exact hx.append (flatMap fun y hy => hcomma.append (hxs y hy))

/-- Parts on lines of their own. -/
theorem enclosed {α : Type} {xs : List α} {f g : α → Text} (depth : Nat)
    (h : ∀ x ∈ xs, LeavesBehind (f x) (g x)) :
    LeavesBehind (Value.enclosed depth (xs.map f)) (Text.join ",".toList (xs.map g)) := by
  obtain ⟨space, henclosed, hspace⟩ := Value.exists_enclosed_eq depth (xs.map f)
  have hlines : LeavesBehind
      (Text.join ",".toList (xs.map fun x => Value.newLine (depth + 1) ++ f x))
      (Text.join ",".toList (xs.map g)) :=
    join fun x hx => (whitespace Value.mem_whitespace_of_mem_newLine).append (h x hx)
  rw [henclosed, List.map_map]
  have happend := hlines.append (whitespace hspace)
  rwa [List.append_nil] at happend

end LeavesBehind

namespace Value

/-- **The form with lines** is the form without whitespace, but for whitespace outside strings. -/
theorem leavesBehind_prettyAt (depth : Nat) (v : Value) :
    LeavesBehind (v.prettyAt depth) v.compact := by
  induction v using Value.induction generalizing depth with
  | string s => exact .quoted s
  | boolean b =>
    have hplain : ∀ c ∈ boolText b, c ∉ whitespace ∧ c ≠ '"' := by
      cases b <;> simp [boolText, whitespace]
    exact .plain hplain
  | number n => exact .ofNat n
  | array items ih =>
    have hopen : LeavesBehind ['['] ['['] := .single (by decide) (by decide)
    have hclose : LeavesBehind "]".toList "]".toList := .single (by decide) (by decide)
    rw [prettyAt, prettyItems_eq, compact, compactItems_eq]
    exact (hopen.append (.enclosed depth fun v hv => ih v hv (depth + 1))).append hclose
  | object members ih =>
    have hopen : LeavesBehind ['\x7b'] ['\x7b'] := .single (by decide) (by decide)
    have hclose : LeavesBehind "\x7d".toList "\x7d".toList := .single (by decide) (by decide)
    have hspace : LeavesBehind [' '] [] := .whitespace (List.forall_mem_singleton.2 (by decide))
    have hcolon : LeavesBehind ": ".toList [':'] := .append (.single (by decide) (by decide)) hspace
    rw [prettyAt, prettyMembers_eq, compact, compactMembers_eq]
    refine (hopen.append (.enclosed depth fun m hm => ?_)).append hclose
    rw [List.append_cons]
    exact ((LeavesBehind.quoted m.1).append hcolon).append (ih m hm (depth + 1))

/-- **What is left of the form with lines** without whitespace is the form without it. -/
theorem withoutSpace_prettyAt (depth : Nat) (v : Value) :
    withoutSpace (v.prettyAt depth) = v.compact :=
  (leavesBehind_prettyAt depth v).withoutSpace_eq

end Value

end GoOptional.Json
