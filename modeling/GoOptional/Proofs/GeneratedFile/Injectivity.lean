import Mathlib
import GoOptional.Proofs.GeneratedFile.Series

/-!
# A file determines what was generated

The text of a file that was made by a series of requests can be taken apart again in one way only.
No part of it has a length of its own, and names, types and paths may hold any text that the parts
hold; but they hold no line feed, so every one of them ends at the first line feed behind its start.
A part is therefore recovered together with the place where it ends, whatever follows it.

## Main definitions

* `Request.OneLine`: a request that brings no end of a line
* `GeneratedFile.IsSeries`: a request for a fresh file, and requests that add to it
* `GeneratedFile.pathsOf`: the import paths of a series, in the order of the file

## Main results

* `GeneratedFile.header_append_inj`, `GeneratedFile.importBlock_append_inj`,
  `GeneratedFile.unit_append_inj`: every part is determined by a text that starts with it
* `GeneratedFile.contentAfterAll_eq_iff`: when two series of requests make the same file
-/

namespace GoOptional

/-- A request whose name, type and imports have neither a carriage return nor a line feed. -/
structure Request.OneLine (r : Request) : Prop where
  noReturn : r.NoReturn
  name : '\n' ∉ r.name
  type : '\n' ∉ r.type.descriptor
  imports : ∀ path ∈ r.imports, '\n' ∉ path

instance (r : Request) : Decidable r.OneLine :=
  decidable_of_iff
    (r.NoReturn ∧ '\n' ∉ r.name ∧ '\n' ∉ r.type.descriptor ∧ ∀ path ∈ r.imports, '\n' ∉ path)
    ⟨fun ⟨hr, hn, ht, hi⟩ => ⟨hr, hn, ht, hi⟩, fun ⟨hr, hn, ht, hi⟩ => ⟨hr, hn, ht, hi⟩⟩

/-- The optional that a request asks for: its name and the type that it wraps. -/
def Request.optional (r : Request) : Text × WrappedType :=
  (r.name, r.type)

namespace GeneratedFile

variable {p p' s s' n n' t t' : Text} {ps ps' : List Text}

/-! ## Parts and where they end -/

/-- A text up to its first line feed is determined by any text that starts with it. -/
theorem append_lineFeed_inj (hs : '\n' ∉ s) (hs' : '\n' ∉ s')
    (h : s ++ '\n' :: t = s' ++ '\n' :: t') : s = s' ∧ t = t' := by
  have hlines := congrArg Text.lines h
  rw [Text.lines_append_of_not_mem hs, Text.lines_append_of_not_mem hs'] at hlines
  obtain rfl : s = s' := (Text.Line.mk.inj (List.cons.inj hlines).1).1
  exact ⟨rfl, (List.cons.inj (List.append_cancel_left h)).2⟩

theorem header_append_inj (hp : '\n' ∉ p) (hp' : '\n' ∉ p') (h : header p ++ s = header p' ++ s') :
    p = p' ∧ s = s' := by
  have hends : "\n\n".toList = ['\n', '\n'] := rfl
  delta header at h
  simp only [hends, List.append_assoc, List.append_cancel_left_eq, List.cons_append,
    List.nil_append] at h
  obtain ⟨hpackage, hrest⟩ := append_lineFeed_inj hp hp' h
  exact ⟨hpackage, (List.cons.inj hrest).2⟩

/-- A path may hold quotation marks, so its import ends at the last one of the line. -/
theorem importDeclaration_append_inj (hp : '\n' ∉ p) (hp' : '\n' ∉ p')
    (h : importDeclaration p ++ s = importDeclaration p' ++ s') : p = p' ∧ s = s' := by
  have hends : "\"\n\n".toList = ['"'] ++ ['\n', '\n'] := rfl
  have hquoted {p : Text} (hp : '\n' ∉ p) : '\n' ∉ p ++ ['"'] := by
    simpa using hp
  delta importDeclaration at h
  simp only [hends, List.append_assoc, List.append_cancel_left_eq] at h
  rw [← List.append_assoc, ← List.append_assoc p'] at h
  obtain ⟨hpath, hrest⟩ := append_lineFeed_inj (hquoted hp) (hquoted hp') h
  exact ⟨List.append_cancel_right hpath, (List.cons.inj hrest).2⟩

/-- The comment of a unit gives the name, and the field of its structure gives the type. -/
theorem unit_append_inj (hn : '\n' ∉ n) (hn' : '\n' ∉ n') (ht : '\n' ∉ t) (ht' : '\n' ∉ t')
    (h : unit n t ++ s = unit n' t' ++ s') : n = n' ∧ t = t' ∧ s = s' := by
  have hname : "\ntype Optional".toList = '\n' :: "type Optional".toList := rfl
  have htype : "\n\thas bool\n\x7d\n\nfunc None".toList =
      '\n' :: "\thas bool\n\x7d\n\nfunc None".toList := rfl
  delta unit at h
  simp only [hname, htype, List.append_assoc, List.append_cancel_left_eq, List.cons_append] at h
  obtain ⟨rfl, hfield⟩ := append_lineFeed_inj hn hn' h
  simp only [List.append_cancel_left_eq] at hfield
  obtain ⟨rfl, hrest⟩ := append_lineFeed_inj ht ht' hfield
  simp only [List.append_cancel_left_eq] at hrest
  exact ⟨rfl, rfl, hrest⟩

/-! ## Lists of parts -/

/-- Imports are followed by a unit, whose first character is that of a comment. -/
theorem importBlock_append_inj (hps : ∀ p ∈ ps, '\n' ∉ p) (hps' : ∀ p ∈ ps', '\n' ∉ p)
    (hs : s.head? = some '/') (hs' : s'.head? = some '/')
    (h : importBlock ps ++ s = importBlock ps' ++ s') : ps = ps' ∧ s = s' := by
  have hhead (p : Text) (ps : List Text) (s : Text) :
      (importBlock (p :: ps) ++ s).head? = some 'i' := rfl
  induction ps generalizing ps' with
  | nil =>
    cases ps' with
    | nil => exact ⟨rfl, h⟩
    | cons p' ps' =>
      have hfirst := hhead p' ps' s'
      rw [← h, importBlock, List.flatMap_nil, List.nil_append, hs] at hfirst
      cases hfirst
  | cons p ps ih =>
    cases ps' with
    | nil =>
      have hfirst := hhead p ps s
      rw [h, importBlock, List.flatMap_nil, List.nil_append, hs'] at hfirst
      cases hfirst
    | cons p' ps' =>
      obtain ⟨hp, hps⟩ := List.forall_mem_cons.1 hps
      obtain ⟨hp', hps'⟩ := List.forall_mem_cons.1 hps'
      simp only [importBlock, List.flatMap_cons, List.append_assoc] at h
      obtain ⟨hpath, hblock⟩ := importDeclaration_append_inj hp hp' h
      obtain ⟨hpaths, hrest⟩ := ih hps hps' hblock
      exact ⟨by rw [hpath, hpaths], hrest⟩

/-- Units, each behind a line feed. -/
def unitBlock (optionals : List (Text × WrappedType)) : Text :=
  optionals.flatMap fun o => '\n' :: unit o.1 o.2.descriptor

theorem unitBlock_inj {os os' : List (Text × WrappedType)}
    (hos : ∀ o ∈ os, '\n' ∉ o.1 ∧ '\n' ∉ o.2.descriptor)
    (hos' : ∀ o ∈ os', '\n' ∉ o.1 ∧ '\n' ∉ o.2.descriptor) (h : unitBlock os = unitBlock os') :
    os = os' := by
  induction os generalizing os' with
  | nil =>
    cases os' with
    | nil => rfl
    | cons o' os' => cases h
  | cons o os ih =>
    cases os' with
    | nil => cases h
    | cons o' os' =>
      obtain ⟨⟨hn, ht⟩, hos⟩ := List.forall_mem_cons.1 hos
      obtain ⟨⟨hn', ht'⟩, hos'⟩ := List.forall_mem_cons.1 hos'
      simp only [unitBlock, List.flatMap_cons, List.cons_append] at h
      obtain ⟨hname, htype, hrest⟩ := unit_append_inj hn hn' ht ht' (List.cons.inj h).2
      have ho : o = o' := Prod.ext hname (congrArg WrappedType.mk htype)
      rw [ho, ih hos hos' hrest]

/-! ## The text of a series -/

/-- The import paths of a series of requests in the order of the file: those of the newest request
first. -/
def pathsOf (first : Request) (added : List Request) : List Text :=
  (first :: added).reverse.flatMap Request.imports

theorem seriesImports_eq (first : Request) (added : List Request) :
    seriesImports first added = importBlock (pathsOf first added) := by
  rw [seriesImports, importBlock, pathsOf, List.flatMap_assoc]
  rfl

theorem cons_seriesUnits (first : Request) (added : List Request) :
    '\n' :: seriesUnits first added = unitBlock ((first :: added).map Request.optional) := by
  rw [unitBlock, List.flatMap_map, List.flatMap_cons]
  rfl

theorem head?_seriesUnits (first : Request) (added : List Request) :
    (seriesUnits first added).head? = some '/' := by
  have hcomment : "// ".toList = ['/', '/', ' '] := rfl
  delta seriesUnits unitOf unit
  simp only [hcomment, List.append_assoc, List.cons_append, List.head?_cons]

/-- A series of requests whose file can be taken apart: one for a fresh file of a package whose
name is an identifier, and then requests that add to it. -/
structure IsSeries (first : Request) (added : List Request) : Prop where
  fresh : first.append = false
  isIdentifier : isIdentifier first.package = true
  adding : ∀ r ∈ added, r.append = true
  oneLine : ∀ r ∈ first :: added, r.OneLine

namespace IsSeries

variable {first first' : Request} {added added' : List Request}

theorem fits (h : IsSeries first added) : ∀ r ∈ first :: added, Fits r := by
  refine List.forall_mem_cons.2 ⟨?_, fun r hr => ?_⟩
  · exact ⟨(h.oneLine first List.mem_cons_self).noReturn, fun _ => h.isIdentifier⟩
  · refine ⟨(h.oneLine r (List.mem_cons_of_mem _ hr)).noReturn, fun hfresh => ?_⟩
    rw [h.adding r hr] at hfresh
    cases hfresh

theorem not_mem_package (h : IsSeries first added) : '\n' ∉ first.package :=
  not_mem_of_isIdentifier h.isIdentifier (by decide +kernel)

theorem not_mem_pathsOf (h : IsSeries first added) : ∀ p ∈ pathsOf first added, '\n' ∉ p := by
  intro p hp
  obtain ⟨r, hr, hp⟩ := List.mem_flatMap.1 hp
  exact (h.oneLine r (List.mem_reverse.1 hr)).imports p hp

theorem not_mem_optional (h : IsSeries first added) :
    ∀ o ∈ (first :: added).map Request.optional, '\n' ∉ o.1 ∧ '\n' ∉ o.2.descriptor := by
  intro o ho
  obtain ⟨r, hr, rfl⟩ := List.mem_map.1 ho
  exact ⟨(h.oneLine r hr).name, (h.oneLine r hr).type⟩

/-- What a file holds after a series of requests. -/
theorem contentAfterAll_eq (h : IsSeries first added) (existing : Bytes) :
    contentAfterAll existing (first :: added) = Utf8.encode (seriesText first added) := by
  have hone : Holds [first] (contentAfter existing first) := by
    rw [contentAfter_of_update (update_eq_of_append_eq_false h.fresh existing)]
    exact ⟨[], first, [], rfl, h.fresh, List.forall_mem_nil _, rfl⟩
  obtain ⟨hfirst, hadded⟩ := List.forall_mem_cons.1 h.fits
  obtain ⟨-, before, r, rest, hsplit, hfresh, -, hcontent⟩ :=
    holds_contentAfterAll hone (by simpa using hfirst) hadded
  cases before with
  | nil =>
    obtain ⟨rfl, rfl⟩ := List.cons.inj hsplit
    exact hcontent
  | cons b before =>
    have hr : r ∈ added := by
      rw [List.singleton_append, List.cons_append, List.cons.injEq] at hsplit
      rw [hsplit.2]
      simp
    rw [h.adding r hr] at hfresh
    cases hfresh

theorem seriesText_inj (h : IsSeries first added) (h' : IsSeries first' added')
    (heq : seriesText first added = seriesText first' added') :
    first.package = first'.package ∧
      (first :: added).map Request.optional = (first' :: added').map Request.optional ∧
      pathsOf first added = pathsOf first' added' := by
  simp only [seriesText, seriesImports_eq, List.append_assoc] at heq
  obtain ⟨hpackage, heq⟩ := header_append_inj h.not_mem_package h'.not_mem_package heq
  obtain ⟨hpaths, hunits⟩ := importBlock_append_inj h.not_mem_pathsOf h'.not_mem_pathsOf
    (head?_seriesUnits _ _) (head?_seriesUnits _ _) heq
  have hblock := congrArg ('\n' :: ·) hunits
  simp only [cons_seriesUnits] at hblock
  exact ⟨hpackage, unitBlock_inj h.not_mem_optional h'.not_mem_optional hblock, hpaths⟩

theorem seriesText_congr (hpackage : first.package = first'.package)
    (hoptionals : (first :: added).map Request.optional = (first' :: added').map Request.optional)
    (hpaths : pathsOf first added = pathsOf first' added') :
    seriesText first added = seriesText first' added' := by
  have hunits : seriesUnits first added = seriesUnits first' added' := by
    apply List.cons_injective (a := '\n')
    rw [cons_seriesUnits, cons_seriesUnits, hoptionals]
  rw [seriesText, seriesText, seriesImports_eq, seriesImports_eq, hpackage, hpaths, hunits]

end IsSeries

/-- **A file determines what was generated.** Two series of requests, on whatever files, leave the
same content if and only if they have the same package, the same names and types in order, and the
same import paths in the order of the file. -/
theorem contentAfterAll_eq_iff {first first' : Request} {added added' : List Request}
    (h : IsSeries first added) (h' : IsSeries first' added') (existing existing' : Bytes) :
    contentAfterAll existing (first :: added) = contentAfterAll existing' (first' :: added') ↔
      first.package = first'.package ∧
        (first :: added).map Request.optional = (first' :: added').map Request.optional ∧
        pathsOf first added = pathsOf first' added' := by
  rw [h.contentAfterAll_eq, h'.contentAfterAll_eq, Utf8.encode_injective.eq_iff]
  constructor
  · exact h.seriesText_inj h'
  · rintro ⟨hpackage, hoptionals, hpaths⟩
    exact IsSeries.seriesText_congr hpackage hoptionals hpaths

/-- A request whose name and type look like other parts of a unit, and whose import path looks like
two imports. -/
def forgingRequest : Request :=
  ((Request.fresh "other".toList "Int struct \x7b".toList
    ⟨"int) Get() (int, bool) \x7b".toList⟩).importing ["os\" import \"io".toList]).appending true

theorem isSeries_fileRequest : IsSeries intRequest [fileRequest] :=
  ⟨rfl, by decide +kernel, by decide, by decide +kernel⟩

theorem isSeries_forgingRequest : IsSeries intRequest [forgingRequest] :=
  ⟨rfl, by decide +kernel, by decide, by decide +kernel⟩

theorem contentAfterAll_eq_iff_forgingRequest :
    IsSeries intRequest [fileRequest] ∧ IsSeries intRequest [forgingRequest] ∧
    (contentAfterAll [] [intRequest, fileRequest] =
        contentAfterAll [0xFF] [intRequest, forgingRequest] ↔
      intRequest.package = intRequest.package ∧
        [intRequest, fileRequest].map Request.optional =
          [intRequest, forgingRequest].map Request.optional ∧
        pathsOf intRequest [fileRequest] = pathsOf intRequest [forgingRequest]) :=
  ⟨isSeries_fileRequest, isSeries_forgingRequest,
    contentAfterAll_eq_iff isSeries_fileRequest isSeries_forgingRequest [] [0xFF]⟩

end GeneratedFile

end GoOptional
