import Mathlib
import DomainModel.Naming
import DomainModel.Proofs.Generation.Undocumented
import DomainModel.Proofs.Text.Literal

/-!
# Documentation in a module

The documentation of declarations, fields and variants only adds literals to the text of a module, each behind a line
that opens a body: `render_undocumented` says that declarations that differ in nothing but documentation and places
are refused alike, or become texts that are equal without these literals.
-/

namespace DomainModel

/-! ## Lines without documentation -/

/-- The lines `ys` are the lines `xs` without some literals that stand as documentation: behind the first line of a
function the lines of the literal are left out, behind that of a class also the empty line after them. -/
inductive Strips : List (List Char) → List (List Char) → Prop
  | nil : Strips [] []
  | keep (line : List Char) {xs ys : List (List Char)} (h : Strips xs ys) : Strips (line :: xs) (line :: ys)
  | function {head : List Char} {block xs ys : List (List Char)} (hhead : head.getLast? = some ':')
      (hblock : IsDocstring 8 block) (h : Strips xs ys) : Strips (head :: (block ++ xs)) (head :: ys)
  | cls {head : List Char} {block xs ys : List (List Char)} (hhead : head.getLast? = some ':')
      (hblock : IsDocstring 4 block) (h : Strips xs ys) : Strips (head :: (block ++ [] :: xs)) (head :: ys)

namespace Strips
variable {xs xs' ys ys' : List (List Char)}

theorem refl (xs : List (List Char)) : Strips xs xs := by
  induction xs with
  | nil => exact .nil
  | cons line xs ih => exact .keep line ih

theorem append (h : Strips xs ys) (h' : Strips xs' ys') : Strips (xs ++ xs') (ys ++ ys') := by
  induction h with
  | nil => exact h'
  | keep line _ ih => exact .keep line ih
  | function hhead hblock _ ih =>
    rw [List.cons_append, List.append_assoc]
    exact .function hhead hblock ih
  | cls hhead hblock _ ih =>
    rw [List.cons_append, List.append_assoc]
    exact .cls hhead hblock ih

theorem flatMap {α : Type} {f g : α → List (List Char)} {as : List α} (h : ∀ a ∈ as, Strips (f a) (g a)) :
    Strips (as.flatMap f) (as.flatMap g) := by
  induction as with
  | nil => exact .nil
  | cons a as ih =>
    exact (h a List.mem_cons_self).append (ih fun b hb => h b (List.mem_cons_of_mem _ hb))

end Strips

/-! ## Texts of lines -/

def textLines (texts : List String) : List (List Char) := texts.flatMap fun s => Lines.splitFeeds s.toList

theorem textLines_append (a b : List String) : textLines (a ++ b) = textLines a ++ textLines b := List.flatMap_append

theorem toList_ofLines (texts : List String) :
    (Member.ofLines texts).toList = texts.flatMap fun s => s.toList ++ ['\n'] := by
  have hfold : ∀ (xs : List String) (s : String), (xs.foldl (· ++ ·) s).toList = s.toList ++ xs.flatMap String.toList := by
    intro xs
    induction xs with
    | nil => exact fun s => (List.append_nil _).symm
    | cons x xs ih =>
      intro s
      rw [List.foldl_cons, ih, String.toList_append, List.flatMap_cons, List.append_assoc]
  rw [Member.ofLines, String.join, hfold, List.flatMap_map]
  simp only [String.toList_append]
  rfl

theorem toList_ofLines_cons (s : String) (texts : List String) :
    (Member.ofLines (s :: texts)).toList = s.toList ++ '\n' :: (Member.ofLines texts).toList := by
  rw [toList_ofLines, toList_ofLines, List.flatMap_cons, List.append_assoc]
  rfl

theorem splitFeeds_ofLines (texts : List String) :
    Lines.splitFeeds (Member.ofLines texts).toList = textLines texts ++ [[]] := by
  rw [toList_ofLines]
  induction texts with
  | nil => rfl
  | cons s texts ih =>
    rw [List.flatMap_cons, List.append_assoc, List.singleton_append, Lines.splitFeeds_append, ih]
    exact (List.append_assoc _ _ _).symm

/-! ## Classes -/

theorem textLines_docLines {docs : List String} (h : docs.map String.toList ≠ []) :
    textLines [ClassPlan.shifted (Docstring.text docs), ""] =
      Lines.shifted (Docstring.encode (docs.map String.toList)) ++ [] :: [] := by
  obtain ⟨hshift, -⟩ := Lines.splitFeeds_shift quotes_spec.1 (by decide) (Quoting.quotes_prefix_encode h)
  rw [textLines, List.flatMap_cons, List.flatMap_singleton, ClassPlan.shifted, Docstring.text, String.toList_ofList,
    String.toList_ofList, hshift]
  rfl

theorem strips_docLines {head : String} (hhead : ∃ cs, head.toList = cs ++ [':']) (docs : List String) :
    Strips (textLines ([head] ++ ClassPlan.docLines docs)) (textLines [head]) := by
  rw [ClassPlan.docLines]
  split
  · exact .refl _
  · next hdocs =>
    obtain ⟨cs, hcs⟩ := hhead
    obtain ⟨ls, l, hl⟩ := Lines.splitFeeds_concat (c := ':') (by decide) cs
    have hne : docs.map String.toList ≠ [] := by simpa using hdocs
    have hlines : textLines [head] = ls ++ [l ++ [':']] := by
      rw [textLines, List.flatMap_singleton, hcs, hl]
    rw [textLines_append, hlines, textLines_docLines hne, List.append_assoc]
    exact (Strips.refl ls).append (.cls (by simp) (isPlainDocstring_encode hne).isDocstring .nil)

/-! ## Members -/

theorem mem_clearBlank_of_return {b : List Char} (h : "    return ".toList <+: b) :
    ∃ c ∈ Lines.clearBlank b, c ≠ '\n' := by
  obtain ⟨d, hd⟩ := Lines.prefix_clearBlank (by decide) ⟨'r', by decide, by decide⟩ h
  exact ⟨'r', by rw [← hd]; exact List.mem_append_left _ (by decide), by decide⟩

/-- The lines in a class of a source whose last lines start with a `return`. -/
theorem splitFeeds_tidy {source : String} {a b : List Char} (hsource : source.toList = a ++ '\n' :: b)
    (ha : ['@'] <+: a) (hb : "    return ".toList <+: b) :
    Lines.splitFeeds (ClassPlan.shifted (Member.tidy source)).toList =
      Lines.shifted (Lines.clearBlank a) ++
        Lines.shifted ((Lines.clearBlank b).reverse.dropWhile (· = '\n')).reverse := by
  obtain ⟨d, hd⟩ := Lines.prefix_clearBlank (by decide) ⟨'@', by decide, by decide⟩ ha
  have htidy : (Member.tidy source).toList = Lines.clearBlank a ++
      '\n' :: ((Lines.clearBlank b).reverse.dropWhile (· = '\n')).reverse := by
    have htrim := Lines.trimFeeds_append (a := Lines.clearBlank a ++ ['\n']) (by rw [← hd]; simp) (by simp)
      (mem_clearBlank_of_return hb)
    rw [List.append_assoc, List.append_assoc] at htrim
    rw [Member.tidy, String.toList_ofList, hsource, Lines.clearBlank_append]
    exact htrim
  have hstart : ['@'] <+: (Member.tidy source).toList := by
    rw [htidy, ← hd, List.append_assoc]
    exact List.prefix_append _ _
  obtain ⟨hshift, -⟩ := Lines.splitFeeds_shift (by simp [Lines.isBreak]) (by decide) hstart
  rw [ClassPlan.shifted, String.toList_ofList, hshift, htidy, Lines.shifted_append]

def propertyLine : List Char := "@property".toList

/-- How an accessor starts, with the first line of its function. -/
def accessorHead (head : String) : List Char := propertyLine ++ '\n' :: head.toList

theorem toList_accessor (head : String) (rest : List String) :
    (Member.ofLines (["@property", head] ++ rest)).toList = accessorHead head ++ '\n' :: (Member.ofLines rest).toList := by
  rw [List.cons_append, List.singleton_append, toList_ofLines_cons, toList_ofLines_cons]
  exact (List.append_assoc _ ('\n' :: head.toList) _).symm

theorem strips_accessor {head ret : String} (hhead : ∃ cs, head.toList = cs ++ [':'])
    (hret : "    return ".toList <+: ret.toList) (docs rest : List String) :
    Strips
      (Lines.splitFeeds (ClassPlan.shifted (Member.tidy
        (Member.ofLines (["@property", head] ++ Member.docLines docs ++ ret :: rest)))).toList)
      (Lines.splitFeeds (ClassPlan.shifted (Member.tidy (Member.ofLines (["@property", head] ++ ret :: rest)))).toList) := by
  have hat : ['@'] <+: accessorHead head := ⟨_, rfl⟩
  have hreturn : "    return ".toList <+: (Member.ofLines (ret :: rest)).toList := by
    rw [toList_ofLines_cons]
    exact hret.trans (List.prefix_append _ _)
  rw [Member.docLines]
  split
  · rw [List.append_nil]
    exact .refl _
  · next hdocs =>
    have hne : docs.map String.toList ≠ [] := by simpa using hdocs
    have hdocumented : (Member.ofLines (["@property", head] ++ [Docstring.bodyText docs] ++ ret :: rest)).toList =
        (accessorHead head ++ '\n' :: Lines.indent (Docstring.encode (docs.map String.toList))) ++
          '\n' :: (Member.ofLines (ret :: rest)).toList := by
      rw [List.append_assoc, toList_accessor, List.singleton_append, toList_ofLines_cons, Docstring.bodyText,
        String.toList_ofList]
      exact (List.append_assoc _ ('\n' :: _) _).symm
    -- the line before the documentation ends in a colon, also when it has been moved
    have hcolon : ∃ cs, accessorHead head = cs ++ [':'] := by
      obtain ⟨cs, hcs⟩ := hhead
      exact ⟨propertyLine ++ '\n' :: cs, by rw [accessorHead, hcs, List.append_assoc, List.cons_append]⟩
    obtain ⟨cs, hcs⟩ := hcolon
    obtain ⟨ds, hds⟩ := Lines.clearBlank_concat (c := ':') (by decide) cs
    obtain ⟨ls, l, hl⟩ := Lines.shifted_concat (c := ':') (by decide) ds
    have hmoved : Lines.shifted (Lines.clearBlank (accessorHead head)) = ls ++ [l ++ [':']] := by rw [hcs, hds, hl]
    rw [splitFeeds_tidy hdocumented (hat.trans (List.prefix_append _ _)) hreturn,
      splitFeeds_tidy (toList_accessor head (ret :: rest)) hat hreturn, Lines.clearBlank_append, Lines.shifted_append,
      hmoved, List.append_assoc, List.append_assoc, List.append_assoc, List.singleton_append, List.singleton_append]
    exact (Strips.refl ls).append (.function (by simp) (isPlainDocstring_indent hne).isDocstring (.refl _))

theorem strips_member (m : Member) :
    Strips (Lines.splitFeeds (ClassPlan.shifted (Member.tidy m.source)).toList)
      (Lines.splitFeeds (ClassPlan.shifted (Member.tidy m.erased.source)).toList) := by
  have hhead : ∀ name annotation : String, ∃ cs, ("def " ++ name ++ "(self) -> " ++ annotation ++ ":").toList = cs ++ [':'] :=
    fun name annotation => ⟨("def " ++ name ++ "(self) -> " ++ annotation).toList, String.toList_append⟩
  cases m with
  | accessor name annotation reading docs =>
    exact strips_accessor (hhead name annotation) (by simp) docs []
  | property name annotation docs =>
    exact strips_accessor (hhead name annotation) (by simp) docs _
  | equality owner field => exact .refl _
  | hash field => exact .refl _
  | display field => exact .refl _
  | clone owner field => exact .refl _
  | tryFrom owner field annotation error => exact .refl _
  | dispatch owner variants name annotation => exact .refl _

/-! ## Modules -/

/-- The members that have a source of their own in the layout of a class. -/
def Layout.members : Layout → List Member
  | .record _ assignable => assignable.map ClassPlan.fieldProperty
  | .sum _ _ => []

def Layout.fixed (name : String) : Layout → List String
  | .record fields _ =>
    [ClassPlan.slotsLine (fields.map fun f => slot f.name), ClassPlan.recordInit fields, ClassPlan.recordRepr name fields]
  | .sum variants payload =>
    [ClassPlan.sumHeader name variants, ClassPlan.sumInit name variants payload, ClassPlan.sumPayload variants,
     ClassPlan.sumRepr, ClassPlan.sumEquality, ClassPlan.sumHash]

theorem body_eq (p : ClassPlan) :
    p.body = p.layout.fixed p.name ++ (p.layout.members ++ p.supplied).map fun m => Member.tidy m.source := by
  rw [ClassPlan.body]
  cases p.layout with
  | record fields assignable =>
    rw [ClassPlan.layoutSources, Layout.fixed, Layout.members, List.map_append, List.map_map, List.append_assoc]
    rfl
  | sum variants payload => rfl

theorem members_erased (l : Layout) : l.erased.members = l.members.map Member.erased := by
  cases l with
  | record fields assignable =>
    rw [Layout.erased, Layout.members, Layout.members, List.map_map, List.map_map]
    rfl
  | sum variants payload => rfl

theorem fixed_erased (name : String) (l : Layout) : l.erased.fixed name = l.fixed name := by
  cases l with
  | record fields assignable =>
    simp [Layout.erased, Layout.fixed, ClassPlan.recordInit, ClassPlan.recordRepr, Field.erased, Function.comp_def]
  | sum variants payload =>
    simp [Layout.erased, Layout.fixed, ClassPlan.sumHeader, ClassPlan.sumInit, ClassPlan.sumPayload,
      ClassPlan.payloadUnion, Variant.erased, Function.comp_def]

theorem variants_erased (p : ClassPlan) : p.erased.variants = p.variants.map (Variant.erased false) := by
  rw [ClassPlan.variants, ClassPlan.variants, ClassPlan.erased]
  cases p.layout <;> rfl

theorem textLines_body (p : ClassPlan) :
    textLines (p.body.map ClassPlan.shifted) = textLines ((p.layout.fixed p.name).map ClassPlan.shifted) ++
      (p.layout.members ++ p.supplied).flatMap fun m =>
        Lines.splitFeeds (ClassPlan.shifted (Member.tidy m.source)).toList := by
  rw [body_eq, List.map_append, textLines_append, List.map_map]
  exact congrArg (_ ++ ·) (List.flatMap_map _ _ _)

theorem strips_body (p : ClassPlan) :
    Strips (textLines (p.body.map ClassPlan.shifted)) (textLines (p.erased.body.map ClassPlan.shifted)) := by
  have hmembers : p.erased.layout.members ++ p.erased.supplied = (p.layout.members ++ p.supplied).map Member.erased := by
    rw [List.map_append, ← members_erased]
    rfl
  have hfixed : p.erased.layout.fixed p.erased.name = p.layout.fixed p.name := fixed_erased p.name p.layout
  rw [textLines_body, textLines_body, hmembers, hfixed, List.flatMap_map]
  exact (Strips.refl _).append (.flatMap fun m _ => strips_member m)

theorem colon_append (s : String) {t : String} (h : ∃ cs, t.toList = cs ++ [':']) : ∃ cs, (s ++ t).toList = cs ++ [':'] := by
  obtain ⟨cs, hcs⟩ := h
  exact ⟨s.toList ++ cs, by rw [String.toList_append, hcs, List.append_assoc]⟩

/-- Behind the first line of a class, and the documentation that stands there, follow lines that correspond. -/
theorem strips_headed {head : String} (hhead : ∃ cs, head.toList = cs ++ [':']) (docs : List String)
    {xs ys : List String} (h : Strips (textLines xs) (textLines ys)) :
    Strips (textLines ([head] ++ ClassPlan.docLines docs ++ xs)) (textLines ([head] ++ ClassPlan.docLines [] ++ ys)) := by
  rw [textLines_append, textLines_append (_ ++ _) ys]
  exact (strips_docLines hhead docs).append h

theorem strips_variant (name : String) (v : Variant) :
    Strips (textLines (ClassPlan.variantLines name v)) (textLines (ClassPlan.variantLines name (v.erased false))) :=
  strips_headed (colon_append _ ⟨[')'], rfl⟩) v.docs (.refl _)

theorem strips_class (p : ClassPlan) : Strips (textLines p.lines) (textLines p.erased.lines) := by
  have hhead : ∃ cs, p.headLine.toList = cs ++ [':'] := colon_append _ ⟨[], rfl⟩
  have hvariants : Strips (textLines (p.variants.flatMap (ClassPlan.variantLines p.name)))
      (textLines (p.erased.variants.flatMap (ClassPlan.variantLines p.erased.name))) := by
    rw [variants_erased, List.flatMap_map, textLines, textLines, List.flatMap_assoc, List.flatMap_assoc]
    exact .flatMap fun v _ => strips_variant p.name v
  have hrest : Strips (textLines (p.body.map ClassPlan.shifted ++ p.variants.flatMap (ClassPlan.variantLines p.name)))
      (textLines (p.erased.body.map ClassPlan.shifted ++
        p.erased.variants.flatMap (ClassPlan.variantLines p.erased.name))) := by
    rw [textLines_append, textLines_append (p.erased.body.map ClassPlan.shifted)]
    exact (strips_body p).append hvariants
  rw [ClassPlan.lines, ClassPlan.lines, List.append_assoc, List.append_assoc (_ ++ _)]
  exact strips_headed hhead p.docs hrest

theorem strips_module (m : Module) :
    Strips (Lines.splitFeeds m.text.toList) (Lines.splitFeeds m.erased.text.toList) := by
  have hclasses : Strips (textLines (m.classes.flatMap ClassPlan.lines))
      (textLines (m.erased.classes.flatMap ClassPlan.lines)) := by
    rw [Module.erased, List.flatMap_map, textLines, textLines, List.flatMap_assoc, List.flatMap_assoc]
    exact .flatMap fun p _ => strips_class p
  have herrors : m.erased.classes.flatMap (fun p => p.errors.map fun e => Member.tidy e.source) =
      m.classes.flatMap fun p => p.errors.map fun e => Member.tidy e.source := List.flatMap_map _ _ _
  have hepilogue : m.erased.classes.flatMap ClassPlan.epilogue = m.classes.flatMap ClassPlan.epilogue := List.flatMap_map _ _ _
  rw [Module.text, Module.text, splitFeeds_ofLines, splitFeeds_ofLines, Module.lines, Module.lines, herrors, hepilogue]
  simp only [textLines_append]
  exact (((((Strips.refl _).append (.refl _)).append hclasses).append (.refl _)).append (.refl _)).append (.refl _)

/-! ## Rendering -/

/-- Without documentation declarations are refused for the same cause, or give the text without documentation. -/
theorem render_erased (ds : List Declaration) (contracts : String) :
    (∃ e, render ds contracts = .error e ∧
        render (ds.map (Declaration.erased false)) contracts = .error e.unlocated) ∨
      ∃ s t, render ds contracts = .ok s ∧ render (ds.map (Declaration.erased false)) contracts = .ok t ∧
        Strips (Lines.splitFeeds s.toList) (Lines.splitFeeds t.toList) := by
  rw [render, render, ofDeclarations_erased]
  cases Module.ofDeclarations ds contracts with
  | error e => exact .inl ⟨e, rfl, rfl⟩
  | ok m => exact .inr ⟨m.text, m.erased.text, rfl, rfl, strips_module m⟩

/-- Declarations that differ only in documentation and places are refused for one cause, or become texts that are
equal without the documentation. -/
theorem render_undocumented {ds ds' : List Declaration} (contracts : String)
    (h : ds.map (Declaration.erased false) = ds'.map (Declaration.erased false)) :
    (∃ e e', render ds contracts = .error e ∧ render ds' contracts = .error e' ∧ e.cause = e'.cause) ∨
      ∃ s s' t, render ds contracts = .ok s ∧ render ds' contracts = .ok s' ∧
        render (ds.map (Declaration.erased false)) contracts = .ok t ∧
        Strips (Lines.splitFeeds s.toList) (Lines.splitFeeds t.toList) ∧
        Strips (Lines.splitFeeds s'.toList) (Lines.splitFeeds t.toList) := by
  have hds := render_erased ds contracts
  have hds' := render_erased ds' contracts
  rw [← h] at hds'
  rcases hds with ⟨e, he, hplain⟩ | ⟨s, t, hs, ht, hstrips⟩
  · rcases hds' with ⟨e', he', hplain'⟩ | ⟨s', t', -, ht', -⟩
    · have hcause := congrArg Diagnostic.cause (Except.error.inj (hplain.symm.trans hplain'))
      exact .inl ⟨e, e', he, he', hcause⟩
    · rw [hplain] at ht'
      cases ht'
  · rcases hds' with ⟨e', -, hplain'⟩ | ⟨s', t', hs', ht', hstrips'⟩
    · rw [ht] at hplain'
      cases hplain'
    · obtain rfl := Except.ok.inj (ht.symm.trans ht')
      exact .inr ⟨s, s', t, hs, hs', ht, hstrips, hstrips'⟩

theorem render_undocumented_record :
    ∃ (ds ds' : List Declaration) (s s' t : String), parse "#: a\nrecord A \x7b\n#: b\npub x: T \x7d" none = .ok ds ∧
      parse "record A \x7b pub x: T \x7d" none = .ok ds' ∧ render ds defaultContracts = .ok s ∧
        render ds' defaultContracts = .ok s' ∧ Strips (Lines.splitFeeds s.toList) (Lines.splitFeeds t.toList) ∧
        Strips (Lines.splitFeeds s'.toList) (Lines.splitFeeds t.toList) := by
  let ds : List Declaration :=
    [{ kind := .record, name := "A", docs := ["a"]
       fields := [⟨"x", ⟨"T", []⟩, .exposed, ["b"], some ⟨4, 5, none⟩⟩], location := some ⟨2, 8, none⟩ }]
  let ds' : List Declaration :=
    [{ kind := .record, name := "A", fields := [⟨"x", ⟨"T", []⟩, .exposed, [], some ⟨1, 16, none⟩⟩]
       location := some ⟨1, 8, none⟩ }]
  have hparse : parse "#: a\nrecord A \x7b\n#: b\npub x: T \x7d" none = .ok ds := by cbv
  have hparse' : parse "record A \x7b pub x: T \x7d" none = .ok ds' := by cbv
  have h : ds.map (Declaration.erased false) = ds'.map (Declaration.erased false) := by decide
  rcases render_undocumented defaultContracts h with ⟨e, -, he, -⟩ | ⟨s, s', t, hs, hs', -, hstrips, hstrips'⟩
  · cases he
  · exact ⟨ds, ds', s, s', t, hparse, hparse', hs, hs', hstrips, hstrips'⟩

end DomainModel
