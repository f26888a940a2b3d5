import DomainModel.Proofs.Generation.Agreement
import DomainModel.Proofs.Generation.Members

/-!
# The order of directives

A class is put together from what its directives give, one behind the other. `plan_reordered` says that the order of the
directives decides the order of its bases and members, but not whether there is a class, nor what it is made of.
-/

namespace DomainModel

def Declaration.withDirectives (d : Declaration) (xs : List Directive) : Declaration := { d with directives := xs }

/-- Two classes differ in the order of their bases, supplied members and surrounding lines at most. -/
structure ClassPlan.SameUpToOrder (p p' : ClassPlan) : Prop where
  name : p'.name = p.name
  docs : p'.docs = p.docs
  bases : p'.bases.Perm p.bases
  /-- The slots, the constructor and what else stands first in the body, in the same order. -/
  layout : layoutSources p'.name p'.layout = layoutSources p.name p.layout
  members : (p'.supplied.map fun m => (m.name, Member.tidy m.source)).Perm
    (p.supplied.map fun m => (m.name, Member.tidy m.source))
  variants : p'.variants = p.variants
  preamble : (p'.errors.map ValueError.source).Perm (p.errors.map ValueError.source)
  epilogue : p'.epilogue.Perm p.epilogue

namespace Declaration
variable {d : Declaration} {xs : List Directive}

/-! ## Checks -/

theorem fits_withDirectives {a : Applied} : Fits (d.withDirectives xs) a ↔ Fits d a :=
  ⟨fun h => ⟨h.role, h.arguments, h.describes, h.conditions⟩, fun h => ⟨h.role, h.arguments, h.describes, h.conditions⟩⟩

theorem carries_withDirectives (hx : xs.Perm d.directives) {r : Role} :
    (d.withDirectives xs).Carries r ↔ d.Carries r := (hx.map Directive.name).mem_iff

theorem publishes_withDirectives (hx : xs.Perm d.directives) : (d.withDirectives xs).Publishes ↔ d.Publishes := by
  rw [Publishes, Publishes]
  exact exists_congr fun x => and_congr_left fun _ => hx.mem_iff

theorem isOk_check_iff : d.check.isOk = true ↔
    (∀ x ∈ d.directives, ∃ a, a.directive = x ∧ Fits d a) ∧ (d.directives.map (·.name)).Nodup := by
  rw [isOk_iff]
  constructor
  · rintro ⟨roles, h⟩
    obtain ⟨hdirs, hfits, hnodup⟩ := check_eq_ok_iff.mp h
    refine ⟨fun x hx => ?_, hnodup⟩
    rw [← hdirs] at hx
    obtain ⟨a, ha, rfl⟩ := List.mem_map.mp hx
    exact ⟨a, rfl, hfits a ha⟩
  · rintro ⟨hall, hnodup⟩
    choose f hf using hall
    refine ⟨d.directives.attach.map fun x => f x.1 x.2, check_eq_ok_iff.mpr ⟨?_, fun a ha => ?_, hnodup⟩⟩
    · rw [List.map_map]
      exact (List.map_congr_left fun x _ => (hf x.1 x.2).1).trans (List.attach_map_subtype_val _)
    · obtain ⟨x, -, rfl⟩ := List.mem_map.mp ha
      exact (hf x.1 x.2).2

theorem isOk_check_withDirectives (hx : xs.Perm d.directives) :
    (d.withDirectives xs).check.isOk = true ↔ d.check.isOk = true := by
  rw [isOk_check_iff, isOk_check_iff]
  refine and_congr ?_ (hx.map Directive.name).nodup_iff
  simp only [fits_withDirectives]
  exact forall_congr' fun x => imp_congr_left hx.mem_iff

theorem refused_withDirectives (hx : xs.Perm d.directives) (h : Refused d) : Refused (d.withDirectives xs) := by
  have hcheck := isOk_check_withDirectives hx
  cases h with
  | unchecked h =>
    cases hc : (d.withDirectives xs).check with
    | error e => exact .unchecked hc
    | ok roles =>
      rw [hc, h] at hcheck
      exact absurd (hcheck.mp rfl) (by simp [Except.isOk, Except.toBool])
  | twofold h he hv =>
    exact .twofold (hcheck.mpr h) ((carries_withDirectives hx).mpr he) ((carries_withDirectives hx).mpr hv)
  | variant hk hv hn => exact .variant hk hv hn
  | accessor hk hc hv hn => exact .accessor hk ((carries_withDirectives hx).mpr hc) hv hn
  | events h hf hn => exact .events ((publishes_withDirectives hx).mpr h) hf hn

theorem refused_withDirectives_iff (hx : xs.Perm d.directives) : Refused (d.withDirectives xs) ↔ Refused d := by
  refine ⟨fun h => ?_, refused_withDirectives hx⟩
  have hback : Refused ((d.withDirectives xs).withDirectives d.directives) := refused_withDirectives hx.symm h
  exact hback

end Declaration

/-! ## Fragments -/

def Directive.fragment? (c : Descriptor) (x : Directive) : Option Fragment :=
  (Role.ofName? x.name).bind fun r => (Applied.fragment ⟨r, x, c⟩).toOption

namespace Outline
variable {d : Declaration} {c : Descriptor} {roles roles' : List Applied} {fs fs' : List Fragment} {p p' : ClassPlan}
  {xs : List Directive}

theorem fragments_eq (h : Outline d c roles fs p) : fs = d.directives.filterMap (Directive.fragment? c) := by
  rw [← h.planned.directives, List.filterMap_map]
  refine (List.filterMap_some.symm : fs = fs.filterMap some).trans (List.filterMap_congr fun f hf => ?_)
  obtain ⟨a, hs, -, rfl⟩ := h.stem_of_mem hf
  rw [Function.comp_apply, Directive.fragment?, hs.contributes.directive, hs.fits.role, Option.bind_some,
    toOption_eq_some_iff.mpr hs.gives]

theorem perm_fragments (h : Outline d c roles fs p) (h' : Outline (d.withDirectives xs) c roles' fs' p')
    (hx : xs.Perm d.directives) : fs'.Perm fs := by
  rw [h.fragments_eq, h'.fragments_eq]
  exact hx.filterMap _

theorem payload_perm (h : Outline d c roles fs p) (h' : Outline (d.withDirectives xs) c roles' fs' p')
    (hfs : fs'.Perm fs) : fs'.findSome? (·.payload) = fs.findSome? (·.payload) := by
  have hsome : (fs'.findSome? (·.payload)).isSome = (fs.findSome? (·.payload)).isSome := by
    rw [Bool.eq_iff_iff, List.findSome?_isSome_iff, List.findSome?_isSome_iff]
    exact exists_congr fun f => and_congr_left fun _ => hfs.mem_iff
  refine Option.ext fun b => ⟨fun hb => ?_, fun hb => ?_⟩
  · obtain ⟨b', hb'⟩ := Option.isSome_iff_exists.mp (hsome.symm.trans (Option.isSome_of_eq_some hb))
    rw [hb', h'.payload_eq hb, h.payload_eq hb']
  · obtain ⟨b', hb'⟩ := Option.isSome_iff_exists.mp (hsome.trans (Option.isSome_of_eq_some hb))
    rw [hb', h.payload_eq hb, h'.payload_eq hb']

theorem sameUpToOrder (h : Outline d c roles fs p) (h' : Outline (d.withDirectives xs) c roles' fs' p')
    (hx : xs.Perm d.directives) : p.SameUpToOrder p' := by
  have hfs := h.perm_fragments h' hx
  have hsupplied : (ClassPlan.suppliedBy fs').Perm (ClassPlan.suppliedBy fs) := hfs.flatMap_right _
  have hlayout : p'.layout = p.layout := by
    rw [h.plan, h'.plan, h.payload_perm h' hfs]
    have hclaimed : ∀ n, n ∈ (ClassPlan.suppliedBy fs').map ClassPlan.Supplied.name ++ fs'.flatMap (·.reserved) ↔
        n ∈ (ClassPlan.suppliedBy fs).map ClassPlan.Supplied.name ++ fs.flatMap (·.reserved) :=
      fun n => ((hsupplied.map _).append (hfs.flatMap_right _)).mem_iff
    simp only [ClassPlan.layOut, hclaimed]
  have hname : p'.name = p.name := by
    rw [h.plan, h'.plan]
    rfl
  refine ⟨hname, by rw [h.plan, h'.plan], ?_, by rw [hname, hlayout], ?_, by rw [ClassPlan.variants, ClassPlan.variants, hlayout],
    ?_, ?_⟩
  · rw [h.bases_eq, h'.bases_eq]
    exact hx.filterMap _
  · rw [h.plan, h'.plan]
    exact (hsupplied.map _).map _
  · rw [h.plan, h'.plan]
    exact (hfs.filterMap _).map _
  · rw [ClassPlan.epilogue, ClassPlan.epilogue, hname, h.plan, h'.plan]
    exact (hfs.filterMap _).map _

end Outline

/-! ## Classes -/

theorem ClassPlan.isOk_ofDeclaration_iff {d : Declaration} (hk : d.kind ≠ .synonym) :
    (∃ p, ofDeclaration d = .ok p) ↔ ¬Refused d := by
  rw [← Module.exists_part_iff]
  have hpart : Module.part d = (ofDeclaration d).map .cls := by
    cases hkind : d.kind with
    | record => exact Module.part_eq_of_record hkind
    | sum => exact Module.part_eq_of_sum hkind
    | synonym => exact absurd hkind hk
  rw [hpart]
  constructor
  · rintro ⟨p, hp⟩
    exact ⟨_, by rw [hp]; rfl⟩
  · rintro ⟨x, hx⟩
    obtain ⟨p, hp, -⟩ := map_eq_ok_iff.mp hx
    exact ⟨p, hp⟩

/-- Another order of its directives does not change whether a declaration passes its check, whether a file with it is
refused, and what its class is made of. -/
theorem plan_reordered {d : Declaration} {xs : List Directive} (hx : xs.Perm d.directives) :
    ((d.withDirectives xs).check.isOk = true ↔ d.check.isOk = true) ∧
      (∀ before behind contracts, (∃ s, render (before ++ d.withDirectives xs :: behind) contracts = .ok s) ↔
        ∃ s, render (before ++ d :: behind) contracts = .ok s) ∧
      ∀ p, ClassPlan.ofDeclaration d = .ok p →
        ∃ p', ClassPlan.ofDeclaration (d.withDirectives xs) = .ok p' ∧ p.SameUpToOrder p' := by
  have hrefused := Declaration.refused_withDirectives_iff hx
  refine ⟨Declaration.isOk_check_withDirectives hx, fun before behind contracts => ?_, fun p hp => ?_⟩
  · rw [exists_render_iff, exists_render_iff]
    simp only [List.forall_mem_append, List.forall_mem_cons, hrefused]
  · obtain ⟨c, roles, fs, h⟩ := exists_outline hp
    have hk : d.kind ≠ .synonym := by
      intro hk
      have hd := h.describes
      rw [Declaration.describe, hk] at hd
      cases hd
    obtain ⟨p', hp'⟩ := (ClassPlan.isOk_ofDeclaration_iff (d := d.withDirectives xs) hk).mpr
      (hrefused.not.mpr ((ClassPlan.isOk_ofDeclaration_iff hk).mp ⟨p, hp⟩))
    obtain ⟨c', roles', fs', h'⟩ := exists_outline hp'
    obtain rfl : c = c' := Except.ok.inj (h.describes.symm.trans h'.describes)
    exact ⟨p', hp', h.sameUpToOrder h' hx⟩

/-- The bases follow the directives, and nothing else does. -/
theorem plan_reordered_entity :
    ∃ d p p', parse "@entity @command record U \x7b id: uuid version: int32 \x7d" none = .ok [d] ∧
      d.directives.reverse.Perm d.directives ∧
      ClassPlan.ofDeclaration d = .ok p ∧ p.bases = [.entity, .command] ∧
      ClassPlan.ofDeclaration (d.withDirectives d.directives.reverse) = .ok p' ∧ p'.bases = [.command, .entity] ∧
      p.SameUpToOrder p' := by
  let d : Declaration :=
    { kind := .record, name := "U"
      directives := [⟨"entity", [], some ⟨1, 2, none⟩⟩, ⟨"command", [], some ⟨1, 10, none⟩⟩]
      fields := [⟨"id", ⟨"uuid", []⟩, .hidden, [], some ⟨1, 29, none⟩⟩,
        ⟨"version", ⟨"int32", []⟩, .hidden, [], some ⟨1, 38, none⟩⟩]
      location := some ⟨1, 25, none⟩ }
  have hparse : parse "@entity @command record U \x7b id: uuid version: int32 \x7d" none = .ok [d] := by cbv
  have hperm : d.directives.reverse.Perm d.directives := List.reverse_perm _
  cases hp : ClassPlan.ofDeclaration d with
  | error e => cases hp
  | ok p =>
    obtain ⟨p', hp', hsame⟩ := (plan_reordered hperm).2.2 p hp
    refine ⟨d, p, p', hparse, hperm, hp, ?_, hp', ?_, hsame⟩
    · cases hp
      rfl
    · cases hp'
      rfl

end DomainModel
