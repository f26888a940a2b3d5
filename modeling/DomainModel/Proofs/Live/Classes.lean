import DomainModel.Proofs.Live.Statements

/-!
# Statements of classes

The class of a plan is made by one statement, and those of its variants by four each: the class is made, is given its two
names, and is bound in the class of its sum.
-/

namespace DomainModel.Live.Loading

open Run

/-- A class is what its plan says, and so are the classes of its variants. -/
structure Realizes (w : World) (p : ClassPlan) (c : ClassRef) (vs : List (Variant × ClassRef)) : Prop where
  embodies : Embodies w p c vs
  variants : ∀ x ∈ vs, EmbodiesVariant w p c x.1 x.2
  distinct : (vs.map (·.2)).Nodup

/-! ## Variants -/

section
variable {references : List String} {d : Declaration} {w w' : World} {p : ClassPlan} {c k : ClassRef}
  {vs : List (Variant × ClassRef)} {v : Variant} {n : String} {x : Value}

theorem isSpecial_variantClass (hp : isInternal p.name = false) (hv : isInternal v.name = false) :
    isSpecial (ClassPlan.variantClass p.name v) = false := by
  rw [isSpecial, ClassPlan.variantClass, String.toList_append, String.toList_append]
  rw [isInternal, decide_eq_false_iff_not] at hp hv
  change ['_', '_'].isPrefixOf ('_' :: (p.name.toList ++ v.name.toList)) = false
  cases hname : p.name.toList with
  | nil =>
    cases hvariant : v.name.toList with
    | nil => rfl
    | cons a as =>
      rw [hvariant] at hv
      have ha : '_' ≠ a := fun he => hv (by rw [he]; rfl)
      change (('_' == a) && _) = false
      rw [beq_false_of_ne ha, Bool.false_and]
  | cons a as =>
    rw [hname] at hp
    have ha : '_' ≠ a := fun he => hp (by rw [he]; rfl)
    change (('_' == a) && _) = false
    rw [beq_false_of_ne ha, Bool.false_and]

theorem isInternal_variantClass (name : String) (v : Variant) : isInternal (ClassPlan.variantClass name v) = true := by
  rw [isInternal, ClassPlan.variantClass, String.toList_append, String.toList_append]
  simp

theorem ne_variantClass (hn : isInternal n = false) (name : String) (v : Variant) : n ≠ ClassPlan.variantClass name v := by
  rintro rfl
  rw [isInternal_variantClass] at hn
  cases hn

theorem Embodies.eq_of_mem_linearize (h : Embodies w p c vs) (hk : ∃ index, k = .made index) (hmem : k ∈ w.linearize c) : k = c := by
  obtain ⟨line, hline, -, hclosed⟩ := h.behind
  rw [hline] at hmem
  obtain ⟨index, rfl⟩ := hk
  rcases List.mem_cons.mp hmem with rfl | hmem
  · rfl
  · rcases hclosed _ hmem with hobject | ⟨b, -, hb⟩
    · cases hobject
    · have hall : ∀ b : Contract, ∀ k ∈ b.linearization, ∀ index, k ≠ .made index := by
        intro b
        cases b <;> decide
      exact absurd rfl (hall b _ hb index)

theorem EmbodiesVariant.ne_class {q : ClassPlan} {cq : ClassRef} {vq : List (Variant × ClassRef)}
    (h : EmbodiesVariant w p c v k) (hc : Embodies w p c vs) (hq : Embodies w q cq vq) : k ≠ cq := by
  rintro rfl
  obtain ⟨line, hline, -, -⟩ := hc.behind
  have hmem : c ∈ w.linearize k := by
    rw [h.behind, hline]
    simp
  obtain rfl := hq.eq_of_mem_linearize hc.made hmem
  have hlength := congrArg List.length h.behind
  simp at hlength

theorem Embodies.bindVariant (h : Embodies w p c vs) (hp : Clear references d p)
    (hvs : (vs ++ [(v, k)]).map (·.1) <+: p.variants) :
    Embodies (w.adjust c (·.bind v.name (.cls k))) p c (vs ++ [(v, k)]) := by
  have hmem : v ∈ p.variants := hvs.subset (by simp)
  have hinternal : isInternal v.name = false := hp.isInternal_variant hmem
  have hinfo : (w.adjust c (·.bind v.name (.cls k))).info c = (w.info c).bind v.name (.cls k) := World.info_adjust h.there
  have hmember : ∀ n, (w.adjust c (·.bind v.name (.cls k))).member? c n = ((w.info c).bind v.name (.cls k)).member? n :=
    World.member?_adjust h.there
  have hother : ∀ n ≠ v.name, (w.adjust c (·.bind v.name (.cls k))).member? c n = w.member? c n := by
    intro n hn
    rw [hmember, Making.member?_bind_of_ne _ hn, World.member?_eq_info h.there]
  have htable : table p c (vs ++ [(v, k)]) = table p c vs ++ [(v.name, .cls k)] := by
    simp [table]
  have hnodup := hp.nodup_table c hvs
  have hline : (w.adjust c (·.bind v.name (.cls k))).linearize c = w.linearize c := by
    rw [World.linearize, hinfo]
    rfl
  -- all but the table is kept, since no other name is bound; the table grows by the variant
  refine ⟨h.global, h.made, World.isFixed_adjust.trans h.there, ?_, ?_, hline ▸ h.behind, ?_, fun hb => ?_, fun hb x hx => ?_, ?_,
    fun n x hn hx => ?_, fun n hn hhash hx => ?_⟩
  · rw [hinfo]
    exact h.name
  · rw [hinfo]
    exact h.qualname
  · rw [hinfo]
    exact h.isAbstractKind
  · rw [hinfo]
    exact h.isIncomplete hb
  · refine h.said hb x ((hother _ ?_).symm.trans hx)
    rintro he
    rw [← he] at hinternal
    exact absurd hinternal (by decide)
  · rw [hinfo]
    exact h.holdsAttributes
  · rw [htable, List.map_append] at hnodup
    rw [htable] at hx
    rcases List.mem_append.mp hx with hx | hx
    · have hne : n ≠ v.name := by
        rintro rfl
        exact (List.nodup_append.mp hnodup).2.2 _ (List.mem_map_of_mem hx) _ List.mem_cons_self rfl
      exact (hother n hne).trans (h.bound n x hn hx)
    · obtain ⟨rfl, rfl⟩ := Prod.mk.inj (List.mem_singleton.mp hx)
      rw [hmember, Making.member?_bind_self]
  · rw [htable, List.map_append, List.mem_append, not_or] at hx
    have hne : n ≠ v.name := fun he => hx.2 (List.mem_singleton.mpr he)
    exact (hother n hne).trans (h.free n hn hhash hx.1)

theorem nodup_variantBindings (own : ClassRef) (name : String) (v : Variant) :
    ((variantBindings own name v).map (·.1)).Nodup := by
  have hkeys : (variantBindings own name v).map (·.1) = (docBindings v.docs).map (·.1) ++ ["__slots__", "__init__"] := by
    rw [variantBindings, List.map_append]
    rfl
  rw [hkeys, docBindings]
  cases classDoc v.docs with
  | none => decide
  | some doc => exact (by decide : ["__doc__", "__slots__", "__init__"].Nodup)

theorem lookup_slots_variantBindings {own : ClassRef} {name : String} :
    (startBindings name ++ variantBindings own name v).lookup "__slots__" = some (.names []) := by
  have hdocs : (docBindings v.docs).lookup "__slots__" = none := by
    rw [docBindings]
    cases classDoc v.docs <;> rfl
  rw [lookup_append, variantBindings, lookup_append, hdocs]
  rfl

theorem defines_variant {m : Module} {fuel : Nat} (hs : Stage m w) (hc : Embodies w p c vs)
    (h : defineClass (Request.answerWithin fuel) (ClassPlan.variantClass p.name v) [p.name]
      (variantItems (.made w.classes.length) (ClassPlan.variantClass p.name v) v) w = (.ok (), w')) :
    ∃ i i' q line missing cells cells', Defines w w' (ClassPlan.variantClass p.name v) [c]
      (startBindings (ClassPlan.variantClass p.name v)
        ++ variantBindings (.made w.classes.length) (ClassPlan.variantClass p.name v) v) [] i i' q line missing cells cells' := by
  obtain ⟨index, hindex⟩ := hc.made
  have hnames : ∀ n ∈ (variantBindings (.made w.classes.length) (ClassPlan.variantClass p.name v) v).map (·.1),
      n ∈ ["__doc__", "__slots__", "__init__"] := by
    intro n hn
    rw [variantBindings, docBindings, List.map_append, List.mem_append] at hn
    cases hdoc : classDoc v.docs <;> simp [hdoc] at hn ⊢ <;> grind
  have hfree : ∀ n ∈ "__module__" :: "__qualname__" :: "__init_subclass__" :: hookNames,
      n ∉ (variantBindings (.made w.classes.length) (ClassPlan.variantClass p.name v) v).map (·.1) := by
    intro n hn hmem
    have hall : ∀ n ∈ "__module__" :: "__qualname__" :: "__init_subclass__" :: hookNames,
        n ∉ ["__doc__", "__slots__", "__init__"] := by decide
    exact hall n hn (hnames n hmem)
  have hbases : [p.name].mapM Run.global w = (.ok ([c].map .cls), w) := by
    rw [List.mapM_cons, bind_of_ok (global_of_lookup hc.global)]
    rfl
  have hadds : Adds (Request.answerWithin fuel) [] (variantItems (.made w.classes.length) (ClassPlan.variantClass p.name v) v)
      (variantBindings (.made w.classes.length) (ClassPlan.variantClass p.name v) v) w { w with cells := w.cells ++ [] } := by
    rw [List.append_nil]
    exact adds_variant (nodup_variantBindings _ _ v) w
  have hrefs : ∀ k ∈ [c], ∀ n, k ≠ .builtin n := by simp [hindex]
  obtain ⟨i, i', q, line, missing, cells', hd⟩ := defineClass_spec hs.grounds hrefs (by simpa using hc.there) hbases hadds
    (fun n hn => ⟨hfree n (by simp at hn ⊢; grind), List.not_mem_nil⟩)
    (Making.asksFor_of_slots lookup_slots_variantBindings fun _ hn => absurd hn List.not_mem_nil)
    (fun n hn => ⟨hfree n (by simp at hn ⊢; grind), List.not_mem_nil⟩) h
  exact ⟨i, i', q, line, missing, _, cells', hd⟩

theorem assignTo_names {fuel : Nat} {key name qualname : String} {w'' : World} {i : ClassInfo} (hg : Grounds w) (hl : w.Labelled)
    (hk : ∃ index, k = .made index) (hglobal : w.globals.lookup key = some (.cls k)) (hlookup : w.classes.lookup k = some i)
    (hname : assignTo (Request.answerWithin (fuel + 1)) key "__name__" (.constant name) w = (.ok (), w'))
    (hqualname : assignTo (Request.answerWithin (fuel + 1)) key "__qualname__" (.constant qualname) w' = (.ok (), w'')) :
    Steps [] [k] w w'' ∧ w''.classes.lookup k = some { i with name, qualname } := by
  have hfixed : w.isFixed k = false := by
    rw [World.isFixed, hlookup]
    rfl
  have hw' := assignTo_name hglobal hfixed hname
  have hs : Steps [] [k] w w' := by
    rw [hw']
    exact steps_of_adjust hg hk (fun i => ⟨rfl, rfl, rfl, fun _ _ => rfl⟩) (hl.rename hfixed (fun _ => rfl) (fun _ => rfl))
  have hlookup' : w'.classes.lookup k = some { i with name } := by
    rw [hw']
    refine (World.lookup_adjust w k k fun i => { i with name }).trans ?_
    rw [if_pos rfl, hlookup]
    rfl
  have hfixed' : w'.isFixed k = false := by
    rw [World.isFixed, hlookup']
    rfl
  have hw'' := assignTo_qualname ((hs.globals _ List.not_mem_nil).trans hglobal) hfixed' hqualname
  have hs' : Steps [] [k] w' w'' := by
    rw [hw'']
    exact steps_of_adjust hs.grounds hk (fun i => ⟨rfl, rfl, rfl, fun _ _ => rfl⟩)
      (hs.labelled.rename hfixed' (fun _ => rfl) (fun _ => rfl))
  refine ⟨(hs.trans hs').mono (by simp) (by simp), ?_⟩
  rw [hw'']
  refine (World.lookup_adjust w' k k fun i => { i with qualname }).trans ?_
  rw [if_pos rfl, hlookup']
  rfl

theorem assignTo_variant {fuel : Nat} (hg : Grounds w) (hl : w.Labelled) (hc : Embodies w p c vs)
    (hinternal : isInternal v.name = false)
    (h : assignTo (Request.answerWithin (fuel + 1)) p.name v.name (.cls k) w = (.ok (), w')) :
    w' = w.adjust c (·.bind v.name (.cls k)) ∧ Steps [] [c] w w' := by
  have hw' := assignTo_member hc.global hc.there (not_mem_of_eq_false hinternal (by decide)) h
  refine ⟨hw', ?_⟩
  rw [hw']
  exact steps_of_adjust hg hc.made (fun i => .bind i (not_mem_of_eq_false hinternal (by decide)) _)
    (World.Labelled.adjust (f := (·.bind v.name (.cls k))) hl fun _ => ⟨rfl, rfl⟩)

/-- The class of a variant is made and named, and its sum is told of it. -/
theorem defineVariant_spec {m : Module} {fuel : Nat} (hs : Stage m w) (hp : Clear references d p) (hr : Realizes w p c vs)
    (hvs : vs.map (·.1) ++ [v] <+: p.variants)
    (h : defineVariant (Request.answerWithin (fuel + 1)) p.name v w = (.ok (), w')) :
    Steps [ClassPlan.variantClass p.name v] [c] w w' ∧ Realizes w' p c (vs ++ [(v, .made w.classes.length)]) := by
  have hc := hr.embodies
  have hinternal : isInternal v.name = false := hp.isInternal_variant (hvs.subset (by simp))
  have hother : p.name ≠ ClassPlan.variantClass p.name v := ne_variantClass hp.isInternal_name _ _
  have hnext : ∀ k, w.isFixed k = false → k ≠ .made w.classes.length := by
    rintro k hk rfl
    rw [hs.grounds.orderly.isFixed_next] at hk
    cases hk
  -- the class is made
  rw [defineVariant] at h
  obtain ⟨own, v₀, hown, h⟩ := bind_eq_ok h
  cases hown
  obtain ⟨u, w₁, hdefine, h⟩ := bind_eq_ok h
  obtain ⟨i, i', q, line, missing, cells, cells', hd⟩ := defines_variant hs hc hdefine
  have hs₁ : Steps [ClassPlan.variantClass p.name v] [] w w₁ := by
    have hspecial := isSpecial_variantClass (v := v) hp.isInternal_name hinternal
    exact steps_of_defines hs.grounds hs.labelled (not_mem_of_eq_false hspecial (by decide)) hd
  have hglobal : w₁.globals.lookup (ClassPlan.variantClass p.name v) = some (.cls (.made w.classes.length)) := by
    rw [hd.globals]
    exact lookup_bindMember_self _ _ _
  -- it is given its names
  obtain ⟨u, w₂, hname, h⟩ := bind_eq_ok h
  obtain ⟨u, w₃, hqualname, h⟩ := bind_eq_ok h
  obtain ⟨hs₃, hlookup₃⟩ := assignTo_names hs₁.grounds hs₁.labelled ⟨_, rfl⟩ hglobal hd.lookup hname hqualname
  have hto₃ : Steps [ClassPlan.variantClass p.name v] [.made w.classes.length] w w₃ :=
    (hs₁.trans hs₃).mono (by simp) (by simp)
  have hc₃ : Embodies w₃ p c vs := hto₃.embodies hc (by simpa using hother) (by simpa using hnext c hc.there)
  -- its sum is told of it
  rw [bind_of_ok (global_of_lookup ((hs₃.globals _ List.not_mem_nil).trans hglobal))] at h
  obtain ⟨hw', hs₄⟩ := assignTo_variant hs₃.grounds hs₃.labelled hc₃ hinternal h
  have hto : Steps [ClassPlan.variantClass p.name v] [c] w w' :=
    (hto₃.trans hs₄).mono (by simp) (by simp [hs.grounds.orderly.isFixed_next])
  have hlookup : w'.classes.lookup (.made w.classes.length) =
      some { i' with name := v.name, qualname := p.name ++ "." ++ v.name } := by
    rw [hw', World.lookup_adjust, if_neg (hnext c hc.there).symm, hlookup₃]
  have hlinear : w'.linearize c = w.linearize c := by
    rw [hw', World.linearize, World.info_adjust hc₃.there]
    exact (hto₃.agrees c hc.there (by simpa using hnext c hc.there)).linearize
  refine ⟨hto, ?_, fun x hx => ?_, ?_⟩
  · rw [hw']
    exact hc₃.bindVariant hp (by simpa using hvs)
  · rcases List.mem_append.mp hx with hx | hx
    · have hv := hr.variants x hx
      exact hto.embodiesVariant hv (by simpa using hv.ne_class hc hc) hlinear
    · obtain rfl := List.mem_singleton.mp hx
      refine embodiesVariant_of_defines hc hd ?_ ?_ (fun n => ?_) hlinear
      · rw [World.info_of_lookup hlookup, World.info_of_lookup hd.lookup]
      · rw [World.isFixed, hlookup]
        rfl
      · rw [World.member?_of_lookup hlookup, World.member?_of_lookup hd.lookup]
        rfl
  · rw [List.map_append]
    refine hr.distinct.append (List.nodup_singleton _) fun k hk hmem => ?_
    obtain ⟨x, hx, rfl⟩ := List.mem_map.mp hk
    exact hnext _ (hr.variants x hx).there (List.mem_singleton.mp hmem)

end

/-! ## Plans -/

section
variable {references : List String} {m : Module} {d : Declaration} {w w' : World} {p : ClassPlan} {n : String} {fuel : Nat}

theorem Stage.lookup (hs : Stage m w) (hm : m.Sound) (hn : n ∈ m.references) (hi : isInternal n = false)
    (hv : ¬"ValidationError".toList <:+ n.toList) : w.globals.lookup n = imports.lookup n :=
  hs.untouched n (hm.not_mem_assigned hn hi hv)

theorem Stage.contract (hs : Stage m w) (hm : m.Sound) {b : Contract} (hn : b.text ∈ m.references)
    (hb : b ≠ .valueValidationError ∧ b ≠ .message) : w.globals.lookup b.text = some (.cls (.contract b)) := by
  have hall : ∀ b : Contract, b ≠ .valueValidationError ∧ b ≠ .message → isInternal b.text = false ∧
      (¬"ValidationError".toList <:+ b.text.toList) ∧ imports.lookup b.text = some (.cls (.contract b)) := by
    intro b
    cases b <;> decide
  obtain ⟨hi, hv, himports⟩ := hall b hb
  exact (hs.lookup hm hn hi hv).trans himports

def builtinNames : List String :=
  ["property", "classmethod", "int", "str", "hash", "type", "isinstance", "NotImplemented", "TypeError", "super"]

theorem Stage.builtin (hs : Stage m w) (hm : m.Sound) (hn : n ∈ m.references) (hb : n ∈ builtinNames) :
    w.globals.lookup n = none := by
  have hall : ∀ n ∈ builtinNames, isInternal n = false ∧ (¬"ValidationError".toList <:+ n.toList) ∧
      imports.lookup n = none := by decide
  obtain ⟨hi, hv, himports⟩ := hall n hb
  exact (hs.lookup hm hn hi hv).trans himports

theorem mapM_global {bs : List Contract} (h : ∀ b ∈ bs, w.globals.lookup b.text = some (.cls (.contract b))) :
    (bs.map (·.text)).mapM Run.global w = (.ok ((bs.map ClassRef.contract).map .cls), w) := by
  induction bs with
  | nil => rfl
  | cons b bs ih =>
    rw [List.map_cons, List.mapM_cons, bind_of_ok (global_of_lookup (h b List.mem_cons_self)),
      bind_of_ok (ih fun k hk => h k (List.mem_cons_of_mem b hk))]
    rfl

theorem hasTools (hs : Stage m w) (hm : m.Sound) (hp : p ∈ m.classes) (cells : List Cell) :
    HasTools p.name (bodyTools p) { w with cells } := by
  intro t ht
  obtain ⟨hreference, hname⟩ := tools_subset ht
  have hall : ∀ t ∈ ["property", "classmethod"], t ∈ builtinNames ∧ Builtin.value? t = some (.cls (.builtin t)) := by
    decide
  obtain ⟨hbuiltin, hvalue⟩ := hall t hname
  have hlookup := hs.builtin hm (List.mem_flatMap.mpr ⟨p, hp, hreference⟩) hbuiltin
  have hcut : ¬(p.name ∈ w.cutOff ∧ (w.globals.lookup t).isNone) := fun h => by
    rw [hs.grounds.cutOff] at h
    exact List.not_mem_nil h.1
  rw [Run.globalIn, world_bind, if_neg hcut, Run.global, world_bind, World.global?, hlookup, Option.none_or, hvalue]
  rfl

theorem lookup_slots_bodyBindings (p : ClassPlan) (v : Value) :
    (startBindings p.name ++ bodyBindings p v).lookup "__slots__" = some (.names p.layout.places) := by
  have hdocs : (docBindings p.docs).lookup "__slots__" = none := by
    rw [docBindings]
    cases classDoc p.docs <;> rfl
  have hlayout : (layoutBindings p.name v p.layout).lookup "__slots__" = some (.names p.layout.places) := by
    cases p.layout with
    | record fields assignable => simp [layoutBindings, Layout.places]
    | sum variants payload => rfl
  rw [lookup_append, bodyBindings, lookup_append, lookup_append, hdocs, hlayout]
  rfl

theorem defines_plan (hs : Stage m w) (hm : m.Sound) (hp : p ∈ m.classes) (hd : Clear m.references d p)
    (h : defineClass (Request.answerWithin fuel) p.name (p.bases.map (·.text)) (bodyItems p) w = (.ok (), w')) :
    ∃ i i' q line missing cells cells', Defines w w' p.name (baseRefs p)
      (startBindings p.name ++ bodyBindings p (.cell w.cells.length)) p.layout.places i i' q line missing cells cells' := by
  have hbases := mapM_global fun b hb => hs.contract hm (List.mem_flatMap.mpr ⟨p, hp, List.mem_append_left _
    (List.mem_append_left _ (List.mem_append_left _ (List.mem_map_of_mem hb)))⟩) (hd.base_mem b hb)
  obtain ⟨c, roles, fs, ho⟩ := hd.outline
  have hadds : ∃ cells, Adds (Request.answerWithin fuel) (bodyTools p) (bodyItems p) (bodyBindings p (.cell w.cells.length)) w
      { w with cells := w.cells ++ cells } :=
    adds_body (fun x hx => ho.spell_member hd.own hd.internal hx) (hasTools hs hm hp) (hd.nodup_bodyBindings .nothing)
      fun t ht => ho.tools_free hd.own hd.internal (fun n hn hmem => hd.free n hn (hd.subset hmem)) ht
  obtain ⟨cells, hadds⟩ := hadds
  have hfree : ∀ n ∈ "__module__" :: "__qualname__" :: "__init_subclass__" :: hookNames,
      n ∉ (bodyBindings p (.cell w.cells.length)).map (·.1) ∧ n ∉ p.layout.places := by
    have hall : ∀ n ∈ "__module__" :: "__qualname__" :: "__init_subclass__" :: hookNames,
        isSpecial n = true ∧ n ∉ functionNames ∧ n ∉ ["__doc__", annotationsName] := by decide
    intro n hn
    obtain ⟨hspecial, hfunction, hnoted⟩ := hall n hn
    refine ⟨fun hmem => ?_, fun hmem => ?_⟩
    · exact (ho.mem_bodyBindings hd.own hd.internal hmem).elim (hd.not_mem_bound hspecial hfunction) hnoted
    · rw [hd.isSpecial_place hmem] at hspecial
      cases hspecial
  have hplaces : ∀ n ∈ p.layout.places, PrivateName.spell p.name n = n ∧ n ≠ "__dict__" ∧ n ≠ "__weakref__" := by
    intro n hn
    have hspecial := hd.isSpecial_place hn
    obtain ⟨k, -, rfl, hk⟩ := hd.exists_of_mem_places hn
    refine ⟨spell_slot hk, ?_, ?_⟩ <;>
    · rintro he
      rw [he] at hspecial
      exact absurd hspecial (by decide)
  have hstart : ∀ n ∈ ["__module__", "__qualname__"], n ∉ ["property", "classmethod"] := by decide
  obtain ⟨i, i', q, line, missing, cells', hdefines⟩ := defineClass_spec hs.grounds
    (by simp) (by simp [hs.grounds.orderly.isFixed_contract]) hbases hadds
    (fun n hn => ⟨(hfree n (by simp at hn ⊢; grind)).1, fun hmem => hstart n hn (tools_subset hmem).2⟩)
    (Making.asksFor_of_slots (lookup_slots_bodyBindings p _) hplaces)
    (fun n hn => hfree n (by simp at hn ⊢; grind)) h
  exact ⟨i, i', q, line, missing, _, cells', hdefines⟩

end

end DomainModel.Live.Loading
