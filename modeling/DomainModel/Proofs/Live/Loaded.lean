import DomainModel.Proofs.Live.Classes

/-!
# Loaded modules

After a module is loaded, each of its plans has a class, and each of its variants and errors as well. What the module
makes use of stands for what it always stands for.
-/

namespace DomainModel.Live

namespace Loading

open Run

section
variable {m : Module} {d : Declaration} {w w' : World} {p : ClassPlan} {c : ClassRef} {vs : List (Variant × ClassRef)}
  {e : ValueError} {n : String} {fuel : Nat}

def planNames (p : ClassPlan) : List String := p.name :: p.variants.map (ClassPlan.variantClass p.name)

theorem planNames_subset (hp : p ∈ m.classes) : planNames p ⊆ m.assigned := by
  intro n hn
  simp only [Module.assigned, List.mem_append]
  exact .inl (.inr (List.mem_flatMap.mpr ⟨p, hp, hn⟩))

theorem definePlan_spec (hs : Stage m w) (hm : m.Sound) (hp : p ∈ m.classes)
    (h : definePlan (Request.answerWithin (fuel + 1)) p w = (.ok (), w')) :
    Steps (planNames p) [] w w' ∧ ∃ c vs, vs.map (·.1) = p.variants ∧ Realizes w' p c vs := by
  obtain ⟨d, hd⟩ := hm.clear p hp
  obtain ⟨u, w₁, hclass, hvariants⟩ := bind_eq_ok h
  obtain ⟨i, i', q, line, missing, cells, cells', hdefines⟩ := defines_plan hs hm hp hd hclass
  have hname : p.name ∉ [builtinsName, "__name__"] := not_mem_of_eq_false hd.isInternal_name (by decide)
  have hs₁ := steps_of_defines hs.grounds hs.labelled hname hdefines
  let I (done : List Variant) (w' : World) : Prop :=
    Steps (p.name :: done.map (ClassPlan.variantClass p.name)) [.made w.classes.length] w w' ∧
      ∃ vs, vs.map (·.1) = done ∧ Realizes w' p (.made w.classes.length) vs
  have hloop : I p.variants w' := by
    refine Run.forM_induction ?_ ?_ hvariants
    · rintro done v w₂ w₃ hpre ⟨hs₂, vs, rfl, hr⟩ hrun
      have hstage : Stage m w₂ := hs.of_steps hs₂ fun n hn => planNames_subset hp ?_
      · obtain ⟨hs₃, hr₃⟩ := defineVariant_spec hstage hd hr hpre hrun
        refine ⟨(hs₂.trans hs₃).mono (by simp) (by simp), _, ?_, hr₃⟩
        simp
      · refine List.cons_subset_cons _ (List.map_subset _ ?_) hn
        exact fun x hx => hpre.subset (List.mem_append_left _ hx)
    · exact ⟨hs₁.mono (by simp) (by simp), [], rfl, embodies_of_defines hd hs.grounds.orderly hdefines, nofun, List.nodup_nil⟩
  obtain ⟨hsteps, vs, hvs, hr⟩ := hloop
  exact ⟨hsteps.mono (List.Subset.refl _) (by simp [hs.grounds.orderly.isFixed_next]), _, vs, hvs, hr⟩

theorem Realizes.of_steps {ns : List String} (hr : Realizes w p c vs) (hs : Steps ns [] w w') (hn : p.name ∉ ns) :
    Realizes w' p c vs :=
  ⟨hs.embodies hr.embodies hn List.not_mem_nil, fun x hx => hs.embodiesVariant (hr.variants x hx) List.not_mem_nil
    (hs.agrees c hr.embodies.there List.not_mem_nil).linearize, hr.distinct⟩

theorem EmbodiesError.of_steps {ns : List String} (he : EmbodiesError w e c) (hs : Steps ns [] w w') (hn : e.name ∉ ns) :
    EmbodiesError w' e c :=
  he.of_agrees (hs.agrees c he.isError.there List.not_mem_nil) (fun k _ hk => hs.agrees k hk List.not_mem_nil)
    (hs.globals _ hn)

/-! ## Errors -/

theorem ofOwner_inj {a b : String} (h : (ValueError.ofOwner a).name = (ValueError.ofOwner b).name) : a = b := by
  have hlist := congrArg String.toList h
  simp only [ValueError.ofOwner, String.toList_append] at hlist
  exact String.toList_injective (List.append_cancel_right hlist)

/-- The errors are made one after the other; one of them may take the place of the contract. -/
theorem defineErrors_spec (hs : Stage m w) (hm : m.Sound) (hv : w.globals.lookup Contract.valueValidationError.text =
      some (.cls (.contract .valueValidationError)))
    (h : (m.classes.flatMap (·.errors)).forM (defineError (Request.answerWithin fuel)) w = (.ok (), w')) :
    Stage m w' ∧ ∀ e ∈ m.classes.flatMap (·.errors), ∃ c, EmbodiesError w' e c := by
  let I (done : List ValueError) (w : World) : Prop :=
    (Stage m w ∧ ∃ b, w.globals.lookup Contract.valueValidationError.text = some (.cls b) ∧ IsError w b) ∧
      ∀ e ∈ done, ∃ c, EmbodiesError w e c
  have hloop : I (m.classes.flatMap (·.errors)) w' := by
    refine Run.forM_induction ?_ ⟨⟨hs, _, hv, isError_contract hs.grounds.orderly⟩, nofun⟩ h
    rintro done e w₁ w₂ hpre ⟨⟨hs₁, b, hlookup, hb⟩, hdone⟩ hrun
    have hmem : ∀ x ∈ done ++ [e], x ∈ m.classes.flatMap (·.errors) := fun x hx => hpre.subset hx
    have he := hm.error_spec (hmem e (by simp))
    have hname : e.name ∉ [builtinsName, "__name__"] := not_mem_of_eq_false he.2.2.2 (by decide)
    obtain ⟨hsteps, hnew⟩ := defineError_spec hs₁.grounds hs₁.labelled hname hlookup hb hrun
    refine ⟨⟨hs₁.of_steps hsteps (by simpa using he.2.2.1), ?_⟩, fun x hx => ?_⟩
    · by_cases hvalue : e.name = Contract.valueValidationError.text
      · exact ⟨_, hvalue ▸ hnew.global, hnew.isError⟩
      · refine ⟨b, (hsteps.globals _ (by simpa using Ne.symm hvalue)).trans hlookup, ?_⟩
        exact hb.of_agrees (hsteps.agrees b hb.there List.not_mem_nil) fun k _ hk => hsteps.agrees k hk List.not_mem_nil
    · by_cases hsame : x.name = e.name
      · obtain ⟨p, -, rfl⟩ := (hm.error_spec (hmem x hx)).1
        obtain ⟨q, -, rfl⟩ := he.1
        rw [ofOwner_inj hsame]
        exact ⟨_, hnew⟩
      · obtain ⟨c, hc⟩ := hdone x (by simpa [show x ≠ e from fun h => hsame (h ▸ rfl)] using hx)
        exact ⟨c, hc.of_steps hsteps (by simpa using hsame)⟩
  exact ⟨hloop.1.1, hloop.2⟩

/-! ## Classes -/

theorem defineClasses_spec (hs : Stage m w) (hm : m.Sound) (he : ∀ e ∈ m.classes.flatMap (·.errors), ∃ c, EmbodiesError w e c)
    (h : m.classes.forM (definePlan (Request.answerWithin (fuel + 1))) w = (.ok (), w')) :
    Stage m w' ∧ (∀ e ∈ m.classes.flatMap (·.errors), ∃ c, EmbodiesError w' e c) ∧
      ∀ p ∈ m.classes, ∃ c vs, vs.map (·.1) = p.variants ∧ Realizes w' p c vs := by
  refine Run.forM_induction (I := fun done w => Stage m w ∧ (∀ e ∈ m.classes.flatMap (·.errors), ∃ c, EmbodiesError w e c) ∧
    ∀ p ∈ done, ∃ c vs, vs.map (·.1) = p.variants ∧ Realizes w p c vs) ?_ ⟨hs, he, nofun⟩ h
  rintro done p w₁ w₂ hpre ⟨hs₁, he₁, hdone⟩ hrun
  have hp : p ∈ m.classes := hpre.subset (by simp)
  obtain ⟨hsteps, hnew⟩ := definePlan_spec hs₁ hm hp hrun
  have hfree : ∀ n, isInternal n = false → n ≠ p.name → n ∉ planNames p := by
    intro n hi hn hmem
    obtain ⟨v, -, rfl⟩ := List.mem_map.mp ((List.mem_cons.mp hmem).resolve_left hn)
    exact ne_variantClass hi _ _ rfl
  refine ⟨hs₁.of_steps hsteps (planNames_subset hp), fun e hmem => ?_, fun q hq => ?_⟩
  · obtain ⟨c, hc⟩ := he₁ e hmem
    obtain ⟨-, href, -, hi⟩ := hm.error_spec hmem
    refine ⟨c, hc.of_steps hsteps (hfree _ hi ?_)⟩
    rintro hn
    exact (hm.isInternal_name hp).2 (hn ▸ href)
  · rcases List.mem_append.mp hq with hq | hq
    · obtain ⟨c, vs, hvs, hr⟩ := hdone q hq
      refine ⟨c, vs, hvs, hr.of_steps hsteps (hfree _ (hm.isInternal_name (hpre.subset (List.mem_append_left _ hq))).1 ?_)⟩
      have hnodup := (hpre.sublist.map (·.name)).nodup hm.nodup_classes
      rw [List.map_append] at hnodup
      exact (List.nodup_append.mp hnodup).2.2 _ (List.mem_map_of_mem hq) _ List.mem_cons_self
    · rw [List.mem_singleton.mp hq]
      obtain ⟨c, vs, hvs, hr⟩ := hnew
      exact ⟨c, vs, hvs, hr⟩

/-! ## Synonyms and events -/

theorem steps_of_setGlobal (hg : Grounds w) (hl : w.Labelled) (hn : isSpecial n = false ∨ n = annotationsName) (v : Value)
    (cells : List Cell) : Steps [n] [] w { w.setGlobal n v with cells } := by
  have hne : ∀ k ∈ [builtinsName, "__name__"], k ≠ n := by
    have hall : ∀ k ∈ [builtinsName, "__name__"], isSpecial k = true ∧ k ≠ annotationsName := by decide
    rintro k hk rfl
    rcases hn with hn | hn
    · rw [(hall k hk).1] at hn
      cases hn
    · exact (hall k hk).2 hn
  have hglobals : ∀ k ≠ n, (w.setGlobal n v).globals.lookup k = w.globals.lookup k :=
    fun k hk => lookup_bindMember_of_ne hk _ _
  refine ⟨⟨orderly_of_classes hg.orderly rfl rfl, ?_, ?_, hg.cutOff⟩, ⟨hl.name, hl.qualname⟩, fun c _ _ => ⟨rfl, rfl, fun _ _ => rfl⟩,
    fun k hk => hglobals k (by simpa using hk)⟩
  · exact (hglobals _ (hne _ List.mem_cons_self)).trans hg.builtins
  · exact (hglobals _ (hne _ (List.mem_cons_of_mem _ List.mem_cons_self))).trans hg.name

theorem isSpecial_eq_false (h : isInternal n = false) : isSpecial n = false := by
  cases hs : isSpecial n with
  | false => rfl
  | true => rw [isInternal_of_isSpecial hs] at h; cases h

theorem defineSynonym_spec {s : Synonym} (hg : Grounds w) (hl : w.Labelled) (hs : isInternal s.name = false)
    (h : defineSynonym s w = (.ok (), w')) :
    Steps [s.name] [] w w' ∧ w'.globals.lookup s.name = some (.constant s.annotation) := by
  have hset := steps_of_setGlobal hg hl (.inl (isSpecial_eq_false hs)) (.constant s.annotation)
  rw [defineSynonym, change_bind] at h
  obtain ⟨noted, w₁, hnoted, h⟩ := bind_eq_ok h
  have hw₁ : w₁ = w.setGlobal s.name (.constant s.annotation) := by
    rw [global_apply] at hnoted
    exact (congrArg Prod.snd hnoted).symm
  rw [world_bind] at h
  cases hentries : w₁.entries? noted with
  | none =>
    rw [hentries] at h
    cases noted <;> cases h
  | some entries =>
    rw [hentries] at h
    cases noted with
    | cell a =>
      obtain rfl := congrArg Prod.snd h
      rw [hw₁]
      exact ⟨hset _, lookup_bindMember_self _ _ _⟩
    | _ => cases h

end

/-! ## All statements -/

def defineAll (ask : Answering) (m : Module) : Run Unit := do
  change fun w => { w with globals := imports }
  if !m.synonyms.isEmpty then
    let noted ← annotations []
    change (·.setGlobal annotationsName noted)
  (m.classes.flatMap (·.errors)).forM (defineError ask)
  m.classes.forM (definePlan ask)
  m.synonyms.forM defineSynonym

/-- The assignments of a module: its classes are told of their events. -/
def assignAll (ask : Answering) (m : Module) : Run Unit :=
  m.classes.forM fun p => p.events.forM (assignEvents ask p.name)

theorem runModule_eq (ask : Answering) (m : Module) :
    runModule ask m = (do defineAll ask m; assignAll ask m) := by
  rw [runModule, defineAll, assignAll]
  split <;> simp only [bind_assoc]

/-- A world in which the synonyms of a module have their annotations. -/
def NamesSynonyms (m : Module) (w : World) : Prop :=
  ∀ s ∈ m.synonyms, w.globals.lookup s.name = some (.constant s.annotation)

end Loading

theorem World.load_eq_ok_iff {m : Module} {w : World} : World.load m = .ok w ↔
    '\x00' ∉ m.text.toList ∧ Loading.isReadableModule m = true ∧
      Loading.runModule Request.answer m World.initial = (.ok (), w) := by
  rw [World.load]
  split
  · next hnull => exact iff_of_false nofun fun h => h.1 hnull
  · next hnull =>
    split
    · next hread => exact iff_of_false nofun fun h => by simp [h.2.1] at hread
    · next hread =>
      have hread : Loading.isReadableModule m = true := by simpa using hread
      rcases hrun : Loading.runModule Request.answer m World.initial with ⟨_ | _, w'⟩
      · exact iff_of_false nofun fun h => by cases h.2.2
      · refine ⟨fun h => ⟨hnull, hread, ?_⟩, fun h => ?_⟩
        · cases h
          rfl
        · cases h.2.2
          rfl

structure World.Loaded (m : Module) (w : World) : Prop where
  stage : Loading.Stage m w
  errors : ∀ e ∈ m.classes.flatMap (·.errors), ∃ c, Loading.EmbodiesError w e c
  classes : ∀ p ∈ m.classes, ∃ c vs, vs.map (·.1) = p.variants ∧ Loading.Realizes w p c vs

namespace World.Loaded

open Run Loading

section
variable {m : Module} {w w' w₀ : World} {p q : ClassPlan} {c : ClassRef} {vs : List (Variant × ClassRef)} {fuel : Nat}

theorem of_steps {ns : List String} (h : w.Loaded m) (hm : m.Sound) (hs : Steps ns [] w w') (hn : ns ⊆ m.assigned)
    (hfree : ∀ n ∈ ns, n ∉ m.classes.map (·.name) ∧ n ∉ m.references) : w'.Loaded m := by
  refine ⟨h.stage.of_steps hs hn, fun e he => ?_, fun p hp => ?_⟩
  · obtain ⟨c, hc⟩ := h.errors e he
    exact ⟨c, hc.of_steps hs fun hmem => (hfree _ hmem).2 (hm.error_spec he).2.1⟩
  · obtain ⟨c, vs, hvs, hr⟩ := h.classes p hp
    exact ⟨c, vs, hvs, hr.of_steps hs fun hmem => (hfree _ hmem).1 (List.mem_map_of_mem hp)⟩

theorem defineSynonyms (h : w.Loaded m) (hm : m.Sound) (hrun : m.synonyms.forM defineSynonym w = (.ok (), w')) :
    w'.Loaded m ∧ NamesSynonyms m w' := by
  refine Run.forM_induction (I := fun done w => w.Loaded m ∧ ∀ s ∈ done, w.globals.lookup s.name = some (.constant s.annotation))
    ?_ ⟨h, nofun⟩ hrun
  rintro done s w₁ w₂ hpre ⟨h₁, hdone⟩ hrun
  have hs : s ∈ m.synonyms := hpre.subset (by simp)
  obtain ⟨hinternal, href⟩ := hm.synonyms s hs
  obtain ⟨hsteps, hnew⟩ := defineSynonym_spec h₁.stage.grounds h₁.stage.labelled hinternal hrun
  refine ⟨h₁.of_steps hm hsteps ?_ ?_, fun t ht => ?_⟩
  · simp only [Module.assigned, List.cons_subset, List.nil_subset, and_true, List.mem_append]
    exact .inr (List.mem_map_of_mem hs)
  · intro n hn
    rw [List.mem_singleton.mp hn]
    exact ⟨fun hmem => (List.nodup_append.mp hm.names).2.2 _ hmem _ (List.mem_map_of_mem hs) rfl, href⟩
  · rcases List.mem_append.mp ht with ht | ht
    · -- no two synonyms have one name
      have hnodup := (hpre.sublist.map (·.name)).nodup (List.nodup_append.mp hm.names).2.1
      rw [List.map_append] at hnodup
      have hne := (List.nodup_append.mp hnodup).2.2 _ (List.mem_map_of_mem ht) _ List.mem_cons_self
      exact (hsteps.globals _ (by simpa using hne)).trans (hdone t ht)
    · rw [List.mem_singleton.mp ht]
      exact hnew

theorem assignEvents (h : w.Loaded m) (hm : m.Sound) (hp : p ∈ m.classes) {events : String} (he : events ∈ p.events)
    (hrun : Loading.assignEvents (Request.answerWithin (fuel + 1)) p.name events w = (.ok (), w')) : w'.Loaded m := by
  obtain ⟨c, vs, hvs, hr⟩ := h.classes p hp
  obtain ⟨x, w₁, hx, hrun⟩ := bind_eq_ok hrun
  have hw₁ : w₁ = w := by
    rw [global_apply] at hx
    exact (congrArg Prod.snd hx).symm
  rw [hw₁] at hrun
  have hc := hr.embodies
  have hw' := assignTo_member hc.global hc.there (by decide) hrun
  have hs : Steps [] [c] w w' := by
    rw [hw']
    exact steps_of_adjust h.stage.grounds hc.made (fun i => .bind i (by decide) _)
      (World.Labelled.adjust (f := (·.bind Role.eventsArgument x)) h.stage.labelled fun _ => ⟨rfl, rfl⟩)
  have hinfo : w'.info c = (w.info c).bind Role.eventsArgument x := by
    rw [hw', World.info_adjust hc.there]
  have hother : ∀ n ≠ Role.eventsArgument, w'.member? c n = w.member? c n := by
    intro n hn
    rw [hw', World.member?_adjust hc.there, Making.member?_bind_of_ne _ hn, World.member?_eq_info hc.there]
  refine ⟨h.stage.of_steps hs (List.nil_subset _), fun e he => ?_, fun q hq => ?_⟩
  · obtain ⟨k, hk⟩ := h.errors e he
    have hfree := hk.isError.not_mem_linearize hc
    refine ⟨k, hk.of_agrees (hs.agrees k hk.isError.there ?_) (fun x hx hfixed => hs.agrees x hfixed ?_) (hs.globals _ List.not_mem_nil)⟩
    · rw [List.mem_singleton]
      rintro rfl
      exact hfree (h.stage.grounds.orderly.mem_linearize_self (.inl hk.isError.there))
    · rw [List.mem_singleton]
      rintro rfl
      exact hfree hx
  · obtain ⟨k, vs', hvs', hr'⟩ := h.classes q hq
    have hk := hr'.embodies
    have hembodies : Embodies w' q k vs' ∧ w'.linearize k = w.linearize k := by
      -- the class assigned to gains the attribute its plan lists; every other class is as it was
      by_cases hkc : k = c
      · subst hkc
        obtain rfl : q = p := List.inj_on_of_nodup_map hm.nodup_classes hq hp (hk.name.symm.trans hc.name)
        refine ⟨hk.congr (by rw [hinfo]; rfl) (by rw [hw', World.isFixed_adjust]) (by rw [hw']; rfl) (hother _ (by decide))
          fun n hn => hother n ?_, by rw [World.linearize, hinfo]; rfl⟩
        rintro rfl
        exact hn (List.mem_append_right _ (List.mem_map.mpr ⟨events, he, rfl⟩))
      · have hk' : k ∉ [c] := by simpa using hkc
        exact ⟨hs.embodies hk List.not_mem_nil hk', (hs.agrees k hk.there hk').linearize⟩
    refine ⟨k, vs', hvs', hembodies.1, fun x hx => ?_, hr'.distinct⟩
    have hv := hr'.variants x hx
    exact hs.embodiesVariant hv (by simpa using hv.ne_class hk hc) hembodies.2

theorem assignAllEvents (h : w.Loaded m) (hm : m.Sound)
    (hrun : assignAll (Request.answerWithin (fuel + 1)) m w = (.ok (), w')) : w'.Loaded m := by
  refine Run.forM_induction (I := fun _ w => w.Loaded m) ?_ h hrun
  intro done p w₁ w₂ hpre h₁ hrun
  refine Run.forM_induction (I := fun _ w => w.Loaded m) ?_ h₁ hrun
  intro done' events w₃ w₄ hpre' h₃ hrun
  exact h₃.assignEvents hm (hpre.subset (by simp)) (hpre'.subset (by simp)) hrun

end

theorem stage_imports (m : Module) : Stage m { World.initial with globals := imports } := by
  have hkept : ∀ key : Value × String, World.initial.kept.lookup key = none := fun _ => rfl
  refine ⟨⟨orderly_of_classes World.orderly_initial rfl rfl, rfl, rfl, rfl⟩, ⟨fun c v h => ?_, fun c v h => ?_⟩, fun _ _ => rfl⟩
  · cases (hkept _).symm.trans h
  · cases (hkept _).symm.trans h

theorem runModule_of_load {m : Module} {w : World} (h : World.load m = .ok w) :
    runModule Request.answer m World.initial = (.ok (), w) := (World.load_eq_ok_iff.mp h).2.2

theorem of_defineAll {m : Module} {w : World} (hm : m.Sound) (hrun : defineAll Request.answer m World.initial = (.ok (), w)) :
    w.Loaded m ∧ NamesSynonyms m w := by
  have hstage := stage_imports m
  -- what is noted for synonyms makes no difference to the rest
  obtain ⟨w₁, hstage₁, hcontract, hrun⟩ : ∃ w₁, Stage m w₁ ∧ w₁.globals.lookup Contract.valueValidationError.text =
      some (.cls (.contract .valueValidationError)) ∧ (do
        (m.classes.flatMap (·.errors)).forM (defineError Request.answer)
        m.classes.forM (definePlan Request.answer)
        m.synonyms.forM defineSynonym : Run Unit) w₁ = (.ok (), w) := by
    rw [defineAll, change_bind] at hrun
    split at hrun
    · have hsteps := fun noted => steps_of_setGlobal hstage.grounds hstage.labelled (.inr rfl) noted
      refine ⟨_, hstage.of_steps (hsteps _ _) ?_, ?_, hrun⟩
      · exact List.cons_subset.mpr ⟨List.mem_cons_self, List.nil_subset _⟩
      · exact ((hsteps _ _).globals _ (by decide)).trans rfl
    · exact ⟨_, hstage, rfl, hrun⟩
  obtain ⟨u, w₂, herrors, hrun⟩ := bind_eq_ok hrun
  obtain ⟨hstage₂, he₂⟩ := defineErrors_spec hstage₁ hm hcontract herrors
  obtain ⟨u, w₃, hclasses, hrun⟩ := bind_eq_ok hrun
  obtain ⟨hstage₃, he₃, hclasses₃⟩ := defineClasses_spec hstage₂ hm he₂ hclasses
  have hloaded₃ : w₃.Loaded m := ⟨hstage₃, he₃, hclasses₃⟩
  exact hloaded₃.defineSynonyms hm hrun

theorem of_load {m : Module} {w : World} (hm : m.Sound) (h : World.load m = .ok w) : w.Loaded m := by
  have hrun := runModule_of_load h
  rw [runModule_eq] at hrun
  obtain ⟨u, w₁, hdefine, hassign⟩ := bind_eq_ok hrun
  exact (of_defineAll hm hdefine).1.assignAllEvents hm hassign

theorem after {m : Module} {w w' : World} (h : w.Loaded m) (ha : w.After w') : w'.Loaded m := by
  obtain ⟨hgrounds, hlabelled, huntouched⟩ := h.stage
  refine ⟨⟨⟨ha.orderly, ha.globals ▸ hgrounds.builtins, ha.globals ▸ hgrounds.name, ha.cutOff.trans hgrounds.cutOff⟩, ha.labelled,
    fun n hn => ha.globals ▸ huntouched n hn⟩, fun e he => ?_, fun p hp => ?_⟩
  · obtain ⟨c, hc⟩ := h.errors e he
    exact ⟨c, hc.of_agrees (ha.agrees c hc.isError.there) (fun k _ hk => ha.agrees k hk) (by rw [ha.globals])⟩
  · obtain ⟨c, vs, hvs, hr⟩ := h.classes p hp
    exact ⟨c, vs, hvs, hr.embodies.after ha, fun x hx => (hr.variants x hx).after hr.embodies ha, hr.distinct⟩

end World.Loaded

end DomainModel.Live
