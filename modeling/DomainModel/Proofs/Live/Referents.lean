import DomainModel.Proofs.Live.Hosting

/-!
# What names stand for

When a module has been loaded, the name of a declaration stands for its class or for the annotation of its synonym, that of an
error for its class, and any other name for what it stood for before. A name stands for a sum of events only if it is that of
such a declaration or of their contract (`isEvents_iff`).
-/

namespace DomainModel

variable {text : String} {file : Option String} {ds : List Declaration} {contracts : String} {m : Module} {d : Declaration}
  {n : String}

/-- The names that stand for something in the module of a file: those of its declarations, of the errors of its value objects,
of what it imports, and built-in ones. -/
def IsKnown (ds : List Declaration) (n : String) : Prop :=
  n ∈ ds.map (·.name) ∨ (∃ d ∈ ds, d.Carries .valueObject ∧ (ValueError.ofOwner d.name).name = n) ∨
    (Live.Loading.imports.lookup n).isSome ∨ (Live.Builtin.value? n).isSome

/-- The names that stand for sums of events: those of the sums of the file, and that of their contract unless it is declared. -/
def NamesEvents (ds : List Declaration) (n : String) : Prop :=
  (∃ d ∈ ds, d.name = n ∧ d.Carries .domainEvents) ∨ n = Contract.domainEvents.text ∧ n ∉ ds.map (·.name)

theorem eq_of_name (h : parse text file = .ok ds) {e : Declaration} (hd : d ∈ ds) (he : e ∈ ds) (hn : d.name = e.name) : d = e :=
  List.inj_on_of_nodup_map (nodup_of_parse h) hd he hn

theorem exists_synonym (hm : Module.ofDeclarations ds contracts = .ok m) (hd : d ∈ ds) (hk : d.kind = .synonym) :
    ∃ s ∈ m.synonyms, s.name = d.name := by
  rw [Module.ofDeclarations, bind_eq_ok_iff] at hm
  obtain ⟨parts, hparts, hm⟩ := hm
  obtain ⟨x, hx, hpart⟩ := exists_mem_of_forall₂ (forall₂_of_mapM_eq_ok hparts) d hd
  rw [Module.part, hk, bind_eq_ok_iff] at hpart
  obtain ⟨roles, -, hpart⟩ := hpart
  cases hpart
  cases hm
  exact ⟨_, List.mem_filterMap.mpr ⟨_, hx, rfl⟩, rfl⟩

theorem exists_error_iff (h : parse text file = .ok ds) (hm : Module.ofDeclarations ds contracts = .ok m)
    (hu : Unobtrusive ds m) : (∃ e ∈ m.classes.flatMap (·.errors), e.name = n) ↔
      ∃ d ∈ ds, d.Carries .valueObject ∧ (ValueError.ofOwner d.name).name = n := by
  constructor
  · rintro ⟨e, he, rfl⟩
    obtain ⟨p, hp, he⟩ := List.mem_flatMap.mp he
    obtain ⟨d, hd, hplan⟩ := (plans_of_module hm).1 p hp
    obtain ⟨c, roles, fs, ho⟩ := exists_outline hplan
    rw [ho.errors_eq] at he
    split at he
    · next hr => exact ⟨d, hd, hr, congrArg ValueError.name (List.mem_singleton.mp he).symm⟩
    · cases he
  · rintro ⟨d, hd, hr, rfl⟩
    obtain ⟨p, hp, hclear⟩ := exists_plan h hm hu hd (kind_ne_synonym_of_carries hm hd hr)
    obtain ⟨c, roles, fs, ho⟩ := hclear.outline
    have he : ValueError.ofOwner d.name ∈ p.errors := by
      rw [ho.errors_eq, if_pos hr]
      exact List.mem_cons_self
    exact ⟨_, List.mem_flatMap.mpr ⟨p, hp, he⟩, rfl⟩

namespace Live

open Loading

/-- What a name stands for that does not start with an underscore. -/
inductive World.Refers (w : World) (ds : List Declaration) (m : Module) (n : String) : Prop
  | declared (d : Declaration) (p : ClassPlan) (c : ClassRef) (vs : List (Variant × ClassRef)) (hd : d ∈ ds) (hn : d.name = n)
      (hosts : w.Hosts m d p c vs) (hc : w.globals.lookup n = some (.cls c))
  | synonym (d : Declaration) (hd : d ∈ ds) (hn : d.name = n) (hk : d.kind = .synonym) ( annotation : String)
      (hv : w.globals.lookup n = some (.constant annotation))
  | error (e : ValueError) (c : ClassRef) (hno : n ∉ ds.map (·.name)) (he : e ∈ m.classes.flatMap (·.errors)) (hn : e.name = n)
      (embodies : EmbodiesError w e c)
  | outside (hno : n ∉ ds.map (·.name)) (herror : ¬∃ e ∈ m.classes.flatMap (·.errors), e.name = n)
      (hv : w.globals.lookup n = imports.lookup n)

def World.IsEvents (w : World) (v : Value) : Prop := ∃ k, v = .cls k ∧ w.isSubclass k (.contract .domainEvents) = true

variable {w : World} {p : ClassPlan} {c : ClassRef} {vs : List (Variant × ClassRef)} {e : ValueError} {v : Value}

theorem World.isEvents_cls : w.IsEvents (.cls c) ↔ .contract .domainEvents ∈ w.linearize c := by
  simp [IsEvents, isSubclass]

theorem World.Hosts.isEvents_iff (h : w.Hosts m d p c vs) : w.IsEvents (.cls c) ↔ d.Carries .domainEvents := by
  obtain ⟨line, hline, hbehind, hclosed⟩ := h.embodies.behind
  obtain ⟨index, hmade⟩ := h.embodies.made
  obtain ⟨_, roles, fs, ho⟩ := h.clear.outline
  rw [World.isEvents_cls, hline]
  constructor
  · intro hmem
    have hline : .contract .domainEvents ∈ line := (List.mem_cons.mp hmem).resolve_left (by rw [hmade]; nofun)
    obtain ⟨b, hb, hmem⟩ := (hclosed _ hline).resolve_left nofun
    obtain ⟨r, publishes, hr, rfl⟩ := ho.exists_role_of_base hb
    have honly : ∀ (r : Role) publishes, .contract .domainEvents ∈ (r.base publishes).linearization → r = .domainEvents := by
      intro r publishes
      cases r <;> cases publishes <;> decide
    exact honly r publishes hmem ▸ hr
  · intro hr
    obtain ⟨publishes, hb⟩ := ho.base_mem_bases hr
    have hself : ∀ publishes, .contract .domainEvents ∈ (Role.domainEvents.base publishes).linearization := by decide
    exact List.mem_cons_of_mem _ (hbehind _ hb (hself publishes))

theorem Loading.IsError.not_isEvents (h : IsError w c) (ho : w.Orderly) : ¬w.IsEvents (.cls c) := by
  rw [World.isEvents_cls]
  obtain ⟨before, hline, hbefore⟩ := h.behind
  rw [hline, List.mem_append, not_or]
  refine ⟨fun hmem => ?_, by decide⟩
  have hnone := (hbefore _ hmem).2 "payload" (by decide)
  rw [ho.member?_contract _ (by decide)] at hnone
  exact absurd hnone (by decide)

theorem World.Orderly.not_isEvents_builtin (h : w.Orderly) (name : String) : ¬w.IsEvents (.cls (.builtin name)) := by
  rw [World.isEvents_cls, (h.ground_builtin name).linearize]
  rcases World.initial.exists_entry_or_isFixed (.builtin name) with ⟨e, he, hname, hi, -⟩ | hfixed
  · have hall : ∀ e ∈ World.initial.classes, .contract .domainEvents ∈ e.2.linearization → e.1 = .contract .domainEvents := by
      decide
    rw [World.linearize, hi]
    intro hmem
    rw [hall e he hmem] at hname
    cases hname
  · obtain ⟨k, hline, -⟩ := World.linearize_of_isFixed hfixed
    rw [hline]
    intro hmem
    rcases Builtin.mem_ancestors hmem with hk | ⟨q, -, hq⟩
    · cases hk
    · cases hq

theorem World.Orderly.isEvents_contract (h : w.Orderly) (b : Contract) : w.IsEvents (.cls (.contract b)) ↔ b = .domainEvents := by
  rw [World.isEvents_cls, h.linearize_contract]
  cases b <;> decide

theorem Builtin.builtin_of_value? {k : ClassRef} (h : Builtin.value? n = some (.cls k)) : ∃ name, k = .builtin name := by
  unfold Builtin.value? at h
  split at h
  case h_8 =>
    split at h
    · exact ⟨_, (Value.cls.inj (Option.some.inj h)).symm⟩
    · split at h
      · cases h
      · obtain ⟨o, -, ho⟩ := Option.map_eq_some_iff.mp h
        cases ho
  case h_6 | h_7 => exact ⟨_, (Value.cls.inj (Option.some.inj h)).symm⟩
  all_goals cases h

theorem Loading.class_of_imports {k : ClassRef} (h : imports.lookup n = some (.cls k)) :
    (∃ name, k = .builtin name) ∨ ∃ b : Contract, k = .contract b ∧ n = b.text := by
  have hmem := World.mem_of_lookup h
  rw [imports, List.mem_append] at hmem
  rcases hmem with hmem | hmem
  · refine .inl ?_
    simp only [List.mem_cons, List.not_mem_nil, or_false, Prod.mk.injEq, reduceCtorEq, and_false, false_or, builtins,
      Value.constant, Value.cls.injEq] at hmem
    exact ⟨_, hmem.2⟩
  · obtain ⟨b, -, hb⟩ := List.mem_map.mp hmem
    cases hb
    exact .inr ⟨b, rfl, rfl⟩

namespace World.Serves

variable (h : w.Serves ds m) (hs : NamesSynonyms m w) (hi : isInternal n = false)
include h hs hi

/-- What a name stands for when the statements have run. -/
theorem refers : w.Refers ds m n := by
  obtain ⟨text, file, hparse⟩ := h.parses
  obtain ⟨contracts, hm⟩ := h.plans
  by_cases hn : n ∈ ds.map (·.name)
  · obtain ⟨d, hd, rfl⟩ := List.mem_map.mp hn
    by_cases hk : d.kind = .synonym
    · obtain ⟨s, hmem, hname⟩ := exists_synonym hm hd hk
      exact .synonym d hd rfl hk s.annotation (hname ▸ hs s hmem)
    · obtain ⟨p, c, vs, hosts, hc⟩ := h.exists_hosts hd hk
      exact .declared d p c vs hd rfl hosts hc
  · by_cases he : ∃ e ∈ m.classes.flatMap (·.errors), e.name = n
    · obtain ⟨e, hmem, hname⟩ := he
      obtain ⟨c, hc⟩ := h.loaded.errors e hmem
      exact .error e c hn hmem hname hc
    · refine .outside hn he (h.loaded.stage.untouched n fun hmem => ?_)
      have hnames := (names_of_module hparse hm).mem_iff (a := n)
      rw [List.mem_append] at hnames
      simp only [Module.assigned, List.mem_append, List.mem_cons] at hmem
      rcases hmem with ((rfl | hmem) | hmem) | hmem
      · exact absurd hi (by decide)
      · obtain ⟨p, hp, hmem⟩ := List.mem_flatMap.mp hmem
        obtain ⟨e, hep, hname⟩ := List.mem_map.mp hmem
        exact he ⟨e, List.mem_flatMap.mpr ⟨p, hp, hep⟩, hname⟩
      · obtain ⟨p, hp, hmem⟩ := List.mem_flatMap.mp hmem
        rcases List.mem_cons.mp hmem with rfl | hmem
        · exact hn (hnames.mp (.inl (List.mem_map_of_mem hp)))
        · obtain ⟨v, -, rfl⟩ := List.mem_map.mp hmem
          rw [isInternal_variantClass] at hi
          cases hi
      · exact hn (hnames.mp (.inr hmem))

theorem isSome_global?_iff : (w.global? n).isSome ↔ IsKnown ds n := by
  obtain ⟨text, file, hparse⟩ := h.parses
  obtain ⟨contracts, hm⟩ := h.plans
  have herrors := exists_error_iff hparse hm h.unobtrusive (n := n)
  rw [World.global?, IsKnown, ← herrors]
  cases h.refers hs hi with
  | declared d p c vs hd hn hosts hc => simp [hc, show n ∈ ds.map (·.name) from hn ▸ List.mem_map_of_mem hd]
  | synonym d hd hn hk annotation hv => simp [hv, show n ∈ ds.map (·.name) from hn ▸ List.mem_map_of_mem hd]
  | error e c hno he hn embodies =>
    have hc := embodies.global
    rw [hn] at hc
    rw [hc]
    exact iff_of_true rfl (.inr (.inl ⟨e, he, hn⟩))
  | outside hno herror hv =>
    rw [hv]
    simp only [hno, herror, false_or]
    cases imports.lookup n <;> simp

theorem isEvents_iff (hv : w.global? n = some v) : w.IsEvents v ↔ NamesEvents ds n := by
  obtain ⟨text, file, hparse⟩ := h.parses
  obtain ⟨contracts, hm⟩ := h.plans
  have hcases := h.refers hs hi
  rw [World.global?] at hv
  -- by what the name is bound to: a class of the module, a synonym, an error class or a name from outside
  cases hcases with
  | declared d p c vs hd hn hosts hc =>
    rw [hc] at hv
    obtain rfl : Value.cls c = v := by simpa using hv
    rw [hosts.isEvents_iff, NamesEvents]
    have hmem : n ∈ ds.map (·.name) := hn ▸ List.mem_map_of_mem hd
    refine ⟨fun hr => .inl ⟨d, hd, hn, hr⟩, ?_⟩
    rintro (⟨e, he, hen, hr⟩ | ⟨-, hno⟩)
    · exact eq_of_name hparse he hd (hen.trans hn.symm) ▸ hr
    · exact absurd hmem hno
  | synonym d hd hn hk annotation hlookup =>
    rw [hlookup] at hv
    obtain rfl : Value.constant annotation = v := by simpa using hv
    refine iff_of_false ?_ ?_
    · rintro ⟨k, hcls, -⟩
      cases hcls
    · rintro (⟨e, he, hen, hr⟩ | ⟨-, hno⟩)
      · obtain rfl := eq_of_name hparse he hd (hen.trans hn.symm)
        exact absurd hk (kind_ne_synonym_of_carries hm hd hr)
      · exact absurd (hn ▸ List.mem_map_of_mem hd) hno
  | error e c hno he hn embodies =>
    have hc := embodies.global
    rw [hn] at hc
    rw [hc] at hv
    obtain rfl : Value.cls c = v := by simpa using hv
    refine iff_of_false (embodies.isError.not_isEvents h.orderly) ?_
    rintro (⟨d, hd, rfl, -⟩ | ⟨rfl, -⟩)
    · exact hno (List.mem_map_of_mem hd)
    -- the names of error classes end alike, so none of them is the name of the contract
    · obtain ⟨⟨p, -, rfl⟩, -⟩ := (sound_of_parse hparse hm h.unobtrusive).error_spec he
      have hsuffix : "ValidationError".toList <:+ (ValueError.ofOwner p.name).name.toList := by
        rw [ValueError.ofOwner, String.toList_append]
        exact List.suffix_append _ _
      rw [hn] at hsuffix
      exact absurd hsuffix (by decide)
  | outside hno herror hlookup =>
    -- from outside come the built-in classes and the imported contracts, and nothing else
    have hclass : ∀ k, v = .cls k → (∃ name, k = .builtin name) ∨ ∃ b : Contract, k = .contract b ∧ n = b.text := by
      rintro k rfl
      rw [hlookup] at hv
      rcases Option.or_eq_some_iff.mp hv with hv | ⟨-, hv⟩
      · exact class_of_imports hv
      · exact .inl (Builtin.builtin_of_value? hv)
    constructor
    · rintro ⟨k, rfl, hk⟩
      rcases hclass k rfl with ⟨name, rfl⟩ | ⟨b, rfl, rfl⟩
      · exact absurd ⟨_, rfl, hk⟩ (h.orderly.not_isEvents_builtin name)
      · exact .inr ⟨by rw [(h.orderly.isEvents_contract b).mp ⟨_, rfl, hk⟩], hno⟩
    · rintro (⟨d, hd, rfl, -⟩ | ⟨rfl, -⟩)
      · exact absurd (List.mem_map_of_mem hd) hno
      · rw [hlookup] at hv
        have himports : imports.lookup Contract.domainEvents.text = some (.cls (.contract .domainEvents)) := by decide
        rw [himports] at hv
        obtain rfl : Value.cls (.contract .domainEvents) = v := by simpa using hv
        exact (h.orderly.isEvents_contract _).mpr rfl

end World.Serves

end Live

end DomainModel
