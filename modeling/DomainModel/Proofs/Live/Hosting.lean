import DomainModel.Proofs.Generation.Characters
import DomainModel.Proofs.Live.Instances

/-!
# Classes of declarations

A world hosts a declaration if its module has been loaded there: the class of the declaration is there with those of its
variants, and what the functions of these classes refer to as well.
-/

namespace DomainModel.Live

open Run Loading

/-- The class `c` of a declaration `d` in a world, and those of its variants. -/
structure World.Hosts (w : World) (m : Module) (d : Declaration) (p : ClassPlan) (c : ClassRef)
    (vs : List (Variant × ClassRef)) : Prop where
  loaded : w.Loaded m
  sound : m.Sound
  mem : p ∈ m.classes
  clear : Clear m.references d p
  realizes : Realizes w p c vs
  variants : vs.map (·.1) = p.variants

/-- Names by which a class says something else than its plan. -/
def strayNames : List String :=
  noteNames ++ ["__module__", "__qualname__", "__dict__", "__weakref__", "__doc__"] ++ Making.abstractNames

theorem not_mem_strayNames {n : String} (h : isInternal n = false) : n ∉ strayNames :=
  not_mem_of_eq_false h (by decide)

namespace World.Hosts

variable {w w' : World} {m : Module} {d : Declaration} {p : ClassPlan} {c cv : ClassRef} {vs : List (Variant × ClassRef)}
  {n : String} {x : Value} {v : Variant} {f : Function}

theorem embodies (h : w.Hosts m d p c vs) : Embodies w p c vs := h.realizes.embodies

theorem orderly (h : w.Hosts m d p c vs) : w.Orderly := h.loaded.stage.grounds.orderly

theorem labelled (h : w.Hosts m d p c vs) : w.Labelled := h.loaded.stage.labelled

theorem after (h : w.Hosts m d p c vs) (ha : w.After w') : w'.Hosts m d p c vs :=
  ⟨h.loaded.after ha, h.sound, h.mem, h.clear, ⟨h.embodies.after ha, fun x hx => (h.realizes.variants x hx).after h.embodies ha,
    h.realizes.distinct⟩, h.variants⟩

theorem variants_subset (h : w.Hosts m d p c vs) : vs.map (·.1) ⊆ p.variants := h.variants ▸ List.Subset.refl _

theorem name_eq (h : w.Hosts m d p c vs) : (w.info c).name = d.name ∧ (w.info c).qualname = d.name :=
  ⟨h.embodies.name.trans h.clear.name_eq, h.embodies.qualname.trans h.clear.name_eq⟩

/-- What the plan says is bound, but for names of which it says nothing. Only the classes with bases are abstract. -/
theorem bound?_settled (h : w.Hosts m d p c vs) (hx : (n, x) ∈ table p c vs)
    (hn : n ∉ noteNames ++ ["__module__", "__qualname__", "__dict__", "__weakref__", "__doc__"])
    (habstract : p.bases ≠ [] → n ∉ Making.abstractNames) : w.bound? c n = some x := by
  refine h.embodies.bound?_of_mem (fun hmem => ?_) hx
  rw [unsettledNames, List.mem_append] at hmem
  rcases hmem with hmem | hmem
  · rcases List.mem_append.mp hmem with hmem | hmem
    · exact hn hmem
    · split at hmem
      · cases hmem
      · next hbases => exact habstract (by simpa using hbases) hmem
  · have hbound := h.clear.nodup_bound
    rw [h.clear.bound_eq] at hbound
    refine (List.nodup_append.mp hbound).2.2 n ?_ n hmem rfl
    obtain ⟨e, -, rfl⟩ := List.mem_map.mp hmem
    have hkey := List.mem_map_of_mem (f := Prod.fst) hx
    simp only [table, List.map_append, List.mem_append, List.map_map, Function.comp_def, List.map_id'] at hkey ⊢
    rcases hkey with (hkey | hkey) | hkey
    · rcases mem_bodyBindings_iff.mp hkey with hnoted | hkey | hkey | hkey
      · exact absurd (notedNames_subset p hnoted) (by decide)
      · exact .inl (.inr (.inl (.inl hkey)))
      · exact .inl (.inr (.inl (.inr hkey)))
      · exact .inl (.inr (.inr hkey))
    · exact .inl (.inl hkey)
    · refine .inr ?_
      obtain ⟨x, hx, hname⟩ := List.mem_map.mp hkey
      exact List.mem_map.mpr ⟨x.1, h.variants ▸ List.mem_map_of_mem hx, hname⟩

theorem bound?_table (h : w.Hosts m d p c vs) (hx : (n, x) ∈ table p c vs) (hn : n ∉ strayNames) : w.bound? c n = some x := by
  rw [strayNames, List.mem_append, not_or] at hn
  exact h.bound?_settled hx hn.1 fun _ => hn.2

theorem bound?_layout (h : w.Hosts m d p c vs) (hx : (n, x) ∈ layoutBindings p.name .nothing p.layout) (hn : n ∉ strayNames) :
    w.bound? c n = some x := by
  refine h.bound?_table ?_ hn
  simp only [table, bodyBindings, List.mem_append]
  exact .inl (.inl (.inl (.inr hx)))

theorem bound?_supplied (h : w.Hosts m d p c vs) {y : Member} (hy : y ∈ p.supplied) (hx : (n, x) ∈ memberBindings p.name y)
    (hn : n ∉ strayNames) : w.bound? c n = some x := by
  refine h.bound?_table ?_ hn
  simp only [table, bodyBindings, List.mem_append]
  exact .inl (.inl (.inr (List.mem_flatMap.mpr ⟨y, hy, hx⟩)))

theorem bound?_place (h : w.Hosts m d p c vs) (hn : n ∈ p.layout.places) (hregistry : p.bases ≠ [] → n ≠ Standard.registryName) :
    w.bound? c n = some (.slot c n) := by
  have hspecial := h.clear.isSpecial_place hn
  have hall : ∀ n ∈ noteNames ++ ["__module__", "__qualname__", "__dict__", "__weakref__", "__doc__"] ++ ["__abstractmethods__"],
      isSpecial n = true := by decide
  have hfree : n ∉ noteNames ++ ["__module__", "__qualname__", "__dict__", "__weakref__", "__doc__"] ++ ["__abstractmethods__"] :=
    fun hmem => by
      rw [hall n hmem] at hspecial
      cases hspecial
  rw [List.mem_append, not_or, List.mem_singleton] at hfree
  refine h.bound?_settled ?_ hfree.1 fun hbases hmem => ?_
  · simp only [table, List.mem_append]
    exact .inl (.inr (List.mem_map.mpr ⟨n, hn, rfl⟩))
  · rcases List.mem_cons.mp hmem with rfl | hmem
    · exact hfree.2 rfl
    · exact hregistry hbases (List.mem_singleton.mp hmem)

theorem bound?_variant (h : w.Hosts m d p c vs) (hv : (v, cv) ∈ vs) : w.bound? c v.name = some (.cls cv) := by
  refine h.bound?_table ?_ (not_mem_strayNames (h.clear.isInternal_variant (h.variants_subset (List.mem_map_of_mem hv))))
  simp only [table, List.mem_append]
  exact .inr (List.mem_map.mpr ⟨(v, cv), hv, rfl⟩)

theorem mem_of_bound? (h : w.Hosts m d p c vs) (hv : v ∈ d.variants) (hcv : w.bound? c v.name = some (.cls cv)) : (v, cv) ∈ vs := by
  rw [← h.clear.variants_eq, ← h.variants] at hv
  obtain ⟨⟨u, k⟩, hu, rfl⟩ := List.mem_map.mp hv
  rw [h.bound?_variant hu] at hcv
  obtain rfl : k = cv := by simpa using hcv
  exact hu

theorem mem_references (h : w.Hosts m d p c vs) (hn : n ∈ p.layout.references) : n ∈ m.references :=
  h.clear.subset (List.mem_append_left _ (List.mem_append_right _ hn))

theorem mem_references_supplied (h : w.Hosts m d p c vs) {y : Member} (hy : y ∈ p.supplied) (hn : n ∈ y.references) :
    n ∈ m.references := h.clear.subset (List.mem_append_right _ (List.mem_flatMap.mpr ⟨y, hy, hn⟩))

theorem global_owner (h : w.Hosts m d p c vs) : f.global p.name w = (.ok (.cls c), w) :=
  h.loaded.stage.global_class h.embodies h.clear.isInternal_name

theorem above (h : w.Hosts m d p c vs) : w.Above [] c c := .refl h.embodies

theorem above_variant (h : w.Hosts m d p c vs) (hv : (v, cv) ∈ vs) : w.Above variantNames cv c :=
  .of_variant (h.realizes.variants _ hv)

theorem bound?_root (h : w.Hosts m d p c vs) (hn : n ∈ Embodies.rootNames) : w.bound? c n = some (.native "object" n) :=
  h.embodies.bound?_root h.orderly h.clear h.variants_subset hn

theorem instantiable {names : List String} {k : ClassRef} (h : w.Hosts m d p c vs) (hk : w.Above names k c)
    (hnames : ∀ n ∈ Embodies.rootNames, n ∉ names) (hinit : w.bound? k "__init__" = some (.function f))
    (hcomplete : (w.info k).isIncomplete = false) : w.Instantiable k f :=
  .of_above hk h.embodies h.orderly h.clear h.variants_subset hnames hinit hcomplete

end World.Hosts

/-! ## Loaded files -/

/-- The module of a file with unobtrusive names has been loaded in a world. -/
structure World.Serves (w : World) (ds : List Declaration) (m : Module) : Prop where
  parses : ∃ text file, parse text file = .ok ds
  plans : ∃ contracts, Module.ofDeclarations ds contracts = .ok m
  unobtrusive : Unobtrusive ds m
  loaded : w.Loaded m

namespace World.Serves

variable {text : String} {file : Option String} {ds : List Declaration} {contracts : String} {m : Module} {w w' : World}
  {d : Declaration} {c : ClassRef} {r : Role}

theorem of_load (h : parse text file = .ok ds) (hm : Module.ofDeclarations ds contracts = .ok m) (hu : Unobtrusive ds m)
    (hw : World.load m = .ok w) : w.Serves ds m :=
  ⟨⟨text, file, h⟩, ⟨contracts, hm⟩, hu, .of_load (sound_of_parse h hm hu) hw⟩

/-- A module loads if it can be read and its statements end. -/
theorem exists_load (hparts : ∀ s ∈ m.parts, '\x00' ∉ s.toList) (hreadable : Loading.isReadableModule m = true)
    (hrun : (Loading.runModule Request.answer m World.initial).1 = .ok ()) : ∃ w, World.load m = .ok w := by
  rw [World.load, if_neg (Module.null_not_mem_text hparts), if_neg (by simp [hreadable])]
  rcases hrun' : Loading.runModule Request.answer m World.initial with ⟨r, w⟩
  rw [hrun'] at hrun
  obtain rfl : r = .ok () := hrun
  exact ⟨w, rfl⟩

theorem after (h : w.Serves ds m) (ha : w.After w') : w'.Serves ds m :=
  ⟨h.parses, h.plans, h.unobtrusive, h.loaded.after ha⟩

theorem orderly (h : w.Serves ds m) : w.Orderly := h.loaded.stage.grounds.orderly

theorem labelled (h : w.Serves ds m) : w.Labelled := h.loaded.stage.labelled

theorem exists_hosts (h : w.Serves ds m) (hd : d ∈ ds) (hk : d.kind ≠ .synonym) :
    ∃ p c vs, w.Hosts m d p c vs ∧ w.globals.lookup d.name = some (.cls c) := by
  obtain ⟨text, file, hparse⟩ := h.parses
  obtain ⟨contracts, hm⟩ := h.plans
  obtain ⟨p, hp, hclear⟩ := exists_plan hparse hm h.unobtrusive hd hk
  obtain ⟨c, vs, hvs, hrealizes⟩ := h.loaded.classes p hp
  refine ⟨p, c, vs, ⟨h.loaded, sound_of_parse hparse hm h.unobtrusive, hp, hclear, hrealizes, hvs⟩, ?_⟩
  rw [← hclear.name_eq]
  exact hrealizes.embodies.global

theorem kind_ne_synonym (h : w.Serves ds m) (hd : d ∈ ds) (hr : d.Carries r) : d.kind ≠ .synonym := by
  obtain ⟨contracts, hm⟩ := h.plans
  exact kind_ne_synonym_of_carries hm hd hr

theorem hosts (h : w.Serves ds m) (hd : d ∈ ds) (hk : d.kind ≠ .synonym) (hc : w.globals.lookup d.name = some (.cls c)) :
    ∃ p vs, w.Hosts m d p c vs := by
  obtain ⟨p, k, vs, hhosts, hk⟩ := h.exists_hosts hd hk
  rw [hc] at hk
  obtain rfl : c = k := by simpa using hk
  exact ⟨p, vs, hhosts⟩

end World.Serves

end DomainModel.Live
