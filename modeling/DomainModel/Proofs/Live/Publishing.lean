import DomainModel.Proofs.Generation.Skeleton
import DomainModel.Proofs.Live.Events
import DomainModel.Proofs.Live.Referents

/-!
# Publishing

What an entity names as its events is any identifier: no declaration has to have that name. The class of the entity is told of
whatever the name stands for once all the rest of the module is there, and the module does not load if it stands for nothing
(`publishes_exactly`).
-/

namespace DomainModel

/-! ## Modules without their assignments -/

namespace Module

def unpublished (m : Module) : Module := { m with classes := m.classes.map fun p => { p with events := [] } }

/-- The assignments of a module, in their order: a class, and what it names as its events. -/
def publishing (m : Module) : List (ClassPlan × String) := m.classes.flatMap fun p => p.events.map (p, ·)

variable {m : Module} {x : ClassPlan × String}

theorem forall_publishing {P : ClassPlan × String → Prop} :
    (∀ x ∈ m.publishing, P x) ↔ ∀ p ∈ m.classes, ∀ s ∈ p.events, P (p, s) := by
  simp only [publishing, List.mem_flatMap, List.mem_map]
  grind

theorem lines_eq (m : Module) :
    m.lines = m.unpublished.lines ++ m.publishing.map fun x => Fragment.eventsLine x.1.name x.2 := by
  have hnone : m.unpublished.classes.flatMap (·.epilogue) = [] := by simp [unpublished, ClassPlan.epilogue]
  have hlast : m.classes.flatMap (·.epilogue) = m.publishing.map fun x => Fragment.eventsLine x.1.name x.2 := by
    simp [publishing, List.map_flatMap, ClassPlan.epilogue, Function.comp_def]
  rw [lines, lines, hnone, hlast, List.append_nil]
  simp only [unpublished, List.flatMap_map]
  rfl

theorem null_mem_text_iff (h : ∀ x ∈ m.publishing, '\x00' ∉ x.1.name.toList ∧ '\x00' ∉ x.2.toList) :
    '\x00' ∈ m.text.toList ↔ '\x00' ∈ m.unpublished.text.toList := by
  rw [text, text, toList_ofLines, toList_ofLines, lines_eq m, List.flatMap_append, List.mem_append, or_iff_left_iff_imp]
  intro hmem
  obtain ⟨l, hl, hmem⟩ := List.mem_flatMap.mp hmem
  obtain ⟨x, hx, rfl⟩ := List.mem_map.mp hl
  obtain ⟨hname, hevents⟩ := h x hx
  simp [Fragment.eventsLine, hname, hevents] at hmem

end Module

section
variable {ds : List Declaration} {contracts : String} {m : Module}

theorem kind_ne_synonym_of_published (hm : Module.ofDeclarations ds contracts = .ok m) {d : Declaration} {s : String}
    (hd : d ∈ ds) (hs : s ∈ d.published) : d.kind ≠ .synonym := by
  intro hk
  rw [Declaration.published, directives_eq_nil hm hd hk] at hs
  cases hs

theorem forall_publishing_iff {P : String → String → Prop} (hm : Module.ofDeclarations ds contracts = .ok m) :
    (∀ x ∈ m.publishing, P x.1.name x.2) ↔ ∀ d ∈ ds, ∀ s ∈ d.published, P d.name s := by
  rw [Module.forall_publishing]
  constructor
  · intro h d hd s hs
    obtain ⟨p, hp, hplan⟩ := (plans_of_module hm).2 d hd (kind_ne_synonym_of_published hm hd hs)
    obtain ⟨c, roles, fs, ho⟩ := exists_outline hplan
    have hname : p.name = d.name := by rw [ho.plan]
    exact hname ▸ h p hp s (ho.events_eq ▸ hs)
  · intro h p hp s hs
    obtain ⟨d, hd, hplan⟩ := (plans_of_module hm).1 p hp
    obtain ⟨c, roles, fs, ho⟩ := exists_outline hplan
    have hname : p.name = d.name := by rw [ho.plan]
    exact hname ▸ h d hd s (ho.events_eq ▸ hs)

end

theorem Clear.eq_of_mem_events {references : List String} {d : Declaration} {p : ClassPlan} {s t : String}
    (h : Clear references d p) (hs : s ∈ p.events) (ht : t ∈ p.events) : s = t := by
  have hbound := h.nodup_bound
  rw [h.bound_eq] at hbound
  have hnodup := (List.nodup_append.mp hbound).2.1
  cases he : p.events with
  | nil =>
    rw [he] at hs
    cases hs
  | cons a as =>
    cases as with
    | nil =>
      rw [he, List.mem_singleton] at hs ht
      rw [hs, ht]
    | cons b bs => simp [he] at hnodup

namespace Live

open Run Loading

variable {m : Module} {w w' w₀ w₁ : World} {p : ClassPlan} {x : ClassPlan × String} {s : String} {v : Value} {fuel : Nat}

/-! ## Loading without and with assignments -/

namespace Loading

theorem isReadableModule_iff (m : Module) :
    isReadableModule m = true ↔ isReadableModule m.unpublished = true ∧ ∀ x ∈ m.publishing, isReadableName x.2 = true := by
  simp only [isReadableModule, isReadablePlan, Module.unpublished, List.all_map, Bool.and_eq_true, List.all_eq_true,
    Function.comp_apply, Module.forall_publishing, List.all_nil]
  grind

theorem assignAll_eq (ask : Answering) (m : Module) :
    assignAll ask m = m.publishing.forM fun x => assignEvents ask x.1.name x.2 := by
  rw [assignAll, Module.publishing]
  simp only [List.forM_eq_forM]
  induction m.classes with
  | nil => rfl
  | cons p ps ih => rw [List.forM_cons, ih, List.flatMap_cons, List.forM_append, List.forM_map]

/-- What is defined does not depend on the assignments. -/
theorem runModule_unpublished (ask : Answering) (m : Module) : runModule ask m.unpublished = defineAll ask m := by
  have hdefine : defineAll ask m.unpublished = defineAll ask m := by
    simp only [defineAll, Module.unpublished, List.flatMap_map, List.forM_eq_forM, List.forM_map]
    rfl
  have hassign : assignAll ask m.unpublished = pure () := by
    rw [assignAll_eq, show m.unpublished.publishing = [] by simp [Module.publishing, Module.unpublished]]
    rfl
  rw [runModule_eq, hdefine, hassign, bind_pure_unit]

end Loading

namespace World

variable (hnull : '\x00' ∈ m.text.toList ↔ '\x00' ∈ m.unpublished.text.toList)
include hnull

/-- A module loads if it loads without its assignments, these can be read, and they go through. -/
theorem load_iff_unpublished : load m = .ok w ↔
    ∃ w₁, load m.unpublished = .ok w₁ ∧ (∀ x ∈ m.publishing, isReadableName x.2 = true) ∧
      assignAll Request.answer m w₁ = (.ok (), w) := by
  simp only [load_eq_ok_iff, isReadableModule_iff m, runModule_unpublished, runModule_eq Request.answer m, hnull]
  constructor
  · rintro ⟨hno, ⟨hread, hnames⟩, hrun⟩
    obtain ⟨u, w₁, hdefine, hassign⟩ := bind_eq_ok hrun
    exact ⟨w₁, ⟨hno, hread, hdefine⟩, hnames, hassign⟩
  · rintro ⟨w₁, ⟨hno, hread, hdefine⟩, hnames, hassign⟩
    exact ⟨hno, ⟨hread, hnames⟩, (bind_of_ok hdefine).trans hassign⟩

theorem load_eq_error {e : Fault} (h : load m.unpublished = .ok w₁) (hnames : ∀ x ∈ m.publishing, isReadableName x.2 = true)
    (hrun : (assignAll Request.answer m w₁).1 = .error e) : load m = .error e := by
  obtain ⟨hno, hread, hdefine⟩ := load_eq_ok_iff.mp h
  rw [runModule_unpublished] at hdefine
  rw [load, if_neg (mt hnull.mp hno), if_neg (by simp [(isReadableModule_iff m).mpr ⟨hread, hnames⟩]), runModule_eq,
    bind_of_ok hdefine]
  rcases hassign : assignAll Request.answer m w₁ with ⟨_ | _, w⟩ <;> rw [hassign] at hrun
  · cases hrun
    rfl
  · cases hrun

end World

/-! ## Assignments, one after the other -/

theorem World.global?_congr (h : w'.globals = w.globals) (n : String) : w'.global? n = w.global? n := by
  rw [World.global?, World.global?, h]

/-- The class of a name has been told that its events are what another name stands for. -/
def World.Publishes (w : World) (name events : String) : Prop :=
  ∃ c, w.globals.lookup name = some (.cls c) ∧ w.isFixed c = false ∧
    w.member? c Role.eventsArgument = w.global? (Compatible.name events)

namespace World.Loaded

variable (h : w.Loaded m) (hm : m.Sound)
include h hm

theorem publish (hp : p ∈ m.classes) (hs : s ∈ p.events) (hv : w.global? (Compatible.name s) = some v) :
    ∃ w', Loading.assignEvents (Request.answerWithin (fuel + 1)) p.name s w = (.ok (), w') ∧ w'.Loaded m ∧
      w'.globals = w.globals ∧ w'.Publishes p.name s ∧ ∀ x ∈ m.publishing, w.Publishes x.1.name x.2 → w'.Publishes x.1.name x.2 := by
  obtain ⟨c, vs, -, hr⟩ := h.classes p hp
  have hc := hr.embodies
  have hrun : Loading.assignEvents (Request.answerWithin (fuel + 1)) p.name s w =
      (.ok (), w.adjust c (·.bind Role.eventsArgument v)) := by
    have hglobal : Run.global (Compatible.name s) w = (.ok v, w) := by
      rw [global_apply, hv]
      rfl
    rw [Loading.assignEvents, bind_of_ok hglobal]
    exact assignTo_member_eq hc.global hc.there (by decide)
  have hnew : (w.adjust c (·.bind Role.eventsArgument v)).Publishes p.name s := by
    refine ⟨c, hc.global, World.isFixed_adjust.trans hc.there, ?_⟩
    rw [World.member?_adjust hc.there, Making.member?_bind_self]
    exact hv.symm
  refine ⟨_, hrun, h.assignEvents hm hp hs hrun, rfl, hnew, Module.forall_publishing.mpr fun q hq t ht => ?_⟩
  rintro ⟨k, hk, hthere, hmember⟩
  obtain ⟨c', vs', -, hr'⟩ := h.classes q hq
  obtain rfl : c' = k := by simpa using hr'.embodies.global.symm.trans hk
  by_cases hkc : c' = c
  · -- it is the same class, and so the same assignment
    obtain rfl : q = p :=
      List.inj_on_of_nodup_map hm.nodup_classes hq hp (hr'.embodies.name.symm.trans (hkc ▸ hc.name))
    obtain ⟨d, hd⟩ := hm.clear q hq
    rwa [hd.eq_of_mem_events ht hs]
  · have hagrees := World.agrees_adjust (w := w) (f := (·.bind Role.eventsArgument v)) hkc
    exact ⟨c', hk, World.isFixed_adjust.trans hthere, (hagrees.member? _ (by decide)).trans hmember⟩

/-- The assignments go through as long as their names stand for something. -/
theorem publish_all :
    ((∀ x ∈ m.publishing, (w.global? (Compatible.name x.2)).isSome) → ∃ w',
      assignAll (Request.answerWithin (fuel + 1)) m w = (.ok (), w') ∧ w'.globals = w.globals ∧
        ∀ x ∈ m.publishing, w'.Publishes x.1.name x.2) ∧
    ((∃ x ∈ m.publishing, ¬(w.global? (Compatible.name x.2)).isSome) →
      (assignAll (Request.answerWithin (fuel + 1)) m w).1 = .error (.raised .unknownName)) := by
  have hpublishing : ∀ x ∈ m.publishing, x.1 ∈ m.classes ∧ x.2 ∈ x.1.events :=
    Module.forall_publishing.mpr fun p hp s hs => ⟨hp, hs⟩
  let I (done : List (ClassPlan × String)) (w' : World) : Prop :=
    w'.Loaded m ∧ w'.globals = w.globals ∧ ∀ x ∈ done, w'.Publishes x.1.name x.2
  have hfits : ∀ done x w₁, done ++ [x] <+: m.publishing → I done w₁ → (w.global? (Compatible.name x.2)).isSome → ∃ w₂,
      Loading.assignEvents (Request.answerWithin (fuel + 1)) x.1.name x.2 w₁ = (.ok (), w₂) ∧ I (done ++ [x]) w₂ := by
    rintro done x w₁ hpre ⟨h₁, hg, hdone⟩ hknown
    obtain ⟨hp, hs⟩ := hpublishing x (hpre.subset (by simp))
    obtain ⟨v, hv⟩ := Option.isSome_iff_exists.mp hknown
    rw [← World.global?_congr hg] at hv
    obtain ⟨w₂, hrun, h₂, hg₂, hnew, hold⟩ := h₁.publish hm hp hs hv
    refine ⟨w₂, hrun, h₂, hg₂.trans hg, fun y hy => ?_⟩
    rcases List.mem_append.mp hy with hy | hy
    · exact hold y (hpre.subset (List.mem_append_left _ hy)) (hdone y hy)
    · exact List.mem_singleton.mp hy ▸ hnew
  have hfails : ∀ done x w₁, done ++ [x] <+: m.publishing → I done w₁ → ¬(w.global? (Compatible.name x.2)).isSome →
      (Loading.assignEvents (Request.answerWithin (fuel + 1)) x.1.name x.2 w₁).1 = .error (.raised .unknownName) := by
    rintro done x w₁ - ⟨-, hg, -⟩ hknown
    have hunknown : Run.global (Compatible.name x.2) w₁ = (.error (.raised .unknownName), w₁) := by
      rw [global_apply, World.global?_congr hg, Option.not_isSome_iff_eq_none.mp hknown]
      rfl
    rw [Loading.assignEvents, bind_of_error hunknown]
  obtain ⟨hok, herror⟩ := Run.forM_fits hfits hfails ⟨h, rfl, fun y hy => absurd hy List.not_mem_nil⟩
  rw [assignAll_eq]
  refine ⟨fun hall => ?_, herror⟩
  obtain ⟨w', hrun, -, hg, hpublishes⟩ := hok hall
  exact ⟨w', hrun, hg, hpublishes⟩

end World.Loaded

/-! ## What is published -/

variable {text : String} {file : Option String} {ds : List Declaration} {contracts : String}

theorem World.Serves.of_unpublished (h : parse text file = .ok ds) (hm : Module.ofDeclarations ds contracts = .ok m)
    (hu : Unobtrusive ds m) (hload : World.load m.unpublished = .ok w₁) : w₁.Serves ds m ∧ NamesSynonyms m w₁ := by
  have hrun := World.Loaded.runModule_of_load hload
  rw [runModule_unpublished] at hrun
  obtain ⟨hloaded, hsynonyms⟩ := World.Loaded.of_defineAll (sound_of_parse h hm hu) hrun
  exact ⟨⟨⟨text, file, h⟩, ⟨contracts, hm⟩, hu, hloaded⟩, hsynonyms⟩

theorem null_mem_text_iff_of_parse (h : parse text file = .ok ds) (hm : Module.ofDeclarations ds contracts = .ok m) :
    '\x00' ∈ m.text.toList ↔ '\x00' ∈ m.unpublished.text.toList := by
  refine Module.null_mem_text_iff ((forall_publishing_iff (P := fun n s => '\x00' ∉ n.toList ∧ '\x00' ∉ s.toList) hm).mpr
    fun d hd s hs => ⟨fun hmem => ?_, fun hmem => ?_⟩)
  · exact absurd ((isWorded_of_parse h d hd).name.isPart_of_mem _ hmem) (by decide)
  · exact absurd (isStart_or_isPart_of_mem (isIdentifier_of_published hs) hmem) (by decide +kernel)

section

variable (h : parse text file = .ok ds) (hm : Module.ofDeclarations ds contracts = .ok m) (hu : Unobtrusive ds m)
include h hm hu

theorem World.load_of_unpublished (hload : World.load m.unpublished = .ok w₁)
    (hnames : ∀ x ∈ m.publishing, isReadableName x.2 = true) :
    ((∀ x ∈ m.publishing, (w₁.global? (Compatible.name x.2)).isSome) → ∃ w,
      World.load m = .ok w ∧ w.globals = w₁.globals ∧ ∀ x ∈ m.publishing, w.Publishes x.1.name x.2) ∧
    ((∃ x ∈ m.publishing, ¬(w₁.global? (Compatible.name x.2)).isSome) → World.load m = .error (.raised .unknownName)) := by
  have hnull := null_mem_text_iff_of_parse h hm
  obtain ⟨hserves, -⟩ := World.Serves.of_unpublished h hm hu hload
  obtain ⟨hok, herror⟩ := hserves.loaded.publish_all (sound_of_parse h hm hu)
  refine ⟨fun hknown => ?_, fun hunknown => World.load_eq_error hnull hload hnames (herror hunknown)⟩
  obtain ⟨w, hrun, hg, hpublishes⟩ := hok hknown
  exact ⟨w, (World.load_iff_unpublished hnull).mpr ⟨w₁, hload, hnames, hrun⟩, hg, hpublishes⟩

theorem World.exists_unpublished (hload : World.load m = .ok w) : ∃ w₁, World.load m.unpublished = .ok w₁ ∧
    (∀ x ∈ m.publishing, isReadableName x.2 = true ∧ (w₁.global? (Compatible.name x.2)).isSome) ∧
      w.globals = w₁.globals ∧ ∀ x ∈ m.publishing, w.Publishes x.1.name x.2 := by
  obtain ⟨w₁, hload₁, hnames, -⟩ := (World.load_iff_unpublished (null_mem_text_iff_of_parse h hm)).mp hload
  obtain ⟨hok, herror⟩ := World.load_of_unpublished h hm hu hload₁ hnames
  have hknown : ∀ x ∈ m.publishing, (w₁.global? (Compatible.name x.2)).isSome := by
    by_contra hnot
    push Not at hnot
    rw [herror hnot] at hload
    cases hload
  obtain ⟨w', hload', hg, hpublishes⟩ := hok hknown
  obtain rfl := Except.ok.inj (hload'.symm.trans hload)
  exact ⟨w₁, hload₁, fun x hx => ⟨hnames x hx, hknown x hx⟩, hg, hpublishes⟩

/-- What was assigned to a class is there ever after, under the name that it was assigned from and as an attribute. -/
theorem World.exists_bound (hload : World.load m = .ok w₀) (hw : w₀.After w) {d : Declaration} (hd : d ∈ ds)
    (hs : s ∈ d.published) : NamesSynonyms m w ∧ ∃ c v, w.globals.lookup d.name = some (.cls c) ∧
      w.global? (Compatible.name s) = some v ∧ w.bound? c Role.eventsArgument = some v := by
  obtain ⟨w₁, hload₁, hall, hg, hpublishes⟩ := World.exists_unpublished h hm hu hload
  obtain ⟨-, hsynonyms⟩ := World.Serves.of_unpublished h hm hu hload₁
  have hserves := (World.Serves.of_load h hm hu hload).after hw
  have hglobals : w.globals = w₁.globals := hw.globals.trans hg
  obtain ⟨v, hv⟩ := Option.isSome_iff_exists.mp ((forall_publishing_iff
    (P := fun _ s => isReadableName s = true ∧ (w₁.global? (Compatible.name s)).isSome) hm).mp hall d hd s hs).2
  obtain ⟨c, hc, hthere, hmember⟩ := (forall_publishing_iff (P := w₀.Publishes) hm).mp hpublishes d hd s hs
  have hc : w.globals.lookup d.name = some (.cls c) := hw.globals ▸ hc
  have hmember : w.member? c Role.eventsArgument = some v := by
    rw [(hw.agrees c hthere).member? _ (by decide), hmember, World.global?_congr hg, hv]
  obtain ⟨p, vs, hosts⟩ := hserves.hosts hd (kind_ne_synonym_of_published hm hd hs) hc
  obtain ⟨line, hline⟩ := hosts.embodies.linearize_eq
  have hbound : w.bound? c Role.eventsArgument = some v := by
    rw [World.bound?, hline, World.firstMember?, List.findSome?_cons, hmember]
  refine ⟨fun t ht => ?_, c, v, hc, (World.global?_congr hglobals _).trans hv, hbound⟩
  rw [hglobals]
  exact hsynonyms t ht

end

/-! ## Files with orders -/

namespace Orders

/-- The orders, whose events are those above. -/
def orderText : String := Orders.text ++ "
@entity(events=OrderEvents) record Order \x7b id: uuid version: int8 \x7d"

def entity (name events : String) (line column : Nat) : Declaration :=
  { kind := .record, name, directives := [⟨"entity", [⟨some "events", .text events⟩], some ⟨line, 2, none⟩⟩]
    location := some ⟨line, column, none⟩
    fields := [⟨"id", ⟨"uuid", []⟩, .hidden, [], some ⟨line, column + name.length + 3, none⟩⟩,
      ⟨"version", ⟨"int8", []⟩, .hidden, [], some ⟨line, column + name.length + 12, none⟩⟩] }

def entityPlan (name events : String) (line column : Nat) : ClassPlan :=
  { name, bases := [.aggregateRoot], docs := [], layout := .record (entity name events line column).fields [], errors := []
    events := [events]
    supplied := [.accessor "id" "UUID" (.stored "id") [], .accessor "version" "int" (.count "version") [], .equality name "id",
      .hash "id"] }

def orderPlan : Module := { plan with classes := plan.classes ++ [entityPlan "Order" "OrderEvents" 3 36] }

def unknownPlan : Module := { contracts := defaultContracts, classes := [entityPlan "A" "Nope" 1 29], synonyms := [] }

end Orders

end Live

end DomainModel
