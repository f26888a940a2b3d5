import DomainModel.Proofs.Live.Sums

/-!
# Events

A sum of events takes events only, and what it is asked reaches the innermost of them: the record around which all the
variants have been put.
-/

namespace DomainModel.Live

open Run Loading Request

def eventNames : List String := ["occurred", "id", "aggregate_id", "version"]

/-- A value is an event if it is one of a record, or a variant of a sum of events around an event. `stored` is what the record
stores, and the number is that of the variants around it. -/
inductive World.Event (w : World) (ds : List Declaration) (e : Value) (stored : String → Value) : Nat → Value → Prop
  /-- The class of the record, or one that builds on it and leaves alone what events are asked for. -/
  | record {d : Declaration} {c k : ClassRef} {slots : List ((ClassRef × String) × Value)} {attributes : Option Nat} (hd : d ∈ ds)
      (hr : d.Carries .domainEvent) (hc : w.globals.lookup d.name = some (.cls c))
      (he : w.cell? e = some (.object k slots attributes)) (hk : c ∈ w.linearize k)
      (hbound : ∀ n ∈ eventNames, w.bound? k n = w.bound? c n ∧ w.bound? k (slot n) = w.bound? c (slot n))
      (hslots : ∀ n ∈ eventNames, slots.lookup (c, slot n) = some (stored n)) : w.Event ds e stored 0 e
  | variant {d : Declaration} {c cv : ClassRef} {v : Variant} {slots : List ((ClassRef × String) × Value)}
      {attributes : Option Nat} {around : Nat} {x y : Value} (hd : d ∈ ds) (hr : d.Carries .domainEvents)
      (hc : w.globals.lookup d.name = some (.cls c)) (hv : v ∈ d.variants) (hcv : w.bound? c v.name = some (.cls cv))
      (hy : w.cell? y = some (.object cv slots attributes)) (hx : slots.lookup (c, "_payload") = some x)
      (event : w.Event ds e stored around x) : w.Event ds e stored (around + 1) y

theorem World.Hosts.hostsEvents {w : World} {m : Module} {d : Declaration} {p : ClassPlan} {c : ClassRef}
    {vs : List (Variant × ClassRef)} (h : w.Hosts m d p c vs) (hr : d.Carries .domainEvents) :
    w.HostsSum m d p c vs (some .domainEvent) ∧ ∀ n ∈ eventNames, ∃ annotation,
      .dispatch p.name (p.variants.map (·.name)) n annotation ∈ p.supplied := by
  obtain ⟨e, roles, fs, ho⟩ := h.clear.outline
  obtain ⟨hlayout, hmembers⟩ := ho.supplied_of_events h.clear.own hr
  rw [← h.clear.variants_eq, ← h.clear.name_eq] at hmembers
  rw [← h.clear.variants_eq] at hlayout
  refine ⟨⟨h, hlayout, fun b hb => (Option.some.inj hb).symm⟩, fun n hn => ?_⟩
  have hnames : eventNames = Fragment.eventAccessors.map (·.1) := rfl
  rw [hnames] at hn
  obtain ⟨a, ha, rfl⟩ := List.mem_map.mp hn
  exact ⟨a.2, hmembers a ha⟩

namespace World.Event

variable {ds : List Declaration} {m : Module} {w w' : World} {e x y : Value} {stored : String → Value} {around fuel : Nat}

theorem holds (h : w.Event ds e stored around x) : w.Holds x := by
  cases h with
  | record _ _ _ he => exact holds_of_cell? he
  | variant _ _ _ _ _ hy => exact holds_of_cell? hy

theorem grows (h : w.Event ds e stored around x) (hs : w.Serves ds m) (hg : w.Grows w') : w'.Event ds e stored around x := by
  induction h with
  | @record d c k slots attributes hd hr hc he hk hbound hslots =>
    have hnotes : ∀ n ∈ eventNames, n ∉ noteNames ∧ slot n ∉ noteNames := by decide
    refine .record hd hr (hg.globals ▸ hc) (hg.cell? he) (by rwa [hg.linearize]) (fun n hn => ?_) hslots
    rw [hg.bound? k (hnotes n hn).1, hg.bound? k (hnotes n hn).2, hg.bound? c (hnotes n hn).1, hg.bound? c (hnotes n hn).2]
    exact hbound n hn
  | @variant d c cv v slots attributes around x y hd hr hc hv hcv hy hx event ih =>
    have hnote : v.name ∉ noteNames := fun hmem =>
      not_mem_strayNames (hs.unobtrusive d hd _ (Declaration.mem_declared_of_variant hv)).1
        (List.mem_append_left _ (List.mem_append_left _ hmem))
    refine .variant hd hr (hg.globals ▸ hc) hv ?_ (hg.cell? hy) hx ih
    rw [hg.bound? c hnote]
    exact hcv

theorem isInstance (h : w.Event ds e stored around x) (hs : w.Serves ds m) : w.isInstance x (.contract .domainEvent) = true := by
  have hbase : ∀ {d : Declaration} {c : ClassRef} {r : Role}, d ∈ ds → d.Carries r → r ∈ [.domainEvent, .domainEvents] →
      w.globals.lookup d.name = some (.cls c) → .contract .domainEvent ∈ w.linearize c := by
    intro d c r hd hr hevent hc
    obtain ⟨p, vs, hh⟩ := hs.hosts hd (hs.kind_ne_synonym hd hr) hc
    obtain ⟨k, roles, fs, ho⟩ := hh.clear.outline
    obtain ⟨publishes, hmem⟩ := ho.base_mem_bases hr
    obtain ⟨line, hline, hbehind, -⟩ := hh.embodies.behind
    have hcontract : ∀ r ∈ [Role.domainEvent, .domainEvents], ∀ publishes,
        .contract .domainEvent ∈ (r.base publishes).linearization := by decide
    rw [hline]
    exact List.mem_cons_of_mem _ (hbehind _ hmem (hcontract r hevent publishes))
  cases h with
  | record hd hr hc he hk =>
    obtain ⟨p, vs, hh⟩ := hs.hosts hd (hs.kind_ne_synonym hd hr) hc
    rw [World.isInstance, World.classOf_of_cell? he]
    exact decide_eq_true (hs.orderly.linearize_subset hh.embodies.there hk (hbase hd hr (by decide) hc))
  | variant hd hr hc hv hcv hy =>
    obtain ⟨p, vs, hh⟩ := hs.hosts hd (hs.kind_ne_synonym hd hr) hc
    rw [World.isInstance, World.classOf_of_cell? hy]
    exact decide_eq_true ((hh.above_variant (hh.mem_of_bound? hv hcv)).behind_subset (hbase hd hr (by decide) hc))

theorem innermost (h : w.Event ds e stored around x) : w.Event ds e stored 0 e := by
  induction h with
  | record hd hr hc he hk hbound hslots => exact .record hd hr hc he hk hbound hslots
  | variant _ _ _ _ _ _ _ _ ih => exact ih

/-- Each variant around an event adds two requests. -/
theorem read_eq (h : w.Event ds e stored around x) (hs : w.Serves ds m) {n : String} (hn : n ∈ eventNames)
    {r : Except Fault Value} (hr : answerWithin (fuel + 3) (.read e n) w = (r, w')) (h' : r = .error .noAttribute → w'.Orderly)
    (hf : w.depth ≤ fuel) : answerWithin (fuel + 3 + 2 * around) (.read x n) w = (r, w') := by
  have hall : ∀ n ∈ eventNames, isInternal n = false := by decide
  induction h with
  | record => exact hr
  | @variant d c cv v slots attributes around x y hd hcarries hc hv hcv hy hx event ih =>
    obtain ⟨p, vs, hh⟩ := hs.hosts hd (hs.kind_ne_synonym hd hcarries) hc
    obtain ⟨hsum, hmembers⟩ := hh.hostsEvents hcarries
    obtain ⟨type, hmember⟩ := hmembers n hn
    have hdepth : w.depth ≤ fuel + 2 * around := hf.trans (Nat.le_add_right _ _)
    rw [show fuel + 3 + 2 * around = fuel + 2 * around + 3 by omega] at ih
    rw [show fuel + 3 + 2 * (around + 1) = fuel + 2 * around + 5 by omega]
    exact hsum.read_dispatch (hh.mem_of_bound? hv hcv) hy hx hdepth (hall n hn) hmember ih h'

theorem read_record (h : w.Event ds e stored 0 e) (fuel : Nat) (hs : w.Serves ds m) :
    (∀ n ∈ eventNames, n ≠ "version" → answerWithin (fuel + 3) (.read e n) w = (.ok (stored n), w)) ∧
      ∀ r w₁, answerWithin (fuel + 1) (.call (.cls (.builtin "int")) [stored "version"] []) w = (r, w₁) →
        (r = .error .noAttribute → w₁.Orderly) → answerWithin (fuel + 3) (.read e "version") w = (r, w₁) := by
  cases h with
  | @record d c k slots attributes hd hr hc he hk hbound hslots =>
    have hall : ∀ n ∈ eventNames, isInternal n = false ∧ slot n ≠ Standard.registryName := by decide
    obtain ⟨p, vs, hh⟩ := hs.hosts hd (hs.kind_ne_synonym hd hr) hc
    obtain ⟨_, roles, fs, ho⟩ := hh.clear.outline
    have hkind : d.kind = .record := (ho.kind_of_carries hh.clear.own hr).1 (.inr (.inr rfl))
    have hfield : ∀ n ∈ eventNames, ∃ (y : Field) (g : Function), Fragment.contractAccessor y ∈ p.supplied ∧ y.name = n ∧
        w.bound? k n = some (.property g none) ∧ g.body = (if n = "version" then .count "version" else .stored n) ∧
          w.bound? k (slot n) = some (.slot c (slot n)) := by
      intro n hn
      obtain ⟨y, hy, hyn, hsupplied⟩ := ho.supplied_of_event hh.clear.own hh.clear.named.distinct_fields hr n hn
      obtain ⟨g, hg, hbody⟩ := hh.bound?_contractAccessor hsupplied (hyn ▸ (hall n hn).1)
      have hplace := hh.bound?_field hkind hy fun _ => hyn ▸ (hall n hn).2
      rw [hyn] at hg hbody hplace
      exact ⟨y, g, hsupplied, hyn, (hbound n hn).1.trans hg, hbody, (hbound n hn).2.trans hplace⟩
    refine ⟨fun n hn hne => ?_, fun r w₁ hint h' => ?_⟩
    · obtain ⟨y, g, -, -, hg, hbody, hplace⟩ := hfield n hn
      rw [if_neg hne] at hbody
      rw [read_stored hs.orderly he (hall n hn).1 hg hbody hplace, hslots n hn]
      rfl
    · obtain ⟨y, g, hsupplied, hyn, hg, hbody, hplace⟩ := hfield "version" (by decide)
      rw [if_pos rfl] at hbody
      exact read_count hs.orderly he (by decide) hg hbody hplace (hslots "version" (by decide)) (hh.global_int hsupplied hyn)
        hint h'

end World.Event

/-! ## Variants of sums of events -/

/-- The class of a variant, as an attribute of the class of its sum. -/
def World.IsVariant (w : World) (c : ClassRef) (v : Variant) (cv : ClassRef) : Prop :=
  ∀ fuel ≥ 1, answerWithin fuel (.read (.cls c) v.name) w = (.ok (.cls cv), w)

/-- A value is a variant around a payload, which is all that it is matched by. -/
structure World.IsAround (w : World) (d : Declaration) (c : ClassRef) (v : Variant) (x y : Value) : Prop where
  payload : ∀ fuel ≥ 3, answerWithin fuel (.read y "payload") w = (.ok x, w)
  arms : ∀ u ∈ d.variants, ∃ cu, w.IsVariant c u cu ∧ ∀ fuel ≥ w.depth + 3,
    Function.part? (answerWithin fuel) y (.cls cu) w = (.ok (if u = v then some x else none), w)

namespace World.HostsSum

variable {w : World} {m : Module} {d : Declaration} {p : ClassPlan} {c cv : ClassRef} {vs : List (Variant × ClassRef)}
  {payload : Option Contract} {v : Variant} {x y : Value} {slots : List ((ClassRef × String) × Value)} {attributes : Option Nat}

theorem isVariant (h : w.HostsSum m d p c vs payload) (hv : (v, cv) ∈ vs) : w.IsVariant c v cv := by
  intro fuel hf
  obtain ⟨k, rfl⟩ := Nat.exists_eq_add_of_le' hf
  exact h.read_variant hv

/-- Variants are known by their names, and by their classes. -/
theorem variant_eq_iff (h : w.HostsSum m d p c vs payload) {u : Variant} {cu : ClassRef} (hv : (v, cv) ∈ vs) (hu : (u, cu) ∈ vs) :
    cu = cv ↔ u = v := by
  have hvariants : (vs.map (·.1)).Nodup := by
    rw [h.variants, h.clear.variants_eq]
    exact h.clear.named.distinct_variants.of_map
  constructor
  · intro he
    exact congrArg Prod.fst (List.inj_on_of_nodup_map h.realizes.distinct hu hv he)
  · intro he
    exact congrArg Prod.snd (List.inj_on_of_nodup_map hvariants hu hv he)

theorem isAround (h : w.HostsSum m d p c vs payload) (hv : (v, cv) ∈ vs) (hy : w.cell? y = some (.object cv slots attributes))
    (hx : slots.lookup (c, "_payload") = some x) : w.IsAround d c v x y := by
  refine ⟨fun fuel hf => ?_, fun u hu => ?_⟩
  · obtain ⟨k, rfl⟩ := Nat.exists_eq_add_of_le' hf
    rw [h.read_payload hv hy, hx]
    rfl
  · rw [← h.clear.variants_eq, ← h.variants] at hu
    obtain ⟨⟨u, cu⟩, hmem, rfl⟩ := List.mem_map.mp hu
    refine ⟨cu, h.isVariant hmem, fun fuel hf => ?_⟩
    obtain ⟨k, rfl⟩ := Nat.exists_eq_add_of_le' hf
    rw [← Nat.add_assoc, h.part_spec hv hmem hy hx (Nat.le_add_left _ _)]
    simp only [h.variant_eq_iff hv hmem]

end World.HostsSum

/-! ## A file with events -/

namespace Orders

def text : String := "@domain_event record Placed \x7b occurred: uint64 id: uuid aggregate_id: uuid version: int8 \x7d
@domain_events sum OrderEvents \x7b First(Placed) \x7d"

def placed : Declaration :=
  { kind := .record, name := "Placed", directives := [⟨"domain_event", [], some ⟨1, 2, none⟩⟩], location := some ⟨1, 22, none⟩
    fields := [⟨"occurred", ⟨"uint64", []⟩, .hidden, [], some ⟨1, 31, none⟩⟩, ⟨"id", ⟨"uuid", []⟩, .hidden, [], some ⟨1, 48, none⟩⟩,
      ⟨"aggregate_id", ⟨"uuid", []⟩, .hidden, [], some ⟨1, 57, none⟩⟩, ⟨"version", ⟨"int8", []⟩, .hidden, [], some ⟨1, 76, none⟩⟩] }

def events : Declaration :=
  { kind := .sum, name := "OrderEvents", directives := [⟨"domain_events", [], some ⟨2, 2, none⟩⟩]
    variants := [⟨"First", ⟨"Placed", []⟩, [], some ⟨2, 34, none⟩⟩], location := some ⟨2, 20, none⟩ }

def plan : Module :=
  { contracts := defaultContracts, synonyms := []
    classes :=
      [{ name := "Placed", bases := [.domainEvent], docs := [], layout := .record placed.fields [], errors := [], events := []
         supplied := [.accessor "occurred" "int" (.stored "occurred") [], .accessor "id" "UUID" (.stored "id") [],
           .accessor "aggregate_id" "UUID" (.stored "aggregate_id") [], .accessor "version" "int" (.count "version") []] },
       { name := "OrderEvents", bases := [.domainEvents], docs := [], errors := [], events := []
         layout := .sum events.variants (some .domainEvent)
         supplied := Fragment.eventAccessors.map fun a => .dispatch "OrderEvents" ["First"] a.1 a.2 }] }

end Orders

/-! ## Dispatch -/

variable {text : String} {file : Option String} {ds : List Declaration} {contracts : String} {m : Module} {w₀ : World}

end DomainModel.Live
