import DomainModel.Proofs.Live.Accessing

/-!
# Sums

The classes of a sum and of its variants: how a variant is constructed, what an instance of it is matched by, and how its
payload is asked. Only the variants are constructed, and a sum that asks for a contract takes no other payload.
-/

namespace DomainModel.Live

open Run Loading Request

/-- A sum in a world, with the contract that its payloads have to meet. -/
structure World.HostsSum (w : World) (m : Module) (d : Declaration) (p : ClassPlan) (c : ClassRef)
    (vs : List (Variant × ClassRef)) (payload : Option Contract) : Prop extends w.Hosts m d p c vs where
  layout : p.layout = .sum p.variants payload
  asked : ∀ b ∈ payload, b = .domainEvent

theorem not_mem_variantNames {n : String} (h : isInternal n = false) : n ∉ variantNames :=
  not_mem_of_eq_false h (by decide)

/-- A payload meets the contract of a sum, if that has one. -/
def World.Takes (w : World) (payload : Option Contract) (x : Value) : Prop :=
  ∀ b ∈ payload, w.isInstance x (.contract b) = true

theorem World.Hosts.hostsSum {w : World} {m : Module} {d : Declaration} {p : ClassPlan} {c : ClassRef}
    {vs : List (Variant × ClassRef)} (h : w.Hosts m d p c vs) (hk : d.kind = .sum) : ∃ payload, w.HostsSum m d p c vs payload := by
  obtain ⟨e, roles, fs, ho⟩ := h.clear.outline
  obtain ⟨payload, hlayout, hasked⟩ := ho.layout_of_sum h.clear.own hk
  exact ⟨payload, h, hlayout, hasked⟩

namespace World.HostsSum

variable {w w' : World} {m : Module} {d : Declaration} {p : ClassPlan} {c cv cv' : ClassRef} {vs : List (Variant × ClassRef)}
  {payload : Option Contract} {v v' : Variant} {n : String} {x y self : Value} {f : Function} {fuel a : Nat}
  {slots : List ((ClassRef × String) × Value)} {attributes : Option Nat}

theorem after (h : w.HostsSum m d p c vs payload) (ha : w.After w') : w'.HostsSum m d p c vs payload :=
  ⟨h.toHosts.after ha, h.layout, h.asked⟩

/-! ## What the classes bind -/

theorem bound?_own (h : w.HostsSum m d p c vs payload) (hx : (n, y) ∈ layoutBindings p.name .nothing (.sum p.variants payload))
    (hn : n ∉ strayNames) : w.bound? c n = some y := h.bound?_layout (h.layout ▸ hx) hn

theorem bound?_payload (h : w.HostsSum m d p c vs payload) : w.bound? c "_payload" = some (.slot c "_payload") := by
  refine h.bound?_place ?_ fun _ => by decide
  rw [h.layout]
  exact List.mem_singleton_self _

theorem embodiesVariant (h : w.HostsSum m d p c vs payload) (hv : (v, cv) ∈ vs) : EmbodiesVariant w p c v cv :=
  h.realizes.variants _ hv

theorem bound?_variantClass (h : w.HostsSum m d p c vs payload) (hv : (v, cv) ∈ vs) (hn : n ∉ variantNames) :
    w.bound? cv n = w.bound? c n := (h.above_variant hv).bound? hn

theorem bound?_init (h : w.HostsSum m d p c vs payload) (hv : (v, cv) ∈ vs) (hf : w.member? cv "__init__" = some (.function f)) :
    w.bound? cv "__init__" = some (.function f) := by
  rw [World.bound?, (h.embodiesVariant hv).behind, World.firstMember?, List.findSome?_cons, hf]

theorem boundBehind?_init (h : w.HostsSum m d p c vs payload) (hv : (v, cv) ∈ vs) :
    w.boundBehind? cv cv "__init__" = w.bound? c "__init__" := by
  rw [World.boundBehind?, (h.embodiesVariant hv).behind, List.dropWhile_cons_of_neg (by simp), List.drop_one, List.tail_cons]
  rfl

theorem ne_variant (h : w.HostsSum m d p c vs payload) (hv : (v, cv) ∈ vs) : cv ≠ c :=
  (h.embodiesVariant hv).ne_class h.embodies h.embodies

/-- Of the variants of a sum, an instance is of one only. -/
theorem isInstance_variant (h : w.HostsSum m d p c vs payload) (hv : (v, cv) ∈ vs) (hv' : (v', cv') ∈ vs)
    (hx : w.classOf x = cv) : w.isInstance x cv' = decide (cv' = cv) := by
  rw [World.isInstance, World.isSubclass, hx, (h.embodiesVariant hv).behind]
  congr 1
  rw [List.mem_cons, eq_iff_iff, or_iff_left_iff_imp]
  intro hmem
  exact absurd (h.embodies.eq_of_mem_linearize (h.embodiesVariant hv').made hmem) (h.ne_variant hv')

/-! ## Names that the functions refer to -/

theorem global_builtin (h : w.HostsSum m d p c vs payload) (hn : n ∈ ["type", "TypeError", "NotImplemented", "hash"])
    (hx : Builtin.value? n = some x) : f.global n w = (.ok x, w) := by
  have hall : ∀ n ∈ ["type", "TypeError", "NotImplemented", "hash"], n ∈ builtinNames ∧
      n ∈ ["type", "TypeError", "property", "NotImplemented", "hash"] := by decide
  refine h.loaded.stage.global_builtin h.sound (h.mem_references ?_) (hall n hn).1 hx
  rw [h.layout]
  exact List.mem_append_left _ (List.mem_append_left _ (hall n hn).2)

theorem global_super (h : w.HostsSum m d p c vs payload) (hv : (v, cv) ∈ vs) :
    f.global "super" w = (.ok (.cls (.builtin "super")), w) := by
  refine h.loaded.stage.global_builtin h.sound (h.mem_references ?_) (by decide) (by decide)
  rw [h.layout]
  refine List.mem_append_left _ (List.mem_append_right _ (List.mem_flatMap.mpr ⟨v, ?_, List.mem_singleton_self _⟩))
  exact h.variants_subset (List.mem_map_of_mem hv)

theorem global_asked (h : w.HostsSum m d p c vs payload) {b : Contract} (hb : b ∈ payload) :
    f.global "isinstance" w = (.ok (.native "" "isinstance"), w) ∧ f.global b.text w = (.ok (.cls (.contract b)), w) := by
  have hmem : ∀ n ∈ ["isinstance", b.text], n ∈ m.references := by
    intro n hn
    refine h.mem_references ?_
    rw [h.layout]
    exact List.mem_append_right _ (List.mem_flatMap.mpr ⟨b, by simpa using hb, hn⟩)
  refine ⟨h.loaded.stage.global_builtin h.sound (hmem _ (by simp)) (by decide) (by decide), ?_⟩
  refine h.loaded.stage.global_contract h.sound (hmem _ (by simp)) ?_
  rw [h.asked b hb]
  decide

theorem typeOf_spec (h : w.HostsSum m d p c vs payload) (x : Value) :
    f.typeOf (answerWithin (fuel + 1)) x w = (.ok (.cls (w.classOf x)), w) := by
  rw [Function.typeOf, bind_of_ok (h.global_builtin (by decide) (show _ = some (.cls (.builtin "type")) by decide))]
  exact call_type x

theorem typeQualname_spec (h : w.HostsSum m d p c vs payload) (fuel : Nat) (hx : w.isFixed (w.classOf x) = false) :
    ∃ q, f.typeQualname (answerWithin (fuel + 1)) x w = (.ok q, w) ∧ q.text? = some (w.info (w.classOf x)).qualname := by
  obtain ⟨q, hread, hq⟩ := read_qualname fuel h.orderly h.labelled hx
  refine ⟨q, ?_, hq⟩
  rw [Function.typeQualname, bind_of_ok (h.typeOf_spec x)]
  exact hread

/-! ## Construction -/

theorem checkPayload_of_isInstance (h : w.HostsSum m d p c vs payload) {b : Contract} (hb : b ∈ payload)
    (hx : w.isInstance x (.contract b) = true) (hf : w.depth ≤ fuel) :
    f.checkPayload (answerWithin (fuel + 4)) b self x w = (.ok (), w) := by
  have hself : .contract b ∈ w.linearize (.contract b) := h.orderly.mem_linearize_self (.inl (h.orderly.isFixed_contract b))
  have hcall : (answerWithin (fuel + 4)).call (.native "" "isinstance") [x, .cls (.contract b)] [] w = (.ok (.truth true), w) := by
    rw [← hx]
    exact (call_isinstance x _).trans (Membership.answerWithin_isInstance h.orderly x hself (hf.trans (Nat.le_add_right _ _)))
  rw [Function.checkPayload, bind_of_ok (h.global_asked hb).1, bind_of_ok (h.global_asked hb).2, bind_of_ok hcall,
    bind_of_ok (isTrue_truth true w)]
  rfl

theorem checkPayload_of_not (h : w.HostsSum m d p c vs payload) {b : Contract} (hb : b ∈ payload)
    (hx : w.isInstance x (.contract b) = false) (hself : w.isFixed (w.classOf self) = false) (hf : w.depth ≤ fuel) :
    ∃ e w', f.checkPayload (answerWithin (fuel + 4)) b self x w = (.error (.thrown e), w') ∧ w.Grows w' ∧
      w'.classOf e = .builtin "TypeError" := by
  have hown : .contract b ∈ w.linearize (.contract b) := h.orderly.mem_linearize_self (.inl (h.orderly.isFixed_contract b))
  have hcall : (answerWithin (fuel + 4)).call (.native "" "isinstance") [x, .cls (.contract b)] [] w = (.ok (.truth false), w) := by
    rw [← hx]
    exact (call_isinstance x _).trans (Membership.answerWithin_isInstance h.orderly x hown (hf.trans (Nat.le_add_right _ _)))
  obtain ⟨q, hq, hqtext⟩ := h.typeQualname_spec (f := f) (fuel + 3) hself
  obtain ⟨t, w₁, ht, httext, hgrows⟩ := read_name (fuel + 3) h.orderly h.labelled (w.classOf x)
  obtain ⟨s, hs⟩ := Option.isSome_iff_exists.mp httext
  obtain ⟨e, w₂, he, hgrows', hclass⟩ := raise_spec (α := Unit) (fuel + 3) hgrows.orderly hgrows.labelled
    (show "TypeError" ∈ raisedNames by decide) (wrongPayloadText (w.info (w.classOf self)).qualname b.text s)
  refine ⟨e, w₂, ?_, hgrows.trans hgrows', hclass⟩
  have hname : (answerWithin (fuel + 4)).read (.cls (w.classOf x)) "__name__" w = (.ok t, w₁) := ht
  rw [Function.checkPayload, bind_of_ok (h.global_asked hb).1, bind_of_ok (h.global_asked hb).2, bind_of_ok hcall,
    bind_of_ok (isTrue_truth false w)]
  simp only [Bool.false_eq_true, if_false]
  rw [bind_of_ok (h.global_builtin (by decide) (show _ = some (.cls (.builtin "TypeError")) by decide)), bind_of_ok hq,
    bind_of_ok (textOf_of_text? hqtext), bind_of_ok (h.typeOf_spec x), bind_of_ok hname, bind_of_ok (textOf_of_text? hs)]
  exact he

theorem initSum_of_sum (h : w.HostsSum m d p c vs payload) (fuel : Nat) (hself : w.classOf self = c) :
    ∃ e w', f.initSum (answerWithin (fuel + 1)) p.name payload self x w = (.error (.thrown e), w') ∧ w.Grows w' ∧
      w'.classOf e = .builtin "TypeError" := by
  obtain ⟨e, w', he, hgrows, hclass⟩ := raise_spec (α := Value) fuel h.orderly h.labelled
    (show "TypeError" ∈ raisedNames by decide) (noVariantText p.name)
  refine ⟨e, w', ?_, hgrows, hclass⟩
  rw [Function.initSum, bind_of_ok (h.typeOf_spec self), hself, bind_of_ok h.global_owner, if_pos rfl, Function.raise,
    bind_of_ok (h.global_builtin (by decide) (show _ = some (.cls (.builtin "TypeError")) by decide))]
  exact he

theorem initSum_of_variant (h : w.HostsSum m d p c vs payload) (hv : (v, cv) ∈ vs) (hclass : w.classOf self = cv) :
    f.initSum (answerWithin (fuel + 1)) p.name payload self x w =
      (payload.elim (pure ()) (f.checkPayload (answerWithin (fuel + 1)) · self x) >>= fun _ =>
        f.store (answerWithin (fuel + 1)) self "payload" x >>= fun _ => pure .nothing : Run Value) w := by
  rw [Function.initSum, bind_of_ok (h.typeOf_spec _), hclass, bind_of_ok h.global_owner,
    if_neg (by simpa using h.ne_variant hv)]
  cases payload with
  | none => rfl
  | some b => rfl

theorem initSum_of_takes (h : w.HostsSum m d p c vs payload) (hv : (v, cv) ∈ vs)
    (hcell : w.cell? (.cell a) = some (.object cv slots attributes)) (hx : w.Takes payload x) (hf : w.depth ≤ fuel) :
    f.initSum (answerWithin (fuel + 4)) p.name payload (.cell a) x w =
      (.ok .nothing, w.setSlot (.cell a) (c, "_payload") x) := by
  have hset : w.bound? cv "__setattr__" = some (.native "object" "__setattr__") := by
    rw [h.bound?_variantClass hv (by decide)]
    exact h.bound?_root (by decide)
  have hplace : w.bound? cv "_payload" = some (.slot c "_payload") := by
    rw [h.bound?_variantClass hv (by decide)]
    exact h.bound?_payload
  have hassign : answerWithin (fuel + 4) (.assign (.cell a) "_payload" x) w =
      (.ok .nothing, w.setSlot (.cell a) (c, "_payload") x) := assign_slot hcell hset hplace
  have hstore : f.store (answerWithin (fuel + 4)) (.cell a) "payload" x w = (.ok (), w.setSlot (.cell a) (c, "_payload") x) := by
    rw [Function.store, Function.spell, spell_slot (by decide)]
    rw [show slot "payload" = "_payload" by decide, Answering.assign, bind_of_ok hassign]
    rfl
  have hcheck : payload.elim (pure ()) (f.checkPayload (answerWithin (fuel + 4)) · (.cell a) x) w = (.ok (), w) := by
    cases payload with
    | none => rfl
    | some b => exact h.checkPayload_of_isInstance rfl (hx b rfl) hf
  rw [h.initSum_of_variant hv (World.classOf_of_cell? hcell), bind_of_ok hcheck, bind_of_ok hstore]
  rfl

theorem initSum_of_not (h : w.HostsSum m d p c vs payload) (hv : (v, cv) ∈ vs) (hclass : w.classOf self = cv)
    (hx : ¬w.Takes payload x) (hf : w.depth ≤ fuel) :
    ∃ e w', f.initSum (answerWithin (fuel + 4)) p.name payload self x w = (.error (.thrown e), w') ∧ w.Grows w' ∧
      w'.classOf e = .builtin "TypeError" := by
  cases payload with
  | none => exact absurd nofun hx
  | some b =>
    have hfalse : w.isInstance x (.contract b) = false := by
      rw [← Bool.not_eq_true]
      rintro htrue
      refine hx fun k hk => ?_
      obtain rfl := Option.some.inj hk
      exact htrue
    have hfixed : w.isFixed (w.classOf self) = false := hclass ▸ (h.embodiesVariant hv).there
    obtain ⟨e, w', he, hgrows, hkind⟩ := h.checkPayload_of_not (f := f) rfl hfalse hfixed hf
    refine ⟨e, w', ?_, hgrows, hkind⟩
    rw [h.initSum_of_variant hv hclass]
    exact bind_of_error he

theorem initVariant_eq (h : w.HostsSum m d p c vs payload) (hv : (v, cv) ∈ vs) (hclass : w.classOf self = cv) :
    ∃ g : Function, ∀ fuel, f.initVariant (answerWithin (fuel + 2)) cv self x w =
      (g.initSum (answerWithin fuel) p.name payload self x >>= fun _ => pure .nothing : Run Value)
        { w with cells := w.cells ++ [.method self (.function g)] } := by
  let annotation := ClassPlan.payloadUnion p.variants
  let g := function p.name "__init__" (.sumInit p.name payload) [("payload", annotation)] "None"
  have hg : w.bound? c "__init__" = some (.function g) := h.bound?_own (by simp [layoutBindings, g, annotation]) (by decide)
  have hinstance : w.isInstance self cv = true := by
    rw [h.isInstance_variant hv hv hclass]
    exact decide_eq_true rfl
  have hcall : ∀ fuel, (answerWithin (fuel + 2)).call (.cell w.cells.length) [x] [] { w with cells := w.cells ++ [.method self (.function g)] } =
      g.initSum (answerWithin fuel) p.name payload self x { w with cells := w.cells ++ [.method self (.function g)] } := by
    intro fuel
    rw [Answering.call, call_method (World.cell?_allocated w _)]
    exact call_function (show g.arguments? [self, x] [] = some [self, x] from rfl)
  refine ⟨g, fun fuel => ?_⟩
  rw [Function.initVariant, bind_of_ok (h.global_super hv), if_pos rfl, world_bind, hinstance, if_pos rfl, hclass,
    h.boundBehind?_init hv, hg]
  change ((answerWithin (fuel + 2)).call (.cell w.cells.length) [x] [] >>= fun _ => pure .nothing : Run Value) _ = _
  rw [bind_apply, hcall, bind_apply]

theorem not_valueObject (h : w.HostsSum m d p c vs payload) : .valueObject ∉ p.bases := by
  intro hmem
  obtain ⟨e, roles, fs, ho⟩ := h.clear.outline
  obtain ⟨r, q, hr, heq⟩ := ho.exists_role_of_base hmem
  obtain rfl : r = .valueObject := by cases r <;> cases q <;> first | rfl | cases heq
  obtain ⟨f, -, -, hlayout, -⟩ := ho.supplied_of_value h.clear.own hr
  rw [h.layout] at hlayout
  cases hlayout

theorem instantiable_variant (h : w.HostsSum m d p c vs payload) (hv : (v, cv) ∈ vs) :
    ∃ f, f.body = .variantInit cv ∧ w.Instantiable cv f := by
  obtain ⟨f, hbody, -, hf⟩ := (h.embodiesVariant hv).init
  refine ⟨f, hbody, h.instantiable (h.above_variant hv) (by decide) (h.bound?_init hv hf) ?_⟩
  exact (h.embodiesVariant hv).isIncomplete h.not_valueObject

theorem construct_variant_eq (h : w.HostsSum m d p c vs payload) (hv : (v, cv) ∈ vs) (x : Value) :
    ∃ (g : Function) (w₁ : World), w.Grows w₁ ∧ w₁.cell? (.cell w.cells.length) = some (.object cv [] none) ∧
      ∀ fuel r w', g.initSum (answerWithin fuel) p.name payload (.cell w.cells.length) x w₁ = (r, w') →
        answerWithin (fuel + 5) (.call (.cls cv) [x] []) w = (r.map fun _ => .cell w.cells.length, w') := by
  obtain ⟨f, hbody, hf⟩ := h.instantiable_variant hv
  have hgrows : w.Grows (w.begun cv f) := World.grows_begun h.orderly h.labelled cv f
  have hb := h.after hgrows.toAfter
  have hcell := World.cell?_begun w cv f
  obtain ⟨g, hg⟩ := hb.initVariant_eq (f := f) (x := x) hv (World.classOf_of_cell? hcell)
  -- the method that initialises the instance as one of the sum takes a cell of its own
  have hgrows' := World.Grows.append hgrows.orderly hgrows.labelled [.method (.cell w.cells.length) (.function g)]
  refine ⟨g, _, hgrows.trans hgrows', hgrows'.cell? hcell, fun fuel r w' hr => ?_⟩
  have hrun : f.run (answerWithin (fuel + 2)) [.cell w.cells.length, x] (w.begun cv f) = (r.map fun _ => .nothing, w') := by
    simp only [Function.run, hbody]
    rw [hg fuel, bind_apply, hr]
    cases r <;> rfl
  have harguments : f.arguments? [.cell w.cells.length, x] [] = some [.cell w.cells.length, x] := by
    rw [Function.arguments?, hbody]
    rfl
  rw [construct_spec hf harguments hrun]
  · cases r <;> rfl
  · intro y hy
    cases r with
    | ok z => exact (Except.ok.inj hy).symm
    | error e => cases hy

/-- A variant of a payload that its sum takes is an instance that holds the payload. -/
theorem construct_variant (h : w.HostsSum m d p c vs payload) (hv : (v, cv) ∈ vs) (hx : w.Holds x)
    (htakes : w.Takes payload x) (hf : w.depth ≤ fuel) :
    ∃ w', answerWithin (fuel + 9) (.call (.cls cv) [x] []) w = (.ok (.cell w.cells.length), w') ∧ w.Grows w' ∧
      w'.cell? (.cell w.cells.length) = some (.object cv [((c, "_payload"), x)] none) := by
  obtain ⟨g, w₁, hgrows, hcell, hcall⟩ := h.construct_variant_eq hv x
  have htakes' : w₁.Takes payload x := fun b hmem => (hgrows.isInstance hx _).trans (htakes b hmem)
  have hinit := (h.after hgrows.toAfter).initSum_of_takes (f := g) hv hcell htakes' ((hgrows.depth h.orderly).le.trans hf)
  have hslots : w₁.setSlot (.cell w.cells.length) (c, "_payload") x =
      w₁.update w.cells.length (.object cv [((c, "_payload"), x)] none) := World.setSlot_eq hcell _ x
  rw [hslots] at hinit
  exact ⟨_, hcall _ _ _ hinit, hgrows.update Nat.le.refl _, World.cell?_update (List.getElem?_eq_some_iff.mp hcell).1 _⟩

/-- A variant of any other payload is not constructed. -/
theorem construct_variant_of_not (h : w.HostsSum m d p c vs payload) (hv : (v, cv) ∈ vs) (hx : w.Holds x)
    (htakes : ¬w.Takes payload x) (hf : w.depth ≤ fuel) :
    w.Throws (fuel + 9) (.call (.cls cv) [x] []) (.builtin "TypeError") := by
  obtain ⟨g, w₁, hgrows, hcell, hcall⟩ := h.construct_variant_eq hv x
  have htakes' : ¬w₁.Takes payload x := fun ht => htakes fun b hmem => (hgrows.isInstance hx _).symm.trans (ht b hmem)
  obtain ⟨e, w', he, hgrows', hkind⟩ := (h.after hgrows.toAfter).initSum_of_not (f := g) hv (World.classOf_of_cell? hcell)
    htakes' ((hgrows.depth h.orderly).le.trans hf)
  exact ⟨e, w', hcall _ _ _ he, hgrows.trans hgrows', hkind⟩

theorem construct_sum (h : w.HostsSum m d p c vs payload) (x : Value) :
    w.Throws (fuel + 4) (.call (.cls c) [x] []) (.builtin "TypeError") := by
  let annotation := ClassPlan.payloadUnion p.variants
  let g := function p.name "__init__" (.sumInit p.name payload) [("payload", annotation)] "None"
  have hg : w.bound? c "__init__" = some (.function g) := h.bound?_own (by simp [layoutBindings, g, annotation]) (by decide)
  have hinstantiable : w.Instantiable c g :=
    h.instantiable h.above (fun _ _ => List.not_mem_nil) hg (h.embodies.isIncomplete h.not_valueObject)
  have hgrows : w.Grows (w.begun c g) := World.grows_begun h.orderly h.labelled c g
  obtain ⟨e, w', he, hgrows', hkind⟩ := (h.after hgrows.toAfter).initSum_of_sum (f := g) (x := x) fuel
    (World.classOf_of_cell? (World.cell?_begun w c g))
  have harguments : g.arguments? [.cell w.cells.length, x] [] = some [.cell w.cells.length, x] := rfl
  refine ⟨e, w', construct_spec hinstantiable harguments he fun y hy => ?_, hgrows.trans hgrows', hkind⟩
  cases hy

/-! ## Instances -/

theorem read_payload (h : w.HostsSum m d p c vs payload) (hv : (v, cv) ∈ vs)
    (hself : w.cell? self = some (.object cv slots attributes)) :
    answerWithin (fuel + 3) (.read self "payload") w = (placed (slots.lookup (c, "_payload")), w) := by
  let g := function p.name "payload" (.stored "payload") [] (ClassPlan.payloadUnion p.variants)
  have hg : w.bound? cv "payload" = some (.property g none) := by
    rw [h.bound?_variantClass hv (by decide)]
    exact h.bound?_own (by simp [layoutBindings, g]) (by decide)
  have hplace : w.bound? cv (slot "payload") = some (.slot c (slot "payload")) := by
    rw [show slot "payload" = "_payload" by decide, h.bound?_variantClass hv (by decide)]
    exact h.bound?_payload
  exact read_stored h.orderly hself (by decide) hg rfl hplace

theorem read_variant (h : w.HostsSum m d p c vs payload) (hv : (v, cv) ∈ vs) :
    answerWithin (fuel + 1) (.read (.cls c) v.name) w = (.ok (.cls cv), w) := by
  have hi := h.clear.isInternal_variant (h.variants_subset (List.mem_map_of_mem hv))
  have hfree : v.name ∉ noteNames ++ Attribute.keptNames := not_mem_of_eq_false hi (by decide)
  rw [List.mem_append, not_or] at hfree
  exact Attribute.ofClass_of_bound h.orderly hfree.1 hfree.2 (h.bound?_variant hv)

/-- A variant is matched by the class of that variant only, and its part is the payload. -/
theorem part_spec (h : w.HostsSum m d p c vs payload) (hv : (v, cv) ∈ vs) (hv' : (v', cv') ∈ vs)
    (hself : w.cell? self = some (.object cv slots attributes)) (hx : slots.lookup (c, "_payload") = some x)
    (hf : w.depth ≤ fuel) :
    Function.part? (answerWithin (fuel + 3)) self (.cls cv') w = (.ok (if cv' = cv then some x else none), w) := by
  have hown : cv' ∈ w.linearize cv' := h.orderly.mem_linearize_self (.inl (h.embodiesVariant hv').there)
  have hinstance := Membership.answerWithin_isInstance h.orderly self hown (hf.trans (Nat.le_add_right fuel _))
  rw [h.isInstance_variant hv hv' (World.classOf_of_cell? hself)] at hinstance
  rw [Function.part?, bind_of_ok hinstance, bind_of_ok (isTrue_truth _ w)]
  by_cases he : cv' = cv
  · have hnames : w.bound? cv' "__match_args__" = some (.names ["payload"]) := by
      rw [h.bound?_variantClass hv' (by decide)]
      exact h.bound?_own (by simp [layoutBindings]) (by decide)
    have hread : (answerWithin (fuel + 3)).read (.cls cv') "__match_args__" w = (.ok (.names ["payload"]), w) :=
      Attribute.ofClass_of_bound h.orderly (by decide) (by decide) hnames
    have hpayload : (answerWithin (fuel + 3)).read self "payload" w = (.ok x, w) := by
      rw [Answering.read, h.read_payload hv hself, hx]
      rfl
    rw [decide_eq_true he, if_pos rfl, if_pos he, bind_of_ok (attempt_of_ok hread)]
    exact bind_of_ok (attempt_of_ok hpayload)
  · rw [decide_eq_false he, if_neg Bool.false_ne_true, if_neg he]
    rfl

/-- Of all arms only the one of the instance's variant is taken, and asks the payload. -/
theorem dispatchTo_spec (h : w.HostsSum m d p c vs payload) (hv : (v, cv) ∈ vs)
    (hself : w.cell? self = some (.object cv slots attributes)) (hx : slots.lookup (c, "_payload") = some x)
    (hf : w.depth ≤ fuel) {us : List (Variant × ClassRef)} (hus : us ⊆ vs) (hmem : (v, cv) ∈ us) :
    f.dispatchTo (answerWithin (fuel + 3)) p.name n self (us.map (·.1.name)) w =
      answerWithin (fuel + 3) (.read x (f.spell n)) w := by
  induction us with
  | nil => cases hmem
  | cons u us ih =>
    have hu : (u.1, u.2) ∈ vs := hus List.mem_cons_self
    have hspell : f.spell u.1.name = u.1.name :=
      spell_eq_self (h.clear.isInternal_variant (h.variants_subset (List.mem_map_of_mem hu)))
    have hread : (answerWithin (fuel + 3)).read (.cls c) (f.spell u.1.name) w = (.ok (.cls u.2), w) := by
      rw [hspell]
      exact h.read_variant hu
    rw [List.map_cons, Function.dispatchTo, bind_of_ok h.global_owner, bind_of_ok hread,
      bind_of_ok (h.part_spec hv hu hself hx hf)]
    by_cases he : u.2 = cv
    · rw [if_pos he]
      rfl
    · rw [if_neg he]
      refine ih (List.Subset.trans (List.subset_cons_self _ _) hus) ?_
      rcases List.mem_cons.mp hmem with rfl | hmem
      · exact absurd rfl he
      · exact hmem

theorem read_dispatch (h : w.HostsSum m d p c vs payload) (hv : (v, cv) ∈ vs)
    (hself : w.cell? self = some (.object cv slots attributes)) (hx : slots.lookup (c, "_payload") = some x)
    (hf : w.depth ≤ fuel) { annotation : String} (hn : isInternal n = false)
    (hmember : .dispatch p.name (p.variants.map (·.name)) n annotation ∈ p.supplied) {r : Except Fault Value}
    (hr : answerWithin (fuel + 3) (.read x n) w = (r, w')) (h' : r = .error .noAttribute → w'.Orderly) :
    answerWithin (fuel + 5) (.read self n) w = (r, w') := by
  let g := function p.name n (.dispatch p.name (p.variants.map (·.name)) n) [] annotation
  have hg : w.bound? (w.classOf self) n = some (.property g none) := by
    rw [World.classOf_of_cell? hself]
    refine (h.bound?_variantClass hv (not_mem_variantNames hn)).trans (h.bound?_supplied hmember ?_ (not_mem_strayNames hn))
    exact List.mem_singleton_self _
  refine read_accessor h.orderly (ne_cls_of_cell? hself) hg rfl ?_ h'
  have hvariants : (p.variants.map (·.name)).isEmpty = false := by
    rw [List.isEmpty_eq_false_iff]
    exact List.ne_nil_of_mem (List.mem_map_of_mem (h.variants_subset (List.mem_map_of_mem hv)))
  have hnames : p.variants.map (·.name) = vs.map (·.1.name) := by
    rw [← h.variants, List.map_map]
    rfl
  change (if (p.variants.map (·.name)).isEmpty = true then _ else g.dispatchTo _ p.name n self (p.variants.map (·.name)) :
    Run Value) w = _
  rw [hvariants, if_neg Bool.false_ne_true, hnames, h.dispatchTo_spec hv hself hx hf (List.Subset.refl _) hv, Function.spell,
    spell_eq_self hn, hr]

end World.HostsSum

end DomainModel.Live
