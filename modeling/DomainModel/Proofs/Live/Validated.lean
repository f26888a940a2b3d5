import DomainModel.Proofs.Live.Errors
import DomainModel.Proofs.Live.Histories

/-!
# Validated values

A class that supplies the rule of a value object makes instances of the values that the rule accepts, and raises the error of the
value object for the others.
-/

namespace DomainModel

theorem Outline.validate_not_mem {d : Declaration} {c : Descriptor} {roles : List Applied} {fs : List Fragment} {p : ClassPlan}
    (h : Outline d c roles fs p) (hown : d.HoldsOwnParts) (hr : d.Carries .valueObject) :
    "validate" ∉ p.supplied.flatMap fun m => m.name :: m.copies := by
  intro hmem
  obtain ⟨m, hm, hn⟩ := List.mem_flatMap.mp hmem
  rcases List.mem_cons.mp hn with hn | hn
  · have hsupplied : "validate" ∈ p.supplied.map Member.name := hn ▸ List.mem_map_of_mem hm
    obtain ⟨r, hr', hs⟩ := h.mem_supplied.mp hsupplied
    rw [Role.supplies_iff (h.fault?_of_carries hr')] at hs
    rcases hs with ⟨hs, -⟩ | ⟨hs, -⟩
    · cases r <;> exact absurd hs (by decide)
    · obtain ⟨y, hy, hname⟩ := List.mem_map.mp hs
      rw [(h.layout_eq hown).2.2.2] at hy
      rw [h.name_of_value hown hr hy] at hname
      exact absurd hname (by decide)
  · exact absurd (h.mem_copies.mp (List.mem_flatMap.mpr ⟨m, hm, hn⟩)).1 (by decide)

namespace Live

open Run Loading Request

/-! ## Value objects -/

def validates (ask : Answering) (k : ClassRef) (x : Value) : Run Bool := do
  ask.isTrue (← ask.call (← ask.read (.cls k) "validate") [x])

def makes (ask : Answering) (k : ClassRef) (x : Value) : Run Value := do
  ask.call (← ask.read (.cls k) "try_from") [x]

/-- The rule of a class says of a value whether it is accepted, whatever else it does, and leaves a value that is not accepted so
that it can be shown. -/
def World.Judges (w : World) (limit : Nat) (k : ClassRef) (x : Value) (b : Bool) : Prop :=
  ∀ fuel ≥ limit, ∀ w', w.Grows w' → ∃ w'', validates (answerWithin fuel) k x w' = (.ok b, w'') ∧ w'.After w'' ∧
    (b = false → ∃ s, w''.Shows limit x s)

/-- A class supplies the rule of a value object, and a value is an instance of it around another value. -/
def World.Valued (w : World) (c k : ClassRef) (v x : Value) : Prop :=
  w.Supplies k c ∧ ∃ slots attributes, w.cell? v = some (.object k slots attributes) ∧ slots.lookup (c, slot "value") = some x

def World.Lacks (w : World) (v : Value) (n : String) : Prop :=
  ∃ k slots attributes, w.cell? v = some (.object k slots attributes) ∧
    ∀ a ∈ attributes, ∃ entries, w.cell? (.cell a) = some (.dict entries) ∧ World.keyed? entries (.constant n) = none

theorem World.Stores.lacks {w : World} {d : Declaration} {c k : ClassRef} {v : Value} {σ : String → Value} {n : String}
    (h : w.Stores d c k v σ) : w.Lacks v n := by
  obtain ⟨slots, hcell, -⟩ := h
  exact ⟨k, slots, none, hcell, nofun⟩

structure World.HostsValue (w : World) (m : Module) (d : Declaration) (p : ClassPlan) (c : ClassRef)
    (vs : List (Variant × ClassRef)) : Prop extends w.Hosts m d p c vs where
  carries : d.Carries .valueObject

namespace World.HostsValue

variable {w w' : World} {m : Module} {d : Declaration} {p : ClassPlan} {c k : ClassRef} {vs : List (Variant × ClassRef)}
  {n s : String} {v u x y : Value} {b : Bool} {f : Function} {fuel limit : Nat}

theorem after (h : w.HostsValue m d p c vs) (ha : w.After w') : w'.HostsValue m d p c vs := ⟨h.toHosts.after ha, h.carries⟩

section
variable (h : w.HostsValue m d p c vs)
include h

theorem kind : d.kind = .record := by
  obtain ⟨e, roles, fs, ho⟩ := h.clear.outline
  exact (ho.kind_of_carries h.clear.own h.carries).1 (.inr (.inl rfl))

theorem exists_field : ∃ y ∈ d.fields, y.name = "value" := by
  obtain ⟨e, roles, fs, ho⟩ := h.clear.outline
  obtain ⟨y, hfields, hname, -⟩ := ho.supplied_of_value h.clear.own h.carries
  exact ⟨y, hfields ▸ List.mem_singleton_self y, hname⟩

theorem names_eq : d.fields.map (·.name) = ["value"] := by
  obtain ⟨e, roles, fs, ho⟩ := h.clear.outline
  obtain ⟨y, hfields, hname, -⟩ := ho.supplied_of_value h.clear.own h.carries
  rw [hfields, List.map_singleton, hname]

theorem not_loses : ¬d.Loses := fun hlost => by
  have hmem := hlost.2
  rw [h.names_eq] at hmem
  exact absurd hmem (by decide)

theorem supplies_members : ∃ annotation, ∀ x ∈ [Member.display "value", .equality d.name "value", .hash "value",
    .clone d.name "value", .tryFrom d.name "value" annotation (ValueError.ofOwner d.name).name], x ∈ p.supplied := by
  obtain ⟨e, roles, fs, ho⟩ := h.clear.outline
  obtain ⟨y, -, -, -, hmem⟩ := ho.supplied_of_value h.clear.own h.carries
  exact ⟨_, hmem⟩

theorem hostsKey : w.HostsKey m d p c vs "value" := by
  obtain ⟨t, hmem⟩ := h.supplies_members
  refine ⟨h.toHosts, h.kind, ?_, by decide, hmem _ (by simp), hmem _ (by simp)⟩
  rw [h.names_eq]
  exact List.mem_singleton_self _

theorem instances (hk : w.Supplies k c) : w.Instances d c k := by
  unfold World.Instances
  rwa [if_pos h.carries]

theorem inherits_self : w.Inherits valueNames c c :=
  ⟨noteNames, List.Subset.refl _, by decide, h.embodies.there, h.embodies.made, [], rfl, fun _ hx => absurd hx List.not_mem_nil⟩

omit h in
theorem keyed (hv : w.Valued c k v x) : w.Keyed c "value" v x := by
  obtain ⟨hk, slots, attributes, hcell, hx⟩ := hv
  exact ⟨k, slots, attributes, hcell, hk.above.mono (by decide), hx⟩

theorem valued_grows (hv : w.Valued c k v x) (hg : w.Grows w') : w'.Valued c k v x := by
  obtain ⟨hk, slots, attributes, hcell, hx⟩ := hv
  exact ⟨hk.after h.embodies.there hg.toAfter, slots, attributes, hg.cell? hcell, hx⟩

/-! ## What the class binds -/

theorem bound?_display (hk : w.Inherits valueNames k c) :
    ∃ f, w.bound? k "__str__" = some (.function f) ∧ f.body = .fieldText "value" := by
  obtain ⟨t, hmem⟩ := h.supplies_members
  rw [hk.bound? (by decide)]
  exact ⟨_, h.bound?_supplied (hmem (.display "value") (by simp)) (List.mem_singleton_self _) (by decide), rfl⟩

theorem bound?_tryFrom (hk : w.Inherits valueNames k c) : ∃ f, w.bound? k "try_from" = some (.classMethod f) ∧
    f.body = .tryFrom "value" (ValueError.ofOwner d.name).name := by
  obtain ⟨t, hmem⟩ := h.supplies_members
  rw [hk.bound? (by decide)]
  exact ⟨_, h.bound?_supplied (hmem (.tryFrom d.name "value" t _) (by simp)) (List.mem_singleton_self _) (by decide), rfl⟩

theorem bound?_clone (hn : n ∈ ["clone", "__copy__"]) (hk : w.Inherits valueNames k c) :
    ∃ f, w.bound? k n = some (.function f) ∧ f.body = .clone "value" := by
  have hall : ∀ n ∈ ["clone", "__copy__"], n ∈ valueNames ∧ n ∉ strayNames := by decide
  obtain ⟨t, hmem⟩ := h.supplies_members
  rw [hk.bound? (hall n hn).1]
  refine ⟨function p.name "clone" (.clone "value") [] d.name, ?_, rfl⟩
  refine h.bound?_supplied (hmem (.clone d.name "value") (by simp)) ?_ (hall n hn).2
  simp only [List.mem_cons, List.not_mem_nil, or_false] at hn
  rcases hn with rfl | rfl <;> simp [memberBindings]

theorem bound?_validate : ∃ f, w.bound? c "validate" = some (.classMethod f) ∧ f.body = .requiredRule := by
  obtain ⟨e, roles, fs, ho⟩ := h.clear.outline
  obtain ⟨publishes, hbase⟩ := ho.base_mem_bases h.carries
  have hcontracts : ∀ b : Contract, b ≠ .valueValidationError → ∀ k ∈ b.linearization, World.initial.member? k "validate" = none ∨
      World.initial.member? k "validate" = World.initial.member? (.contract .valueObject) "validate" := by
    intro b
    cases b <;> decide
  have hfree : "validate" ∉ (table p c vs).map (·.1) := by
    obtain ⟨y, hfields, hname, hlayout, -⟩ := ho.supplied_of_value h.clear.own h.carries
    simp only [table, List.map_append, List.mem_append, not_or]
    refine ⟨⟨fun hmem => ?_, ?_⟩, ?_⟩
    · rcases mem_bodyBindings_iff.mp hmem with hn | hn | hn | hn
      · exact absurd (notedNames_subset p hn) (by decide)
      · rw [hlayout, Layout.kind] at hn
        exact absurd hn (by decide)
      · rw [hlayout] at hn
        cases hn
      · exact ho.validate_not_mem h.clear.own h.carries hn
    · rw [hlayout]
      simp only [Layout.places, List.map_cons, List.map_nil, hname]
      decide
    · rw [h.variants_eq_nil h.kind]
      exact List.not_mem_nil
  refine ⟨_, h.embodies.bound?_inherited h.orderly hbase (fun hmem => absurd (unsettledNames_subset p hmem) (by decide)) (by decide)
    hfree rfl fun b hb => hcontracts b (h.clear.base_mem b hb).1, rfl⟩

theorem global_builtin (hn : n ∈ ["str", "type"]) : f.global n w = (.ok (.cls (.builtin n)), w) := by
  have hall : ∀ n ∈ ["str", "type"], n ∈ builtinNames ∧ Builtin.value? n = some (.cls (.builtin n)) := by decide
  obtain ⟨t, hmem⟩ := h.supplies_members
  refine h.loaded.stage.global_builtin h.sound ?_ (hall n hn).1 (hall n hn).2
  simp only [List.mem_cons, List.not_mem_nil, or_false] at hn
  rcases hn with rfl | rfl
  · exact h.mem_references_supplied (hmem (.display "value") (by simp)) (List.mem_singleton_self _)
  · exact h.mem_references_supplied (hmem (.clone d.name "value") (by simp)) List.mem_cons_self

theorem exists_error : ∃ ke, EmbodiesError w (ValueError.ofOwner d.name) ke := by
  obtain ⟨e, roles, fs, ho⟩ := h.clear.outline
  refine h.loaded.errors _ (List.mem_flatMap.mpr ⟨p, h.mem, ?_⟩)
  rw [ho.errors_eq, if_pos h.carries]
  exact List.mem_singleton_self _

theorem global_error {ke : ClassRef} (he : EmbodiesError w (ValueError.ofOwner d.name) ke) :
    f.global (ValueError.ofOwner d.name).name w = (.ok (.cls ke), w) := by
  have hinternal : isInternal (ValueError.ofOwner d.name).name = false := by
    obtain ⟨e, roles, fs, ho⟩ := h.clear.outline
    refine (h.sound.error_spec (List.mem_flatMap.mpr ⟨p, h.mem, ?_⟩)).2.2.2
    rw [ho.errors_eq, if_pos h.carries]
    exact List.mem_singleton_self _
  refine global_of_global? h.loaded.stage.grounds.cutOff ?_
  rw [Function.spell, spell_eq_self hinternal, World.global?, he.global]
  rfl

/-! ## Instances -/

theorem stored_value (hv : w.Valued c k v x) (hf : 1 ≤ fuel) : f.stored (answerWithin fuel) v "value" w = (.ok x, w) :=
  h.hostsKey.stored_key (keyed hv) hf

theorem read_value (hv : w.Valued c k v x) : answerWithin (fuel + 3) (.read v "value") w = (.ok x, w) := by
  obtain ⟨hk, slots, attributes, hcell, hx⟩ := hv
  obtain ⟨y, hy, hname⟩ := h.exists_field
  obtain ⟨g, s, hproperty, hg⟩ := h.toHosts.exists_property h.kind (h.instances hk) hy (.inr (.inr (.inr ⟨h.carries, hname⟩)))
  rw [if_neg fun hc => absurd (hname.symm.trans hc.1) (by decide)] at hg
  have hplace := h.toHosts.instances_place h.kind (h.instances hk) h.not_loses hy
  rw [hname] at hproperty hg hplace
  rw [read_stored h.orderly hcell (by decide) hproperty hg hplace, hx]
  rfl

theorem text_eq (hv : w.Valued c k v x) (hs : w.Says limit x s) : w.Says (limit + 4) v s := by
  intro fuel hf
  obtain ⟨e, rfl⟩ := Nat.exists_eq_add_of_le' hf
  obtain ⟨hk, slots, attributes, hcell, -⟩ := id hv
  obtain ⟨f, hbound, hbody⟩ := h.bound?_display hk.above
  have hgiven : f.arguments? [v] [] = some [v] := by
    rw [Function.arguments?, hbody]
    rfl
  rw [show e + (limit + 4) = e + limit + 1 + 3 by omega]
  refine yields_text hcell hbound hgiven ((hs (e + limit) (by omega)).congr fun w' hg => ?_)
  have h' := h.after hg.toAfter
  simp only [Function.run, hbody]
  rw [Function.applyTo, bind_of_ok (h'.global_builtin (by decide)), bind_of_ok (h'.stored_value (h.valued_grows hv hg) (by omega))]
  exact call_str x

/-! ## Making instances -/

/-- A class asks its rule first. -/
theorem makes_eq (hk : w.Inherits valueNames k c) (fuel : Nat) (x : Value) :
    ∃ (f : Function) (w' : World), w.Grows w' ∧ (∀ index, w.Spares (.made index) w') ∧
      makes (answerWithin (fuel + 2)) k x w = (do
        if ← validates (answerWithin fuel) k x then (answerWithin fuel).call (.cls k) [] [("value", x)]
        else
          let e ← (answerWithin fuel).call (← f.global (ValueError.ofOwner d.name).name) [x]
          if (← world).isInstance e (.builtin "BaseException") then throw (.thrown e) else unsuitable : Run Value) w' := by
  obtain ⟨f, hbound, hbody⟩ := h.bound?_tryFrom hk
  have hgiven : f.arguments? [.cls k, x] [] = some [.cls k, x] := by
    rw [Function.arguments?, hbody]
    rfl
  let w' : World := { w with cells := w.cells ++ [.method (.cls k) (.function f)] }
  have hread : answerWithin (fuel + 2) (.read (.cls k) "try_from") w = (.ok (.cell w.cells.length), w') :=
    Attribute.ofClass_of_bound h.orderly (by decide) (by decide) hbound
  refine ⟨f, w', .append h.orderly h.labelled _, fun index => ?_, ?_⟩
  · exact (World.Spares.refl h.orderly h.labelled).append (World.isSubclass_builtin (n := "method") h.orderly (by decide))
  · rw [makes, Answering.read, bind_of_ok hread, Answering.call, call_method (World.cell?_allocated w _), call_function hgiven]
    simp only [Function.run, hbody]
    rw [Function.tryFrom, validates]
    simp only [bind_assoc]
    rfl

/-- What the rule accepts becomes an instance around it. -/
theorem makes_of_accepted (hk : w.Supplies k c) (hj : w.Judges limit k x true) (hf : limit + 6 ≤ fuel) :
    ∃ v w', makes (answerWithin fuel) k x w = (.ok v, w') ∧ w.After w' ∧ w'.Valued c k v x ∧ w'.Lacks v "clone" := by
  obtain ⟨e, rfl⟩ := Nat.exists_eq_add_of_le' hf
  obtain ⟨f, w₁, hg₁, -, hmakes⟩ := h.makes_eq hk.above (e + limit + 4) x
  obtain ⟨w₂, hjudged, ha₂, -⟩ := hj (e + limit + 4) (by omega) w₁ hg₁
  have ha := hg₁.toAfter.trans ha₂
  have h₂ := h.after ha
  have hk₂ := hk.after h.embodies.there ha
  obtain ⟨y, hy, hname⟩ := h.exists_field
  have hnamed : ([("value", x)].map (·.1)).Perm (d.fields.map (·.name)) := h.names_eq ▸ .refl _
  obtain ⟨w', hcall, hg', hs⟩ := h₂.toHosts.construct_record h₂.kind (h₂.instances hk₂) hnamed h.not_loses
  have hlacks := hs.lacks (n := "clone")
  obtain ⟨slots, hcell, hslots⟩ := hs
  have hslot := hslots y hy
  rw [hname, show given [("value", x)] "value" = x from rfl] at hslot
  refine ⟨_, w', ?_, ha.trans hg'.toAfter, ⟨hk₂.after h₂.embodies.there hg'.toAfter, slots, none, hcell, hslot⟩, hlacks⟩
  rw [show e + (limit + 6) = e + limit + 4 + 2 by omega, hmakes, bind_of_ok hjudged, if_pos rfl]
  exact hcall

theorem validates_of_makes (hk : w.Supplies k c) (hmade : makes (answerWithin (fuel + 2)) k x w = (.ok v, w')) :
    ∃ w₁ w₂, w.Grows w₁ ∧ validates (answerWithin fuel) k x w₁ = (.ok true, w₂) := by
  obtain ⟨f, w₁, hg₁, -, hmakes⟩ := h.makes_eq hk.above fuel x
  rw [hmakes] at hmade
  obtain ⟨b, w₂, hjudged, hmade⟩ := bind_eq_ok hmade
  cases b with
  | true => exact ⟨w₁, w₂, hg₁, hjudged⟩
  | false =>
    -- what comes of the error is never a value
    obtain ⟨r, w₃, -, hmade⟩ := bind_eq_ok hmade
    obtain ⟨e, w₄, -, hmade⟩ := bind_eq_ok hmade
    rw [world_bind] at hmade
    split at hmade <;> cases hmade

/-- For what the rule does not accept, the error of the value object is raised, and no instance is made. -/
theorem makes_of_rejected (hk : w.Supplies k c) (hj : w.Judges limit k x false) (hf : limit + 6 ≤ fuel) :
    ∃ e ke w', makes (answerWithin fuel) k x w = (.error (.thrown e), w') ∧ w.After w' ∧
      w'.globals.lookup (ValueError.ofOwner d.name).name = some (.cls ke) ∧ IsError w' ke ∧ w'.Bears ke e x ∧
        ((∀ fuel ≥ limit, w.Abstains c (validates (answerWithin fuel) k x) ∧ w.Abstains c (answerWithin fuel (.repr x))) →
          w.Spares c w') := by
  obtain ⟨e, rfl⟩ := Nat.exists_eq_add_of_le' hf
  obtain ⟨f, w₁, hg₁, hs₁, hmakes⟩ := h.makes_eq hk.above (e + limit + 4) x
  obtain ⟨w₂, hjudged, ha₂, hx⟩ := hj (e + limit + 4) (by omega) w₁ hg₁
  obtain ⟨s, hx⟩ := hx rfl
  have ha := hg₁.toAfter.trans ha₂
  have h₂ := h.after ha
  obtain ⟨ke, he⟩ := h₂.exists_error
  obtain ⟨r, w', hcall, hg', hbears, hspares⟩ := he.isError.construct_spec h₂.orderly h₂.labelled hx
    (show limit ≤ e + limit + 1 by omega)
  have he' : IsError w' ke := he.isError.grows hg'
  have hroot : w'.isInstance r (.builtin "BaseException") = true := by
    obtain ⟨slots, a, hcell, -⟩ := hbears
    rw [World.isInstance_of_cell? hcell]
    exact he'.isSubclass_contract (by decide)
  refine ⟨r, ke, w', ?_, ha.trans hg'.toAfter, ?_, he', hbears, fun habstains => ?_⟩
  · rw [show e + (limit + 6) = e + limit + 4 + 2 by omega, hmakes, bind_of_ok hjudged, if_neg Bool.false_ne_true,
      bind_of_ok (h₂.global_error he), Answering.call, bind_of_ok hcall, world_bind, hroot]
    rfl
  · rw [hg'.globals]
    exact he.global
  · obtain ⟨index, rfl⟩ := h.embodies.made
    have hs₂ := (habstains (e + limit + 4) (by omega)).1 w₁ hg₁.toAfter
    rw [hjudged] at hs₂
    refine ((hs₁ index).trans hs₂).trans (hspares index (he.isError.not_mem_linearize h₂.embodies) ?_)
    exact (habstains (e + limit + 1) (by omega)).2.after ha

theorem makes_of_owner (x : Value) (hf : 5 ≤ fuel) : ∃ e w', makes (answerWithin fuel) c x w = (.error (.thrown e), w') ∧
    w.Grows w' ∧ w'.classOf e = .builtin "NotImplementedError" := by
  obtain ⟨e, rfl⟩ := Nat.exists_eq_add_of_le' hf
  obtain ⟨f, w₁, hg₁, -, hmakes⟩ := h.makes_eq h.inherits_self (e + 3) x
  obtain ⟨g, hbound, hbody⟩ := (h.after hg₁.toAfter).bound?_validate
  have hgiven : g.arguments? [.cls c, x] [] = some [.cls c, x] := by
    rw [Function.arguments?, hbody]
    rfl
  let w₂ : World := { w₁ with cells := w₁.cells ++ [.method (.cls c) (.function g)] }
  have hg₂ : w₁.Grows w₂ := .append hg₁.orderly hg₁.labelled _
  have hread : answerWithin (e + 3) (.read (.cls c) "validate") w₁ = (.ok (.cell w₁.cells.length), w₂) :=
    Attribute.ofClass_of_bound hg₁.orderly (by decide) (by decide) hbound
  obtain ⟨r, w', hraise, hg', hclass⟩ := raise_spec (α := Value) e hg₂.orderly hg₂.labelled (n := "NotImplementedError") (by decide)
    noRuleText
  have hcall : answerWithin (e + 3) (.call (.cell w₁.cells.length) [x] []) w₂ = (.error (.thrown r), w') := by
    rw [call_method (World.cell?_allocated w₁ _), call_function hgiven]
    simp only [Function.run, hbody]
    exact hraise
  have hvalidates : validates (answerWithin (e + 3)) c x w₁ = (.error (.thrown r), w') := by
    rw [validates, Answering.read, bind_of_ok hread, Answering.call, bind_of_error hcall]
  exact ⟨r, w', by rw [hmakes, bind_of_error hvalidates], hg₁.trans (hg₂.trans hg'), hclass⟩

end

end World.HostsValue

end Live

end DomainModel
