import DomainModel.Proofs.Live.Keyed
import DomainModel.Proofs.Live.Sums

/-!
# Identity

Which instances of entities and of sums are equal, and by what they are hashed: entities by their identifiers, and variants of
sums by their payloads.
-/

namespace DomainModel

theorem Outline.id_mem_fields {d : Declaration} {c : Descriptor} {roles : List Applied} {fs : List Fragment} {p : ClassPlan}
    (h : Outline d c roles fs p) (hown : d.HoldsOwnParts) (hn : (d.fields.map (·.name)).Nodup) (hr : d.Carries .entity) :
    "id" ∈ d.fields.map (·.name) := by
  obtain ⟨g, hg, a, hs, ha, hac⟩ := h.stem_of_carries hr
  have hfields : a.descriptor.fields = d.fields := hac ▸ (h.layout_eq hown).2.2.2
  have hgives := hs.gives
  rw [Applied.fragment, ha] at hgives
  simp only [Fragment.ofEntity, bind_eq_ok_iff] at hgives
  obtain ⟨id, hid, -⟩ := hgives
  obtain ⟨hmem, hname, -⟩ := mem_of_lookUp hn hfields hid
  exact List.mem_map.mpr ⟨id, hmem, hname⟩

namespace Live

open Run Loading Request

/-! ## Entities -/

theorem World.Hosts.hostsIdentity {w : World} {m : Module} {d : Declaration} {p : ClassPlan} {c : ClassRef}
    {vs : List (Variant × ClassRef)} (h : w.Hosts m d p c vs) (hr : d.Carries .entity) : w.HostsKey m d p c vs "id" := by
  obtain ⟨e, roles, fs, ho⟩ := h.clear.outline
  have hnodup := h.clear.named.distinct_fields
  have hspecial : ∀ f ∈ d.fields, f.name ∉ ["__eq__", "__hash__"] := fun f hf =>
    not_mem_of_eq_false (h.clear.internal _ (Declaration.mem_declared_of_field (List.mem_map_of_mem hf))) (by decide)
  obtain ⟨-, hequality, hhash⟩ := ho.supplied_of_entity h.clear.own hnodup hspecial hr
  exact ⟨h, (ho.kind_of_carries h.clear.own hr).1 (.inl rfl), ho.id_mem_fields h.clear.own hnodup hr, by decide, hequality, hhash⟩

/-- A value is an instance of an entity with an identifier. -/
def World.Identified (w : World) (ds : List Declaration) (d : Declaration) (x i : Value) : Prop :=
  d ∈ ds ∧ d.Carries .entity ∧ ∃ c, w.globals.lookup d.name = some (.cls c) ∧ w.Keyed c "id" x i

/-! ## Sums -/

/-- A value is an instance of a variant of a sum, around a payload. -/
def World.Wrapped (w : World) (ds : List Declaration) (d : Declaration) (v : Variant) (y x : Value) : Prop :=
  d ∈ ds ∧ d.kind = .sum ∧ v ∈ d.variants ∧ ∃ c cv slots attributes, w.globals.lookup d.name = some (.cls c) ∧
    w.bound? c v.name = some (.cls cv) ∧ w.cell? y = some (.object cv slots attributes) ∧ slots.lookup (c, "_payload") = some x

namespace World.HostsSum

variable {w w' : World} {m : Module} {d : Declaration} {p : ClassPlan} {c cv : ClassRef} {vs : List (Variant × ClassRef)}
  {payload : Option Contract} {v : Variant} {x x' y y' u : Value} {f : Function} {fuel limit : Nat} {b : Bool} {key : HashKey}
  {slots slots' : List ((ClassRef × String) × Value)} {attributes attributes' : Option Nat}

theorem bound?_equality (h : w.HostsSum m d p c vs payload) :
    ∃ f, w.bound? c "__eq__" = some (.function f) ∧ f.body = .payloadEquality := by
  refine ⟨function p.name "__eq__" .payloadEquality [("other", "object")] "bool", h.bound?_own ?_ (by decide), rfl⟩
  simp [layoutBindings]

theorem bound?_hash (h : w.HostsSum m d p c vs payload) :
    ∃ f, w.bound? c "__hash__" = some (.function f) ∧ f.body = .payloadHash := by
  refine ⟨function p.name "__hash__" .payloadHash [] "int", h.bound?_own ?_ (by decide), rfl⟩
  simp [layoutBindings]

theorem stored_payload (h : w.HostsSum m d p c vs payload) (hv : (v, cv) ∈ vs)
    (hy : w.cell? y = some (.object cv slots attributes)) (hx : slots.lookup (c, "_payload") = some x) (hf : 1 ≤ fuel) :
    f.stored (answerWithin fuel) y "payload" w = (.ok x, w) := by
  obtain ⟨e, rfl⟩ := Nat.exists_eq_add_of_le' hf
  have hname : slot "payload" = "_payload" := by decide
  have hplace : w.bound? cv (slot "payload") = some (.slot c (slot "payload")) := by
    rw [hname, h.bound?_variantClass hv (by decide)]
    exact h.bound?_payload
  rw [Function.stored_spec h.orderly hy (by decide) hplace, hname, hx]
  rfl

theorem comparePayload_eq (h : w.HostsSum m d p c vs payload) (hf : 1 ≤ fuel) :
    f.comparePayload (answerWithin fuel) y u w = (if w.classOf u = w.classOf y then (do
      let x ← f.stored (answerWithin fuel) y "payload"
      answerWithin fuel (.equal x (← f.stored (answerWithin fuel) u "payload")) : Run Value)
        else f.global "NotImplemented") w := by
  obtain ⟨e, rfl⟩ := Nat.exists_eq_add_of_le' hf
  rw [Function.comparePayload, bind_of_ok (h.typeOf_spec u), bind_of_ok (h.typeOf_spec y)]
  simp only [Value.cls.injEq]

theorem half_of_same (h : w.HostsSum m d p c vs payload) (hv : (v, cv) ∈ vs)
    (hy : w.cell? y = some (.object cv slots attributes)) (hx : slots.lookup (c, "_payload") = some x)
    (hy' : w.cell? y' = some (.object cv slots' attributes')) (hx' : slots'.lookup (c, "_payload") = some x')
    (he : w.Equates limit x x' b) (hl : limit ≤ fuel) (hf : 1 ≤ fuel) :
    w.Yields (Comparison.half (answerWithin (fuel + 2)) y y') fun t _ => t = .truth b := by
  obtain ⟨f, hbound, hbody⟩ := h.bound?_equality
  have hgiven : f.arguments? [y, y'] [] = some [y, y'] := by
    rw [Function.arguments?, hbody]
    rfl
  refine yields_half hy ((h.bound?_variantClass hv (by decide)).trans hbound) hgiven ?_
  refine (he fuel hl).congr fun w' hg => ?_
  have h' := h.after hg.toAfter
  have hclass : w'.classOf y' = w'.classOf y :=
    (World.classOf_of_cell? (hg.cell? hy')).trans (World.classOf_of_cell? (hg.cell? hy)).symm
  simp only [Function.run, hbody]
  rw [h'.comparePayload_eq hf, if_pos hclass, bind_of_ok (h'.stored_payload hv (hg.cell? hy) hx hf),
    bind_of_ok (h'.stored_payload hv (hg.cell? hy') hx' hf)]

theorem half_of_not (h : w.HostsSum m d p c vs payload) (hv : (v, cv) ∈ vs)
    (hy : w.cell? y = some (.object cv slots attributes)) (hu : w.Holds u) (hnot : w.classOf u ≠ cv) (hf : 1 ≤ fuel) :
    w.Yields (Comparison.half (answerWithin (fuel + 2)) y u) fun t _ => t = .undecided := by
  obtain ⟨f, hbound, hbody⟩ := h.bound?_equality
  have hgiven : f.arguments? [y, u] [] = some [y, u] := by
    rw [Function.arguments?, hbody]
    rfl
  refine yields_half hy ((h.bound?_variantClass hv (by decide)).trans hbound) hgiven (.of_eq fun w' hg => ?_)
  have h' := h.after hg.toAfter
  have hclass : w'.classOf u ≠ w'.classOf y := by
    rw [World.classOf_of_cell? (hg.cell? hy), hg.classOf hu]
    exact hnot
  simp only [Function.run, hbody]
  rw [h'.comparePayload_eq hf, if_neg hclass]
  exact h'.global_builtin (by decide) (by decide)

/-- Two instances of a variant are equal if their payloads are. -/
theorem equates (h : w.HostsSum m d p c vs payload) (hv : (v, cv) ∈ vs)
    (hy : w.cell? y = some (.object cv slots attributes)) (hx : slots.lookup (c, "_payload") = some x)
    (hy' : w.cell? y' = some (.object cv slots' attributes')) (hx' : slots'.lookup (c, "_payload") = some x')
    (he : w.Equates limit x x' b) : w.Equates (limit + 4) y y' b := by
  intro fuel hf
  obtain ⟨e, rfl⟩ := Nat.exists_eq_add_of_le' hf
  rw [show e + (limit + 4) = e + limit + 1 + 2 + 1 by omega]
  have hsame : ¬w.Backward y y' := fun hb => hb.1 ((World.classOf_of_cell? hy).trans (World.classOf_of_cell? hy').symm)
  have hequal : w.Yields (Comparison.equal (answerWithin (e + limit + 1 + 2)) y y') fun t _ => t = .truth b :=
    yields_equal_of_first (holds_of_cell? hy) (holds_of_cell? hy')
      (fun _ => h.half_of_same hv hy hx hy' hx' he (by omega) (by omega)) fun hb => absurd hb hsame
  exact hequal.congr fun _ _ => rfl

/-- An instance of a variant is hashed by the name of the variant and by its payload. -/
theorem hashes (h : w.HostsSum m d p c vs payload) (hv : (v, cv) ∈ vs)
    (hy : w.cell? y = some (.object cv slots attributes)) (hx : slots.lookup (c, "_payload") = some x)
    (hkey : w.Hashes limit x key) :
    w.Hashes (limit + 7) y (.pair (Comparison.textKey (d.name ++ "." ++ v.name)).settled (.pair key .empty)) := by
  intro fuel hf
  obtain ⟨e, rfl⟩ := Nat.exists_eq_add_of_le' hf
  rw [show e + (limit + 7) = e + limit + 4 + 3 by omega]
  obtain ⟨f, hbound, hbody⟩ := h.bound?_hash
  have hgiven : f.arguments? [y] [] = some [y] := by
    rw [Function.arguments?, hbody]
    rfl
  have hsettled : ∀ k k' : HashKey, (HashKey.pair k k').settled = .pair k k' := fun _ _ => rfl
  rw [← hsettled]
  refine yields_hash hy ((h.bound?_variantClass hv (by decide)).trans hbound) hgiven fun w₁ hg => ?_
  have h₁ := h.after hg.toAfter
  have hclass : w₁.classOf y = cv := World.classOf_of_cell? (hg.cell? hy)
  obtain ⟨q, hq, hqtext⟩ := h₁.typeQualname_spec (f := f) (e + limit + 3) (x := y) (by
    rw [hclass]
    exact (h₁.embodiesVariant hv).there)
  rw [hclass, (h₁.embodiesVariant hv).qualname, h₁.clear.name_eq] at hqtext
  -- the name and the payload are put into a tuple
  let w₂ : World := { w₁ with cells := w₁.cells ++ [.tuple [q, x]] }
  have hg₂ : w₁.Grows w₂ := .append hg.orderly hg.labelled _
  have htuple : w₂.Hashes (limit + 2) (.cell w₁.cells.length) (.pair (Comparison.textKey (d.name ++ "." ++ v.name)).settled
      (.pair key .empty)) :=
    hashes_tuple (World.cell?_allocated w₁ _) (.cons ((hashes_text w₂ hqtext).mono (by omega))
      (.cons ((hkey.grows (hg.trans hg₂)).mono (Nat.le_succ _)) .nil))
  obtain ⟨t, w₃, ht, hg₃, hk⟩ := (htuple (e + limit + 3) (by omega)).run hg₂.orderly hg₂.labelled
  refine ⟨t, w₃, ?_, hg₂.trans hg₃, hk⟩
  have hhash : f.global "hash" w₁ = (.ok (.native "" "hash"), w₁) := h₁.global_builtin (by decide) (by decide)
  have hstored : f.stored (answerWithin (e + limit + 4)) y "payload" w₁ = (.ok x, w₁) :=
    h₁.stored_payload hv (hg.cell? hy) hx (by omega)
  simp only [Function.run, hbody]
  rw [Function.hashPayload, bind_of_ok hhash, bind_of_ok hq, bind_of_ok hstored]
  exact ht

end World.HostsSum

/-! ## Pairs of instances -/

section
variable {ds : List Declaration} {m : Module} {w w' : World} {d d' : Declaration} {p p' : ClassPlan} {c c' cv cv' : ClassRef}
  {vs vs' : List (Variant × ClassRef)} {payload payload' : Option Contract} {v v' : Variant} {n : String}
  {x y i j q r : Value} {limit : Nat} {b : Bool}

/-- If neither value decides, they are equal only if they are one. -/
theorem equates_of_undecided (h : ∀ fuel ≥ limit, w.Yields (Comparison.half (answerWithin fuel) x y) fun t _ => t = .undecided)
    (h' : ∀ fuel ≥ limit, w.Yields (Comparison.half (answerWithin fuel) y x) fun t _ => t = .undecided) (hne : x ≠ y) :
    w.Equates (limit + 1) x y false := by
  intro fuel hf
  obtain ⟨e, rfl⟩ := Nat.exists_eq_add_of_le' hf
  have hidentical : Value.identical x y = false := decide_eq_false hne
  have hequal := yields_equal_of_undecided (h (e + limit) (Nat.le_add_left _ _)) (h' (e + limit) (Nat.le_add_left _ _))
  rw [hidentical] at hequal
  exact hequal.congr fun _ _ => rfl

theorem World.Serves.eq_of_class (hs : w.Serves ds m) (hd : d ∈ ds) (hd' : d' ∈ ds) (h : w.Hosts m d p c vs)
    (h' : w.Hosts m d' p' c vs') : d = d' := by
  obtain ⟨text, file, hparse⟩ := hs.parses
  exact List.inj_on_of_nodup_map (nodup_of_parse hparse) hd hd' (h.name_eq.1.symm.trans h'.name_eq.1)

theorem World.Identified.exists_hosts (hs : w.Serves ds m) (hx : w.Identified ds d x i) : ∃ p c vs,
    w.HostsKey m d p c vs "id" ∧ w.globals.lookup d.name = some (.cls c) ∧ w.Keyed c "id" x i := by
  obtain ⟨hd, hr, c, hc, hkeyed⟩ := hx
  obtain ⟨p, vs, hh⟩ := hs.hosts hd (hs.kind_ne_synonym hd hr) hc
  exact ⟨p, c, vs, hh.hostsIdentity hr, hc, hkeyed⟩

theorem World.Wrapped.exists_hosts (hs : w.Serves ds m) (hy : w.Wrapped ds d v y x) : ∃ p c cv vs payload slots attributes,
    w.HostsSum m d p c vs payload ∧ w.globals.lookup d.name = some (.cls c) ∧ (v, cv) ∈ vs ∧
      w.cell? y = some (.object cv slots attributes) ∧ slots.lookup (c, "_payload") = some x := by
  obtain ⟨hd, hk, hv, c, cv, slots, attributes, hc, hcv, hcell, hslot⟩ := hy
  obtain ⟨p, vs, hh⟩ := hs.hosts hd (by rw [hk]; decide) hc
  obtain ⟨payload, hsum⟩ := hh.hostsSum hk
  exact ⟨p, c, cv, vs, payload, slots, attributes, hsum, hc, hh.mem_of_bound? hv hcv, hcell, hslot⟩

theorem World.Serves.equates_identified (hs : w.Serves ds m) (hx : w.Identified ds d x i) (hy : w.Identified ds d y j)
    (he : ¬w.Backward x y → w.Equates limit i j b) (hback : w.Backward x y → w.Equates limit j i b) :
    w.Equates (limit + w.depth + 7) x y b := by
  obtain ⟨p, c, vs, hh, hc, hkeyed⟩ := hx.exists_hosts hs
  obtain ⟨-, -, c', hc', hkeyed'⟩ := hy
  obtain rfl : c = c' := by simpa using hc.symm.trans hc'
  exact hh.equates hkeyed hkeyed' he hback

theorem World.Serves.equates_identified_of_ne (hs : w.Serves ds m) (hx : w.Identified ds d x i) (hy : w.Identified ds d' y j)
    (hne : d ≠ d') : w.Equates (w.depth + 7) x y false := by
  obtain ⟨p, c, vs, hh, -, hkeyed⟩ := hx.exists_hosts hs
  obtain ⟨p', c', vs', hh', -, hkeyed'⟩ := hy.exists_hosts hs
  have hclass : c ≠ c' := by
    rintro rfl
    exact hne (hs.eq_of_class hx.1 hy.1 hh.toHosts hh'.toHosts)
  have hnot := hh.isInstance_of_ne hh' hclass hkeyed'
  have hnot' := hh'.isInstance_of_ne hh (Ne.symm hclass) hkeyed
  refine equates_of_undecided (fun fuel hf => ?_) (fun fuel hf => ?_) ?_
  · obtain ⟨e, rfl⟩ := Nat.exists_eq_add_of_le' hf
    rw [show e + (w.depth + 6) = e + w.depth + 4 + 2 by omega]
    exact hh.half_of_not hkeyed (HostsKey.holds_keyed hkeyed') hnot (by omega)
  · obtain ⟨e, rfl⟩ := Nat.exists_eq_add_of_le' hf
    rw [show e + (w.depth + 6) = e + w.depth + 4 + 2 by omega]
    exact hh'.half_of_not hkeyed' (HostsKey.holds_keyed hkeyed) hnot' (by omega)
  · rintro rfl
    rw [hh.isInstance_keyed hkeyed] at hnot
    cases hnot

theorem World.Serves.equates_wrapped (hs : w.Serves ds m) (hx : w.Wrapped ds d v x q) (hy : w.Wrapped ds d v y r)
    (he : w.Equates limit q r b) : w.Equates (limit + 4) x y b := by
  obtain ⟨p, c, cv, vs, payload, slots, attributes, hh, hc, hv, hcell, hslot⟩ := hx.exists_hosts hs
  obtain ⟨-, -, -, c', cv', slots', attributes', hc', hcv', hcell', hslot'⟩ := hy
  obtain rfl : c = c' := by simpa using hc.symm.trans hc'
  obtain rfl : cv = cv' := by simpa using (hh.bound?_variant hv).symm.trans hcv'
  exact hh.equates hv hcell hslot hcell' hslot' he

theorem World.Serves.eq_of_variantClass (hs : w.Serves ds m) (hd : d ∈ ds) (hd' : d' ∈ ds) (h : w.HostsSum m d p c vs payload)
    (h' : w.HostsSum m d' p' c' vs' payload') (hv : (v, cv) ∈ vs) (hv' : (v', cv) ∈ vs') : d = d' ∧ v = v' := by
  have hline : w.linearize c = w.linearize c' := by
    have hboth := (h.embodiesVariant hv).behind.symm.trans (h'.embodiesVariant hv').behind
    exact (List.cons.inj hboth).2
  obtain ⟨line, hc, -⟩ := h.embodies.behind
  obtain ⟨line', hc', -⟩ := h'.embodies.behind
  rw [hc, hc'] at hline
  obtain rfl : c = c' := (List.cons.inj hline).1
  obtain rfl := hs.eq_of_class hd hd' h.toHosts h'.toHosts
  refine ⟨rfl, ?_⟩
  have hname := (h.embodiesVariant hv).qualname.symm.trans (h'.embodiesVariant hv').qualname
  rw [h.clear.name_eq, h'.clear.name_eq] at hname
  have hmem : ∀ {p vs payload v}, w.HostsSum m d p c vs payload → (v, cv) ∈ vs → v ∈ d.variants := by
    intro p vs payload v h hv
    rw [← h.clear.variants_eq, ← h.variants]
    exact List.mem_map_of_mem hv
  refine List.inj_on_of_nodup_map h.clear.named.distinct_variants (hmem h hv) (hmem h' hv') ?_
  exact String.append_right_inj _ |>.mp hname

theorem World.Serves.equates_wrapped_of_ne (hs : w.Serves ds m) (hx : w.Wrapped ds d v x q) (hy : w.Wrapped ds d' v' y r)
    (hne : ¬(d = d' ∧ v = v')) : w.Equates 4 x y false := by
  obtain ⟨p, c, cv, vs, payload, slots, attributes, hh, -, hv, hcell, -⟩ := hx.exists_hosts hs
  obtain ⟨p', c', cv', vs', payload', slots', attributes', hh', -, hv', hcell', -⟩ := hy.exists_hosts hs
  have hclass : cv ≠ cv' := by
    rintro rfl
    exact hne (hs.eq_of_variantClass hx.1 hy.1 hh hh' hv hv')
  have hx' : w.classOf x = cv := World.classOf_of_cell? hcell
  have hy' : w.classOf y = cv' := World.classOf_of_cell? hcell'
  refine equates_of_undecided (fun fuel hf => ?_) (fun fuel hf => ?_) ?_
  · obtain ⟨e, rfl⟩ := Nat.exists_eq_add_of_le' hf
    exact hh.half_of_not hv hcell (holds_of_cell? hcell') (hy' ▸ Ne.symm hclass) (by omega)
  · obtain ⟨e, rfl⟩ := Nat.exists_eq_add_of_le' hf
    exact hh'.half_of_not hv' hcell' (holds_of_cell? hcell) (hx' ▸ hclass) (by omega)
  · rintro rfl
    exact hclass (hx'.symm.trans hy')

theorem World.Serves.hashes_identified (hs : w.Serves ds m) (hx : w.Identified ds d x i) {key : HashKey} (hk : w.Hashes limit i key) :
    w.Hashes (limit + 5) x key.settled := by
  obtain ⟨p, c, vs, hh, -, hkeyed⟩ := hx.exists_hosts hs
  exact hh.hashes hkeyed hk

theorem World.Serves.hashes_wrapped (hs : w.Serves ds m) (hy : w.Wrapped ds d v y q) {key : HashKey} (hk : w.Hashes limit q key) :
    w.Hashes (limit + 7) y (.pair (Comparison.textKey (d.name ++ "." ++ v.name)).settled (.pair key .empty)) := by
  obtain ⟨p, c, cv, vs, payload, slots, attributes, hh, -, hv, hcell, hslot⟩ := hy.exists_hosts hs
  exact hh.hashes hv hcell hslot hk

theorem World.Serves.equates_apart (hs : w.Serves ds m) (hx : w.Identified ds d x i) (hy : w.Wrapped ds d' v y q) :
    w.Equates (w.depth + 7) x y false ∧ w.Equates (w.depth + 7) y x false := by
  obtain ⟨p, c, vs, hh, -, hkeyed⟩ := hx.exists_hosts hs
  obtain ⟨p', c', cv, vs', payload, slots, attributes, hh', -, hv, hcell, -⟩ := hy.exists_hosts hs
  have hy' : w.classOf y = cv := World.classOf_of_cell? hcell
  have hnot : w.isInstance y c = false := by
    rw [World.isInstance, hy', World.isSubclass, (hh'.embodiesVariant hv).behind]
    refine decide_eq_false fun hmem => ?_
    rcases List.mem_cons.mp hmem with rfl | hmem
    · exact (hh'.embodiesVariant hv).ne_class hh'.embodies hh.embodies rfl
    · obtain rfl := hh'.embodies.eq_of_mem_linearize hh.embodies.made hmem
      obtain rfl := hs.eq_of_class hx.1 hy.1 hh.toHosts hh'.toHosts
      have hkind := hh.kind
      rw [hy.2.1] at hkind
      cases hkind
  have hclass : w.classOf x ≠ cv := by
    intro he
    have hinstance := hh.isInstance_keyed hkeyed
    rw [World.isInstance, he, ← hy', ← World.isInstance, hnot] at hinstance
    cases hinstance
  have hhalf : ∀ fuel ≥ w.depth + 6, w.Yields (Comparison.half (answerWithin fuel) x y) fun t _ => t = .undecided := by
    intro fuel hf
    obtain ⟨e, rfl⟩ := Nat.exists_eq_add_of_le' hf
    rw [show e + (w.depth + 6) = e + w.depth + 4 + 2 by omega]
    exact hh.half_of_not hkeyed (holds_of_cell? hcell) hnot (by omega)
  have hhalf' : ∀ fuel ≥ w.depth + 6, w.Yields (Comparison.half (answerWithin fuel) y x) fun t _ => t = .undecided := by
    intro fuel hf
    obtain ⟨e, rfl⟩ := Nat.exists_eq_add_of_le' hf
    rw [show e + (w.depth + 6) = e + w.depth + 4 + 2 by omega]
    exact hh'.half_of_not hv hcell (HostsKey.holds_keyed hkeyed) hclass (by omega)
  have hne : x ≠ y := by
    rintro rfl
    exact hclass hy'
  exact ⟨equates_of_undecided hhalf hhalf' hne, equates_of_undecided hhalf' hhalf (Ne.symm hne)⟩

end

end Live

end DomainModel
