import DomainModel.Proofs.Live.Yielding

/-!
# Records with a key

The instances of a record may be compared and hashed by one of its fields. They are equal to instances of the same record only,
and if these store something equal in the field.
-/

namespace DomainModel.Live

open Run Loading Request

/-! ## Classes that keep what they inherit -/

/-- A class is another one or builds on it, and leaves some names to it. -/
def World.Inherits (w : World) (kept : List String) (k c : ClassRef) : Prop :=
  ∃ names, noteNames ⊆ names ∧ (∀ n ∈ kept, n ∉ names) ∧ w.Above names k c

namespace World.Inherits

variable {w w' : World} {kept kept' : List String} {k c : ClassRef} {n : String}

theorem after (h : w.Inherits kept k c) (hc : w.isFixed c = false) (ha : w.After w') : w'.Inherits kept k c := by
  obtain ⟨names, hnotes, hkept, habove⟩ := h
  exact ⟨names, hnotes, hkept, habove.after hc ha hnotes⟩

theorem mono (h : w.Inherits kept k c) (hsubset : kept' ⊆ kept) : w.Inherits kept' k c := by
  obtain ⟨names, hnotes, hkept, habove⟩ := h
  exact ⟨names, hnotes, fun n hn => hkept n (hsubset hn), habove⟩

theorem bound? (h : w.Inherits kept k c) (hn : n ∈ kept) : w.bound? k n = w.bound? c n := by
  obtain ⟨names, -, hkept, habove⟩ := h
  exact habove.bound? (hkept n hn)

theorem behind_subset (h : w.Inherits kept k c) : w.linearize c ⊆ w.linearize k := by
  obtain ⟨names, -, -, habove⟩ := h
  exact habove.behind_subset

end World.Inherits

/-- The names that an instance is compared and hashed by, if it has a key. -/
def keyNames (n : String) : List String := ["__eq__", "__hash__", slot n]

/-- An instance of a record, and what it stores as its key. -/
def World.Keyed (w : World) (c : ClassRef) (n : String) (v x : Value) : Prop :=
  ∃ k slots attributes, w.cell? v = some (.object k slots attributes) ∧ w.Inherits (keyNames n) k c ∧
    slots.lookup (c, slot n) = some x

structure World.HostsKey (w : World) (m : Module) (d : Declaration) (p : ClassPlan) (c : ClassRef)
    (vs : List (Variant × ClassRef)) (n : String) : Prop extends w.Hosts m d p c vs where
  kind : d.kind = .record
  field : n ∈ d.fields.map (·.name)
  notRegistry : n ≠ "abc_impl"
  equality : .equality d.name n ∈ p.supplied
  hash : .hash n ∈ p.supplied

namespace World.HostsKey

variable {w w' : World} {m : Module} {d : Declaration} {p : ClassPlan} {c k : ClassRef} {vs : List (Variant × ClassRef)}
  {n : String} {v u x y : Value} {b : Bool} {f : Function} {fuel limit : Nat} {key : HashKey}

theorem after (h : w.HostsKey m d p c vs n) (ha : w.After w') : w'.HostsKey m d p c vs n :=
  ⟨h.toHosts.after ha, h.kind, h.field, h.notRegistry, h.equality, h.hash⟩

theorem keyed_after (h : w.HostsKey m d p c vs n) (hv : w.Keyed c n v x) (hg : w.Grows w') : w'.Keyed c n v x := by
  obtain ⟨k, slots, attributes, hcell, hk, hx⟩ := hv
  exact ⟨k, slots, attributes, hg.cell? hcell, hk.after h.embodies.there hg.toAfter, hx⟩

/-! ## What the class binds -/

theorem isInternal_key (h : w.HostsKey m d p c vs n) : isInternal n = false :=
  h.clear.internal _ (Declaration.mem_declared_of_field h.field)

theorem bound?_place (h : w.HostsKey m d p c vs n) : w.bound? c (slot n) = some (.slot c (slot n)) := by
  obtain ⟨y, hy, hn⟩ := List.mem_map.mp h.field
  have hplace := h.bound?_field h.kind hy fun _ he => h.notRegistry (hn ▸ slot_injective (he.trans (by decide)))
  rwa [hn] at hplace

theorem bound?_equality (h : w.HostsKey m d p c vs n) :
    ∃ f, w.bound? c "__eq__" = some (.function f) ∧ f.body = .fieldEquality d.name n :=
  ⟨_, h.bound?_supplied h.equality (List.mem_singleton_self _) (by decide), rfl⟩

theorem bound?_hash (h : w.HostsKey m d p c vs n) :
    ∃ f, w.bound? c "__hash__" = some (.function f) ∧ f.body = .fieldHash n :=
  ⟨_, h.bound?_supplied h.hash (List.mem_singleton_self _) (by decide), rfl⟩

theorem global_isinstance (h : w.HostsKey m d p c vs n) : f.global "isinstance" w = (.ok (.native "" "isinstance"), w) :=
  h.loaded.stage.global_builtin h.sound (h.mem_references_supplied h.equality (by simp [Member.references])) (by decide) (by decide)

theorem global_undecided (h : w.HostsKey m d p c vs n) : f.global "NotImplemented" w = (.ok .undecided, w) :=
  h.loaded.stage.global_builtin h.sound (h.mem_references_supplied h.equality (by simp [Member.references])) (by decide) (by decide)

theorem global_hash (h : w.HostsKey m d p c vs n) : f.global "hash" w = (.ok (.native "" "hash"), w) :=
  h.loaded.stage.global_builtin h.sound (h.mem_references_supplied h.hash (by simp [Member.references])) (by decide) (by decide)

theorem global_record (h : w.HostsKey m d p c vs n) : f.global d.name w = (.ok (.cls c), w) := by
  rw [← h.clear.name_eq]
  exact h.global_owner

/-! ## Instances -/

theorem stored_key (h : w.HostsKey m d p c vs n) (hv : w.Keyed c n v x) (hf : 1 ≤ fuel) :
    f.stored (answerWithin fuel) v n w = (.ok x, w) := by
  obtain ⟨e, rfl⟩ := Nat.exists_eq_add_of_le' hf
  obtain ⟨k, slots, attributes, hcell, hk, hx⟩ := hv
  have hplace : w.bound? k (slot n) = some (.slot c (slot n)) := (hk.bound? (by simp [keyNames])).trans h.bound?_place
  rw [Function.stored_spec h.orderly hcell h.isInternal_key hplace, hx]
  rfl

theorem isInstance_keyed (h : w.HostsKey m d p c vs n) (hv : w.Keyed c n v x) : w.isInstance v c = true := by
  obtain ⟨k, slots, attributes, hcell, hk, -⟩ := hv
  rw [World.isInstance, World.classOf_of_cell? hcell]
  exact decide_eq_true (hk.behind_subset (h.above.mem_linearize h.orderly))

theorem isInstance_of_ne {d' : Declaration} {p' : ClassPlan} {c' : ClassRef} {vs' : List (Variant × ClassRef)} {n' : String}
    (h : w.HostsKey m d p c vs n) (h' : w.HostsKey m d' p' c' vs' n') (hne : c ≠ c') (hu : w.Keyed c' n' u y) :
    w.isInstance u c = false := by
  obtain ⟨k, slots, attributes, hcell, ⟨names, -, hkept, habove⟩, -⟩ := hu
  rw [World.isInstance, World.classOf_of_cell? hcell]
  refine decide_eq_false fun hmem => ?_
  obtain ⟨before, hline, hbefore⟩ := habove.behind
  have hmem : c ∈ before ++ w.linearize c' := hline ▸ hmem
  rcases List.mem_append.mp hmem with hmem | hmem
  · have hnone := (hbefore c hmem).2 "__eq__" (hkept _ (by simp [keyNames]))
    have hown : ("__eq__", .function (function p.name "__eq__" (.fieldEquality d.name n) [("other", "object")] "bool"))
        ∈ table p c vs := by
      simp only [table, bodyBindings, List.mem_append]
      exact .inl (.inl (.inr (List.mem_flatMap.mpr ⟨_, h.equality, List.mem_singleton_self _⟩)))
    rw [h.embodies.bound _ _ (fun hmem => absurd (unsettledNames_subset p hmem) (by decide)) hown] at hnone
    cases hnone
  · exact hne (h'.embodies.eq_of_mem_linearize h.embodies.made hmem)

/-! ## Equality -/

theorem compareField_eq (h : w.HostsKey m d p c vs n) (hf : w.depth + 4 ≤ fuel) :
    f.compareField (answerWithin fuel) d.name n v u w = (if w.isInstance u c then (do
      let x ← f.stored (answerWithin fuel) v n
      answerWithin fuel (.equal x (← f.stored (answerWithin fuel) u n)) : Run Value) else f.global "NotImplemented") w := by
  obtain ⟨e, rfl⟩ := Nat.exists_eq_add_of_le' hf
  have hdepth : w.depth ≤ e + w.depth + (w.linearize c).length := by omega
  have hcall : (answerWithin (e + (w.depth + 4))).call (.native "" "isinstance") [u, .cls c] [] w =
      (.ok (.truth (w.isInstance u c)), w) :=
    (call_isinstance u _).trans (Membership.answerWithin_isInstance h.orderly u (h.above.mem_linearize h.orderly) hdepth)
  have htrue : (answerWithin (e + (w.depth + 4))).isTrue (.truth (w.isInstance u c)) w = (.ok (w.isInstance u c), w) :=
    isTrue_truth _ w
  rw [Function.compareField, bind_of_ok h.global_isinstance, bind_of_ok h.global_record, bind_of_ok hcall, bind_of_ok htrue]

theorem half_of_keyed (h : w.HostsKey m d p c vs n) (hv : w.Keyed c n v x) (hu : w.Keyed c n u y) (he : w.Equates limit x y b)
    (hl : limit ≤ fuel) (hf : w.depth + 4 ≤ fuel) :
    w.Yields (Comparison.half (answerWithin (fuel + 2)) v u) fun t _ => t = .truth b := by
  obtain ⟨k, slots, attributes, hcell, hk, hx⟩ := id hv
  obtain ⟨f, hbound, hbody⟩ := h.bound?_equality
  have hgiven : f.arguments? [v, u] [] = some [v, u] := by
    rw [Function.arguments?, hbody]
    rfl
  refine yields_half hcell ((hk.bound? (by simp [keyNames])).trans hbound) hgiven ?_
  refine (he fuel hl).congr fun w' hg => ?_
  have h' := h.after hg.toAfter
  have hv' := h.keyed_after hv hg
  have hu' := h.keyed_after hu hg
  simp only [Function.run, hbody]
  rw [h'.compareField_eq (by rwa [hg.depth h.orderly]), h'.isInstance_keyed hu', if_pos rfl]
  rw [bind_of_ok (h'.stored_key hv' (by omega)), bind_of_ok (h'.stored_key hu' (by omega))]

theorem half_of_not (h : w.HostsKey m d p c vs n) (hv : w.Keyed c n v x) (hu : w.Holds u) (hnot : w.isInstance u c = false)
    (hf : w.depth + 4 ≤ fuel) : w.Yields (Comparison.half (answerWithin (fuel + 2)) v u) fun t _ => t = .undecided := by
  obtain ⟨k, slots, attributes, hcell, hk, hx⟩ := hv
  obtain ⟨f, hbound, hbody⟩ := h.bound?_equality
  have hgiven : f.arguments? [v, u] [] = some [v, u] := by
    rw [Function.arguments?, hbody]
    rfl
  refine yields_half hcell ((hk.bound? (by simp [keyNames])).trans hbound) hgiven (.of_eq fun w' hg => ?_)
  have h' := h.after hg.toAfter
  have hnot' : w'.isInstance u c = false := by
    rw [World.isInstance, World.isSubclass, hg.classOf hu, hg.linearize]
    exact hnot
  simp only [Function.run, hbody]
  rw [h'.compareField_eq (by rwa [hg.depth h.orderly]), hnot']
  exact h'.global_undecided

theorem holds_keyed (hv : w.Keyed c n v x) : w.Holds v := by
  obtain ⟨k, slots, attributes, hcell, -⟩ := hv
  exact holds_of_cell? hcell

/-- Two instances of a record are equal if their keys are; the instance that is asked first asks its own key. -/
theorem equates (h : w.HostsKey m d p c vs n) (hv : w.Keyed c n v x) (hu : w.Keyed c n u y)
    (he : ¬w.Backward v u → w.Equates limit x y b) (hback : w.Backward v u → w.Equates limit y x b) :
    w.Equates (limit + w.depth + 7) v u b := by
  intro fuel hf
  obtain ⟨e, rfl⟩ := Nat.exists_eq_add_of_le' hf
  rw [show e + (limit + w.depth + 7) = e + limit + w.depth + 4 + 2 + 1 by omega]
  have hequal : w.Yields (Comparison.equal (answerWithin (e + limit + w.depth + 4 + 2)) v u) fun t _ => t = .truth b :=
    yields_equal_of_first (holds_keyed hv) (holds_keyed hu)
      (fun hnot => h.half_of_keyed hv hu (he hnot) (by omega) (by omega))
      fun hb => h.half_of_keyed hu hv (hback hb) (by omega) (by omega)
  exact hequal.congr fun _ _ => rfl

/-! ## Hashes -/

theorem hashes (h : w.HostsKey m d p c vs n) (hv : w.Keyed c n v x) (hx : w.Hashes limit x key) :
    w.Hashes (limit + 5) v key.settled := by
  intro fuel hf
  obtain ⟨e, rfl⟩ := Nat.exists_eq_add_of_le' hf
  obtain ⟨k, slots, attributes, hcell, hk, -⟩ := id hv
  obtain ⟨f, hbound, hbody⟩ := h.bound?_hash
  have hgiven : f.arguments? [v] [] = some [v] := by
    rw [Function.arguments?, hbody]
    rfl
  rw [show e + (limit + 5) = e + limit + 2 + 3 by omega]
  refine yields_hash hcell ((hk.bound? (by simp [keyNames])).trans hbound) hgiven ?_
  refine (hx (e + limit + 1) (by omega)).congr fun w' hg => ?_
  have h' := h.after hg.toAfter
  simp only [Function.run, hbody]
  rw [Function.applyTo, bind_of_ok h'.global_hash, bind_of_ok (h'.stored_key (h.keyed_after hv hg) (by omega))]
  rfl

end World.HostsKey

end DomainModel.Live
