import DomainModel.Proofs.Live.Loaded

/-!
# Looking names up

What the classes of a loaded module bind to a name, by themselves or through the classes behind them. A class may build
on such a class and leave alone what that one binds: then it has the same members.
-/

namespace DomainModel.Live

open Loading

/-! ## Classes behind a planned class -/

/-- The names that the contract and the classes behind it bind, but for the root of all classes. -/
def inheritedNames (b : Contract) : List String :=
  b.linearization.flatMap fun k => ((World.initial.classes.lookup k).elim [] (·.members.map (·.1)))

namespace World

variable {w : World} {b : Contract} {k c : ClassRef} {n : String} {names : List String}

theorem isFixed_object (h : w.Orderly) : w.isFixed .object = true :=
  h.isFixed_of_mem_parents "object" (by decide)

theorem member?_object (h : w.Orderly) (n : String) : w.member? .object n = Builtin.member? "object" n :=
  member?_builtin (isFixed_object h) n

theorem isFixed_behind (h : w.Orderly) (hb : b ≠ .valueValidationError) (hk : k ∈ b.linearization) (hne : k ≠ .object) :
    w.isFixed k = false ∧ ∀ index, k ≠ .made index := by
  have hall : ∀ b : Contract, b ≠ .valueValidationError → ∀ k ∈ b.linearization, k ≠ .object →
      initial.isFixed k = false ∧ ∀ index, k ≠ .made index := by
    intro b
    cases b <;> decide
  obtain ⟨hfixed, hmade⟩ := hall b hb k hk hne
  exact ⟨(h.ground k hmade).isFixed.trans hfixed, hmade⟩

theorem member?_behind (h : w.Orderly) (hb : b ≠ .valueValidationError) (hk : k ∈ b.linearization) (hne : k ≠ .object)
    (hn : n ∉ noteNames) (hfree : n ∉ inheritedNames b) : w.member? k n = none := by
  obtain ⟨hfixed, hmade⟩ := isFixed_behind h hb hk hne
  have hground := h.ground k hmade
  rw [hground.member? n hn]
  obtain ⟨i, hi⟩ := Option.isSome_iff_exists.mp (Option.isNone_eq_false_iff.mp (hground.isFixed.symm.trans hfixed))
  rw [member?_of_lookup hi]
  refine lookup_eq_none_of_not_mem fun hmem => hfree ?_
  refine List.mem_flatMap.mpr ⟨k, hk, ?_⟩
  rw [hi]
  exact hmem

end World

/-! ## Planned classes -/

namespace Loading.Embodies

variable {references : List String} {d : Declaration} {w : World} {p : ClassPlan} {c : ClassRef}
  {vs : List (Variant × ClassRef)} {n : String} {v : Value}

theorem linearize_eq (h : Embodies w p c vs) : ∃ line, w.linearize c = c :: line := by
  obtain ⟨line, hline, -⟩ := h.behind
  exact ⟨line, hline⟩

theorem bound?_of_mem (h : Embodies w p c vs) (hn : n ∉ unsettledNames p) (hv : (n, v) ∈ table p c vs) : w.bound? c n = some v := by
  obtain ⟨line, hline⟩ := h.linearize_eq
  rw [World.bound?, hline, World.firstMember?, List.findSome?_cons, h.bound n v hn hv]

theorem bound?_of_free (h : Embodies w p c vs) (ho : w.Orderly) (hp : Clear references d p) (hn : n ∉ unsettledNames p)
    (hhash : n ≠ "__hash__") (hfree : n ∉ (table p c vs).map (·.1)) (hinherited : ∀ b ∈ p.bases, n ∉ inheritedNames b) :
    w.bound? c n = Builtin.member? "object" n := by
  obtain ⟨line, hline, -, hclosed⟩ := h.behind
  have hobject : .object ∈ line := by
    have hroot := ho.object_mem_linearize c
    obtain ⟨index, hindex⟩ := h.made
    rw [hline, hindex] at hroot
    exact (List.mem_cons.mp hroot).resolve_left nofun
  have hmember : ∀ k ∈ line, w.member? k n = none ∨ w.member? k n = Builtin.member? "object" n := by
    intro k hk
    by_cases hne : k = .object
    · rw [hne]
      exact .inr (World.member?_object ho n)
    · obtain ⟨b, hb, hkb⟩ := (hclosed k hk).resolve_left hne
      exact .inl (World.member?_behind ho (hp.base_mem b hb).1 hkb hne (mem_unsettledNames hn).1 (hinherited b hb))
  rw [World.bound?, hline, World.firstMember?, List.findSome?_cons, h.free n hn hhash hfree]
  cases hroot : Builtin.member? "object" n with
  | none =>
    refine List.findSome?_eq_none_iff.mpr fun k hk => ?_
    rcases hmember k hk with hm | hm
    · exact hm
    · rw [hm, hroot]
  | some x =>
    have hsome : (line.findSome? (w.member? · n)).isSome := by
      rw [List.findSome?_isSome_iff]
      exact ⟨.object, hobject, by rw [World.member?_object ho, hroot]; rfl⟩
    obtain ⟨y, hy⟩ := Option.isSome_iff_exists.mp hsome
    obtain ⟨k, hk, hky⟩ := List.exists_of_findSome?_eq_some hy
    dsimp only
    rw [hy, ← hky]
    rcases hmember k hk with hm | hm
    · rw [hm] at hky
      cases hky
    · rw [hm, hroot]

/-- Special names that no generated class binds, and the root of all classes does. -/
def rootNames : List String := ["__new__", "__setattr__"]

theorem not_mem_table (h : Clear references d p) (hvs : vs.map (·.1) ⊆ p.variants) (hs : isSpecial n = true) (hf : n ∉ functionNames)
    (hn : n ∉ ["__doc__", annotationsName]) : n ∉ (table p c vs).map (·.1) := by
  obtain ⟨e, roles, fs, ho⟩ := h.outline
  simp only [table, List.map_append, List.mem_append, not_or]
  refine ⟨⟨fun hmem => ?_, fun hmem => ?_⟩, fun hmem => ?_⟩
  · exact (ho.mem_bodyBindings h.own h.internal hmem).elim (h.not_mem_bound hs hf) hn
  · obtain ⟨x, hx, rfl⟩ := List.mem_map.mp hmem
    obtain ⟨y, hy, rfl⟩ := List.mem_map.mp hx
    rw [h.isSpecial_place hy] at hs
    cases hs
  · obtain ⟨x, hx, rfl⟩ := List.mem_map.mp hmem
    obtain ⟨y, hy, rfl⟩ := List.mem_map.mp hx
    have hi := isInternal_of_isSpecial hs
    rw [h.isInternal_variant (hvs (List.mem_map_of_mem hy))] at hi
    cases hi

theorem bound?_root (h : Embodies w p c vs) (ho : w.Orderly) (hp : Clear references d p) (hvs : vs.map (·.1) ⊆ p.variants)
    (hn : n ∈ rootNames) : w.bound? c n = some (.native "object" n) := by
  have hall : ∀ n ∈ rootNames, isSpecial n = true ∧ n ∉ functionNames ∧ n ∉ ["__doc__", annotationsName] ∧ n ≠ "__hash__" ∧
      Builtin.member? "object" n = some (.native "object" n) ∧ n ∉ noteNames
        ++ ["__module__", "__qualname__", "__dict__", "__weakref__", "__doc__"] ++ Making.abstractNames ++ [Role.eventsArgument] := by
    decide
  have hcontracts : ∀ b : Contract, b ≠ .valueValidationError → ∀ n ∈ rootNames, n ∉ inheritedNames b := by
    intro b
    cases b <;> decide
  obtain ⟨hs, hf, hnoted, hhash, hroot, hunsettled⟩ := hall n hn
  rw [h.bound?_of_free ho hp (fun hmem => hunsettled (unsettledNames_subset p hmem)) hhash (not_mem_table hp hvs hs hf hnoted)
    fun b hb => hcontracts b (hp.base_mem b hb).1 n hn, hroot]

end Loading.Embodies

/-! ## Classes that build on a planned class -/

/-- A class is above another one if it has the other's members, but for those of some names. -/
structure World.Above (w : World) (names : List String) (k c : ClassRef) : Prop where
  there : w.isFixed k = false
  made : ∃ index, k = .made index
  behind : ∃ before, w.linearize k = before ++ w.linearize c ∧
    ∀ x ∈ before, w.isFixed x = false ∧ ∀ n ∉ names, w.member? x n = none

namespace World.Above

variable {references : List String} {d : Declaration} {w w' : World} {names : List String} {k c : ClassRef} {n : String}
  {p : ClassPlan} {vs : List (Variant × ClassRef)} {v : Variant} {cv : ClassRef}

theorem refl (h : Embodies w p c vs) : w.Above [] c c := ⟨h.there, h.made, [], rfl, nofun⟩

theorem of_variant (h : EmbodiesVariant w p c v cv) : w.Above variantNames cv c := by
  refine ⟨h.there, h.made, [cv], h.behind, fun x hx => ?_⟩
  rw [List.mem_singleton.mp hx]
  exact ⟨h.there, h.free⟩

theorem bound? (h : w.Above names k c) (hn : n ∉ names) : w.bound? k n = w.bound? c n := by
  obtain ⟨before, hline, hbefore⟩ := h.behind
  have hnone : before.findSome? (w.member? · n) = none :=
    List.findSome?_eq_none_iff.mpr fun x hx => (hbefore x hx).2 n hn
  rw [World.bound?, hline, World.firstMember?, List.findSome?_append, hnone, Option.none_or]
  rfl

theorem mem_linearize (h : w.Above names k c) (ho : w.Orderly) : k ∈ w.linearize k := ho.mem_linearize_self (.inl h.there)

theorem behind_subset (h : w.Above names k c) : w.linearize c ⊆ w.linearize k := by
  obtain ⟨before, hline, -⟩ := h.behind
  rw [hline]
  exact List.subset_append_right _ _

theorem after (h : w.Above names k c) (hc : w.isFixed c = false) (ha : w.After w') (hnames : noteNames ⊆ names) :
    w'.Above names k c := by
  obtain ⟨before, hline, hbefore⟩ := h.behind
  refine ⟨(ha.agrees k h.there).isFixed.trans h.there, h.made, before, ?_, fun x hx => ?_⟩
  · rw [(ha.agrees k h.there).linearize, (ha.agrees c hc).linearize, hline]
  · obtain ⟨hfixed, hnone⟩ := hbefore x hx
    have hx := ha.agrees x hfixed
    exact ⟨hx.isFixed.trans hfixed, fun n hn => (hx.member? n fun hmem => hn (hnames hmem)).trans (hnone n hn)⟩

theorem maker_eq (h : w.Above names k c) (hc : Embodies w p c vs) (ho : w.Orderly) (hp : Clear references d p) :
    BuiltinCall.maker w k = .object := by
  obtain ⟨before, hline, hbefore⟩ := h.behind
  obtain ⟨line, hbehind, -, hclosed⟩ := hc.behind
  have hfixed : ∀ x ∈ w.linearize k, x = .object ∨ w.isFixed x = false := by
    intro x hx
    rw [hline, hbehind] at hx
    rcases List.mem_append.mp hx with hx | hx
    · exact .inr (hbefore x hx).1
    · rcases List.mem_cons.mp hx with rfl | hx
      · exact .inr hc.there
      · by_cases hne : x = .object
        · exact .inl hne
        · obtain ⟨b, hb, hxb⟩ := (hclosed x hx).resolve_left hne
          exact .inr (World.isFixed_behind ho (hp.base_mem b hb).1 hxb hne).1
  rw [BuiltinCall.maker]
  cases hfind : (w.linearize k).find? fun k => w.isFixed k && (Builtin.members (w.info k).name).any fun r =>
      r.1 = .free && "__new__" ∈ r.2 with
  | none => rfl
  | some x =>
    have hx := List.find?_some hfind
    rcases hfixed x (List.mem_of_find?_eq_some hfind) with rfl | hnot
    · rfl
    · rw [hnot] at hx
      cases hx

end World.Above

end DomainModel.Live
