import DomainModel.Proofs.Live.Validated

/-!
# Classes that supply a rule

A class may be derived from a value object, with a rule and nothing else.
-/

namespace DomainModel.Live

open Run Request

/-! ## Derived classes -/

def ruleBindings (f : Function) (home : String) : List (String × Value) :=
  [("__slots__", .names []), ("validate", .classMethod f), ("__module__", .constant home)]

/-- The names of which it does not matter what a derived class binds to them. -/
def ruleNames : List String :=
  noteNames ++ ["__module__", "__qualname__", "__dict__", "__weakref__", "__doc__", "__slots__", "validate"] ++ Making.abstractNames

namespace Making.Makes

variable {w w' : World} {c k : ClassRef} {name n home : String} {bases line : List ClassRef} {members : List (String × Value)}
  {ns : List String} {i i' : ClassInfo} {q : Places} {missing : List String} {cells : List Cell} {f : Function}

section
variable (h : Makes w w' name bases members ns i i' q line missing cells)
include h

theorem lookup : w'.classes.lookup (.made w.classes.length) = some i' := by
  have hmem : (ClassRef.made w.classes.length, i') ∈ w'.classes := by
    rw [h.world]
    exact List.mem_append_right _ (List.mem_singleton.mpr rfl)
  exact World.lookup_of_mem h.orderly.keys hmem

theorem member? (hn : n ∉ noteNames) : w'.member? (.made w.classes.length) n = i.member? n := by
  rw [World.member?_of_lookup h.lookup, h.keeps.member? n hn]

theorem after (ho : w.Orderly) (hl : w.Labelled) : w.After w' := by
  have hagrees : ∀ k, w.isFixed k = false → w.Agrees w' k := by
    intro k hk
    refine World.agrees_of_append (by rw [h.world]) ?_
    rintro rfl
    rw [ho.isFixed_next] at hk
    cases hk
  refine ⟨h.orderly, hl.of_agrees (by rw [h.world]) hagrees, hagrees, by rw [h.world], by rw [h.world]⟩

end

variable (h : Makes w w' name [c] (ruleBindings f home) [] i i' q line missing cells)
include h

theorem member?_validate : w'.member? (.made w.classes.length) "validate" = some (.classMethod f) := by
  rw [h.member? (by decide), h.made.member _ fun _ => by decide]
  exact lookup_complete_of_some (by decide) rfl

theorem member?_of_not_mem (hn : n ∉ ruleNames) : w'.member? (.made w.classes.length) n = none := by
  have hbindings : ∀ n, n ∉ ["__slots__", "validate", "__module__"] → (ruleBindings f home).lookup n = none :=
    fun n hn => Loading.lookup_eq_none_of_not_mem hn
  by_cases hhash : n = "__hash__"
  · rw [hhash, h.member? (by decide), h.made.member _ fun _ => by decide]
    exact lookup_hash_complete (hbindings _ (by decide)) (hbindings _ (by decide)) h.names
  have hnames : n ∉ noteNames ∧ n ∉ commonNames ∧ n ∉ abstractNames ∧ n ∉ ["__slots__", "validate", "__module__"] := by
    simp only [ruleNames, commonNames, List.mem_append, List.mem_cons, List.not_mem_nil, or_false, not_or] at hn ⊢
    grind
  rw [h.member? hnames.1, h.made.member _ fun _ => hnames.2.2.1, lookup_complete hnames.2.1, h.names, hbindings _ hnames.2.2.2,
    if_neg List.not_mem_nil]
  rfl

variable (ho : w.Orderly) (hl : w.Labelled) (hc : w.isFixed c = false) {tail : List ClassRef} (hself : w.linearize c = c :: tail)
include ho hl hc hself

theorem linearize : w'.linearize (.made w.classes.length) = .made w.classes.length :: w'.linearize c := by
  have hinfo : (w'.info (.made w.classes.length)).frame = i.frame := by rw [World.info_of_lookup h.lookup, h.keeps.frame]
  rw [((h.after ho hl).agrees c hc).linearize, World.linearize, (ClassInfo.frame_eq hinfo).2.2.2.1, h.made.linearization,
    Bases.eq_of_linearize?_single hself h.made.line_eq]

/-- A derived class builds on the other one, and leaves to it all that is not a matter of its own. -/
theorem inherits : w'.Inherits valueNames (.made w.classes.length) c := by
  have hfixed : w'.isFixed (.made w.classes.length) = false := by
    rw [World.isFixed, h.lookup]
    rfl
  refine ⟨ruleNames, List.subset_append_of_subset_left _ (List.subset_append_left _ _), by decide, hfixed, ⟨_, rfl⟩,
    [.made w.classes.length], h.linearize ho hl hc hself, fun k hk => ?_⟩
  rw [List.mem_singleton.mp hk]
  exact ⟨hfixed, fun n hn => h.member?_of_not_mem hn⟩

theorem bound?_validate : w'.bound? (.made w.classes.length) "validate" = some (.classMethod f) := by
  rw [World.bound?, h.linearize ho hl hc hself, World.firstMember?, List.findSome?_cons, h.member?_validate]

end Making.Makes

/-! ## Value objects with a rule -/

namespace World.HostsValue

variable {w w' : World} {m : Module} {d : Declaration} {p : ClassPlan} {c k : ClassRef} {vs : List (Variant × ClassRef)}
  {name home : String} {f : Function} {r : Rule} {fuel limit : Nat} {x : Value} {b : Bool}

/-- A class that is derived from a value object with a rule binds the rule. If it can be instantiated, it supplies what the value
object lacks. -/
theorem supplies_of_make (h : w.HostsValue m d p c vs)
    (hmake : Making.make (answerWithin fuel) name [.cls c] (ruleBindings f home) w = (.ok k, w')) :
    w.After w' ∧ w'.bound? k "validate" = some (.classMethod f) ∧ ((w'.info k).isIncomplete = false → w'.Supplies k c) := by
  obtain ⟨index, rfl⟩ := h.embodies.made
  have hthere := h.embodies.there
  obtain ⟨tail, htail, -⟩ := h.embodies.behind
  have hasks : Making.AsksFor w name [.made index] (ruleBindings f home) [] :=
    Making.asksFor_of_slots rfl fun n hn => absurd hn List.not_mem_nil
  have hfree : ∀ n ∈ "__init_subclass__" :: hookNames, (ruleBindings f home).lookup n = none ∧ n ∉ ([] : List String) := by
    intro n hn
    refine ⟨Loading.lookup_eq_none_of_not_mem fun hmem => ?_, List.not_mem_nil⟩
    have hall : ∀ n ∈ "__init_subclass__" :: hookNames, n ∉ ["__slots__", "validate", "__module__"] := by decide
    exact hall n hn hmem
  have hmade : ∀ k ∈ [ClassRef.made index], ∀ n, k ≠ .builtin n := fun k hk n => by
    rw [List.mem_singleton.mp hk]
    nofun
  have hknown : ∀ k ∈ [ClassRef.made index], w.isFixed k = false := fun k hk => by rwa [List.mem_singleton.mp hk]
  obtain ⟨rfl, i, i', q, line, missing, cells, hm⟩ := Making.make_spec h.orderly hmade hknown hasks hfree hmake
  exact ⟨hm.after h.orderly h.labelled, hm.bound?_validate h.orderly h.labelled hthere htail,
    fun hcomplete => ⟨hm.inherits h.orderly h.labelled hthere htail, hcomplete⟩⟩

end World.HostsValue

theorem World.judges_of_rule {w : World} {index limit : Nat} {f : Function} {r : Rule} {x : Value} {b : Bool}
    (hv : w.bound? (.made index) "validate" = some (.classMethod f)) (hf : f.body = .rule r)
    (hr : ∀ fuel ≥ limit, w.Yields (Function.judge (answerWithin fuel) r x) fun t _ => t = .truth b)
    (hx : b = false → ∃ s, w.Shows limit x s) : w.Judges (limit + 2) (.made index) x b := by
  intro fuel hfuel w₁ hg
  obtain ⟨e, rfl⟩ := Nat.exists_eq_add_of_le' hfuel
  have hgiven : f.arguments? [.cls (.made index), x] [] = some [.cls (.made index), x] := by
    rw [Function.arguments?, hf]
    rfl
  let w₂ : World := { w₁ with cells := w₁.cells ++ [.method (.cls (.made index)) (.function f)] }
  have hread : answerWithin (e + (limit + 2)) (.read (.cls (.made index)) "validate") w₁ = (.ok (.cell w₁.cells.length), w₂) :=
    Attribute.ofClass_of_bound hg.orderly (by decide) (by decide) ((hg.bound? _ (by decide)).trans hv)
  have hg₂ : w.Grows w₂ := hg.trans (.append hg.orderly hg.labelled _)
  obtain ⟨t, w₃, hjudged, hg₃, rfl⟩ := hr (e + limit) (Nat.le_add_left _ _) w₂ hg₂
  have hcall : answerWithin (e + (limit + 2)) (.call (.cell w₁.cells.length) [x] []) w₂ = (.ok (.truth b), w₃) := by
    rw [← Nat.add_assoc, call_method (World.cell?_allocated w₁ _), call_function hgiven]
    simp only [Function.run, hf]
    exact hjudged
  refine ⟨w₃, ?_, ((World.Grows.append hg.orderly hg.labelled _).trans hg₃).toAfter, fun hb => ?_⟩
  · rw [validates, Answering.read, bind_of_ok hread, Answering.call, bind_of_ok hcall]
    exact isTrue_truth b w₃
  · obtain ⟨s, hs⟩ := hx hb
    exact ⟨s, fun fuel hle => (hs fuel (by omega)).grows (hg₂.trans hg₃)⟩

end DomainModel.Live
