import DomainModel.Proofs.Live.Evaluating

/-!
# Instances

How an instance of a generated class is made, and how its stored fields are read and assigned.
-/

namespace DomainModel.Live

open Run Loading

/-! ## Cells -/

namespace World

variable {w w' : World} {a b : Nat} {c : Cell} {k owner : ClassRef} {place place' : ClassRef × String}
  {slots : List ((ClassRef × String) × Value)} {attributes : Option Nat} {x : Value}

theorem lookup_putSlot (place place' : ClassRef × String) (x : Value) (slots : List ((ClassRef × String) × Value)) :
    (putSlot place x slots).lookup place' = if place' = place then some x else slots.lookup place' := by
  induction slots with
  | nil =>
    rw [putSlot, List.lookup_cons]
    by_cases h : place' = place
    · simp [h]
    · simp [h, beq_false_of_ne h]
  | cons s ss ih =>
    rw [putSlot]
    by_cases hs : s.1 = place
    · rw [if_pos hs, List.lookup_cons, List.lookup_cons, hs]
      by_cases h : place' = place
      · simp [h]
      · simp [h, beq_false_of_ne h]
    · rw [if_neg hs, List.lookup_cons, List.lookup_cons, ih]
      by_cases h : place' = s.1
      · simp [h, hs]
      · simp [beq_false_of_ne h]

theorem cell?_update (ha : a < w.cells.length) (c : Cell) : (w.update a c).cell? (.cell a) = some c := by
  change (w.cells.set a c)[a]? = some c
  rw [List.getElem?_set_self ha]

theorem cell?_update_of_ne (h : b ≠ a) (c : Cell) : (w.update a c).cell? (.cell b) = w.cell? (.cell b) :=
  List.getElem?_set_ne h.symm

theorem setSlot_eq (hv : w.cell? (.cell a) = some (.object k slots attributes)) (place : ClassRef × String) (x : Value) :
    w.setSlot (.cell a) place x = w.update a (.object k (putSlot place x slots) attributes) := by
  simp only [setSlot, hv]

theorem slot?_eq {v : Value} (hv : w.cell? v = some (.object k slots attributes)) (place : ClassRef × String) :
    w.slot? v place = slots.lookup place := by
  rw [slot?, hv]

theorem After.update (h : w.After w') (a : Nat) (c : Cell) : w.After (w'.update a c) :=
  ⟨orderly_of_classes h.orderly rfl rfl, ⟨h.labelled.name, h.labelled.qualname⟩, fun k hk => ⟨(h.agrees k hk).frame,
    (h.agrees k hk).isFixed, (h.agrees k hk).member?⟩, h.globals, h.cutOff⟩

theorem Grows.update (h : w.Grows w') (ha : w.cells.length ≤ a) (c : Cell) : w.Grows (w'.update a c) := by
  obtain ⟨cs, hcs⟩ := h.cells
  refine ⟨h.toAfter.update a c, h.keys, ⟨cs.set (a - w.cells.length) c, ?_⟩, h.shown⟩
  change _ = w'.cells.set a c
  rw [← hcs, List.set_append_right _ _ ha]

end World

/-! ## Making instances -/

/-- A class whose instances are initialised by a function. -/
structure World.Instantiable (w : World) (k : ClassRef) (f : Function) : Prop where
  made : ∃ index, k = .made index
  self : k ∈ w.linearize k
  maker : BuiltinCall.maker w k = .object
  new : w.bound? k "__new__" = some (.native "object" "__new__")
  init : w.bound? k "__init__" = some (.function f)
  complete : (w.info k).isIncomplete = false

/-- The world in which the first instance of a class is initialised. -/
def World.begun (w : World) (k : ClassRef) (f : Function) : World :=
  { w with cells := w.cells ++ [.object k [] none] ++ [.method (.cell w.cells.length) (.function f)] }

section
variable {w w' : World} {k : ClassRef} {f : Function} {given arguments : List Value} {named : List (String × Value)} {fuel : Nat}
  {r : Except Fault Value}

theorem World.grows_begun (h : w.Orderly) (hl : w.Labelled) (k : ClassRef) (f : Function) : w.Grows (w.begun k f) := by
  have hgrows := World.Grows.append h hl [.object k [] none, .method (.cell w.cells.length) (.function f)]
  rw [List.append_cons] at hgrows
  exact hgrows

theorem World.cell?_begun (w : World) (k : ClassRef) (f : Function) :
    (w.begun k f).cell? (.cell w.cells.length) = some (.object k [] none) := by
  change (w.cells ++ [.object k [] none] ++ [_])[w.cells.length]? = _
  rw [List.getElem?_append_left (by simp), List.getElem?_append_right Nat.le.refl, Nat.sub_self]
  rfl

theorem create_spec (h : w.Instantiable k f) (ask : Answering) : Calling.create ask k given named w =
    (.ok (.cell w.cells.length), { w with cells := w.cells ++ [.object k [] none] }) := by
  have hnew : Attribute.hasOwn w k "__new__" = false := by
    rw [Attribute.hasOwn, h.new]
  have hinit : Attribute.hasOwn w k "__init__" = true := by
    rw [Attribute.hasOwn, h.init]
  rw [Calling.create, world_bind]
  simp only [h.new]
  rw [BuiltinCall.make, world_bind]
  simp only [h.maker, hnew, hinit, BuiltinCall.bare, h.complete]
  rw [if_neg (by simp), if_neg (by simp)]
  rfl

/-- An instance is made if its initialisation ends, and is what the call gives. -/
theorem construct_spec (h : w.Instantiable k f)
    (harguments : f.arguments? (.cell w.cells.length :: given) named = some arguments)
    (hrun : f.run (Request.answerWithin fuel) arguments (w.begun k f) = (r, w')) (hr : ∀ x, r = .ok x → x = .nothing) :
    Request.answerWithin (fuel + 3) (.call (.cls k) given named) w = (r.map fun _ => .cell w.cells.length, w') := by
  obtain ⟨index, hindex⟩ := h.made
  let v : Value := .cell w.cells.length
  let w₁ : World := { w with cells := w.cells ++ [.object k [] none] }
  have hclass : w₁.classOf v = k := World.classOf_of_cell? (World.cell?_allocated w _)
  have hinstance : w₁.isInstance v k = true := by
    rw [World.isInstance, hclass]
    exact decide_eq_true h.self
  have hinit : w₁.bound? k "__init__" = some (.function f) := h.init
  have hspecial : Attribute.special? (Request.answerWithin (fuel + 2)) v "__init__" w₁ =
      (.ok (some (.cell w₁.cells.length)), w.begun k f) := by
    rw [Attribute.special?, world_bind, hclass]
    simp only [hinit]
    rfl
  have hmethod : (w.begun k f).cell? (.cell w₁.cells.length) = some (.method v (.function f)) :=
    World.cell?_allocated w₁ _
  have hcall : Request.answerWithin (fuel + 2) (.call (.cell w₁.cells.length) given named) (w.begun k f) = (r, w') := by
    rw [Request.call_method hmethod, Request.call_function harguments, hrun]
  have hinitialise : Calling.initialise (Request.answerWithin (fuel + 2)) v k given named w₁ = (r.map fun _ => (), w') := by
    rw [Calling.initialise, world_bind]
    simp only [hinit]
    rw [bind_of_ok hspecial]
    change (Request.answerWithin (fuel + 2) (.call _ given named) >>= _) (w.begun k f) = _
    cases r with
    | ok x =>
      rw [bind_of_ok hcall, hr x rfl]
      rfl
    | error e => rw [bind_of_error hcall]; rfl
  rw [hindex, Request.call_made, ← hindex, Calling.construct, bind_of_ok (create_spec h _), world_bind]
  change (if w₁.isInstance v k = true then _ else _ : Run Value) w₁ = _
  rw [hinstance, if_pos rfl, hclass, bind_apply, hinitialise]
  cases r <;> rfl

theorem assign_slot {a : Nat} {n m : String} {x : Value} {owner : ClassRef} {c : Cell}
    (hv : w.cell? (.cell a) = some c) (hset : w.bound? (World.classOfCell c) "__setattr__" = some (.native "object" "__setattr__"))
    (hn : w.bound? (World.classOfCell c) n = some (.slot owner m)) :
    Request.answerWithin (fuel + 1) (.assign (.cell a) n x) w = (.ok .nothing, w.setSlot (.cell a) (owner, m) x) := by
  have hclass := World.classOf_of_cell? hv
  change ((Assigning.assign (Request.answerWithin fuel) (.cell a) n x >>= fun _ => pure .nothing) : Run Value) w = _
  have hassign : Assigning.assign (Request.answerWithin fuel) (.cell a) n x w = (.ok (), w.setSlot (.cell a) (owner, m) x) := by
    rw [Assigning.assign, world_bind, hclass]
    simp only [hset]
    rw [Assigning.assignInstance, world_bind, hclass]
    simp only [hn]
    rfl
  rw [bind_of_ok hassign]
  rfl

end

/-! ## Names in functions -/

namespace Loading

variable {m : Module} {d : Declaration} {w : World} {p : ClassPlan} {c : ClassRef} {vs : List (Variant × ClassRef)}
  {f : Function} {n : String} {v : Value} {b : Contract}

theorem global_of_global? (hcut : w.cutOff = []) (h : w.global? (f.spell n) = some v) : f.global n w = (.ok v, w) := by
  have hnot : ¬(f.owner ∈ w.cutOff ∧ (w.globals.lookup (f.spell n)).isNone) := fun hmem => by
    rw [hcut] at hmem
    exact List.not_mem_nil hmem.1
  rw [Function.global, Run.globalIn, world_bind, if_neg hnot, Run.global, world_bind, h]
  rfl

theorem Stage.global_builtin (hs : Stage m w) (hm : m.Sound) (hn : n ∈ m.references) (hb : n ∈ builtinNames)
    (hv : Builtin.value? n = some v) : f.global n w = (.ok v, w) := by
  have hall : ∀ n ∈ builtinNames, isInternal n = false := by decide
  refine global_of_global? hs.grounds.cutOff ?_
  rw [Function.spell, spell_eq_self (hall n hb), World.global?, hs.builtin hm hn hb, Option.none_or, hv]

theorem Stage.global_contract (hs : Stage m w) (hm : m.Sound) (hn : b.text ∈ m.references)
    (hb : b ≠ .valueValidationError ∧ b ≠ .message) : f.global b.text w = (.ok (.cls (.contract b)), w) := by
  have hall : ∀ b : Contract, isInternal b.text = false := by
    intro b
    cases b <;> decide
  refine global_of_global? hs.grounds.cutOff ?_
  rw [Function.spell, spell_eq_self (hall b), World.global?, hs.contract hm hn hb]
  rfl

theorem Stage.global_class (hs : Stage m w) (h : Embodies w p c vs) (hi : isInternal p.name = false) :
    f.global p.name w = (.ok (.cls c), w) := by
  refine global_of_global? hs.grounds.cutOff ?_
  rw [Function.spell, spell_eq_self hi, World.global?, h.global]
  rfl

end Loading

/-! ## Instances of generated classes -/

theorem World.Instantiable.of_above {references : List String} {d : Declaration} {w : World} {names : List String} {k c : ClassRef}
    {p : ClassPlan} {vs : List (Variant × ClassRef)} {f : Function} (hk : w.Above names k c) (hc : Embodies w p c vs)
    (ho : w.Orderly) (hp : Clear references d p) (hvs : vs.map (·.1) ⊆ p.variants)
    (hnames : ∀ n ∈ Embodies.rootNames, n ∉ names) (hinit : w.bound? k "__init__" = some (.function f))
    (hcomplete : (w.info k).isIncomplete = false) : w.Instantiable k f := by
  refine ⟨hk.made, hk.mem_linearize ho, hk.maker_eq hc ho hp, ?_, hinit, hcomplete⟩
  rw [hk.bound? (hnames _ (by decide))]
  exact hc.bound?_root ho hp hvs (by decide)

end DomainModel.Live
