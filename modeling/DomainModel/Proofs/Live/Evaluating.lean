import DomainModel.Proofs.Live.Lookup

/-!
# Evaluating

What the functions of generated classes ask for most: the names of the module, the class of a value, the attributes of
classes, and the built-in functions. None of this changes the world.
-/

namespace DomainModel.Live

open Run Loading

/-! ## Attributes of classes -/

namespace Attribute

/-- The names under which a class keeps something, whatever it binds. -/
def keptNames : List String :=
  ["__class__", "__basicsize__", "__itemsize__", "__flags__", "__weakrefoffset__", "__base__", "__dictoffset__", "__mro__",
   "__name__", "__qualname__", "__bases__", "__module__", "__abstractmethods__", "__dict__", "__doc__", "__text_signature__",
   "__annotations__"]

theorem mem_of_memberKind? {cls n : String} {kind : Builtin.MemberKind} (h : Builtin.memberKind? cls n = some kind) :
    ∃ ns, (kind, ns) ∈ Builtin.members cls ∧ n ∈ ns := by
  obtain ⟨⟨k, ns⟩, hmem, hr⟩ := List.exists_of_findSome?_eq_some h
  dsimp only at hr
  split at hr
  · next hn =>
    obtain rfl := Option.some.inj hr
    exact ⟨ns, hmem, hn⟩
  · cases hr

theorem mem_keptNames {w : World} {cls n : String} {x : Value} (hcls : cls ∈ ["type", "object"])
    (hx : Builtin.member? cls n = some x) (hd : isData w x = true) : n ∈ keptNames := by
  rw [Builtin.member?] at hx
  split at hx
  · obtain rfl := Option.some.inj hx
    obtain ⟨ns, hmem, hn⟩ := mem_of_memberKind? (of_decide_eq_true hd)
    have hall : ∀ cls ∈ ["type", "object"], ∀ r ∈ Builtin.members cls, r.1 = .data → r.2 ⊆ keptNames := by decide
    exact hall cls hcls _ hmem rfl hn
  · split at hx
    · next hdoc => rw [hdoc]; decide
    · next hdoc =>
      split at hx
      · obtain rfl := Option.some.inj hx
        cases hd
      · cases hx

variable {w : World} {fuel : Nat} {c : ClassRef} {n : String} {x d : Value}

theorem isData_kind (h : w.Orderly) (c : ClassRef) (hn : n ∉ noteNames) (hkept : n ∉ keptNames) :
    (w.bound? (w.kindOf c) n).any (isData w) = false := by
  have hagrees := fun name => h.ground_builtin name
  have hline : ∀ kind ∈ ["type", "ABCMeta"], ∀ k ∈ w.linearize (.builtin kind),
      k = .builtin "ABCMeta" ∨ ∃ cls ∈ ["type", "object"], k = .builtin cls := by
    have hall : ∀ kind ∈ ["type", "ABCMeta"], ∀ k ∈ World.initial.linearize (.builtin kind),
        k = .builtin "ABCMeta" ∨ ∃ cls ∈ ["type", "object"], k = .builtin cls := by decide
    intro kind hkind k hk
    rw [(hagrees kind).linearize] at hk
    exact hall kind hkind k hk
  have hkind : ∃ kind ∈ ["type", "ABCMeta"], w.kindOf c = .builtin kind := by
    rw [World.kindOf]
    split
    · exact ⟨_, by decide, rfl⟩
    · exact ⟨_, by decide, rfl⟩
  obtain ⟨kind, hkind, heq⟩ := hkind
  rw [heq]
  cases hb : w.bound? (.builtin kind) n with
  | none => rfl
  | some x =>
    rw [Option.any_some, ← Bool.not_eq_true]
    intro hd
    obtain ⟨k, hk, hx⟩ := List.exists_of_findSome?_eq_some hb
    rcases hline kind hkind k hk with rfl | ⟨cls, hcls, rfl⟩
    · rw [(hagrees "ABCMeta").member? n hn] at hx
      have hmem := World.mem_of_lookup (show Standard.abstractKind.members.lookup n = some x from hx)
      simp only [Standard.abstractKind, Standard.head, Standard.metaMembers, Standard.metaFunction, List.cons_append,
        List.nil_append, List.mem_cons, Prod.mk.injEq, List.not_mem_nil, or_false] at hmem
      rcases hmem with ⟨-, rfl⟩ | ⟨-, rfl⟩ | ⟨-, rfl⟩ | ⟨-, rfl⟩ | ⟨-, rfl⟩ | ⟨-, rfl⟩ <;> cases hd
    · refine hkept (mem_keptNames hcls ?_ hd)
      rw [(hagrees cls).member? n hn] at hx
      have hfixed : ∀ cls ∈ ["type", "object"], World.initial.isFixed (.builtin cls) = true := by decide
      rwa [World.member?_builtin (hfixed cls hcls)] at hx

theorem bound?_builtin (h : w.Orderly) {cls : String} (hn : n ∉ noteNames)
    (hcls : ∀ k ∈ World.initial.linearize (.builtin cls), ∀ index, k ≠ .made index) :
    w.bound? (.builtin cls) n = World.initial.bound? (.builtin cls) n :=
  (h.ground_builtin cls).bound? (fun k hk => h.ground k (hcls k hk)) hn

theorem ofClass_of_name {ask : Answering} (h : w.Orderly) (c : ClassRef) (hn : n ∈ ["__name__", "__qualname__"]) :
    ofClass ask c n w = BuiltinData.ofClass w c n w := by
  have hkind : ∃ kind ∈ ["type", "ABCMeta"], w.kindOf c = .builtin kind := by
    rw [World.kindOf]
    split
    · exact ⟨_, by decide, rfl⟩
    · exact ⟨_, by decide, rfl⟩
  obtain ⟨kind, hkind, heq⟩ := hkind
  have hall : ∀ n ∈ ["__name__", "__qualname__"], ∀ kind ∈ ["type", "ABCMeta"], n ∉ noteNames ∧ ¬(n = "__doc__" ∨ n = "__annotations__") ∧
      Builtin.isData "type" n = true ∧ (∀ k ∈ World.initial.linearize (.builtin kind), ∀ index, k ≠ .made index) ∧
        World.initial.bound? (.builtin kind) n = some (.native "type" n) := by decide
  obtain ⟨hnote, hother, hdata, hmade, hbound⟩ := hall n hn kind hkind
  have hd : (some (Value.native "type" n)).any (isData w) = true := hdata
  rw [ofClass, world_bind]
  simp only [heq, bound?_builtin h hnote hmade, hbound, hd, if_true, hother, if_false]
  rw [bind_apply]
  rcases BuiltinData.ofClass w c n w with ⟨_ | _, _⟩ <;> rfl

theorem ofClass_of_bound {ask : Answering} (h : w.Orderly) (hn : n ∉ noteNames) (hkept : n ∉ keptNames) (hb : w.bound? c n = some d) :
    ofClass ask c n w = bindToClass ask c d w := by
  rw [ofClass, world_bind]
  simp only [isData_kind h c hn hkept, Bool.false_eq_true, if_false, hb]

end Attribute

/-! ## Built-in functions and classes -/

namespace Request

variable {w w' : World} {fuel : Nat} {c k : ClassRef} {n s : String} {v x : Value}

theorem call_type (v : Value) : answerWithin (fuel + 1) (.call (.cls (.builtin "type")) [v] []) w = (.ok (.cls (w.classOf v)), w) :=
  rfl

theorem call_isinstance (v cls : Value) : answerWithin (fuel + 1) (.call (.native "" "isinstance") [v, cls] []) w =
    answerWithin fuel (.isInstance v cls) w := rfl

theorem call_str (v : Value) : answerWithin (fuel + 1) (.call (.cls (.builtin "str")) [v] []) w = answerWithin fuel (.text v) w := rfl

theorem gives_toInteger (ask : Answering) (v : Value) :
    Gives (fun x => ∃ n k, x = .integer n k) (Calling.toInteger ask v) := by
  have hinteger : ∀ n, Gives (fun x => ∃ n k, x = .integer n k) (Run.integer n) := by
    intro n
    rw [Run.integer]
    split
    · exact gives_pure ⟨n, 0, rfl⟩
    · exact gives_bind fun k => gives_pure ⟨n, k, rfl⟩
  have htext : ∀ s, Gives (fun x => ∃ n k, x = .integer n k) (Calling.ofText s) := by
    intro s
    rw [Calling.ofText]
    split
    · exact hinteger _
    · exact gives_throw _
  rw [Calling.toInteger]
  refine gives_bind fun w => ?_
  split
  · exact gives_pure ⟨_, _, rfl⟩
  · exact gives_pure ⟨_, _, rfl⟩
  · exact htext _
  · exact htext _
  · refine gives_bind fun answer => ?_
    split
    · exact gives_pure ⟨_, _, rfl⟩
    · exact gives_pure ⟨_, _, rfl⟩
    · exact gives_throw _
    · refine gives_bind fun answer => ?_
      split
      · exact gives_pure ⟨_, _, rfl⟩
      · exact gives_throw _

theorem call_made (index : Nat) (given : List Value) (named : List (String × Value)) :
    answerWithin (fuel + 1) (.call (.cls (.made index)) given named) w =
      Calling.construct (answerWithin fuel) (.made index) given named w := rfl

theorem textOf_of_text? (h : x.text? = some s) : (answerWithin (fuel + 1)).textOf x w = (.ok s, w) := by
  cases x with
  | text t copy =>
    obtain rfl := Option.some.inj h
    rfl
  | _ => cases h

theorem read_qualname (fuel : Nat) (h : w.Orderly) (hl : w.Labelled) (hc : w.isFixed c = false) :
    ∃ x, answerWithin (fuel + 1) (.read (.cls c) "__qualname__") w = (.ok x, w) ∧ x.text? = some (w.info c).qualname := by
  have hread : answerWithin (fuel + 1) (.read (.cls c) "__qualname__") w =
      (.ok ((w.kept.lookup (.cls c, "__qualname__")).getD (.constant (w.info c).qualname)), w) := by
    rw [answerWithin_succ, answerWith, Attribute.ofClass_of_name h c (by decide)]
    change (if w.isFixed c then _ else _ : Run Value) w = _
    rw [hc]
    rfl
  refine ⟨_, hread, ?_⟩
  cases hk : w.kept.lookup (.cls c, "__qualname__") with
  | none => rfl
  | some x => exact (hl.qualname c x hk).2

theorem read_name (fuel : Nat) (h : w.Orderly) (hl : w.Labelled) (c : ClassRef) :
    ∃ x w', answerWithin (fuel + 1) (.read (.cls c) "__name__") w = (.ok x, w') ∧ x.text?.isSome ∧ w.Grows w' := by
  rw [answerWithin_succ, answerWith, Attribute.ofClass_of_name h c (by decide)]
  change ∃ x w', (if w.isFixed c then _ else _ : Run Value) w = _ ∧ _
  cases hc : w.isFixed c with
  | true =>
    change ∃ x w', Run.text (w.info c).name w = _ ∧ _
    rw [Run.text]
    split
    · exact ⟨_, _, rfl, rfl, .refl h hl⟩
    · exact ⟨_, _, rfl, rfl, .count h hl _⟩
  | false =>
    refine ⟨(w.kept.lookup (.cls c, "__name__")).getD (.constant (w.info c).name), w, rfl, ?_, .refl h hl⟩
    cases hk : w.kept.lookup (.cls c, "__name__") with
    | none => rfl
    | some x =>
      change x.text?.isSome = true
      rw [(hl.name c x hk).2]
      rfl

theorem text_spec (h : w.Orderly) (hl : w.Labelled) (s : String) :
    ∃ k w', Run.text s w = (.ok (.text s k), w') ∧ w.Grows w' := by
  rw [Run.text]
  split
  · exact ⟨_, _, rfl, .refl h hl⟩
  · exact ⟨_, _, rfl, .count h hl _⟩

theorem integer_spec (h : w.Orderly) (hl : w.Labelled) (n : Int) :
    ∃ k w', Run.integer n w = (.ok (.integer n k), w') ∧ w.Grows w' := by
  rw [Run.integer]
  split
  · exact ⟨_, _, rfl, .refl h hl⟩
  · exact ⟨_, _, rfl, .count h hl _⟩

/-! ## Exceptions -/

def raisedNames : List String := ["TypeError", "NotImplementedError"]

theorem call_raised (hn : n ∈ raisedNames) (given : List Value) : answerWithin (fuel + 1) (.call (.cls (.builtin n)) given []) w =
    Calling.construct (answerWithin fuel) (.builtin n) given [] w := by
  have hall : ∀ n ∈ raisedNames, Builtin.isException n = true := by decide
  have hcondition : n = "object" ∨ (!w.isFixed (.builtin n)) = true ∨ Builtin.isException n = true := .inr (.inr (hall n hn))
  simp only [raisedNames, List.mem_cons, List.not_mem_nil, or_false] at hn
  rcases hn with rfl | rfl
  · exact congrFun (if_pos hcondition) w
  · exact congrFun (if_pos hcondition) w

theorem raise_spec {α : Type} (fuel : Nat) (h : w.Orderly) (hl : w.Labelled) (hn : n ∈ raisedNames) (message : String) :
    ∃ e w', ((answerWithin (fuel + 1)).raise (.cls (.builtin n)) message : Run α) w = (.error (.thrown e), w') ∧ w.Grows w' ∧
      w'.classOf e = .builtin n := by
  -- the classes raised are built in, so what they find and build on is read off the first world
  have hall : ∀ n ∈ raisedNames, (∀ k ∈ World.initial.linearize (.builtin n), ∀ index, k ≠ .made index) ∧
      World.initial.bound? (.builtin n) "__new__" = some (.native "BaseException" "__new__") ∧
      World.initial.bound? (.builtin n) "__init__" = some (.native "BaseException" "__init__") ∧
      .builtin n ∈ World.initial.linearize (.builtin n) ∧
      .builtin "BaseException" ∈ World.initial.linearize (.builtin n) := by decide
  obtain ⟨hmade, hnew, hinit, hown, hroot⟩ := hall n hn
  obtain ⟨k, w₁, htext, hg₁⟩ := text_spec h hl message
  have hline : w₁.linearize (.builtin n) = World.initial.linearize (.builtin n) := (hg₁.orderly.ground_builtin n).linearize
  rw [← Attribute.bound?_builtin hg₁.orderly (by decide) hmade] at hnew hinit
  rw [← hline] at hown hroot
  -- the instance and its arguments
  let wa : World := { w₁ with cells := w₁.cells ++ [.tuple [.text message k]] }
  let object : Cell := .object (.builtin n) [(exceptionSlot "args", .cell w₁.cells.length)] none
  let w₂ : World := { wa with cells := wa.cells ++ [object] }
  let e : Value := .cell wa.cells.length
  have hga : w₁.Grows wa := .append hg₁.orderly hg₁.labelled _
  have hg₂ : w₁.Grows w₂ := hga.trans (.append hga.orderly hga.labelled _)
  have hcell : w₂.cell? e = some object := World.cell?_allocated wa object
  have hclass : w₂.classOf e = .builtin n := World.classOf_of_cell? hcell
  have hinstance : ∀ c ∈ w₁.linearize (.builtin n), w₂.isInstance e c = true := by
    intro c hc
    rw [World.isInstance, hclass, World.isSubclass, hg₂.linearize]
    exact decide_eq_true hc
  have hcreate : Calling.create (answerWithin fuel) (.builtin n) [.text message k] [] w₁ = (.ok e, w₂) := by
    rw [Calling.create, world_bind]
    simp only [hnew]
    rw [BuiltinCall.make, world_bind]
    have hsub : w₁.isSubclass (.builtin n) (.builtin "BaseException") = true := decide_eq_true hroot
    simp only [hsub]
    rfl
  have hcall : answerWithin (fuel + 1) (.call (.cls (.builtin n)) [.text message k] []) w₁ = (.ok e, w₂) := by
    have hinit₂ : w₂.bound? (.builtin n) "__init__" = some (.native "BaseException" "__init__") :=
      (hg₂.bound? _ (by decide)).trans hinit
    rw [call_raised hn, Calling.construct, bind_of_ok hcreate, world_bind, hinstance _ hown]
    simp only [if_true, Calling.initialise, hclass]
    rw [bind_apply, world_bind]
    simp only [hinit₂]
    rfl
  refine ⟨e, w₂, ?_, hg₁.trans hg₂, hclass⟩
  rw [Answering.raise, bind_of_ok htext]
  change (answerWithin (fuel + 1) (.call (.cls (.builtin n)) [.text message k] []) >>= _) w₁ = _
  rw [bind_of_ok hcall, world_bind, hinstance _ hroot]
  rfl

end Request

/-- A request throws an exception of a class, and nothing that was there before has changed. -/
def World.Throws (w : World) (fuel : Nat) (request : Request) (k : ClassRef) : Prop :=
  ∃ e w', Request.answerWithin fuel request w = (.error (.thrown e), w') ∧ w.Grows w' ∧ w'.classOf e = k

end DomainModel.Live
