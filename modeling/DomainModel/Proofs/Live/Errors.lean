import DomainModel.Proofs.Live.Yielding

/-!
# Errors of value objects

An error that rejects a value carries it. Making one makes no instance of a class of the module.
-/

namespace DomainModel.Live

open Run Loading Request

/-! ## Worlds without new instances -/

/-- In a later world, no value is an instance of a class that was none before. -/
structure World.Spares (w : World) (c : ClassRef) (w' : World) : Prop extends w.After w' where
  instances : ∀ v, w'.isInstance v c = true → w.isInstance v c = true

/-- In whatever later world it begins, a run makes no instance of a class. -/
def World.Abstains {α : Type} (w : World) (c : ClassRef) (r : Run α) : Prop := ∀ w', w.After w' → w'.Spares c (r w').2

namespace World

variable {w w' w₀ : World} {c k : ClassRef} {v : Value} {cell : Cell} {a index : Nat}

theorem Abstains.after {α : Type} {r : Run α} (h : w.Abstains c r) (ha : w.After w') : w'.Abstains c r :=
  fun w'' ha' => h w'' (ha.trans ha')

theorem isInstance_of_cell? (hv : w.cell? v = some cell) : w.isInstance v c = w.isSubclass (classOfCell cell) c := by
  rw [isInstance, classOf_of_cell? hv]

theorem isSubclass_builtin {n : String} (h : w.Orderly)
    (hn : ∀ k ∈ World.initial.linearize (.builtin n), ∀ index, k ≠ .made index) :
    w.isSubclass (.builtin n) (.made index) = false := by
  refine decide_eq_false fun hmem => ?_
  rw [(h.ground_builtin n).linearize] at hmem
  exact hn _ hmem index rfl

namespace Spares

theorem refl (h : w.Orderly) (hl : w.Labelled) : w.Spares c w := ⟨.refl h hl, fun _ => id⟩

theorem trans (h : w₀.Spares c w) (h' : w.Spares c w') : w₀.Spares c w' :=
  ⟨h.toAfter.trans h'.toAfter, fun v hv => h.instances v (h'.instances v hv)⟩

theorem append (h : w₀.Spares c w) (hcell : w.isSubclass (classOfCell cell) c = false) :
    w₀.Spares c { w with cells := w.cells ++ [cell] } := by
  have hg : w.Grows { w with cells := w.cells ++ [cell] } := .append h.orderly h.labelled [cell]
  refine ⟨h.toAfter.trans hg.toAfter, fun v hv => h.instances v ?_⟩
  cases v with
  | cell a =>
    by_cases ha : a = w.cells.length
    · subst ha
      rw [isInstance_of_cell? (w := { w with cells := w.cells ++ [cell] }) (cell?_allocated w cell)] at hv
      exact absurd (hcell.symm.trans hv) Bool.false_ne_true
    · have hsame : (w.cells ++ [cell])[a]? = w.cells[a]? := by
        rcases Nat.lt_or_gt_of_ne ha with hlt | hgt
        · exact List.getElem?_append_left hlt
        · rw [List.getElem?_eq_none (by simpa using hgt), List.getElem?_eq_none hgt.le]
      change w.isSubclass (((w.cells ++ [cell])[a]?.map classOfCell).getD .object) c = true at hv
      rwa [hsame] at hv
  | _ => exact hv

theorem update (h : w₀.Spares c w) (a : Nat) (hcell : w.isSubclass (classOfCell cell) c = false) : w₀.Spares c (w.update a cell) := by
  refine ⟨h.toAfter.update a cell, fun v hv => h.instances v ?_⟩
  cases v with
  | cell b =>
    by_cases hb : b = a ∧ b < w.cells.length
    · obtain ⟨rfl, hlt⟩ := hb
      rw [isInstance_of_cell? (cell?_update hlt cell)] at hv
      exact absurd (hcell.symm.trans hv) Bool.false_ne_true
    · have hsame : (w.cells.set a cell)[b]? = w.cells[b]? := by
        by_cases he : b = a
        · rw [List.set_eq_of_length_le (Nat.le_of_not_lt fun hlt => hb ⟨he, he ▸ hlt⟩)]
        · exact List.getElem?_set_ne (Ne.symm he)
      change w.isSubclass (((w.cells.set a cell)[b]?.map classOfCell).getD .object) c = true at hv
      rwa [hsame] at hv
  | _ => exact hv

theorem text (h : w₀.Spares c w) (s : String) : w₀.Spares c (Run.text s w).2 := by
  rw [Run.text]
  split
  · exact h
  · exact ⟨h.toAfter.trans (Grows.count h.orderly h.labelled _).toAfter, h.instances⟩

end Spares

end World

/-! ## Attributes -/

section
variable {w : World} {k : ClassRef} {n : String} {x : Value} {slots : List ((ClassRef × String) × Value)} {fuel a : Nat}

/-- The world in which an instance holds an attribute and no other one. -/
def World.withAttribute (w : World) (a : Nat) (k : ClassRef) (slots : List ((ClassRef × String) × Value)) (n : String) (x : Value) :
    World :=
  World.update (World.update { w with cells := w.cells ++ [.dict []] } a (.object k slots (some w.cells.length)))
    w.cells.length (.dict [(.constant n, x)])

theorem World.cell?_withAttribute (ha : a < w.cells.length) :
    (w.withAttribute a k slots n x).cell? (.cell a) = some (.object k slots (some w.cells.length)) ∧
      (w.withAttribute a k slots n x).cell? (.cell w.cells.length) = some (.dict [(.constant n, x)]) := by
  have hlength : ({ w with cells := w.cells ++ [.dict []] } : World).cells.length = w.cells.length + 1 := by simp
  refine ⟨?_, World.cell?_update ?_ _⟩
  · rw [World.withAttribute, World.cell?_update_of_ne (Nat.ne_of_lt ha), World.cell?_update (by rw [hlength]; omega)]
  · rw [World.update, List.length_set, hlength]
    exact Nat.lt_succ_self _

theorem World.Grows.withAttribute {w₀ : World} (h : w₀.Grows w) (ha : w₀.cells.length ≤ a) :
    w₀.Grows (w.withAttribute a k slots n x) :=
  ((h.trans (.append h.orderly h.labelled _)).update ha _).update h.cells.length_le _

theorem World.Spares.withAttribute {w₀ : World} {index : Nat} (h : w₀.Spares (.made index) w)
    (hk : w.isSubclass k (.made index) = false) : w₀.Spares (.made index) (w.withAttribute a k slots n x) := by
  have hdict : w.isSubclass (.builtin "dict") (.made index) = false := World.isSubclass_builtin h.orderly (by decide)
  have hs : w₀.Spares (.made index) { w with cells := w.cells ++ [.dict []] } := h.append hdict
  have hs' : w₀.Spares (.made index)
      (World.update { w with cells := w.cells ++ [.dict []] } a (.object k slots (some w.cells.length))) := hs.update a hk
  exact hs'.update _ hdict

theorem assign_own {owner : String} (hv : w.cell? (.cell a) = some (.object k slots none))
    (hset : w.bound? k "__setattr__" = some (.native owner "__setattr__")) (hn : w.bound? k n = none)
    (hholds : (w.info k).holdsAttributes = true) :
    answerWithin (fuel + 1) (.assign (.cell a) n x) w = (.ok .nothing, w.withAttribute a k slots n x) := by
  have hlt : a < w.cells.length := (List.getElem?_eq_some_iff.mp hv).1
  rw [show k = w.classOf (.cell a) from (World.classOf_of_cell? hv).symm] at hset hn hholds
  let w₁ : World := { w with cells := w.cells ++ [.dict []] }
  let w₂ : World := w₁.update a (.object k slots (some w.cells.length))
  have hdictionary : BuiltinData.dictionary (.cell a) w = (.ok (.cell w.cells.length), w₂) := by
    rw [BuiltinData.dictionary, world_bind]
    simp only [hv]
    rfl
  have hentries : w₂.entries? (.cell w.cells.length) = some [] := by
    rw [World.entries?, World.cell?_update_of_ne (Nat.ne_of_gt hlt), World.cell?_allocated w (.dict [])]
  have hown : Assigning.assignOwn (.cell a) n x w = (.ok (), w.withAttribute a k slots n x) := by
    rw [Assigning.assignOwn, world_bind, hholds, if_pos rfl, BuiltinData.changeAttributes, bind_of_ok hdictionary]
    simp only [change_apply, hentries]
    rfl
  have hassign : Assigning.assign (answerWithin fuel) (.cell a) n x w = (.ok (), w.withAttribute a k slots n x) := by
    rw [Assigning.assign, world_bind]
    simp only [hset]
    rw [Assigning.assignInstance, world_bind]
    simp only [hn]
    exact hown
  exact (bind_of_ok hassign).trans rfl

end

/-! ## Errors -/

/-- An error that carries a value, as its class is told to. -/
def World.Bears (w : World) (k : ClassRef) (e x : Value) : Prop :=
  ∃ slots a, w.cell? e = some (.object k slots (some a)) ∧ w.cell? (.cell a) = some (.dict [(.constant "value", x)])

/-- The world in which an error has been made that is not initialised yet. -/
def World.failing (w : World) (k : ClassRef) (x : Value) : World :=
  { w with cells := w.cells ++ [.tuple [x]] ++ [.object k [(exceptionSlot "args", .cell w.cells.length)] none] }

namespace Loading.IsError

variable {w w₀ : World} {c k : ClassRef} {n s : String} {x e : Value} {fuel limit a index : Nat}

theorem bound? (h : IsError w k) (ho : w.Orderly) (hn : n ∉ errorNames) :
    w.bound? k n = World.initial.bound? (.contract .valueValidationError) n := by
  have hmade : ∀ b ∈ Contract.valueValidationError.linearization, ∀ index, b ≠ .made index := by decide
  obtain ⟨before, hline, hbefore⟩ := h.behind
  have hnone : before.findSome? (w.member? · n) = none :=
    List.findSome?_eq_none_iff.mpr fun b hb => (hbefore b hb).2 n hn
  rw [World.bound?, hline, World.firstMember?, List.findSome?_append, hnone, Option.none_or]
  refine World.Agrees.firstMember? (fun b hb => ho.ground b (hmade b hb)) fun hmem => hn ?_
  exact List.mem_append_left _ hmem

theorem isSubclass_contract (h : IsError w k) (hc : c ∈ Contract.valueValidationError.linearization) :
    w.isSubclass k c = true := by
  obtain ⟨before, hline, -⟩ := h.behind
  refine decide_eq_true ?_
  rw [hline]
  exact List.mem_append_right _ hc

theorem grows {w' : World} (h : IsError w k) (hg : w.Grows w') : IsError w' k :=
  h.of_agrees (hg.agrees_all k) fun b _ _ => hg.agrees_all b

theorem read_value (h : IsError w k) (ho : w.Orderly) (he : w.Bears k e x) :
    answerWithin (fuel + 1) (.read e "value") w = (.ok x, w) := by
  obtain ⟨slots, a, hcell, hdict⟩ := he
  have hbound : w.bound? (w.classOf e) "value" = none := by
    rw [World.classOf_of_cell? hcell]
    exact (h.bound? ho (by decide)).trans (by decide)
  have hattribute : w.attribute? e "value" = some x := by
    cases e with
    | cell b =>
      have hattributes : w.attributes (.cell b) = [(.constant "value", x)] := by
        simp only [World.attributes, hcell, World.entries?, hdict]
        rfl
      change World.keyed? (w.attributes (.cell b)) _ = some x
      rw [hattributes]
      rfl
    | _ => cases hcell
  refine read_of_ofInstance ho (ne_cls_of_cell? hcell) ?_ nofun
  rw [Attribute.ofInstance, world_bind]
  simp only [hbound, hattribute]
  rfl

theorem create_spec (h : IsError w k) (ho : w.Orderly) (ask : Answering) :
    Calling.create ask k [x] [] w = (.ok (.cell (w.cells ++ [Cell.tuple [x]]).length), w.failing k x) := by
  have hnew : w.bound? k "__new__" = some (.native "BaseException" "__new__") := (h.bound? ho (by decide)).trans (by decide)
  have hroot : w.isSubclass k (.builtin "BaseException") = true := h.isSubclass_contract (by decide)
  rw [Calling.create, world_bind]
  simp only [hnew]
  rw [BuiltinCall.make, world_bind]
  simp only [hroot, if_true]
  rfl

theorem initError_spec (h : IsError w₀ k) (hg : w₀.Grows w) (ha : w₀.cells.length ≤ a)
    {slots : List ((ClassRef × String) × Value)} (hv : w.cell? (.cell a) = some (.object k slots none))
    (hx : w₀.Shows limit x s) (hf : limit ≤ fuel + 1) :
    ∃ w', Function.initError (answerWithin (fuel + 1)) (.cell a) x w = (.ok .nothing, w') ∧ w₀.Grows w' ∧
      w'.Bears k (.cell a) x ∧ ∀ index, .made index ∉ w₀.linearize k →
        w₀.Abstains (.made index) (answerWithin (fuel + 1) (.repr x)) → w₀.Spares (.made index) w → w₀.Spares (.made index) w' := by
  obtain ⟨t, w₁, hrepr, hg₁, ht⟩ := hx (fuel + 1) hf w hg
  have hshown : (answerWithin (fuel + 1)).shown x w = (.ok s, w₁) := by
    rw [Answering.shown]
    rw [bind_of_ok hrepr, ht]
    rfl
  let message := rejectionText (w₁.info (w₁.classOf (.cell a))).name s
  obtain ⟨i, w₂, htext, hg₂⟩ := text_spec hg₁.orderly hg₁.labelled message
  have hg₀₂ : w₀.Grows w₂ := hg.trans (hg₁.trans hg₂)
  -- the arguments are the message alone
  let arguments : Cell := .tuple [.text message i]
  let w₃ : World := { w₂ with cells := w₂.cells ++ [arguments] }
  have hg₃ : w₂.Grows w₃ := .append hg₂.orderly hg₂.labelled _
  let slots' := World.putSlot (exceptionSlot "args") (.cell w₂.cells.length) slots
  let w₄ : World := w₃.update a (.object k slots' none)
  have hg₄ : w₀.Grows w₄ := (hg₀₂.trans hg₃).update ha _
  have hv₃ : w₃.cell? (.cell a) = some (.object k slots none) := hg₃.cell? (hg₂.cell? (hg₁.cell? hv))
  have hlt : a < w₃.cells.length := (List.getElem?_eq_some_iff.mp hv₃).1
  have hv₄ : w₄.cell? (.cell a) = some (.object k slots' none) := World.cell?_update hlt _
  have h₄ : IsError w₄ k := h.grows hg₄
  have hset : w₄.bound? k "__setattr__" = some (.native "BaseException" "__setattr__") :=
    (h₄.bound? hg₄.orderly (by decide)).trans (by decide)
  have hassign : answerWithin (fuel + 1) (.assign (.cell a) "value" x) w₄ =
      (.ok .nothing, w₄.withAttribute a k slots' "value" x) :=
    assign_own hv₄ hset ((h₄.bound? hg₄.orderly (by decide)).trans (by decide)) h₄.holdsAttributes
  refine ⟨w₄.withAttribute a k slots' "value" x, ?_, hg₄.withAttribute ha, ?_, fun index hindex hrest hs => ?_⟩
  · have hinstance : w.isInstance (.cell a) (.contract .valueValidationError) = true := by
      rw [World.isInstance_of_cell? hv]
      exact (h.grows hg).isSubclass_contract (by decide)
    have htuple : Run.tuple [.text message i] w₂ = (.ok (.cell w₂.cells.length), w₃) := rfl
    have hslot : w₃.setSlot (.cell a) (exceptionSlot "args") (.cell w₂.cells.length) = w₄ := World.setSlot_eq hv₃ _ _
    rw [Function.initError, world_bind, hinstance, if_pos rfl, bind_of_ok hshown, world_bind, bind_of_ok htext,
      bind_of_ok htuple, change_bind, hslot, Answering.assign, bind_apply, bind_of_ok hassign]
    rfl
  · obtain ⟨hcell, hdict⟩ := World.cell?_withAttribute (List.getElem?_eq_some_iff.mp hv₄).1
    exact ⟨slots', _, hcell, hdict⟩
  · have hs₁ := hrest w hg.toAfter
    rw [hrepr] at hs₁
    have hs₂ := (hs.trans hs₁).text message
    rw [htext] at hs₂
    have htuple : w₂.isSubclass (.builtin "tuple") (.made index) = false := World.isSubclass_builtin hg₂.orderly (by decide)
    have hk : ∀ {w' : World}, w₀.Grows w' → w'.isSubclass k (.made index) = false := fun hg => by
      rw [World.isSubclass, hg.linearize]
      exact decide_eq_false hindex
    have hs₃ : w₀.Spares (.made index) w₃ := hs₂.append htuple
    have hs₄ : w₀.Spares (.made index) w₄ := hs₃.update a (hk (hg₀₂.trans hg₃))
    exact hs₄.withAttribute (hk hg₄)

/-- A call of the class of an error makes an error that carries the value, and nothing else that is there later. -/
theorem construct_spec (h : IsError w k) (ho : w.Orderly) (hl : w.Labelled) (hx : w.Shows limit x s)
    (hlimit : limit ≤ fuel + 1) : ∃ e w', answerWithin (fuel + 4) (.call (.cls k) [x] []) w = (.ok e, w') ∧ w.Grows w' ∧ w'.Bears k e x ∧
      ∀ index, .made index ∉ w.linearize k → w.Abstains (.made index) (answerWithin (fuel + 1) (.repr x)) →
        w.Spares (.made index) w' := by
  obtain ⟨f, hf, hbody⟩ : ∃ f : Function,
      World.initial.bound? (.contract .valueValidationError) "__init__" = some (.function f) ∧ f.body = .errorInit := ⟨_, rfl, rfl⟩
  -- the error and its arguments are put down first; the bound initialiser is a cell of its own
  let v : Value := .cell (w.cells ++ [Cell.tuple [x]]).length
  let w₁ : World := w.failing k x
  let w₂ : World := { w₁ with cells := w₁.cells ++ [.method v (.function f)] }
  have hga : w.Grows { w with cells := w.cells ++ [.tuple [x]] } := .append ho hl _
  have hg₁ : w.Grows w₁ := hga.trans (.append hga.orderly hga.labelled _)
  have hg₂ : w₁.Grows w₂ := .append hg₁.orderly hg₁.labelled _
  have hv : w₁.cell? v = some (.object k [(exceptionSlot "args", .cell w.cells.length)] none) :=
    World.cell?_allocated { w with cells := w.cells ++ [.tuple [x]] } _
  have hclass : w₁.classOf v = k := World.classOf_of_cell? hv
  have h₁ : IsError w₁ k := h.grows hg₁
  obtain ⟨w', hinit, hg', hbears, hspares⟩ := h.initError_spec (hg₁.trans hg₂) (by simp) (hg₂.cell? hv) hx hlimit
  have hbound : w₁.bound? k "__init__" = some (.function f) := (h₁.bound? hg₁.orderly (by decide)).trans hf
  have hspecial : Attribute.special? (answerWithin (fuel + 3)) v "__init__" w₁ = (.ok (some (.cell w₁.cells.length)), w₂) := by
    rw [Attribute.special?, world_bind, hclass]
    simp only [hbound]
    rfl
  have hgiven : f.arguments? [v, x] [] = some [v, x] := by
    rw [Function.arguments?, hbody]
    rfl
  have hcall : answerWithin (fuel + 3) (.call (.cell w₁.cells.length) [x] []) w₂ = (.ok .nothing, w') := by
    rw [call_method (World.cell?_allocated w₁ _), call_function hgiven]
    simp only [Function.run, hbody]
    exact hinit
  have hinitialise : Calling.initialise (answerWithin (fuel + 3)) v k [x] [] w₁ = (.ok (), w') := by
    rw [Calling.initialise, world_bind]
    simp only [hbound]
    rw [bind_of_ok hspecial]
    change (answerWithin (fuel + 3) (.call _ [x] []) >>= _) w₂ = _
    rw [bind_of_ok hcall]
    rfl
  have hinstance : w₁.isInstance v k = true := by
    rw [World.isInstance, hclass]
    exact decide_eq_true (hg₁.orderly.mem_linearize_self (.inl h₁.there))
  have hconstruct : Calling.construct (answerWithin (fuel + 3)) k [x] [] w = (.ok v, w') := by
    rw [Calling.construct, bind_of_ok (h.create_spec ho _), world_bind, hinstance, if_pos rfl, hclass, bind_apply, hinitialise]
    rfl
  refine ⟨v, w', ?_, hg', hbears, fun index hindex hrest => hspares index hindex hrest ?_⟩
  · cases k with
    | builtin n => exact absurd rfl (h.notBuiltin n)
    | contract b => exact hconstruct
    | made n => exact hconstruct
  -- the two cells around the error are a tuple and a method, of no class the module makes
  · have hsub : ∀ n, (∀ b ∈ World.initial.linearize (.builtin n), ∀ index, b ≠ .made index) →
        ∀ {w' : World}, w.Grows w' → w'.isSubclass (.builtin n) (.made index) = false :=
      fun n hn _ hg => World.isSubclass_builtin hg.orderly hn
    have hsa : w.Spares (.made index) { w with cells := w.cells ++ [.tuple [x]] } :=
      (World.Spares.refl ho hl).append (hsub "tuple" (by decide) (.refl ho hl))
    have hk : World.isSubclass { w with cells := w.cells ++ [.tuple [x]] } k (.made index) = false := by
      rw [World.isSubclass, hga.linearize]
      exact decide_eq_false hindex
    have hs₁ : w.Spares (.made index) w₁ := hsa.append hk
    exact hs₁.append (hsub "method" (by decide) hg₁)

end Loading.IsError

end DomainModel.Live
