import DomainModel.Proofs.Live.Validated

/-!
# Copies of value objects

An instance of a value object may copy itself, or be copied. What comes of any chain of such copies equals the instance, if copies
of its value equal the value.
-/

namespace DomainModel.Live

open Run Loading Request

/-! ## Chains of copies -/

inductive Duplication
  | clone
  | copy
deriving Repr, DecidableEq

namespace Duplication

def run (ask : Answering) (v : Value) : Duplication → Run Value
  | clone => do ask.call (← ask.read v "clone") []
  | copy => ask (.copy v)

/-- What comes of a value that is copied in some ways, one after the other. -/
def runAll (ask : Answering) (v : Value) (steps : List Duplication) : Run Value := steps.foldlM (run ask) v

end Duplication

/-- Two values are equal, whichever of them is asked. -/
def World.Matches (w : World) (limit : Nat) (x y : Value) : Prop := w.Equates limit x y true ∧ w.Equates limit y x true

/-- What is copied from values of a kind is of the kind, and equals a value. -/
structure World.Keeps (w : World) (limit : Nat) (S : World → Value → Prop) (x : Value) : Prop where
  grows : ∀ w' w'' y, w.Grows w' → w'.Grows w'' → S w' y → S w'' y
  copies : ∀ w', w.Grows w' → ∀ y, S w' y → ∀ fuel ≥ limit,
    w'.Yields (answerWithin fuel (.copy y)) fun z w'' => S w'' z ∧ w''.Matches limit x z

/-- Copies of a value, and copies of these, equal the value. -/
def World.Preserves (w : World) (limit : Nat) (x : Value) : Prop := ∃ S : World → Value → Prop, S w x ∧ w.Keeps limit S x

namespace World

variable {w w' : World} {limit : Nat} {x y v : Value} {n : String}

theorem Matches.grows (h : w.Matches limit x y) (hg : w.Grows w') : w'.Matches limit x y := ⟨h.1.grows hg, h.2.grows hg⟩

theorem Keeps.after {S : World → Value → Prop} (h : w.Keeps limit S x) (hg : w.Grows w') : w'.Keeps limit S x :=
  ⟨fun u u' y hu => h.grows u u' y (hg.trans hu), fun u hu => h.copies u (hg.trans hu)⟩

theorem Lacks.grows (h : w.Lacks v n) (hg : w.Grows w') : w'.Lacks v n := by
  obtain ⟨k, slots, attributes, hcell, hnone⟩ := h
  refine ⟨k, slots, attributes, hg.cell? hcell, fun a ha => ?_⟩
  obtain ⟨entries, hentries, hkey⟩ := hnone a ha
  exact ⟨entries, hg.cell? hentries, hkey⟩

theorem Lacks.attribute? (h : w.Lacks v n) : w.attribute? v n = none := by
  obtain ⟨k, slots, attributes, hcell, hnone⟩ := h
  cases v with
  | cell b =>
    change keyed? (w.attributes (.cell b)) (.constant n) = none
    cases attributes with
    | none =>
      simp only [World.attributes, hcell]
      rfl
    | some a =>
      obtain ⟨entries, hentries, hkey⟩ := hnone a rfl
      simp only [World.attributes, hcell, entries?, hentries, Option.getD_some]
      exact hkey
  | _ => cases hcell

end World

/-! ## What is imported for copies -/

namespace World.HostsValue

variable {w w' : World} {m : Module} {d : Declaration} {p : ClassPlan} {c k : ClassRef} {vs : List (Variant × ClassRef)}
  {v x y z : Value} {f : Function} {fuel limit : Nat} {step : Duplication} {steps : List Duplication} {S : World → Value → Prop}

section
variable (h : w.HostsValue m d p c vs) (hcopy : "_copy" ∉ m.assigned)
include h hcopy

theorem global_copy : f.global "_copy" w = (.ok (.described "module" "<module 'copy'>"), w) := by
  have hspell : f.spell "_copy" = "_copy" := spell_slot (n := "copy") (by decide)
  refine global_of_global? h.loaded.stage.grounds.cutOff ?_
  rw [hspell, World.global?, h.loaded.stage.untouched _ hcopy]
  rfl

omit hcopy in
theorem exists_copy (fuel : Nat) : ∃ g : Function, g.body = .standard .copy ∧
    answerWithin (fuel + 1) (.read (.described "module" "<module 'copy'>") "copy") w = (.ok (.function g), w) := by
  have hbound : w.bound? (.builtin "module") "copy" = none := by
    rw [Attribute.bound?_builtin h.orderly (by decide) (by decide)]
    decide
  obtain ⟨g, hg, hbody⟩ : ∃ g : Function, Standard.copyMembers.lookup "copy" = some (.function g) ∧ g.body = .standard .copy :=
    ⟨_, rfl, rfl⟩
  have hattribute : w.attribute? (.described "module" "<module 'copy'>") "copy" = some (.function g) := hg
  refine ⟨g, hbody, read_of_ofInstance h.orderly nofun ?_ nofun⟩
  rw [Attribute.ofInstance, world_bind]
  simp only [show w.classOf (.described "module" "<module 'copy'>") = .builtin "module" from rfl, hbound, hattribute]
  rfl

/-! ## Single copies -/

theorem yields_clone (hv : w.Valued c k v y) (hy : S w y) (hx : w.Keeps limit S x) (hf : limit + 4 ≤ fuel) :
    w.Yields (f.cloneOf (answerWithin fuel) "value" v) fun u w' =>
      w'.Lacks u "clone" ∧ ∃ z, w'.Valued c k u z ∧ S w' z ∧ w'.Matches limit x z := by
  obtain ⟨e, rfl⟩ := Nat.exists_eq_add_of_le' hf
  intro w₁ hg₁
  have h₁ := h.after hg₁.toAfter
  have hv₁ := h.valued_grows hv hg₁
  have hclass : w₁.classOf v = k := by
    obtain ⟨-, slots, attributes, hcell, -⟩ := hv₁
    exact World.classOf_of_cell? hcell
  obtain ⟨g, hg, hread⟩ := h₁.exists_copy (e + limit + 3)
  have hgiven : g.arguments? [y] [] = some [y] := by
    rw [Function.arguments?, hg]
    rfl
  -- the value is copied
  have hrefl : w.Grows w := .refl h.orderly h.labelled
  obtain ⟨z, w₂, hcopied, hg₂, hS, hz⟩ := hx.copies w₁ hg₁ y (hx.grows _ _ y hrefl hg₁ hy) (e + limit + 3) (by omega) w₁
    (.refl h₁.orderly h₁.labelled)
  have hcall : answerWithin (e + limit + 4) (.call (.function g) [y] []) w₁ = (.ok z, w₂) := by
    rw [call_function hgiven]
    simp only [Function.run, hg]
    exact hcopied
  -- an instance is made around the copy
  have h₂ := h₁.after hg₂.toAfter
  have hk₂ := hv₁.1.after h₁.embodies.there hg₂.toAfter
  obtain ⟨i, hi, hname⟩ := h.exists_field
  have hnamed : ([("value", z)].map (·.1)).Perm (d.fields.map (·.name)) := h.names_eq ▸ .refl _
  obtain ⟨w₃, hmade, hg₃, hs⟩ := h₂.toHosts.construct_record h₂.kind (h₂.instances hk₂) hnamed h.not_loses
  have hlacks := hs.lacks (n := "clone")
  obtain ⟨slots, hcell, hslots⟩ := hs
  have hslot := hslots i hi
  rw [hname, show given [("value", z)] "value" = z from rfl] at hslot
  refine ⟨_, w₃, ?_, hg₂.trans hg₃, hlacks, z, ⟨hk₂.after h₂.embodies.there hg₃.toAfter, slots, none, hcell, hslot⟩,
    hx.grows _ _ z (hg₁.trans hg₂) hg₃ hS, hz.grows hg₃⟩
  have htype : f.typeOf (answerWithin (e + limit + 4)) v w₁ = (.ok (.cls k), w₁) := by
    rw [Function.typeOf, bind_of_ok (h₁.global_builtin (by decide)), ← hclass]
    exact call_type v
  rw [show e + (limit + 4) = e + limit + 4 by omega, Function.cloneOf, bind_of_ok htype, bind_of_ok (h₁.global_copy hcopy),
    Answering.read, bind_of_ok hread, bind_of_ok (h₁.stored_value hv₁ (by omega)), Answering.call, bind_of_ok hcall]
  exact hmade

theorem yields_duplicate (hv : w.Valued c k v y) (hl : w.Lacks v "clone") (hy : S w y) (hx : w.Keeps limit S x)
    (hf : limit + 6 ≤ fuel) : w.Yields (step.run (answerWithin fuel) v) fun u w' =>
      w'.Lacks u "clone" ∧ ∃ z, w'.Valued c k u z ∧ S w' z ∧ w'.Matches limit x z := by
  obtain ⟨e, rfl⟩ := Nat.exists_eq_add_of_le' hf
  obtain ⟨hk, slots, attributes, hcell, -⟩ := id hv
  cases step with
  | clone =>
    obtain ⟨f, hbound, hbody⟩ := h.bound?_clone (n := "clone") (by decide) hk.above
    have hgiven : f.arguments? [v] [] = some [v] := by
      rw [Function.arguments?, hbody]
      rfl
    -- the method is allocated when it is read, so it is named by its contents in the world after that
    have hread : w.Yields ((answerWithin (e + (limit + 6))).read v "clone") fun m w' =>
        ∃ a, m = .cell a ∧ w'.cell? (.cell a) = some (.method v (.function f)) := by
      intro w₁ hg
      have hb : w₁.bound? (w₁.classOf v) "clone" = some (.function f) :=
        World.bound?_classOf (hg.cell? hcell) ((hg.bound? k (by decide)).trans hbound)
      exact ⟨_, _, read_function hg.orderly (ne_cls_of_cell? (hg.cell? hcell)) hb (hl.grows hg).attribute?,
        .append hg.orderly hg.labelled _, _, rfl, World.cell?_allocated w₁ _⟩
    refine hread.bind fun m w₁ hg hm => ?_
    obtain ⟨a, rfl, ha⟩ := hm
    rw [show e + (limit + 6) = e + limit + 4 + 2 by omega]
    have hclone := (h.after hg.toAfter).yields_clone hcopy (f := f) (h.valued_grows hv hg)
      (hx.grows _ _ y (.refl h.orderly h.labelled) hg hy) (hx.after hg) (Nat.add_le_add_right (Nat.le_add_left limit e) 4)
    exact yields_method ha hgiven (hclone.congr fun w' _ => by simp only [Function.run, hbody])
  | copy =>
    obtain ⟨f, hbound, hbody⟩ := h.bound?_clone (n := "__copy__") (by decide) hk.above
    have hgiven : f.arguments? [v] [] = some [v] := by
      rw [Function.arguments?, hbody]
      rfl
    have hclone := h.yields_clone hcopy (f := f) hv hy hx (Nat.add_le_add_right (Nat.le_add_left limit e) 4)
    refine World.Yields.congr hclone fun w₁ hg => ?_
    have hcell₁ := hg.cell? hcell
    -- `copy` looks the method up on the class, and no cell is allocated for it
    have hread : (answerWithin (e + limit + 5)).read (.cls k) "__copy__" w₁ = (.ok (.function f), w₁) :=
      Attribute.ofClass_of_bound hg.orderly (by decide) (by decide) ((hg.bound? k (by decide)).trans hbound)
    have hread? : (answerWithin (e + limit + 5)).read? (.cls k) "__copy__" w₁ = (.ok (some (.function f)), w₁) := by
      rw [Answering.read?, bind_of_ok (attempt_of_ok hread)]
      rfl
    change Copying.copy (answerWithin (e + (limit + 5))) v w₁ = _
    rw [show e + (limit + 5) = e + limit + 5 by omega, Copying.copy, world_bind, World.classOf_of_cell? hcell₁]
    cases v with
    | cell a =>
      have hconstant : Copying.isConstant w₁ (.cell a) = false := by simp only [Copying.isConstant, hcell₁]
      simp only [hcell₁, hconstant, World.classOfCell]
      rw [if_neg Bool.false_ne_true, bind_of_ok hread?]
      dsimp only
      rw [Answering.call, call_function hgiven]
      simp only [Function.run, hbody]
    | _ => cases hcell

/-- So is what comes of a chain of copies, if there is one at all. -/
theorem yields_duplicates (hv : w.Valued c k v y) (hl : w.Lacks v "clone") (hy : S w y) (hx : w.Keeps limit S x)
    (hf : limit + 6 ≤ fuel) (hsteps : steps ≠ []) : w.Yields (Duplication.runAll (answerWithin fuel) v steps) fun u w' =>
      w'.Lacks u "clone" ∧ ∃ z, w'.Valued c k u z ∧ S w' z ∧ w'.Matches limit x z := by
  induction steps generalizing w v y with
  | nil => exact absurd rfl hsteps
  | cons step steps ih =>
    rw [Duplication.runAll, List.foldlM_cons]
    refine (h.yields_duplicate hcopy hv hl hy hx hf).bind fun u w₁ hg hu => ?_
    obtain ⟨hlacks, z, hz, hS, hmatches⟩ := hu
    cases steps with
    | nil =>
      refine .pure fun w₂ hg₂ => ?_
      exact ⟨hlacks.grows hg₂, z, (h.after hg.toAfter).valued_grows hz hg₂, hx.grows _ _ z hg hg₂ hS, hmatches.grows hg₂⟩
    | cons step' steps => exact ih (h.after hg.toAfter) hz hlacks hS (hx.after hg) (List.cons_ne_nil _ _)

end

end World.HostsValue

end DomainModel.Live
