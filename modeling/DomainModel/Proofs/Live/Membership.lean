import DomainModel.Proofs.Live.Answers

/-!
# Membership in orderly worlds

An abstract class asks the classes that build on it, one after the other, whether another class is one of them. In an
orderly world the answer is what the linearisation of the other class says, and it is found within a chain of
requests that is not longer than classes stand behind each other.
-/

namespace DomainModel.Live

open Run

def World.depth (w : World) : Nat := (w.classes.map fun e => e.2.linearization.length).foldr max 0

theorem World.length_le_depth {w : World} {e : ClassRef × ClassInfo} (he : e ∈ w.classes) :
    e.2.linearization.length ≤ w.depth := by
  have hfold : ∀ (ns : List Nat), ∀ n ∈ ns, n ≤ ns.foldr max 0 := by
    intro ns
    induction ns with
    | nil => exact nofun
    | cons m ms ih =>
      intro n hn
      rcases List.mem_cons.mp hn with rfl | hn
      · exact Nat.le_max_left _ _
      · exact Nat.le_trans (ih n hn) (Nat.le_max_right _ _)
  exact hfold _ _ (List.mem_map_of_mem he)

namespace Membership
variable {fuel : Nat} {w : World} {c s : ClassRef} {v : Value}

theorem isSubclassOfAny_of_none {ask : Answering} {cs : List ClassRef} (htruth : ask.isTrue (.truth false) w = (.ok false, w))
    (h : ∀ c ∈ cs, ask (.isSubclass v c) w = (.ok (.truth false), w)) : isSubclassOfAny ask v cs w = (.ok false, w) := by
  unfold isSubclassOfAny
  induction cs with
  | nil => rfl
  | cons c cs ih =>
    rw [List.foldlM_cons]
    have hstep : (do if false = true then return true else ask.isTrue (← ask (.isSubclass v c)) : Run Bool) w =
        (.ok false, w) := by
      rw [if_neg Bool.false_ne_true, bind_of_ok (h c List.mem_cons_self), htruth]
    rw [bind_of_ok hstep]
    exact ih fun c hc => h c (List.mem_cons_of_mem _ hc)

/-- The classes that build on a class directly have longer linearisations. -/
theorem lt_of_mem_subclasses (h : w.Orderly) {sub : ClassRef} (hsub : sub ∈ w.subclasses c) :
    w.isFixed sub = false ∧ c ∈ w.linearize sub ∧ (w.linearize c).length < (w.linearize sub).length ∧
      (w.linearize sub).length ≤ w.depth := by
  obtain ⟨e, he, rfl⟩ := List.mem_map.mp hsub
  obtain ⟨he, hc⟩ := List.mem_filter.mp he
  have hl : w.linearize e.1 = e.2.linearization := by rw [World.linearize, h.info_of_mem he]
  have hbase := h.bases e he c (of_decide_eq_true hc)
  rw [hl]
  refine ⟨?_, hbase.1, hbase.2, World.length_le_depth he⟩
  rw [World.isFixed, World.lookup_of_mem h.keys he]
  rfl

/-- What an abstract class says of another one, if the classes that build on it say what they should. -/
theorem isSubclass_step (h : w.Orderly) {ask : Answering}
    (htruth : ask.isTrue (.truth false) w = (.ok false, w))
    (hsubs : ∀ sub ∈ w.subclasses c, ask (.isSubclass (.cls s) sub) w = (.ok (.truth (w.isSubclass s sub)), w)) :
    isSubclass ask (.cls s) c w = (.ok (w.isSubclass s c), w) := by
  rw [isSubclass, world_bind]
  split
  · next hc =>
    have hregistry : checkRegistry w c w = (.ok (), w) := by rw [checkRegistry, if_pos (h.bound?_registry hc)]; rfl
    rw [isAbstractSubclass, world_bind, bind_of_ok hregistry]
    simp only [world_bind, h.hasOwn_hook (n := "__subclasshook__") (by decide), Bool.false_eq_true, if_false]
    rw [pure_bind_apply]
    dsimp only
    rw [world_bind]
    by_cases hs : w.isSubclass s c = true
    · rw [if_pos hs, hs]
      rfl
    · have hnone : ∀ sub ∈ registered w c ++ w.subclasses c, ask (.isSubclass (.cls s) sub) w = (.ok (.truth false), w) := by
        intro sub hsub
        have hempty : registered w c = [] := by rw [registered, h.registered]; rfl
        rw [hempty, List.nil_append] at hsub
        rw [hsubs sub hsub]
        obtain ⟨hmade, hc, -, -⟩ := lt_of_mem_subclasses h hsub
        have hfalse : w.isSubclass s sub = false := by
          refine Bool.eq_false_iff.mpr fun hsub => hs ?_
          exact decide_eq_true (h.linearize_subset hmade (of_decide_eq_true hsub) hc)
        rw [hfalse]
      rw [if_neg hs, Bool.eq_false_iff.mpr hs]
      exact isSubclassOfAny_of_none htruth hnone
  · rfl

/-- A class builds on another one if the other one stands in its linearisation. -/
theorem answerWithin_isSubclass (h : w.Orderly) (s : ClassRef)
    (hf : w.depth ≤ fuel + (w.linearize c).length) :
    Request.answerWithin (fuel + 2) (.isSubclass (.cls s) c) w = (.ok (.truth (w.isSubclass s c)), w) := by
  have hanswer : ∀ n, isSubclass (Request.answerWithin n) (.cls s) c w = (.ok (w.isSubclass s c), w) →
      Request.answerWithin (n + 1) (.isSubclass (.cls s) c) w = (.ok (.truth (w.isSubclass s c)), w) := by
    intro n hn
    rw [Request.answerWithin_succ, Request.answerWith, bind_of_ok hn]
    rfl
  induction fuel generalizing c with
  | zero =>
    -- the linearisation is as long as any, so nothing builds on the class
    refine hanswer 1 (isSubclass_step h (Request.isTrue_truth false w) fun sub hsub => ?_)
    obtain ⟨-, -, hlt, hle⟩ := lt_of_mem_subclasses h hsub
    omega
  | succ fuel ih =>
    refine hanswer (fuel + 2) (isSubclass_step h (Request.isTrue_truth false w) fun sub hsub => ?_)
    obtain ⟨-, -, hlt, -⟩ := lt_of_mem_subclasses h hsub
    refine ih (by omega) fun n hn => ?_
    rw [Request.answerWithin_succ, Request.answerWith, bind_of_ok hn]
    rfl

/-- A value is an instance of a class if the class stands in the linearisation of the value's class. -/
theorem answerWithin_isInstance (h : w.Orderly) (v : Value) (hc : c ∈ w.linearize c)
    (hf : w.depth ≤ fuel + (w.linearize c).length) :
    Request.answerWithin (fuel + 3) (.isInstance v (.cls c)) w = (.ok (.truth (w.isInstance v c)), w) := by
  have hclass : Request.answerWithin (fuel + 2) (.read v "__class__") w = (.ok (.cls (w.classOf v)), w) :=
    Request.read_class h v
  have hsub := answerWithin_isSubclass h (w.classOf v) hf
  have hrun : isInstance (Request.answerWithin (fuel + 2)) v (.cls c) w = (.ok (w.isInstance v c), w) := by
    rw [isInstance, world_bind]
    dsimp only
    by_cases hown : w.classOf v = c
    · rw [if_pos hown, World.isInstance, hown, World.isSubclass, decide_eq_true hc]
      rfl
    · rw [if_neg hown]
      split
      · next habstract =>
        have hregistry : checkRegistry w c w = (.ok (), w) := by
          rw [checkRegistry, if_pos (h.bound?_registry habstract)]
          rfl
        rw [isAbstractInstance, world_bind, bind_of_ok hregistry, Answering.read, bind_of_ok hclass, bind_of_ok hsub,
          bind_of_ok (Request.isTrue_truth _ w), World.isInstance]
        cases w.isSubclass (w.classOf v) c <;> simp
      · rw [isPlainInstance, world_bind]
        by_cases hi : w.isInstance v c = true
        · rw [if_pos hi, hi]
          rfl
        · have hread : (Request.answerWithin (fuel + 2)).read? v "__class__" w = (.ok (some (.cls (w.classOf v))), w) := by
            rw [Answering.read?, Answering.read, bind_of_ok (attempt_of_ok hclass)]
            rfl
          rw [if_neg hi, bind_of_ok hread]
          rfl
  rw [Request.answerWithin_succ, Request.answerWith, bind_of_ok hrun]
  rfl

end Membership

end DomainModel.Live
