import DomainModel.Proofs.Live.Hierarchy

/-!
# Answers to requests

What the rules answer to a request, one lemma for each way in which a value is called, or an attribute of it is read
or assigned.
-/

namespace DomainModel.Live

open Run

namespace Request
variable {fuel : Nat} {w w' : World} {v x : Value} {c k : ClassRef} {n : String} {f g : Function}

theorem answerWithin_succ (fuel : Nat) (r : Request) :
    answerWithin (fuel + 1) r = r.answerWith (answerWithin fuel) := rfl

/-! ## Truth -/

theorem isTrue_truth (b : Bool) (w : World) : (answerWithin (fuel + 1)).isTrue (.truth b) w = (.ok b, w) := by
  have htruth : answerWithin (fuel + 1) (.truth (.truth b)) w = (.ok (.truth b), w) := by
    cases b <;> rfl
  rw [Answering.isTrue, bind_of_ok htruth]
  rfl

/-! ## Calls -/

theorem call_function {given arguments : List Value} {named : List (String × Value)}
    (h : f.arguments? given named = some arguments) :
    answerWithin (fuel + 1) (.call (.function f) given named) w = f.run (answerWithin fuel) arguments w := by
  simp only [answerWithin_succ, answerWith, Calling.call, world_bind, h]

theorem call_method {a : Nat} {self g : Value} {given : List Value} {named : List (String × Value)}
    (h : w.cell? (.cell a) = some (.method self g)) : answerWithin (fuel + 1) (.call (.cell a) given named) w =
      answerWithin fuel (.call g (self :: given) named) w := by
  simp only [answerWithin_succ, answerWith, Calling.call, world_bind, h]
  rfl

/-! ## Attributes of instances -/

/-- In an orderly world an attribute is read as its class and the instance have it. -/
theorem read_of_ofInstance {r : Except Fault Value} (h : w.Orderly) (hv : ∀ c, v ≠ .cls c)
    (hr : Attribute.ofInstance (answerWithin fuel) v n w = (r, w'))
    (h' : r = .error .noAttribute → w'.Orderly) : answerWithin (fuel + 1) (.read v n) w = (r, w') := by
  have hread : answerWithin (fuel + 1) (.read v n) = Attribute.read (answerWithin fuel) v n := by
    cases v <;> first | exact absurd rfl (hv _) | rfl
  rw [hread, Attribute.read, world_bind]
  simp only [h.hasOwn_hook (n := "__getattribute__") (by decide), Bool.false_eq_true, if_false]
  cases r with
  | ok x =>
    rw [bind_of_ok (attempt_of_ok hr)]
    rfl
  | error e =>
    by_cases he : e = .noAttribute
    · subst he
      rw [bind_of_ok (attempt_of_noAttribute hr)]
      change (Attribute.special? (answerWithin fuel) v "__getattr__" >>= _) w' = _
      have hnone : Attribute.special? (answerWithin fuel) v "__getattr__" w' = (.ok none, w') := by
        rw [Attribute.special?, world_bind, (h' rfl).bound?_getattr]
        rfl
      rw [bind_of_ok hnone]
      rfl
    · rw [bind_apply, attempt, hr]
      cases e with
      | thrown e => rfl
      | raised kind => cases kind <;> first | rfl | exact absurd rfl he

theorem read_property {g : Function} {s : Option Function} (h : w.Orderly) (hv : ∀ c, v ≠ .cls c)
    (hb : w.bound? (w.classOf v) n = some (.property g s))
    (h' : (answerWithin fuel (.call (.function g) [v] []) w).1 = .error .noAttribute →
      (answerWithin fuel (.call (.function g) [v] []) w).2.Orderly) :
    answerWithin (fuel + 1) (.read v n) w = answerWithin fuel (.call (.function g) [v] []) w := by
  refine read_of_ofInstance h hv ?_ h'
  rw [Attribute.ofInstance, world_bind]
  simp only [hb]
  cases w.attribute? v n <;> rfl

theorem read_none {cs : ClassRef} {slots : List ((ClassRef × String) × Value)} {attributes : Option Nat} (h : w.Orderly)
    (ho : w.cell? v = some (.object cs slots attributes)) (hb : w.bound? (w.classOf v) n = none)
    (ha : w.attribute? v n = none) : answerWithin (fuel + 1) (.read v n) w = (.error .noAttribute, w) := by
  have hv : ∀ c, v ≠ .cls c := by
    rintro c rfl
    cases ho
  refine read_of_ofInstance h hv ?_ fun _ => h
  rw [Attribute.ofInstance, world_bind]
  simp only [hb, ha, Attribute.ofNone, world_bind, ho]
  rfl

theorem read_function {f : Function} (h : w.Orderly) (hv : ∀ c, v ≠ .cls c)
    (hb : w.bound? (w.classOf v) n = some (.function f)) (ha : w.attribute? v n = none) :
    answerWithin (fuel + 1) (.read v n) w =
      (.ok (.cell w.cells.length), { w with cells := w.cells ++ [.method v (.function f)] }) := by
  refine read_of_ofInstance h hv ?_ nofun
  rw [Attribute.ofInstance, world_bind]
  simp only [hb, ha]
  rfl

theorem read_class (h : w.Orderly) (v : Value) :
    answerWithin (fuel + 1) (.read v "__class__") w = (.ok (.cls (w.classOf v)), w) := by
  have hdata : Attribute.isData w (.native "object" "__class__") = true := by
    rw [Attribute.isData]
    decide
  by_cases hv : ∃ c, v = .cls c
  · obtain ⟨c, rfl⟩ := hv
    rw [answerWithin_succ, answerWith, Attribute.ofClass, world_bind]
    simp only [h.bound?_class, Option.any_some, hdata, if_true]
    rfl
  · refine read_of_ofInstance h (fun c hc => hv ⟨c, hc⟩) ?_ nofun
    rw [Attribute.ofInstance, world_bind]
    simp only [h.bound?_class]
    cases w.attribute? v "__class__" with
    | none => rfl
    | some x => exact congrFun (if_pos hdata) w

end Request

end DomainModel.Live
