import DomainModel.Live.Session

/-!
# Runs, step by step

What a run of several parts gives, from what its parts give in the worlds that they are run in.
-/

namespace DomainModel.Live

namespace Run
variable {α β : Type} {r : Run α} {k : α → Run β} {a : α} {b : β} {e : Fault} {w w' : World}

@[simp]
theorem pure_apply (a : α) (w : World) : (pure a : Run α) w = (.ok a, w) := rfl

@[simp]
theorem throw_apply (e : Fault) (w : World) : (throw e : Run α) w = (.error e, w) := rfl

@[simp]
theorem unsuitable_apply (w : World) : (unsuitable : Run α) w = (.error .unsuitable, w) := rfl

@[simp]
theorem noAttribute_apply (w : World) : (noAttribute : Run α) w = (.error .noAttribute, w) := rfl

@[simp]
theorem fail_apply (kind : FaultKind) (w : World) : (fail kind : Run α) w = (.error (.raised kind), w) := rfl

@[simp]
theorem world_apply (w : World) : world w = (.ok w, w) := rfl

@[simp]
theorem change_apply (f : World → World) (w : World) : change f w = (.ok (), f w) := rfl

@[simp]
theorem allocate_apply (c : Cell) (w : World) :
    allocate c w = (.ok (.cell w.cells.length), { w with cells := w.cells ++ [c] }) := rfl

theorem bind_apply (r : Run α) (k : α → Run β) (w : World) : (r >>= k) w =
    match r w with
    | (.ok a, w') => k a w'
    | (.error e, w') => (.error e, w') := by
  change (ExceptT.bind r k) w = _
  simp only [ExceptT.bind, ExceptT.mk, bind, StateT.bind, ExceptT.bindCont]
  rcases r w with ⟨a | a, w'⟩ <;> rfl

theorem bind_of_ok (h : r w = (.ok a, w')) : (r >>= k) w = k a w' := by rw [bind_apply, h]

theorem bind_of_error (h : r w = (.error e, w')) : (r >>= k) w = (.error e, w') := by rw [bind_apply, h]

@[simp]
theorem world_bind (k : World → Run β) (w : World) : (world >>= k) w = k w w := bind_of_ok rfl

@[simp]
theorem pure_bind_apply (a : α) (k : α → Run β) (w : World) : ((pure a : Run α) >>= k) w = k a w := bind_of_ok rfl

@[simp]
theorem change_bind (f : World → World) (k : Unit → Run β) (w : World) : (change f >>= k) w = k () (f w) :=
  bind_of_ok rfl

theorem bind_eq_ok (h : (r >>= k) w = (.ok b, w')) : ∃ a v, r w = (.ok a, v) ∧ k a v = (.ok b, w') := by
  rw [bind_apply] at h
  rcases hr : r w with ⟨e | a, v⟩ <;> rw [hr] at h
  · cases h
  · exact ⟨a, v, rfl, h⟩

theorem attempt_of_ok (h : r w = (.ok a, w')) : attempt r w = (.ok (.ok a), w') := by rw [attempt, h]

theorem attempt_of_noAttribute (h : r w = (.error .noAttribute, w')) :
    attempt r w = (.ok (.error .noAttribute), w') := by rw [attempt, h]; rfl

theorem global_apply (n : String) (w : World) :
    global n w = ((w.global? n).elim (.error (.raised .unknownName)) .ok, w) := by
  rw [global, world_bind]
  cases w.global? n <;> rfl

def Gives (P : α → Prop) (r : Run α) : Prop := ∀ w a w', r w = (.ok a, w') → P a

section
variable {P : β → Prop}

theorem gives_bind (h : ∀ a, Gives P (k a)) : Gives P (r >>= k) := by
  intro w b w' hb
  obtain ⟨a, v, -, hk⟩ := bind_eq_ok hb
  exact h a v b w' hk

theorem gives_pure (h : P b) : Gives P (pure b) := fun _ _ _ hb => Except.ok.inj (congrArg Prod.fst hb) ▸ h

theorem gives_throw (e : Fault) : Gives P (throw e) := fun _ _ _ hb => by cases congrArg Prod.fst hb

end

end Run

end DomainModel.Live
