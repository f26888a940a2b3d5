import DomainModel.Proofs.Live.Hierarchy
import Mathlib.Data.List.Forall2

/-!
# Changes that keep a world orderly

A world stays orderly when its classes bind other names, and when a class is made.
-/

namespace DomainModel.Live

/-- The names whose meaning on a class matters to the hierarchy. -/
def hierarchyNames : List String := "__init_subclass__" :: Standard.registryName :: hookNames

structure ClassInfo.Stays (i i' : ClassInfo) : Prop where
  linearization : i'.linearization = i.linearization
  bases : i'.bases = i.bases
  isAbstractKind : i'.isAbstractKind = i.isAbstractKind
  member? : ∀ n ∈ hierarchyNames, i'.member? n = i.member? n

theorem ClassInfo.Keeps.stays {i i' : ClassInfo} (h : i.Keeps i') : i.Stays i' where
  linearization := by
    change i'.frame.linearization = i.frame.linearization
    rw [h.frame]
  bases := by
    change i'.frame.bases = i.frame.bases
    rw [h.frame]
  isAbstractKind := by
    change i'.frame.isAbstractKind = i.frame.isAbstractKind
    rw [h.frame]
  member? := fun n hn => h.member? n (by revert hn; revert n; decide)

theorem ClassInfo.Stays.bind (i : ClassInfo) {n : String} (hn : n ∉ hierarchyNames) (v : Value) : i.Stays (i.bind n v) :=
  ⟨rfl, rfl, rfl, fun m hm => lookup_bindMember_of_ne (fun he : m = n => hn (he ▸ hm)) v i.members⟩

namespace World
variable {w w' : World}

structure Follows (e e' : ClassRef × ClassInfo) : Prop where
  key : e'.1 = e.1
  stays : e.2.Stays e'.2
  ground : (∀ index, e.1 ≠ .made index) → e.2.Keeps e'.2

theorem lookup_of_forall₂ {R : ClassRef × ClassInfo → ClassRef × ClassInfo → Prop} {es es' : List (ClassRef × ClassInfo)}
    (hkey : ∀ e e', R e e' → e'.1 = e.1) (h : List.Forall₂ R es es') (c : ClassRef) :
    (es.lookup c = none ∧ es'.lookup c = none) ∨
      ∃ i i', es.lookup c = some i ∧ es'.lookup c = some i' ∧ R (c, i) (c, i') := by
  induction h with
  | nil => exact .inl ⟨rfl, rfl⟩
  | @cons e e' es es' hr _ ih =>
    rw [List.lookup_cons, List.lookup_cons, hkey e e' hr]
    split
    · next hc =>
      obtain rfl := beq_iff_eq.mp hc
      refine .inr ⟨e.2, e'.2, rfl, rfl, ?_⟩
      have hpair : (e.1, e'.2) = e' := by rw [← hkey e e' hr]
      rw [hpair]
      exact hr
    · exact ih

theorem exists_entry {es es' : List (ClassRef × ClassInfo)} (hr : List.Forall₂ Follows es es') {e' : ClassRef × ClassInfo}
    (he : e' ∈ es') : ∃ e ∈ es, Follows e e' := by
  induction hr with
  | nil => cases he
  | @cons x y xs ys hxy _ ih =>
    rcases List.mem_cons.mp he with rfl | he
    · exact ⟨x, List.mem_cons_self, hxy⟩
    · obtain ⟨e, hmem, hf⟩ := ih he
      exact ⟨e, List.mem_cons_of_mem _ hmem, hf⟩

theorem keys_of_forall₂ {es es' : List (ClassRef × ClassInfo)} (hr : List.Forall₂ Follows es es') :
    es'.map (·.1) = es.map (·.1) := by
  induction hr with
  | nil => rfl
  | cons hf _ ih => rw [List.map_cons, List.map_cons, hf.key, ih]

namespace Orderly
variable (h : w.Orderly) (hr : List.Forall₂ Follows w.classes w'.classes)
include hr

theorem stays_info (c : ClassRef) : w'.isFixed c = w.isFixed c ∧ (w.info c).Stays (w'.info c) := by
  rcases lookup_of_forall₂ (fun _ _ h => h.key) hr c with ⟨hn, hn'⟩ | ⟨i, i', hi, hi', hf⟩
  · unfold isFixed info
    rw [hn, hn']
    exact ⟨rfl, rfl, rfl, rfl, fun _ _ => rfl⟩
  · rw [info_of_lookup hi, info_of_lookup hi', isFixed, isFixed, hi, hi']
    exact ⟨rfl, hf.stays⟩

include h

theorem ground_of_forall₂ {c : ClassRef} (hc : ∀ index, c ≠ .made index) : initial.Agrees w' c := by
  have hinitial := h.ground c hc
  rcases lookup_of_forall₂ (fun _ _ h => h.key) hr c with ⟨hn, hn'⟩ | ⟨i, i', hi, hi', hf⟩
  · refine ⟨?_, ?_, fun n hm => ?_⟩
    · rw [← hinitial.frame]
      unfold info
      rw [hn, hn']
    · rw [← hinitial.isFixed, isFixed, isFixed, hn, hn']
    · rw [← hinitial.member? n hm]
      unfold World.member?
      rw [hn, hn']
  · have hkeeps := hf.ground hc
    refine ⟨?_, ?_, fun n hm => ?_⟩
    · rw [info_of_lookup hi', hkeeps.frame, ← info_of_lookup hi, hinitial.frame]
    · rw [← hinitial.isFixed, isFixed, isFixed, hi, hi']
      rfl
    · rw [member?_of_lookup hi', hkeeps.member? n hm, ← member?_of_lookup hi, hinitial.member? n hm]

theorem of_forall₂ (hregistered : w'.registered = w.registered) : w'.Orderly := by
  have hline : ∀ c, w'.linearize c = w.linearize c := fun c => (stays_info hr c).2.linearization
  -- each class follows one of before, of which the same has been known
  refine {
    keys := keys_of_forall₂ hr ▸ h.keys, own := ?own, root := ?root, closed := ?closed, bases := ?bases,
    registries := ?registries, hooks := ?hooks, quiet := ?quiet, known := ?known, fresh := ?fresh,
    ground := fun _ hc => ground_of_forall₂ h hr hc, registered := hregistered.trans h.registered }
  case own =>
    intro e' he'
    obtain ⟨e, he, hf⟩ := exists_entry hr he'
    rw [hf.key, hf.stays.linearization]
    exact h.own e he
  case root =>
    intro e' he'
    obtain ⟨e, he, hf⟩ := exists_entry hr he'
    rw [hf.stays.linearization]
    exact h.root e he
  case closed =>
    intro e' he'
    obtain ⟨e, he, hf⟩ := exists_entry hr he'
    simp only [hf.stays.linearization, hline]
    exact h.closed e he
  case bases =>
    intro e' he'
    obtain ⟨e, he, hf⟩ := exists_entry hr he'
    simp only [hf.stays.linearization, hf.stays.bases, hline]
    exact h.bases e he
  case registries =>
    intro e' he'
    obtain ⟨e, he, hf⟩ := exists_entry hr he'
    rw [hf.stays.isAbstractKind, hf.stays.member? _ (by decide)]
    exact h.registries e he
  case hooks =>
    intro e' he' n hn
    obtain ⟨e, he, hf⟩ := exists_entry hr he'
    rw [hf.stays.member? n (List.mem_cons_of_mem _ (List.mem_cons_of_mem _ hn))]
    exact h.hooks e he n hn
  case quiet =>
    intro e' he' hg
    obtain ⟨e, he, hf⟩ := exists_entry hr he'
    rw [hf.stays.member? _ (by decide)]
    exact h.quiet e he (hf.key ▸ hg)
  case known =>
    intro e' he' k hk hfixed
    obtain ⟨e, he, hf⟩ := exists_entry hr he'
    rw [hf.stays.linearization] at hk
    rw [(stays_info hr k).1] at hfixed
    exact h.known e he k hk hfixed
  case fresh =>
    intro e' he' index hi
    obtain ⟨e, he, hf⟩ := exists_entry hr he'
    rw [← hr.length_eq]
    exact h.fresh e he index (hf.key ▸ hi)

end Orderly

/-! ## A class that is changed -/

section
variable {c k : ClassRef} {f : ClassInfo → ClassInfo} {n : String}

theorem lookup_adjust (w : World) (c k : ClassRef) (f : ClassInfo → ClassInfo) :
    (w.adjust c f).classes.lookup k = if k = c then (w.classes.lookup k).map f else w.classes.lookup k := by
  change (w.classes.map fun e => if e.1 = c then (c, f e.2) else e).lookup k = _
  induction w.classes with
  | nil => split <;> rfl
  | cons e es ih =>
    rw [List.map_cons, List.lookup_cons, List.lookup_cons, ih]
    by_cases he : e.1 = c <;> by_cases hk : k = c
    · simp [he, hk]
    · simp [he, hk, beq_false_of_ne]
    · simp [he, hk, beq_false_of_ne (Ne.symm he)]
    · simp [he, hk]

theorem info_adjust (hc : w.isFixed c = false) : (w.adjust c f).info c = f (w.info c) := by
  obtain ⟨i, hi⟩ := Option.isSome_iff_exists.mp (Option.isNone_eq_false_iff.mp hc)
  rw [info_of_lookup hi]
  refine info_of_lookup ?_
  rw [lookup_adjust, if_pos rfl, hi]
  rfl

theorem isFixed_adjust : (w.adjust c f).isFixed k = w.isFixed k := by
  rw [isFixed, isFixed, lookup_adjust]
  split <;> simp

theorem member?_adjust (hc : w.isFixed c = false) (n : String) : (w.adjust c f).member? c n = (f (w.info c)).member? n := by
  obtain ⟨i, hi⟩ := Option.isSome_iff_exists.mp (Option.isNone_eq_false_iff.mp hc)
  rw [info_of_lookup hi]
  refine member?_of_lookup ?_ n
  rw [lookup_adjust, if_pos rfl, hi]
  rfl

theorem member?_eq_info (hc : w.isFixed c = false) (n : String) : w.member? c n = (w.info c).member? n := by
  obtain ⟨i, hi⟩ := Option.isSome_iff_exists.mp (Option.isNone_eq_false_iff.mp hc)
  rw [info_of_lookup hi, member?_of_lookup hi]

theorem agrees_adjust (hk : k ≠ c) : w.Agrees (w.adjust c f) k := by
  have hl : (w.adjust c f).classes.lookup k = w.classes.lookup k := by rw [lookup_adjust, if_neg hk]
  refine ⟨?_, isFixed_adjust, fun n _ => ?_⟩
  · unfold info
    rw [hl]
  · unfold World.member?
    rw [hl]

theorem Orderly.adjust (h : w.Orderly) (hc : ∃ index, c = .made index) (hf : ∀ i : ClassInfo, i.Stays (f i)) : (w.adjust c f).Orderly := by
  obtain ⟨index, rfl⟩ := hc
  refine of_forall₂ h ?_ rfl
  change List.Forall₂ Follows w.classes (w.classes.map fun e => if e.1 = .made index then (.made index, f e.2) else e)
  rw [List.forall₂_map_right_iff]
  refine List.forall₂_same.mpr fun e _ => ?_
  split
  · next he => exact ⟨he.symm, hf e.2, fun hm => absurd he (hm index)⟩
  · exact ⟨rfl, (ClassInfo.Keeps.refl e.2).stays, fun _ => .refl e.2⟩

end

/-! ## One more class -/

section
variable {own c : ClassRef} {i' : ClassInfo}

theorem lookup_append_classes (hw : w'.classes = w.classes ++ [(own, i')]) (hc : c ≠ own) :
    w'.classes.lookup c = w.classes.lookup c := by
  rw [hw]
  generalize w.classes = es
  induction es with
  | nil => rw [List.nil_append, List.lookup_cons, beq_false_of_ne hc]
  | cons e es ih =>
    rw [List.cons_append, List.lookup_cons, List.lookup_cons, ih]

theorem agrees_of_append (hw : w'.classes = w.classes ++ [(own, i')]) (hc : c ≠ own) : w.Agrees w' c := by
  have hl := lookup_append_classes hw hc
  refine ⟨?_, ?_, fun n _ => ?_⟩
  · unfold info
    rw [hl]
  · rw [isFixed, isFixed, hl]
  · unfold World.member?
    rw [hl]

end

end World

end DomainModel.Live
