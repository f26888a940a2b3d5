import DomainModel.Live.Bases

/-!
# The order of the classes behind a class

Merging linearisations keeps each of them in its order and adds nothing, whenever it succeeds; a single one is left
as it is.
-/

namespace DomainModel.Live.Bases

-- Sums mean the same under all imports.
attribute [local instance (high)] Zero.ofOfNat0

variable {fuel : Nat} {lists : List (List ClassRef)} {c : ClassRef} {l r : List ClassRef}

/-- A list without its first class, if that is the one that comes next. -/
def advance (c : ClassRef) (l : List ClassRef) : List ClassRef := if l.head? = some c then l.tail else l

theorem merge_succ : merge (fuel + 1) lists =
    if (lists.filter (!·.isEmpty)).isEmpty then some []
    else
      match ((lists.filter (!·.isEmpty)).filterMap List.head?).find? fun c =>
        (lists.filter (!·.isEmpty)).all fun l => c ∉ l.tail with
      | none => none
      | some c => (merge fuel ((lists.filter (!·.isEmpty)).map (advance c))).map (c :: ·) := rfl

theorem length_advance_le (c : ClassRef) (l : List ClassRef) : (advance c l).length ≤ l.length := by
  unfold advance
  split
  · rw [List.length_tail]
    exact Nat.sub_le _ _
  · exact Nat.le_refl _

/-- Merging takes a step unless there is nothing left: the class that comes next stands first in one of the lists. -/
theorem merge_cases (h : merge (fuel + 1) lists = some r) :
    (r = [] ∧ ∀ l ∈ lists, l = []) ∨ ∃ c rest, r = c :: rest ∧ (∃ l ∈ lists, l.head? = some c) ∧
      merge fuel ((lists.filter (!·.isEmpty)).map (advance c)) = some rest := by
  rw [merge_succ] at h
  split at h
  · next hempty =>
    refine .inl ⟨(Option.some.inj h).symm, fun l hl => ?_⟩
    have hnot := List.filter_eq_nil_iff.mp (List.isEmpty_iff.mp hempty) l hl
    simpa using hnot
  · split at h
    · cases h
    · next c hfind =>
      obtain ⟨rest, hrest, rfl⟩ := Option.map_eq_some_iff.mp h
      obtain ⟨l, hl, hhead⟩ := List.mem_filterMap.mp (List.mem_of_find?_eq_some hfind)
      exact .inr ⟨c, rest, rfl, ⟨l, (List.mem_filter.mp hl).1, hhead⟩, hrest⟩

/-- The lists that are left, when a class has been taken from those that it stands first in. -/
def rest (c : ClassRef) (lists : List (List ClassRef)) : List (List ClassRef) :=
  (lists.filter (!·.isEmpty)).map (advance c)

theorem rest_cons (c : ClassRef) (l : List ClassRef) (ls : List (List ClassRef)) :
    rest c (l :: ls) = if l.isEmpty then rest c ls else advance c l :: rest c ls := by
  unfold rest
  cases l <;> rfl

theorem sum_rest_le (c : ClassRef) (lists : List (List ClassRef)) :
    ((rest c lists).map List.length).sum ≤ (lists.map List.length).sum := by
  induction lists with
  | nil => exact Nat.le_refl _
  | cons l ls ih =>
    have hl := length_advance_le c l
    rw [rest_cons]
    split <;> simp only [List.map_cons, List.sum_cons] <;> omega

theorem sum_rest_lt (hc : ∃ l ∈ lists, l.head? = some c) :
    ((rest c lists).map List.length).sum < (lists.map List.length).sum := by
  induction lists with
  | nil =>
    obtain ⟨l, hl, -⟩ := hc
    cases hl
  | cons l ls ih =>
    have hle := sum_rest_le c ls
    rw [rest_cons]
    by_cases hhead : l.head? = some c
    · obtain ⟨tail, rfl⟩ := List.head?_eq_some_iff.mp hhead
      simp only [List.isEmpty_cons, Bool.false_eq_true, if_false, List.map_cons, List.sum_cons, advance, List.head?_cons,
        if_true, List.tail_cons, List.length_cons]
      omega
    · obtain ⟨x, hx, hxc⟩ := hc
      have hlt := ih ⟨x, (List.mem_cons.mp hx).resolve_left fun he => hhead (he ▸ hxc), hxc⟩
      have hl := length_advance_le c l
      split <;> simp only [List.map_cons, List.sum_cons] <;> omega

theorem sublist_of_merge (h : merge fuel lists = some r) (hf : (lists.map List.length).sum < fuel) :
    ∀ l ∈ lists, l.Sublist r := by
  induction fuel generalizing lists r with
  | zero => omega
  | succ fuel ih =>
    intro l hl
    rcases merge_cases h with ⟨-, hempty⟩ | ⟨c, tail, rfl, hc, hrest⟩
    · rw [hempty l hl]
      exact List.nil_sublist _
    · by_cases hl' : l = []
      · rw [hl']
        exact List.nil_sublist _
      · have hmem : advance c l ∈ rest c lists := by
          refine List.mem_map_of_mem (List.mem_filter.mpr ⟨hl, ?_⟩)
          simpa using hl'
        have hlt := sum_rest_lt hc
        have hsub := ih hrest (by unfold rest at hlt; omega) _ hmem
        unfold advance at hsub
        split at hsub
        · next hhead =>
          obtain ⟨t, rfl⟩ := List.head?_eq_some_iff.mp hhead
          exact hsub.cons_cons c
        · exact hsub.cons c

theorem mem_of_merge (h : merge fuel lists = some r) : ∀ x ∈ r, ∃ l ∈ lists, x ∈ l := by
  induction fuel generalizing lists r with
  | zero =>
    cases h
    exact nofun
  | succ fuel ih =>
    rcases merge_cases h with ⟨rfl, -⟩ | ⟨c, tail, rfl, ⟨l, hl, hc⟩, hrest⟩
    · exact nofun
    · intro x hx
      rcases List.mem_cons.mp hx with rfl | hx
      · exact ⟨l, hl, List.mem_of_mem_head? hc⟩
      · obtain ⟨l', hl', hxl'⟩ := ih hrest x hx
        obtain ⟨l, hl, rfl⟩ := List.mem_map.mp hl'
        refine ⟨l, (List.mem_filter.mp hl).1, ?_⟩
        unfold advance at hxl'
        split at hxl'
        · exact List.mem_of_mem_tail hxl'
        · exact hxl'

theorem eq_of_merge_single (h : merge fuel [l] = some r) (hf : l.length < fuel) : r = l := by
  induction fuel generalizing l r with
  | zero => omega
  | succ fuel ih =>
    cases l with
    | nil =>
      rcases merge_cases h with ⟨rfl, -⟩ | ⟨c, tail, -, ⟨l, hl, hc⟩, -⟩
      · rfl
      · rw [List.mem_singleton.mp hl] at hc
        cases hc
    | cons x xs =>
      rcases merge_cases h with ⟨-, hempty⟩ | ⟨c, tail, rfl, ⟨l, hl, hc⟩, hrest⟩
      · cases hempty _ List.mem_cons_self
      · rw [List.mem_singleton.mp hl] at hc
        cases hc
        have hlist : merge fuel [xs] = some tail := by
          rw [← hrest]
          simp [advance]
        rw [List.length_cons] at hf
        rw [ih hlist (by omega)]

/-! ## Linearisation -/

variable {w : World} {bases : List ClassRef}

/-- What a class with some bases builds on keeps the order of each base, and holds nothing else. -/
theorem linearize?_spec (h : linearize? w bases = some r) :
    (∀ b ∈ bases, (w.linearize b).Sublist r) ∧ ∀ x ∈ r, x ∈ bases ∨ ∃ b ∈ bases, x ∈ w.linearize b := by
  unfold linearize? at h
  constructor
  · exact fun b hb => sublist_of_merge h (Nat.lt_succ_self _) _ (List.mem_append_left _ (List.mem_map_of_mem hb))
  · intro x hx
    obtain ⟨l, hl, hxl⟩ := mem_of_merge h x hx
    rcases List.mem_append.mp hl with hl | hl
    · obtain ⟨b, hb, rfl⟩ := List.mem_map.mp hl
      exact .inr ⟨b, hb, hxl⟩
    · rw [List.mem_singleton.mp hl] at hxl
      exact .inl hxl

theorem eq_of_linearize?_single {b : ClassRef} {tail : List ClassRef} (hb : w.linearize b = b :: tail)
    (h : linearize? w [b] = some r) : r = w.linearize b := by
  unfold linearize? at h
  simp only [List.map_cons, List.map_nil, List.cons_append, List.nil_append, List.sum_cons, List.sum_nil, hb,
    List.length_cons, List.length_nil] at h
  rcases merge_cases h with ⟨-, hempty⟩ | ⟨c, tail', rfl, ⟨l, hl, hc⟩, hrest⟩
  · cases hempty _ List.mem_cons_self
  · have hcb : c = b := by
      rcases List.mem_cons.mp hl with rfl | hl
      · exact (Option.some.inj hc).symm
      · rw [List.mem_singleton.mp hl] at hc
        exact (Option.some.inj hc).symm
    subst hcb
    have hsingle : merge (tail.length + 2) [tail] = some tail' := by
      rw [← hrest]
      simp only [List.filter_cons, List.isEmpty_cons, Bool.not_false, if_true, List.filter_nil, List.map_cons, List.map_nil,
        advance, List.head?_cons, List.tail_cons, Nat.zero_add, Nat.add_zero]
      cases tail <;> simp [merge]
    rw [eq_of_merge_single hsingle (by omega), hb]

end DomainModel.Live.Bases
