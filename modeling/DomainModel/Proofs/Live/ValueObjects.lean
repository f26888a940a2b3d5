import DomainModel.Proofs.Live.Copies
import DomainModel.Proofs.Live.Deriving

/-!
# Value objects

Value objects hold only what they say: they are made of values that a rule has accepted, show them, are compared and hashed by
them, and are copied with them.
-/

namespace DomainModel

/-- A module has its own helper for copies, unless a variant of a sum is named like it. -/
theorem Module.Sound.not_mem_assigned_copy {m : Module} {ds : List Declaration} (h : m.Sound)
    (hclasses : ∀ p ∈ m.classes, ∃ d ∈ ds, Clear m.references d p) (hv : ∀ d ∈ ds, ∀ v ∈ d.variants, d.name ++ v.name ≠ "copy") :
    "_copy" ∉ m.assigned := by
  have hpublic : ∀ {n : String}, isInternal n = false → n ≠ "_copy" := by
    rintro n hn rfl
    exact absurd hn (by decide)
  simp only [Module.assigned, List.mem_append, List.mem_cons, not_or]
  refine ⟨⟨⟨by decide, fun hmem => ?_⟩, fun hmem => ?_⟩, fun hmem => ?_⟩
  · obtain ⟨p, hp, hmem⟩ := List.mem_flatMap.mp hmem
    obtain ⟨e, he, hn⟩ := List.mem_map.mp hmem
    exact hpublic (h.error_spec (List.mem_flatMap.mpr ⟨p, hp, he⟩)).2.2.2 hn
  · obtain ⟨p, hp, hmem⟩ := List.mem_flatMap.mp hmem
    rcases List.mem_cons.mp hmem with hn | hmem
    · exact hpublic (h.isInternal_name hp).1 hn.symm
    · obtain ⟨v, hvariant, hn⟩ := List.mem_map.mp hmem
      obtain ⟨d, hd, hclear⟩ := hclasses p hp
      rw [hclear.name_eq, ClassPlan.variantClass, String.append_assoc] at hn
      rw [hclear.variants_eq] at hvariant
      refine hv d hd v hvariant (String.toList_inj.mp ?_)
      have hlist := congrArg String.toList hn
      rw [String.toList_append] at hlist
      exact List.append_cancel_left hlist
  · obtain ⟨s, hs, hn⟩ := List.mem_map.mp hmem
    exact hpublic (h.synonyms s hs).1 hn

namespace Live

open Run Loading Request

/-! ## Comparing and hashing instances -/

/-- Equality on a set of values is decided, symmetric and transitive. -/
structure World.Compares (w : World) (limit : Nat) (S : Value → Prop) : Prop where
  decided : ∀ x y, S x → S y → ∃ b, w.Equates limit x y b
  symm : ∀ x y, S x → S y → w.Equates limit x y true → w.Equates limit y x true
  trans : ∀ x y z, S x → S y → S z → w.Equates limit x y true → w.Equates limit y z true → w.Equates limit x z true

/-- Equal values of a set are hashed alike. -/
def World.Alike (w : World) (limit : Nat) (S : Value → Prop) : Prop :=
  ∀ x y, S x → S y → w.Equates limit x y true → ∃ key, w.Hashes limit x key ∧ w.Hashes limit y key

/-- An instance of a value object around a value of a set. -/
def World.Around (w : World) (c : ClassRef) (S : Value → Prop) (v : Value) : Prop := ∃ k x, w.Valued c k v x ∧ S x

section
variable {w w' : World} {m : Module} {d : Declaration} {p : ClassPlan} {c k l : ClassRef} {vs : List (Variant × ClassRef)}
  {v u x y : Value} {b : Bool} {limit fuel : Nat} {S : Value → Prop} {steps : List Duplication}

theorem World.Compares.swap (h : w.Compares limit S) (ho : w.Orderly) (hl : w.Labelled) (hx : S x) (hy : S y)
    (he : w.Equates limit x y b) : w.Equates limit y x b := by
  obtain ⟨b', hb'⟩ := h.decided y x hy hx
  cases b with
  | true => exact h.symm x y hx hy he
  | false =>
    cases b' with
    | false => exact hb'
    | true => cases he.unique ho hl (h.symm y x hy hx hb')

namespace World.HostsValue

variable (h : w.HostsValue m d p c vs)
include h

theorem equates (hv : w.Valued c k v x) (hu : w.Valued c l u y) (he : ¬w.Backward v u → w.Equates limit x y b)
    (hback : w.Backward v u → w.Equates limit y x b) : w.Equates (limit + w.depth + 7) v u b :=
  h.hostsKey.equates (keyed hv) (keyed hu) he hback

theorem equates_of_compares (hS : w.Compares limit S) (hv : w.Valued c k v x) (hu : w.Valued c l u y) (hx : S x) (hy : S y)
    (he : w.Equates limit x y b) : w.Equates (limit + w.depth + 7) v u b :=
  h.equates hv hu (fun _ => he) fun _ => hS.swap h.orderly h.labelled hx hy he

theorem values_of_equates (hS : w.Compares limit S) (hv : w.Valued c k v x) (hu : w.Valued c l u y) (hx : S x) (hy : S y)
    (he : w.Equates (limit + w.depth + 7) v u true) : w.Equates limit x y true := by
  obtain ⟨b, hb⟩ := hS.decided x y hx hy
  obtain rfl := he.unique h.orderly h.labelled (h.equates_of_compares hS hv hu hx hy hb)
  exact hb

theorem compares (hS : w.Compares limit S) : w.Compares (limit + w.depth + 7) (w.Around c S) := by
  constructor
  · rintro v u ⟨k, x, hv, hx⟩ ⟨l, y, hu, hy⟩
    obtain ⟨b, hb⟩ := hS.decided x y hx hy
    exact ⟨b, h.equates_of_compares hS hv hu hx hy hb⟩
  · rintro v u ⟨k, x, hv, hx⟩ ⟨l, y, hu, hy⟩ he
    exact h.equates_of_compares hS hu hv hy hx (hS.symm x y hx hy (h.values_of_equates hS hv hu hx hy he))
  · rintro v u t ⟨k, x, hv, hx⟩ ⟨l, y, hu, hy⟩ ⟨j, z, ht, hz⟩ hvu hut
    have hxy := h.values_of_equates hS hv hu hx hy hvu
    have hyz := h.values_of_equates hS hu ht hy hz hut
    exact h.equates_of_compares hS hv ht hx hz (hS.trans x y z hx hy hz hxy hyz)

theorem alike (hS : w.Compares limit S) (ha : w.Alike limit S) : w.Alike (limit + w.depth + 7) (w.Around c S) := by
  rintro v u ⟨k, x, hv, hx⟩ ⟨l, y, hu, hy⟩ he
  obtain ⟨key, hkx, hky⟩ := ha x y hx hy (h.values_of_equates hS hv hu hx hy he)
  exact ⟨_, (h.hostsKey.hashes (keyed hv) hkx).mono (by omega), (h.hostsKey.hashes (keyed hu) hky).mono (by omega)⟩

/-- What comes of copies of an instance is of its class and equals it. -/
theorem matches_of_duplicates (hcopy : "_copy" ∉ m.assigned) (hv : w.Valued c k v x) (hl : w.Lacks v "clone")
    (hx : w.Preserves limit x) (hf : limit + 6 ≤ fuel) (hsteps : steps ≠ []) :
    ∃ u w', Duplication.runAll (answerWithin fuel) v steps w = (.ok u, w') ∧ w.Grows w' ∧ w'.classOf u = w'.classOf v ∧
      w'.Matches (limit + w'.depth + 7) v u := by
  obtain ⟨S, hS, hkeeps⟩ := hx
  obtain ⟨u, w', hrun, hg, -, z, hu, -, hz⟩ := (h.yields_duplicates hcopy hv hl hS hkeeps hf hsteps).run h.orderly h.labelled
  have h' := h.after hg.toAfter
  have hv' := h.valued_grows hv hg
  have hclass : ∀ {v x : Value}, w'.Valued c k v x → w'.classOf v = k := by
    rintro v x ⟨-, slots, attributes, hcell, -⟩
    exact classOf_of_cell? hcell
  refine ⟨u, w', hrun, hg, (hclass hu).trans (hclass hv').symm, ?_⟩
  exact ⟨h'.equates hv' hu (fun _ => hz.1) fun _ => hz.2, h'.equates hu hv' (fun _ => hz.2) fun _ => hz.1⟩

end World.HostsValue

end

/-! ## Files with value objects -/

theorem World.Serves.not_mem_assigned_copy {w : World} {m : Module} {ds : List Declaration} (h : w.Serves ds m)
    (hv : ∀ d ∈ ds, ∀ v ∈ d.variants, d.name ++ v.name ≠ "copy") : "_copy" ∉ m.assigned := by
  obtain ⟨text, file, hparse⟩ := h.parses
  obtain ⟨contracts, hm⟩ := h.plans
  refine (sound_of_parse hparse hm h.unobtrusive).not_mem_assigned_copy (fun p hp => ?_) hv
  obtain ⟨d, hd, hplan⟩ := (plans_of_module hm).1 p hp
  exact ⟨d, hd, clear_of_plan hparse h.unobtrusive hd hp hplan⟩

/-- What holds of a value object. Its class makes an instance of what the rule of a class accepts, and of nothing else, and raises
its error for what the rule does not accept. It has no rule itself. Its instances are read, shown, compared and hashed by their
values, and can be copied unless a variant of a sum takes the name of the helper for copies. -/
structure World.Upholds (w : World) (ds : List Declaration) (d : Declaration) (c : ClassRef) : Prop where
  accepts : ∀ k x limit, w.Supplies k c → w.Judges limit k x true → ∀ fuel ≥ limit + 6, ∃ v w',
    makes (answerWithin fuel) k x w = (.ok v, w') ∧ w.After w' ∧ w'.classOf v = k ∧ w'.Valued c k v x ∧ w'.Lacks v "clone"
  only : ∀ k x fuel v w', w.Supplies k c → makes (answerWithin (fuel + 2)) k x w = (.ok v, w') →
    ∃ w₁ w₂, w.Grows w₁ ∧ validates (answerWithin fuel) k x w₁ = (.ok true, w₂)
  rejects : ∀ k x limit, w.Supplies k c → w.Judges limit k x false → ∀ fuel ≥ limit + 6, ∃ e w',
    makes (answerWithin fuel) k x w = (.error (.thrown e), w') ∧ w.After w' ∧
      w'.globals.lookup (d.name ++ "ValidationError") = some (.cls (w'.classOf e)) ∧
      w'.isInstance e (.contract .valueValidationError) = true ∧ w'.isInstance e (.builtin "ValueError") = true ∧
      (∀ fuel ≥ 1, answerWithin fuel (.read e "value") w' = (.ok x, w')) ∧
      ((∀ fuel ≥ limit, w.Abstains c (validates (answerWithin fuel) k x) ∧ w.Abstains c (answerWithin fuel (.repr x))) →
        w.Spares c w')
  lacks : ∀ x, ∀ fuel ≥ 5, ∃ e w', makes (answerWithin fuel) c x w = (.error (.thrown e), w') ∧
    w'.classOf e = .builtin "NotImplementedError"
  read : ∀ k v x, w.Valued c k v x → ∀ fuel ≥ 3, answerWithin fuel (.read v "value") w = (.ok x, w)
  text : ∀ k v x limit s, w.Valued c k v x → w.Says limit x s → w.Says (limit + 4) v s
  equality : ∀ k l v u x y limit b, w.Valued c k v x → w.Valued c l u y → (¬w.Backward v u → w.Equates limit x y b) →
    (w.Backward v u → w.Equates limit y x b) → w.Equates (limit + w.depth + 7) v u b
  compares : ∀ limit S, w.Compares limit S → w.Compares (limit + w.depth + 7) (w.Around c S)
  alike : ∀ limit S, w.Compares limit S → w.Alike limit S → w.Alike (limit + w.depth + 7) (w.Around c S)
  copies : (∀ s ∈ ds, ∀ v ∈ s.variants, s.name ++ v.name ≠ "copy") → ∀ k v x limit, w.Valued c k v x → w.Lacks v "clone" →
    w.Preserves limit x → ∀ steps ≠ [], ∀ fuel ≥ limit + 6, ∃ u w', Duplication.runAll (answerWithin fuel) v steps w = (.ok u, w') ∧
      w.Grows w' ∧ w'.classOf u = w'.classOf v ∧ w'.Matches (limit + w'.depth + 7) v u

theorem World.HostsValue.upholds {w : World} {m : Module} {ds : List Declaration} {d : Declaration} {p : ClassPlan} {c : ClassRef}
    {vs : List (Variant × ClassRef)} (h : w.HostsValue m d p c vs) (hs : w.Serves ds m) : w.Upholds ds d c where
  accepts k x limit hk hj fuel hf := by
    obtain ⟨v, w', hmakes, ha, hv, hlacks⟩ := h.makes_of_accepted hk hj hf
    obtain ⟨-, slots, attributes, hcell, -⟩ := id hv
    exact ⟨v, w', hmakes, ha, classOf_of_cell? hcell, hv, hlacks⟩
  only k x fuel v w' hk hmakes := h.validates_of_makes hk hmakes
  rejects k x limit hk hj fuel hf := by
    obtain ⟨e, ke, w', hmakes, ha, hglobal, he, hbears, hspares⟩ := h.makes_of_rejected hk hj hf
    obtain ⟨slots, a, hcell, -⟩ := id hbears
    have hclass : w'.classOf e = ke := classOf_of_cell? hcell
    refine ⟨e, w', hmakes, ha, hclass ▸ hglobal, ?_, ?_, fun fuel hf => ?_, hspares⟩
    · rw [isInstance_of_cell? hcell]
      exact he.isSubclass_contract (by decide)
    · rw [isInstance_of_cell? hcell]
      exact he.isSubclass_contract (by decide)
    · obtain ⟨n, rfl⟩ := Nat.exists_eq_add_of_le' hf
      exact he.read_value ha.orderly hbears
  lacks x fuel hf := by
    obtain ⟨e, w', hmakes, -, hclass⟩ := h.makes_of_owner x hf
    exact ⟨e, w', hmakes, hclass⟩
  read k v x hv fuel hf := by
    obtain ⟨n, rfl⟩ := Nat.exists_eq_add_of_le' hf
    exact h.read_value hv
  text k v x limit s hv hs := h.text_eq hv hs
  equality k l v u x y limit b hv hu he hback := h.equates hv hu he hback
  compares limit S hS := h.compares hS
  alike limit S hS ha := h.alike hS ha
  copies hcopy k v x limit hv hl hx steps hsteps fuel hf :=
    h.matches_of_duplicates (hs.not_mem_assigned_copy hcopy) hv hl hx hf hsteps

/-! ## A file with a value object -/

namespace Labels

def text : String := "@value_object record Label \x7b value: string \x7d"

def label : Declaration :=
  { kind := .record, name := "Label", directives := [⟨"value_object", [], some ⟨1, 2, none⟩⟩], location := some ⟨1, 22, none⟩
    fields := [⟨"value", ⟨"string", []⟩, .hidden, [], some ⟨1, 30, none⟩⟩] }

def plan : Module :=
  { contracts := defaultContracts, synonyms := []
    classes :=
      [{ name := "Label", bases := [.valueObject], docs := [], layout := .record label.fields [], errors := [.ofOwner "Label"], events := []
         supplied := [.display "value", .equality "Label" "value", .hash "value", .clone "Label" "value",
           .tryFrom "Label" "value" "str" "LabelValidationError"] }] }

def rule : Function := { owner := "Short", name := "validate", body := .rule (.always true), home := sessionHome }

/-- A class that is derived from that of labels and supplies the rule. -/
def derived? (w : World) : Option (ClassRef × World) :=
  match w.globals.lookup "Label" with
  | some (.cls c) =>
    match Making.make (answerWithin 9) "Short" [.cls c] (ruleBindings rule "abc") w with
    | (.ok k, w') => if (w'.info k).isIncomplete then none else some (k, w')
    | (.error _, _) => none
  | _ => none

theorem exists_derived {ds : List Declaration} {m : Module} {w : World} (hs : w.Serves ds m) (hd : label ∈ ds)
    (hderived : (derived? w).isSome = true) : ∃ c k w', w.globals.lookup "Label" = some (.cls c) ∧ derived? w = some (k, w') ∧
      w.After w' ∧ w'.Supplies k c ∧ w'.bound? k "validate" = some (.classMethod rule) := by
  obtain ⟨p, c, vs, hh, hc⟩ := hs.exists_hosts hd (by decide)
  have hvalue : w.HostsValue m label p c vs := ⟨hh, by decide⟩
  rw [derived?, show w.globals.lookup "Label" = some (.cls c) from hc] at hderived ⊢
  dsimp only at hderived ⊢
  rcases hmake : Making.make (answerWithin 9) "Short" [.cls c] (ruleBindings rule "abc") w with ⟨f | k, w'⟩
  · simp only [hmake] at hderived
    cases hderived
  · simp only [hmake] at hderived ⊢
    have hcomplete : (w'.info k).isIncomplete = false := by
      by_contra hnot
      rw [if_pos (by simpa using hnot)] at hderived
      cases hderived
    obtain ⟨ha, hbound, hsupplies⟩ := hvalue.supplies_of_make hmake
    exact ⟨c, k, w', rfl, if_neg (by simp [hcomplete]), ha, hsupplies hcomplete, hbound⟩

end Labels

/-! ## A file where a variant takes the name of the helper for copies -/

namespace Helpers

def text : String := "@value_object record Label \x7b value: string \x7d sum co \x7b py(int8) \x7d"

def sum : Declaration :=
  { kind := .sum, name := "co", location := some ⟨1, 50, none⟩
    variants := [⟨"py", ⟨"int8", []⟩, [], some ⟨1, 55, none⟩⟩] }

def plan : Module :=
  { Labels.plan with
    classes := Labels.plan.classes ++
      [{ name := "co", bases := [], docs := [], layout := .sum sum.variants none, supplied := [], errors := [], events := [] }] }

/-- What comes of a label that is made by a class and copies itself. -/
def copied? (k : ClassRef) (w : World) : Option (Except Fault Value) :=
  match makes answer k (.constant "note") w with
  | (.ok v, w') => some (Duplication.clone.run answer v w').1
  | (.error _, _) => none

end Helpers

/-! ## What value objects hold -/

variable {text : String} {file : Option String} {ds : List Declaration} {contracts : String} {m : Module} {w₀ : World}

end Live

end DomainModel
