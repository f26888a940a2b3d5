import DomainModel.Live.Loading
import DomainModel.Proofs.Live.Running

/-!
# Hierarchies of classes

In an orderly world every class stands before the classes it builds on, and no class has an own way of reading
attributes or of counting its subclasses. Loading makes such worlds, and using a module leaves them so.
-/

namespace DomainModel.Live

/-- The names by which a class would change how its instances are read, or which classes count as its own. -/
def hookNames : List String := ["__class__", "__getattribute__", "__getattr__", "__subclasshook__"]

/-- The names under which a class may note something at any time. -/
def noteNames : List String := [Copying.notes, Loading.annotationsName, "__parameters__"]

/-! ## Classes in two worlds -/

def ClassInfo.frame (i : ClassInfo) : ClassInfo := { i with members := [] }

/-- A class is the same as before, but for what it notes. -/
structure ClassInfo.Keeps (i i' : ClassInfo) : Prop where
  frame : i'.frame = i.frame
  member? : ∀ n ∉ noteNames, i'.member? n = i.member? n

theorem ClassInfo.Keeps.refl (i : ClassInfo) : i.Keeps i := ⟨rfl, fun _ _ => rfl⟩

theorem ClassInfo.Keeps.bind (i : ClassInfo) {n : String} (hn : n ∈ noteNames) (v : Value) : i.Keeps (i.bind n v) :=
  ⟨rfl, fun m hm => lookup_bindMember_of_ne (fun he : m = n => hm (he ▸ hn)) v i.members⟩

/-- A class is the same in two worlds, but for what it notes. -/
structure World.Agrees (w w' : World) (c : ClassRef) : Prop where
  frame : (w'.info c).frame = (w.info c).frame
  isFixed : w'.isFixed c = w.isFixed c
  member? : ∀ n ∉ noteNames, w'.member? c n = w.member? c n

namespace World.Agrees
variable {w w' w'' : World} {c : ClassRef} {cs : List ClassRef} {n : String}

theorem refl (w : World) (c : ClassRef) : w.Agrees w c := ⟨rfl, rfl, fun _ _ => rfl⟩

theorem trans (h : w.Agrees w' c) (h' : w'.Agrees w'' c) : w.Agrees w'' c :=
  ⟨h'.frame.trans h.frame, h'.isFixed.trans h.isFixed, fun n hn => (h'.member? n hn).trans (h.member? n hn)⟩

theorem linearize (h : w.Agrees w' c) : w'.linearize c = w.linearize c := by
  change (w'.info c).frame.linearization = (w.info c).frame.linearization
  rw [h.frame]

theorem isAbstractKind (h : w.Agrees w' c) : (w'.info c).isAbstractKind = (w.info c).isAbstractKind := by
  change (w'.info c).frame.isAbstractKind = (w.info c).frame.isAbstractKind
  rw [h.frame]

theorem firstMember? (h : ∀ k ∈ cs, w.Agrees w' k) (hn : n ∉ noteNames) :
    w'.firstMember? cs n = w.firstMember? cs n := by
  induction cs with
  | nil => rfl
  | cons k ks ih =>
    have hks := ih fun k' hk => h k' (List.mem_cons_of_mem _ hk)
    unfold World.firstMember? at hks ⊢
    rw [List.findSome?_cons, List.findSome?_cons, (h k List.mem_cons_self).member? n hn, hks]

theorem bound? (h : w.Agrees w' c) (hs : ∀ k ∈ w.linearize c, w.Agrees w' k) (hn : n ∉ noteNames) :
    w'.bound? c n = w.bound? c n := by
  rw [World.bound?, World.bound?, h.linearize, firstMember? hs hn]

end World.Agrees

/-! ## Built-in classes -/

namespace Builtin

def parents : List String := "int" :: exceptions.map (·.1)

theorem parent_mem_parents (name : String) : parent name ∈ parents := by
  unfold parent
  split
  · exact List.mem_cons_self
  · cases h : exceptions.find? fun e => name ∈ e.2 with
    | none => decide
    | some e =>
      exact List.mem_cons_of_mem _ (List.mem_map_of_mem (f := (·.1)) (List.mem_of_find?_eq_some h))

theorem chain_of_mem_parents : ∀ p ∈ parents, "object" ∈ chain 7 p ∧ ∀ q ∈ chain 7 p, q ∈ parents := by
  decide

theorem object_mem_ancestors (name : String) : .object ∈ ancestors name := by
  refine List.mem_map.mpr ⟨"object", ?_, rfl⟩
  rw [chain]
  split
  · next h => exact h ▸ List.mem_cons_self
  · exact List.mem_cons_of_mem _ (chain_of_mem_parents _ (parent_mem_parents name)).1

theorem mem_ancestors {name : String} {c : ClassRef} (h : c ∈ ancestors name) :
    c = .builtin name ∨ ∃ q ∈ parents, c = .builtin q := by
  obtain ⟨q, hq, rfl⟩ := List.mem_map.mp h
  rw [chain] at hq
  split at hq
  · exact .inl (by rw [List.mem_singleton.mp hq])
  · rcases List.mem_cons.mp hq with rfl | hq
    · exact .inl rfl
    · exact .inr ⟨q, (chain_of_mem_parents _ (parent_mem_parents name)).2 q hq, rfl⟩

theorem memberKind?_class {cls : String} (h : cls ≠ "object") : memberKind? cls "__class__" = none := by
  unfold memberKind? members
  split <;> first | contradiction | decide

theorem memberKind?_getattr (cls : String) : memberKind? cls "__getattr__" = none := by
  unfold memberKind? members
  split <;> decide

theorem member?_of_not_mem {cls name : String} (hn : name ∉ ["__doc__", "__hash__"]) :
    member? cls name = if (memberKind? cls name).isSome then some (.native cls name) else none := by
  simp only [List.mem_cons, List.not_mem_nil, or_false, not_or] at hn
  simp [member?, hn]

end Builtin

/-! ## Orderly worlds -/

/-- A class is there, or it is none that a module makes. -/
def World.Knows (w : World) (c : ClassRef) : Prop := w.isFixed c = true → ∀ index, c ≠ .made index

theorem ClassRef.builtin_ne_made (name : String) (index : Nat) : ClassRef.builtin name ≠ .made index := by
  intro h
  cases h

theorem ClassRef.contract_ne_made (c : Contract) (index : Nat) : ClassRef.contract c ≠ .made index := by
  intro h
  cases h

instance (c : ClassRef) : Decidable (∀ index, c ≠ .made index) :=
  match c with
  | .builtin name => isTrue (ClassRef.builtin_ne_made name)
  | .contract c => isTrue (ClassRef.contract_ne_made c)
  | .made index => isFalse fun h => h index rfl

instance (w : World) (c : ClassRef) : Decidable (w.Knows c) :=
  inferInstanceAs (Decidable (_ → _))

/-- A world whose classes are made as the language makes them. -/
structure World.Orderly (w : World) : Prop where
  keys : (w.classes.map (·.1)).Nodup
  /-- A class comes first among the classes behind it. -/
  own : ∀ e ∈ w.classes, ∃ rest, e.2.linearization = e.1 :: rest
  root : ∀ e ∈ w.classes, .object ∈ e.2.linearization
  closed : ∀ e ∈ w.classes, ∀ k ∈ e.2.linearization, ∀ x ∈ w.linearize k, x ∈ e.2.linearization
  bases : ∀ e ∈ w.classes, ∀ b ∈ e.2.bases,
    b ∈ e.2.linearization ∧ (w.linearize b).length < e.2.linearization.length
  registries : ∀ e ∈ w.classes, e.2.isAbstractKind = true →
    e.2.member? Standard.registryName = some Standard.registry
  hooks : ∀ e ∈ w.classes, ∀ n ∈ hookNames, e.2.member? n = none
  /-- Only generic classes want to know of the classes that build on them. -/
  quiet : ∀ e ∈ w.classes, e.1 ≠ .builtin "Generic" → e.2.member? "__init_subclass__" = none
  known : ∀ e ∈ w.classes, ∀ k ∈ e.2.linearization, w.Knows k
  fresh : ∀ e ∈ w.classes, ∀ index, e.1 = .made index → index < w.classes.length
  /-- What does not come from a module is as it was before. -/
  ground : ∀ c, (∀ index, c ≠ .made index) → initial.Agrees w c
  registered : w.registered = []

namespace World
variable {w : World} {c k : ClassRef} {i : ClassInfo} {n : String}

theorem lookup_of_mem {α β : Type} [BEq α] [LawfulBEq α] {es : List (α × β)} (h : (es.map (·.1)).Nodup) {e : α × β}
    (he : e ∈ es) : es.lookup e.1 = some e.2 := by
  induction es with
  | nil => cases he
  | cons x xs ih =>
    rw [List.map_cons, List.nodup_cons] at h
    rcases List.mem_cons.mp he with rfl | he
    · exact List.lookup_cons_self
    · have hne : e.1 ≠ x.1 := fun hk => h.1 (hk ▸ List.mem_map_of_mem he)
      rw [List.lookup_cons, beq_false_of_ne hne]
      exact ih h.2 he

theorem mem_of_lookup {α β : Type} [DecidableEq α] {es : List (α × β)} {c : α} {b : β} (h : es.lookup c = some b) :
    (c, b) ∈ es := by
  induction es with
  | nil => cases h
  | cons x xs ih =>
    rw [List.lookup_cons] at h
    split at h
    · next hk =>
      cases h
      rw [beq_iff_eq.mp hk]
      exact List.mem_cons_self
    · exact List.mem_cons_of_mem _ (ih h)

theorem info_of_lookup (h : w.classes.lookup c = some i) : w.info c = i := by
  unfold info
  rw [h]

theorem member?_of_lookup (h : w.classes.lookup c = some i) (n : String) : w.member? c n = i.member? n := by
  unfold member?
  rw [h]

theorem member?_builtin {cls : String} (h : w.isFixed (.builtin cls) = true) (n : String) :
    w.member? (.builtin cls) n = Builtin.member? cls n := by
  unfold member?
  rw [Option.isNone_iff_eq_none.mp h]

theorem exists_entry_or_isFixed (w : World) (c : ClassRef) :
    (∃ e ∈ w.classes, e.1 = c ∧ w.info c = e.2 ∧ ∀ n, w.member? c n = e.2.member? n) ∨ w.isFixed c = true := by
  cases h : w.classes.lookup c with
  | none => exact .inr (by rw [isFixed, h]; rfl)
  | some i => exact .inl ⟨(c, i), mem_of_lookup h, rfl, info_of_lookup h, member?_of_lookup h⟩

theorem linearize_of_isFixed (h : w.isFixed c = true) :
    ∃ name, w.linearize c = Builtin.ancestors name ∧ (c = .builtin name ∨ name = "object") := by
  have hl := Option.isNone_iff_eq_none.mp h
  unfold linearize info
  rw [hl]
  cases c with
  | builtin name => exact ⟨name, rfl, .inl rfl⟩
  | contract c => exact ⟨"object", rfl, .inr rfl⟩
  | made c => exact ⟨"object", rfl, .inr rfl⟩

theorem member?_of_isFixed (h : w.isFixed c = true) (hn : n ∉ ["__doc__", "__hash__"]) :
    w.member? c n = none ∨ ∃ cls, c = .builtin cls ∧ w.member? c n = some (.native cls n) := by
  cases c with
  | builtin cls =>
    rw [member?_builtin h, Builtin.member?_of_not_mem hn]
    split
    · exact .inr ⟨cls, rfl, rfl⟩
    · exact .inl rfl
  | contract c =>
    unfold member?
    rw [Option.isNone_iff_eq_none.mp h]
    exact .inl rfl
  | made c =>
    unfold member?
    rw [Option.isNone_iff_eq_none.mp h]
    exact .inl rfl

theorem isFixed_eq_false_of_isAbstractKind (h : (w.info c).isAbstractKind = true) : w.isFixed c = false := by
  cases hl : w.classes.lookup c with
  | some i => rw [isFixed, hl]; rfl
  | none =>
    unfold info at h
    rw [hl] at h
    cases c <;> cases h

end World

/-! ## Lookups in orderly worlds -/

namespace World.Orderly
variable {w : World} (h : w.Orderly) {c k : ClassRef} {n : String} {v : Value}
include h

theorem ground_builtin (name : String) : initial.Agrees w (.builtin name) := h.ground _ nofun

theorem ground_contract (c : Contract) : initial.Agrees w (.contract c) := h.ground _ nofun

theorem isFixed_of_mem_parents : ∀ q ∈ Builtin.parents, w.isFixed (.builtin q) = true := by
  have hinitial : ∀ q ∈ Builtin.parents, initial.isFixed (.builtin q) = true := by decide
  intro q hq
  rw [(h.ground_builtin q).isFixed, hinitial q hq]

theorem info_of_mem {e : ClassRef × ClassInfo} (he : e ∈ w.classes) : w.info e.1 = e.2 :=
  info_of_lookup (lookup_of_mem h.keys he)

theorem object_mem_linearize (c : ClassRef) : .object ∈ w.linearize c := by
  rcases w.exists_entry_or_isFixed c with ⟨e, he, -, hi, -⟩ | hf
  · rw [linearize, hi]
    exact h.root e he
  · obtain ⟨name, hl, -⟩ := linearize_of_isFixed hf
    rw [hl]
    exact Builtin.object_mem_ancestors name

/-- A class that is not fixed brings the classes behind it wherever it stands itself. -/
theorem linearize_subset {sub : ClassRef} (hsub : w.isFixed sub = false) (hs : sub ∈ w.linearize c) {x : ClassRef}
    (hx : x ∈ w.linearize sub) : x ∈ w.linearize c := by
  rcases w.exists_entry_or_isFixed c with ⟨e, he, -, hi, -⟩ | hf
  · rw [linearize, hi] at hs ⊢
    exact h.closed e he sub hs x hx
  · obtain ⟨name, hl, hname⟩ := linearize_of_isFixed hf
    have hfixed : ∀ q ∈ Builtin.parents, sub ≠ .builtin q := by
      rintro q hq rfl
      rw [h.isFixed_of_mem_parents q hq] at hsub
      cases hsub
    rw [hl] at hs
    rcases Builtin.mem_ancestors hs with rfl | ⟨q, hq, rfl⟩
    · rcases hname with rfl | rfl
      · rw [hf] at hsub
        cases hsub
      · exact absurd rfl (hfixed "object" (by decide))
    · exact absurd rfl (hfixed q hq)

theorem member?_hook (hn : n ∈ hookNames) (hv : w.member? k n = some v) : ∃ cls, k = .builtin cls ∧ v = .native cls n := by
  rcases w.exists_entry_or_isFixed k with ⟨e, he, -, -, hm⟩ | hf
  · rw [hm, h.hooks e he n hn] at hv
    cases hv
  · have hnames : n ∉ ["__doc__", "__hash__"] := by
      revert hn
      clear hv
      revert n
      decide
    rcases member?_of_isFixed hf hnames with hm | ⟨cls, hk, hm⟩
    · rw [hm] at hv
      cases hv
    · exact ⟨cls, hk, (Option.some.inj (hm.symm.trans hv)).symm⟩

theorem hasOwn_hook (hn : n ∈ hookNames) : Attribute.hasOwn w c n = false := by
  rw [Attribute.hasOwn]
  cases hb : w.bound? c n with
  | none => rfl
  | some v =>
    obtain ⟨k, -, hk⟩ := List.exists_of_findSome?_eq_some hb
    obtain ⟨cls, -, rfl⟩ := h.member?_hook hn hk
    rfl

theorem bound?_getattr (c : ClassRef) : w.bound? c "__getattr__" = none := by
  refine List.findSome?_eq_none_iff.mpr fun k _ => ?_
  cases hv : w.member? k "__getattr__" with
  | none => rfl
  | some v =>
    obtain ⟨cls, rfl, rfl⟩ := h.member?_hook (by decide) hv
    rcases w.exists_entry_or_isFixed (.builtin cls) with ⟨e, he, -, -, hm⟩ | hf
    · rw [hm, h.hooks e he _ (by decide)] at hv
      cases hv
    · rw [member?_builtin hf, Builtin.member?_of_not_mem (by decide), Builtin.memberKind?_getattr] at hv
      cases hv

theorem bound?_class (c : ClassRef) : w.bound? c "__class__" = some (.native "object" "__class__") := by
  have hobject : w.member? .object "__class__" = some (.native "object" "__class__") := by
    rw [show ClassRef.object = .builtin "object" from rfl, member?_builtin (h.isFixed_of_mem_parents "object" (by decide))]
    decide
  have honly : ∀ k v, w.member? k "__class__" = some v → v = .native "object" "__class__" := by
    intro k v hv
    obtain ⟨cls, rfl, rfl⟩ := h.member?_hook (by decide) hv
    rcases w.exists_entry_or_isFixed (.builtin cls) with ⟨e, he, -, -, hm⟩ | hf
    · rw [hm, h.hooks e he _ (by decide)] at hv
      cases hv
    · by_cases hc : cls = "object"
      · rw [hc]
      · rw [member?_builtin hf, Builtin.member?_of_not_mem (by decide), Builtin.memberKind?_class hc] at hv
        cases hv
  cases hb : w.bound? c "__class__" with
  | none =>
    have hnone := List.findSome?_eq_none_iff.mp hb .object (h.object_mem_linearize c)
    rw [hobject] at hnone
    cases hnone
  | some v =>
    obtain ⟨k, -, hk⟩ := List.exists_of_findSome?_eq_some hb
    rw [honly k v hk]

theorem bound?_registry (hc : (w.info c).isAbstractKind = true) :
    w.bound? c Standard.registryName = some Standard.registry := by
  rcases w.exists_entry_or_isFixed c with ⟨e, he, rfl, hi, hm⟩ | hf
  · obtain ⟨rest, hown⟩ := h.own e he
    rw [bound?, linearize, hi, hown, firstMember?, List.findSome?_cons, hm, h.registries e he (hi ▸ hc)]
  · rw [isFixed_eq_false_of_isAbstractKind hc] at hf
    cases hf

end World.Orderly

/-! ## The world before a module -/

theorem World.orderly_initial : initial.Orderly where
  keys := by decide
  own := by
    have h : ∀ e ∈ initial.classes, e.2.linearization.head? = some e.1 := by decide
    exact fun e he => List.head?_eq_some_iff.mp (h e he)
  root := by decide
  closed := by decide
  bases := by decide
  registries := by decide
  hooks := by decide
  quiet := by decide
  known := by decide
  fresh := by
    have h : ∀ e ∈ initial.classes, ∀ index, e.1 ≠ .made index := by decide
    exact fun e he index hi => absurd hi (h e he index)
  ground := fun c _ => .refl _ c
  registered := rfl

end DomainModel.Live
