import DomainModel.Proofs.Live.Membership
import DomainModel.Proofs.Live.Making

/-!
# Worlds that follow each other

Using a module makes new values and new classes, and leaves the classes and the names of the module as they are. What
only reads leaves the values that are there as they are too.
-/

namespace DomainModel.Live

namespace World

/-- The texts that are kept as the names of a class are its names. -/
structure Labelled (w : World) : Prop where
  name : ∀ c v, w.kept.lookup (.cls c, "__name__") = some v → w.isFixed c = false ∧ v.text? = some (w.info c).name
  qualname : ∀ c v, w.kept.lookup (.cls c, "__qualname__") = some v →
    w.isFixed c = false ∧ v.text? = some (w.info c).qualname

/-- What is there of classes and names is there later as well. -/
structure After (w w' : World) : Prop where
  orderly : w'.Orderly
  labelled : w'.Labelled
  agrees : ∀ c, w.isFixed c = false → w.Agrees w' c
  globals : w'.globals = w.globals
  cutOff : w'.cutOff = w.cutOff

/-- Nothing but new values has been made, and no value has been changed. -/
structure Grows (w w' : World) : Prop extends After w w' where
  keys : w'.classes.map (·.1) = w.classes.map (·.1)
  cells : w.cells <+: w'.cells
  shown : w'.shown = w.shown

def Holds (w : World) (v : Value) : Prop := ∀ a, v = .cell a → a < w.cells.length

variable {w w' w'' : World} {c k : ClassRef} {v : Value} {n : String}

theorem isFixed_eq_false_iff : w.isFixed c = false ↔ c ∈ w.classes.map (·.1) := by
  rw [isFixed]
  cases hl : w.classes.lookup c with
  | some i => exact iff_of_true rfl (List.mem_map_of_mem (f := (·.1)) (mem_of_lookup hl))
  | none =>
    refine iff_of_false (by simp) fun hmem => ?_
    obtain ⟨e, he, rfl⟩ := List.mem_map.mp hmem
    obtain ⟨b, hb⟩ := Option.isSome_iff_exists.mp (List.lookup_isSome_iff.mpr ⟨e, he, beq_self_eq_true _⟩)
    rw [hl] at hb
    cases hb

theorem cell?_allocated (w : World) (c : Cell) :
    ({ w with cells := w.cells ++ [c] } : World).cell? (.cell w.cells.length) = some c := by
  change (w.cells ++ [c])[w.cells.length]? = some c
  rw [List.getElem?_append_right Nat.le.refl, Nat.sub_self]
  rfl

theorem classOf_of_cell? {c : Cell} (h : w.cell? v = some c) : w.classOf v = classOfCell c := by
  cases v with
  | cell a =>
    change ((w.cells[a]?.map classOfCell).getD .object) = _
    rw [show w.cells[a]? = some c from h]
    rfl
  | _ => cases h

theorem holds_of_cell? {c : Cell} (h : w.cell? v = some c) : w.Holds v := by
  rintro a rfl
  exact (List.getElem?_eq_some_iff.mp h).1

namespace After

theorem refl (h : w.Orderly) (hl : w.Labelled) : w.After w := ⟨h, hl, fun c _ => .refl w c, rfl, rfl⟩

theorem isFixed (h : w.After w') (hc : w.isFixed c = false) : w'.isFixed c = false := by rw [(h.agrees c hc).isFixed, hc]

theorem trans (h : w.After w') (h' : w'.After w'') : w.After w'' :=
  ⟨h'.orderly, h'.labelled, fun c hc => (h.agrees c hc).trans (h'.agrees c (h.isFixed hc)), h'.globals.trans h.globals,
    h'.cutOff.trans h.cutOff⟩

theorem agrees_behind (ho : w.Orderly) (h : w.After w') (hc : w.isFixed c = false) : ∀ k ∈ w.linearize c, w.Agrees w' k := by
  intro k hk
  by_cases hf : w.isFixed k = false
  · exact h.agrees k hf
  · have hground := ho.knows_of_mem_linearize (.inl hc) hk (Bool.not_eq_false _ ▸ hf)
    have hw := ho.ground k hground
    have hw' := h.orderly.ground k hground
    exact ⟨hw'.frame.trans hw.frame.symm, hw'.isFixed.trans hw.isFixed.symm, fun n hn =>
      (hw'.member? n hn).trans (hw.member? n hn).symm⟩

theorem bound? (ho : w.Orderly) (h : w.After w') (hc : w.isFixed c = false) (hn : n ∉ noteNames) :
    w'.bound? c n = w.bound? c n := (h.agrees c hc).bound? (h.agrees_behind ho hc) hn

end After

namespace Grows

theorem refl (h : w.Orderly) (hl : w.Labelled) : w.Grows w := ⟨.refl h hl, rfl, List.prefix_rfl, rfl⟩

theorem trans (h : w.Grows w') (h' : w'.Grows w'') : w.Grows w'' :=
  ⟨h.toAfter.trans h'.toAfter, h'.keys.trans h.keys, h.cells.trans h'.cells, h'.shown.trans h.shown⟩

theorem isFixed_eq (h : w.Grows w') (c : ClassRef) : w'.isFixed c = w.isFixed c := by
  rw [Bool.eq_iff_iff, ← not_iff_not, Bool.not_eq_true, Bool.not_eq_true, isFixed_eq_false_iff, isFixed_eq_false_iff, h.keys]

theorem agrees_all (h : w.Grows w') (c : ClassRef) : w.Agrees w' c := by
  cases hc : w.isFixed c with
  | false => exact h.agrees c hc
  | true =>
    have hl := Option.isNone_iff_eq_none.mp hc
    have hl' := Option.isNone_iff_eq_none.mp ((h.isFixed_eq c).trans hc)
    refine ⟨?_, h.isFixed_eq c, fun n _ => ?_⟩
    · unfold World.info
      rw [hl, hl']
    · unfold World.member?
      rw [hl, hl']

theorem linearize (h : w.Grows w') (c : ClassRef) : w'.linearize c = w.linearize c := (h.agrees_all c).linearize

theorem bound? (h : w.Grows w') (c : ClassRef) (hn : n ∉ noteNames) : w'.bound? c n = w.bound? c n :=
  (h.agrees_all c).bound? (fun k _ => h.agrees_all k) hn

theorem depth (ho : w.Orderly) (h : w.Grows w') : w'.depth = w.depth := by
  have hlengths : ∀ {u : World}, u.Orderly →
      u.classes.map (fun e => e.2.linearization.length) = (u.classes.map (·.1)).map fun c => (u.linearize c).length := by
    intro u hu
    rw [List.map_map]
    exact List.map_congr_left fun e he => by rw [Function.comp_apply, World.linearize, hu.info_of_mem he]
  rw [World.depth, World.depth, hlengths ho, hlengths h.orderly, h.keys]
  simp only [h.linearize]

theorem cell? {c : Cell} (h : w.Grows w') (hv : w.cell? v = some c) : w'.cell? v = some c := by
  cases v with
  | cell a =>
    obtain ⟨cs, hcs⟩ := h.cells
    change w.cells[a]? = some c at hv
    change w'.cells[a]? = some c
    rw [← hcs, List.getElem?_append_left (List.getElem?_eq_some_iff.mp hv).1]
    exact hv
  | _ => cases hv

theorem holds (h : w.Grows w') (hv : w.Holds v) : w'.Holds v :=
  fun a ha => Nat.lt_of_lt_of_le (hv a ha) h.cells.length_le

theorem cell?_eq (h : w.Grows w') (hv : w.Holds v) : w'.cell? v = w.cell? v := by
  cases v with
  | cell a =>
    have hlt := hv a rfl
    have hw : w.cell? (.cell a) = some w.cells[a] := List.getElem?_eq_getElem hlt
    rw [hw]
    exact h.cell? hw
  | _ => rfl

theorem classOf (h : w.Grows w') (hv : w.Holds v) : w'.classOf v = w.classOf v := by
  cases v with
  | cls c =>
    change ClassRef.builtin (if (w'.info c).isAbstractKind then "ABCMeta" else "type") = ClassRef.builtin _
    rw [(h.agrees_all c).isAbstractKind]
  | cell a =>
    have hcell := h.cell?_eq hv
    change w'.cells[a]? = w.cells[a]? at hcell
    rw [World.classOf, World.classOf, hcell]
  | _ => rfl

theorem isInstance (h : w.Grows w') (hv : w.Holds v) (c : ClassRef) : w'.isInstance v c = w.isInstance v c := by
  rw [World.isInstance, World.isInstance, World.isSubclass, World.isSubclass, h.classOf hv, h.linearize]

theorem of_classes (h : w.Orderly) (hl : w.Labelled) (hc : w'.classes = w.classes) (hr : w'.registered = w.registered)
    (hk : w'.kept = w.kept) (hg : w'.globals = w.globals) (ho : w'.cutOff = w.cutOff) (hcells : w.cells <+: w'.cells)
    (hs : w'.shown = w.shown) : w.Grows w' := by
  have hinfo : ∀ c, w'.info c = w.info c := fun c => by unfold World.info; rw [hc]
  have hfixed : ∀ c, w'.isFixed c = w.isFixed c := fun c => by rw [World.isFixed, World.isFixed, hc]
  refine ⟨⟨?_, ⟨?_, ?_⟩, fun c _ => ⟨by rw [hinfo], hfixed c, fun n _ => ?_⟩, hg, ho⟩, by rw [hc], hcells, hs⟩
  · refine Orderly.of_forall₂ h ?_ hr
    rw [hc]
    exact List.forall₂_same.mpr fun e _ => ⟨rfl, (ClassInfo.Keeps.refl e.2).stays, fun _ => .refl e.2⟩
  · intro c v hv
    rw [hk] at hv
    rw [hinfo, hfixed]
    exact hl.name c v hv
  · intro c v hv
    rw [hk] at hv
    rw [hinfo, hfixed]
    exact hl.qualname c v hv
  · unfold World.member?
    rw [hc]

theorem append (h : w.Orderly) (hl : w.Labelled) (cs : List Cell) : w.Grows { w with cells := w.cells ++ cs } :=
  of_classes h hl rfl rfl rfl rfl rfl (List.prefix_append _ _) rfl

theorem count (h : w.Orderly) (hl : w.Labelled) (k : Nat) : w.Grows { w with copies := k } :=
  of_classes h hl rfl rfl rfl rfl rfl List.prefix_rfl rfl

end Grows

/-! ## Names of classes -/

namespace Labelled
variable {f : ClassInfo → ClassInfo} {key : String} {x : Value}

/-- Where no names are kept and classes stay, the kept ones stay right. -/
theorem of_agrees (h : w.Labelled) (hk : w'.kept = w.kept) (ha : ∀ c, w.isFixed c = false → w.Agrees w' c) : w'.Labelled := by
  have hnames : ∀ c, w.isFixed c = false → w'.isFixed c = false ∧ (w'.info c).name = (w.info c).name ∧
      (w'.info c).qualname = (w.info c).qualname := by
    intro c hc
    have hframe := (ha c hc).frame
    simp only [ClassInfo.frame, ClassInfo.mk.injEq] at hframe
    exact ⟨(ha c hc).isFixed.trans hc, hframe.1, hframe.2.1⟩
  refine ⟨fun c v hv => ?_, fun c v hv => ?_⟩
  · rw [hk] at hv
    obtain ⟨hc, ht⟩ := h.name c v hv
    obtain ⟨hfixed, hname, -⟩ := hnames c hc
    exact ⟨hfixed, hname ▸ ht⟩
  · rw [hk] at hv
    obtain ⟨hc, ht⟩ := h.qualname c v hv
    obtain ⟨hfixed, -, hqualname⟩ := hnames c hc
    exact ⟨hfixed, hqualname ▸ ht⟩

theorem adjust (h : w.Labelled) (hf : ∀ i, (f i).name = i.name ∧ (f i).qualname = i.qualname) : (w.adjust c f).Labelled := by
  have hsame : ∀ k, w.isFixed k = false → (w.adjust c f).isFixed k = false ∧
      ((w.adjust c f).info k).name = (w.info k).name ∧ ((w.adjust c f).info k).qualname = (w.info k).qualname := by
    intro k hk
    refine ⟨isFixed_adjust.trans hk, ?_⟩
    by_cases he : k = c
    · rw [he] at hk ⊢
      rw [info_adjust hk]
      exact hf _
    · have hframe := (agrees_adjust (f := f) (w := w) he).frame
      simp only [ClassInfo.frame, ClassInfo.mk.injEq] at hframe
      exact ⟨hframe.1, hframe.2.1⟩
  refine ⟨fun k v hv => ?_, fun k v hv => ?_⟩
  · obtain ⟨hk, ht⟩ := h.name k v hv
    obtain ⟨hfixed, hname, -⟩ := hsame k hk
    exact ⟨hfixed, hname ▸ ht⟩
  · obtain ⟨hk, ht⟩ := h.qualname k v hv
    obtain ⟨hfixed, -, hqualname⟩ := hsame k hk
    exact ⟨hfixed, hqualname ▸ ht⟩

/-- What is kept under an attribute is kept of a class that is given another value for it, or for a different one. -/
theorem kept_rename {note : String} {q : ClassInfo → String} (hc : w.isFixed c = false)
    (h : ∀ k v, w.kept.lookup (.cls k, note) = some v → w.isFixed k = false ∧ v.text? = some (q (w.info k)))
    (hq : ∀ i, if key = note then x.text? = some (q (f i)) else q (f i) = q i) (k : ClassRef) (v : Value)
    (hv : (((Value.cls c, key), x) :: w.kept).lookup (.cls k, note) = some v) :
    (w.adjust c f).isFixed k = false ∧ v.text? = some (q ((w.adjust c f).info k)) := by
  rw [isFixed_adjust]
  rw [List.lookup_cons] at hv
  split at hv
  · next he =>
    obtain ⟨rfl, rfl⟩ : k = c ∧ note = key := by simpa using he
    have hx := hq (w.info k)
    rw [if_pos rfl] at hx
    rw [info_adjust hc, ← Option.some.inj hv]
    exact ⟨hc, hx⟩
  · next he =>
    obtain ⟨hk, ht⟩ := h k v hv
    refine ⟨hk, ht.trans (congrArg some ?_)⟩
    by_cases hkc : k = c
    · subst hkc
      have hx := hq (w.info k)
      rw [if_neg fun hkey => by simp [hkey] at he] at hx
      rw [info_adjust hk, hx]
    · unfold World.info
      rw [lookup_adjust, if_neg hkc]

theorem rename (h : w.Labelled) (hc : w.isFixed c = false)
    (hname : ∀ i, if key = "__name__" then x.text? = some (f i).name else (f i).name = i.name)
    (hqualname : ∀ i, if key = "__qualname__" then x.text? = some (f i).qualname else (f i).qualname = i.qualname) :
    ({ w.adjust c f with kept := ((.cls c, key), x) :: w.kept } : World).Labelled :=
  ⟨kept_rename hc h.name hname, kept_rename hc h.qualname hqualname⟩

end Labelled

end World

end DomainModel.Live
