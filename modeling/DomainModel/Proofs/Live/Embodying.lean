import DomainModel.Proofs.Live.Embodied

/-!
# Definitions embody plans

The definition of a planned class makes a class that embodies the plan.
-/

namespace DomainModel.Live.Loading

/-! ## What a definition makes -/

section
variable {w w' : World} {name n : String} {bases line : List ClassRef} {members : List (String × Value)} {ns : List String}
  {i i' : ClassInfo} {q : Making.Places} {missing : List String} {cells cells' : List Cell} {v : Value}
  (h : Defines w w' name bases members ns i i' q line missing cells cells')
include h

theorem Defines.lookup : w'.classes.lookup (.made w.classes.length) = some i' := by
  have hmem : (ClassRef.made w.classes.length, i') ∈ w'.classes := by
    rw [h.world]
    exact List.mem_append_right _ (List.mem_singleton.mpr rfl)
  exact World.lookup_of_mem h.orderly.keys hmem

theorem Defines.isFixed : w'.isFixed (.made w.classes.length) = false := by
  rw [World.isFixed, h.lookup]
  rfl

theorem Defines.info : (w'.info (.made w.classes.length)).frame = i.frame := by
  rw [World.info_of_lookup h.lookup, h.keeps.frame]

theorem Defines.member? (hn : n ∉ noteNames) : w'.member? (.made w.classes.length) n = i.member? n := by
  rw [World.member?_of_lookup h.lookup, h.keeps.member? n hn]

theorem Defines.agrees {k : ClassRef} (hk : k ≠ .made w.classes.length) : w.Agrees w' k :=
  World.agrees_of_append (by rw [h.world]) hk

theorem Defines.globals : w'.globals = bindMember name (.cls (.made w.classes.length)) w.globals := by rw [h.world]

theorem Defines.linearize : w'.linearize (.made w.classes.length) = .made w.classes.length :: line :=
  (ClassInfo.frame_eq h.info).2.2.2.1.trans h.made.linearization

theorem Defines.member?_of_some (hn : n ∉ noteNames ++ ["__qualname__"])
    (habstract : i.isAbstractKind = true → n ∉ Making.abstractNames) (hv : members.lookup n = some v) :
    w'.member? (.made w.classes.length) n = some v := by
  rw [List.mem_append, not_or, List.mem_singleton] at hn
  rw [h.member? hn.1, h.made.member n habstract]
  exact Making.lookup_complete_of_some hn.2 hv

theorem Defines.member?_of_none (hn : n ∉ noteNames ++ Making.commonNames)
    (habstract : i.isAbstractKind = true → n ∉ Making.abstractNames) (hv : members.lookup n = none) :
    w'.member? (.made w.classes.length) n = if n ∈ ns then some (.slot (.made w.classes.length) n) else none := by
  rw [List.mem_append, not_or] at hn
  rw [h.member? hn.1, h.made.member n habstract, Making.lookup_complete hn.2, hv, h.names, Option.none_or]

end

theorem mem_unsettledNames {p : ClassPlan} {n : String} (hn : n ∉ unsettledNames p) : n ∉ noteNames ∧
    n ∉ ["__module__", "__qualname__", "__dict__", "__weakref__", "__doc__"] ∧
      (p.bases.isEmpty = false → n ∉ Making.abstractNames) := by
  simp only [unsettledNames, List.mem_append, not_or] at hn
  refine ⟨hn.1.1.1, hn.1.1.2, fun hb => ?_⟩
  have habstract := hn.1.2
  rw [hb] at habstract
  exact habstract

/-! ## Planned classes -/

def baseRefs (p : ClassPlan) : List ClassRef :=
  if (p.bases.map ClassRef.contract).isEmpty then [.object] else p.bases.map .contract

theorem mem_baseRefs {p : ClassPlan} {b : ClassRef} (hb : b ∈ baseRefs p) :
    (p.bases = [] ∧ b = .object) ∨ ∃ k ∈ p.bases, b = .contract k := by
  unfold baseRefs at hb
  split at hb
  · next he => exact .inl ⟨by simpa using he, List.mem_singleton.mp hb⟩
  · obtain ⟨k, hk, rfl⟩ := List.mem_map.mp hb
    exact .inr ⟨k, hk, rfl⟩

theorem contract_mem_baseRefs {p : ClassPlan} {b : Contract} (hb : b ∈ p.bases) : .contract b ∈ baseRefs p := by
  unfold baseRefs
  split
  · next he =>
    have hnil : p.bases = [] := by simpa using he
    rw [hnil] at hb
    cases hb
  · exact List.mem_map_of_mem hb

section
variable {references : List String} {d : Declaration} {w w' : World} {p : ClassPlan} {a : Nat}
  {i i' : ClassInfo} {q : Making.Places} {line : List ClassRef} {missing : List String} {cells cells' : List Cell}

theorem isAbstractKind_of_defines (hp : Clear references d p) (hw : w.Orderly) {members : List (String × Value)} {ns : List String}
    (h : Defines w w' p.name (baseRefs p) members ns i i' q line missing cells cells') :
    i.isAbstractKind = !p.bases.isEmpty := by
  rw [h.made.isAbstractKind]
  change ((baseRefs p).any fun b => (w.info b).isAbstractKind) = _
  have hobject : (w.info .object).isAbstractKind = false := (hw.ground_builtin "object").isAbstractKind
  have hcontract : ∀ b ∈ p.bases, (w.info (.contract b)).isAbstractKind = true := by
    intro b hb
    rw [(ClassInfo.frame_eq (hw.info_contract b)).2.2.2.2.1]
    have hne := (hp.base_mem b hb).1
    revert hne
    cases b <;> decide
  cases hb : p.bases with
  | nil => simp [baseRefs, hb, hobject]
  | cons b bs => simp [baseRefs, hb, hcontract b (hb ▸ List.mem_cons_self)]

section
variable {cells : List Cell} {k : ClassRef} {ns : List String}

theorem saidRequired_of_none (h : w.member? k "__abstractmethods__" = none) :
    Making.saidRequired { w with cells } k = .ok [] := by
  change w.member? k _ = _ at h
  simp only [Making.saidRequired]
  rw [show World.member? { w with cells } k "__abstractmethods__" = none from h]

theorem saidRequired_of_some (h : w.member? k "__abstractmethods__" = some (.nameSet ns)) :
    Making.saidRequired { w with cells } k = .ok ns := by
  simp only [Making.saidRequired]
  rw [show World.member? { w with cells } k "__abstractmethods__" = some (.nameSet ns) from h]

end

theorem lookup_startBindings {n : String} (hn : n ∉ unsettledNames p) : (startBindings p.name).lookup n = none := by
  refine lookup_eq_none_of_not_mem fun hmem => (mem_unsettledNames hn).2.1 ?_
  simp only [startBindings, List.map_cons, List.map_nil, List.mem_cons, List.not_mem_nil, or_false] at hmem
  rcases hmem with rfl | rfl <;> simp

theorem map_fst_table (p : ClassPlan) (c : ClassRef) (v : Value) :
    (table p c []).map (·.1) = (bodyBindings p v).map (·.1) ++ p.layout.places := by
  rw [map_fst_bodyBindings p v .nothing]
  simp [table, Function.comp_def]

/-- What the plan says of the body does not depend on the dictionary of annotations, but for these. -/
theorem mem_bodyBindings_of_nothing {n : String} {v x : Value} (hv : (n, v) ∈ bodyBindings p .nothing) (hn : n ≠ annotationsName) :
    (n, v) ∈ bodyBindings p x := by
  simp only [bodyBindings, List.mem_append] at hv ⊢
  refine hv.imp (Or.imp id fun hv => ?_) id
  cases hl : p.layout with
  | record fields assignable =>
    rw [hl] at hv
    exact hv
  | sum variants payload =>
    rw [hl] at hv
    rcases List.mem_cons.mp hv with hv | hv
    · exact absurd (congrArg Prod.fst hv) hn
    · exact List.mem_cons_of_mem _ hv

theorem abstractmethods_not_mem (hp : Clear references d p) :
    "__abstractmethods__" ∉ (bodyBindings p v).map (·.1) ∧ "__abstractmethods__" ∉ p.layout.places := by
  refine ⟨fun hmem => ?_, fun hmem => absurd (hp.isSpecial_place hmem) (by decide)⟩
  have hbound := hp.not_mem_bound (n := "__abstractmethods__") (by decide) (by decide)
  rw [hp.bound_eq] at hbound
  rcases mem_bodyBindings_iff.mp hmem with hmem | hmem
  · exact absurd (notedNames_subset p hmem) (by decide)
  · refine hbound (List.mem_append_left _ (List.mem_append_left _ (List.mem_append_right _ ?_)))
    rw [List.mem_append, List.mem_append, or_assoc]
    exact hmem

section
variable (hp : Clear references d p) (hw : w.Orderly)
  (h : Defines w w' p.name (baseRefs p) (startBindings p.name ++ bodyBindings p (.cell a)) p.layout.places i i' q line
    missing cells cells')
include hp hw h

theorem not_mem_abstractNames_of_defines {n : String} (hn : n ∉ unsettledNames p) (hi : i.isAbstractKind = true) :
    n ∉ Making.abstractNames := by
  refine (mem_unsettledNames hn).2.2 ?_
  rwa [isAbstractKind_of_defines hp hw h, Bool.not_eq_true'] at hi

theorem missing_of_defines (hv : .valueObject ∉ p.bases) (hi : i.isAbstractKind = true) : missing = [] := by
  refine required_eq_nil (h.made.required hi) ?_ fun b hb ns hns n hn => ?_
  · intro x hx
    rcases List.mem_append.mp hx with hx | hx
    · exact isRequired_startBindings x hx
    · exact isRequired_bodyBindings rfl x hx
  · rw [List.map_append]
    refine List.mem_append_right _ ?_
    rcases mem_baseRefs hb with ⟨-, rfl⟩ | ⟨k, hk, rfl⟩
    · have hnone : w.member? .object "__abstractmethods__" = none :=
        ((hw.ground_builtin "object").member? _ (by decide)).trans (by decide)
      rw [← Except.ok.inj ((saidRequired_of_none hnone).symm.trans hns)] at hn
      cases hn
    · have hsaid : w.member? (.contract k) "__abstractmethods__" = some (.nameSet k.required) := by
        rw [hw.member?_contract k (by decide)]
        have hne := (hp.base_mem k hk).1
        revert hne
        cases k <;> decide
      rw [← Except.ok.inj ((saidRequired_of_some hsaid).symm.trans hns)] at hn
      exact hp.mem_of_required hk (fun he => hv (he ▸ hk)) hn

omit hp in
theorem contracts_behind_of_defines : ∀ b ∈ p.bases, b.linearization ⊆ line := by
  intro b hb
  have hsub := (Bases.linearize?_spec h.made.line_eq).1 _ (contract_mem_baseRefs hb)
  rw [show World.linearize { w with cells } (.contract b) = w.linearize (.contract b) from rfl, hw.linearize_contract] at hsub
  exact hsub.subset

omit hp in
theorem behind_of_defines : ∀ k ∈ line, k = .object ∨ ∃ b ∈ p.bases, k ∈ b.linearization := by
  intro k hk
  have hbehind : ∀ b ∈ baseRefs p, k = b ∨ k ∈ w.linearize b → k = .object ∨ ∃ b ∈ p.bases, k ∈ b.linearization := by
    intro b hb hkb
    rcases mem_baseRefs hb with ⟨-, rfl⟩ | ⟨x, hx, rfl⟩
    · rw [hw.linearize_object, List.mem_singleton, or_self] at hkb
      exact .inl hkb
    · rw [hw.linearize_contract] at hkb
      refine .inr ⟨x, hx, ?_⟩
      rcases hkb with rfl | hkb
      · cases x <;> decide
      · exact hkb
  rcases (Bases.linearize?_spec h.made.line_eq).2 k hk with hb | ⟨b, hb, hkb⟩
  · exact hbehind k hb (.inl rfl)
  · exact hbehind b hb (.inr hkb)

theorem isIncomplete_of_defines (hv : .valueObject ∉ p.bases) : i.isIncomplete = false := by
  rw [h.made.isIncomplete]
  cases hi : i.isAbstractKind with
  | false => rfl
  | true => rw [missing_of_defines hp hw h hv hi]; rfl

theorem said_of_defines (hv : .valueObject ∉ p.bases) {x : Value}
    (hx : w'.member? (.made w.classes.length) "__abstractmethods__" = some x) : x = .nameSet [] := by
  cases hi : i.isAbstractKind with
  | true =>
    have hsaid := (h.made.abstract hi).1
    rw [missing_of_defines hp hw h hv hi] at hsaid
    rw [h.member? (by decide), hsaid] at hx
    exact (Option.some.inj hx).symm
  | false =>
    -- only abstract classes say what is left to be supplied, and nothing else is bound to that name
    obtain ⟨hbody, hplace⟩ := abstractmethods_not_mem (v := .cell a) hp
    have hnone : (startBindings p.name ++ bodyBindings p (.cell a)).lookup "__abstractmethods__" = none := by
      rw [lookup_append, lookup_eq_none_of_not_mem hbody, lookup_eq_none_of_not_mem (by simp [startBindings])]
      rfl
    rw [h.member?_of_none (by decide) (fun ht => by rw [hi] at ht; cases ht) hnone, if_neg hplace] at hx
    cases hx

theorem holdsAttributes_of_defines : i.holdsAttributes = false := by
  rw [h.made.holdsAttributes, h.attributes, Bool.or_false, List.any_eq_false]
  intro b hb
  change ¬(w.info b).holdsAttributes = true
  rcases mem_baseRefs hb with ⟨-, rfl⟩ | ⟨k, hk, rfl⟩
  · rw [show (w.info .object).holdsAttributes = _ from (ClassInfo.frame_eq (hw.ground_builtin "object").frame).2.2.2.2.2.2]
    decide
  · rw [(ClassInfo.frame_eq (hw.info_contract k)).2.2.2.2.2.2]
    have hne := (hp.base_mem k hk).1
    revert hne
    cases k <;> decide

theorem place_of_defines {m : String} (hn : m ∉ unsettledNames p) (hm : m ∈ p.layout.places) :
    w'.member? (.made w.classes.length) m = some (.slot (.made w.classes.length) m) := by
  have hnodup : ((table p (.made w.classes.length) []).map (·.1)).Nodup := hp.nodup_table _ List.nil_prefix
  rw [map_fst_table p _ (.cell a)] at hnodup
  have hbody : m ∉ (bodyBindings p (.cell a)).map (·.1) := fun hmem => (List.nodup_append.mp hnodup).2.2 m hmem m hm rfl
  have hnames : m ∉ noteNames ++ Making.commonNames := not_mem_of_eq_false (hp.isSpecial_place hm) (by decide)
  have hnone : (startBindings p.name ++ bodyBindings p (.cell a)).lookup m = none := by
    rw [lookup_append, lookup_startBindings hn, lookup_eq_none_of_not_mem hbody]
    rfl
  rw [h.member?_of_none hnames (not_mem_abstractNames_of_defines hp hw h hn) hnone, if_pos hm]

theorem bound_of_defines {n : String} {v : Value} (hn : n ∉ unsettledNames p)
    (hv : (n, v) ∈ table p (.made w.classes.length) []) : w'.member? (.made w.classes.length) n = some v := by
  obtain ⟨hnote, hcommon, -⟩ := mem_unsettledNames hn
  simp only [table, List.map_nil, List.append_nil, List.mem_append] at hv
  rcases hv with hv | hv
  · have hqual : n ∉ noteNames ++ ["__qualname__"] := by
      rw [List.mem_append, not_or]
      refine ⟨hnote, fun hmem => hcommon ?_⟩
      rw [List.mem_singleton.mp hmem]
      decide
    have hmem : (n, v) ∈ bodyBindings p (.cell a) :=
      mem_bodyBindings_of_nothing hv fun he => hnote (by rw [he]; decide)
    refine h.member?_of_some hqual (not_mem_abstractNames_of_defines hp hw h hn) ?_
    rw [lookup_append, lookup_startBindings hn, World.lookup_of_mem (hp.nodup_bodyBindings _) hmem]
    rfl
  · obtain ⟨m, hm, he⟩ := List.mem_map.mp hv
    cases he
    exact place_of_defines hp hw h hn hm

theorem free_of_defines {n : String} (hn : n ∉ unsettledNames p) (hhash : n ≠ "__hash__")
    (hv : n ∉ (table p (.made w.classes.length) []).map (·.1)) : w'.member? (.made w.classes.length) n = none := by
  obtain ⟨hnote, hcommon, -⟩ := mem_unsettledNames hn
  rw [map_fst_table p _ (.cell a), List.mem_append, not_or] at hv
  have hnames : n ∉ noteNames ++ Making.commonNames := by
    rw [List.mem_append, not_or]
    refine ⟨hnote, fun hmem => ?_⟩
    simp only [Making.commonNames, List.mem_cons, List.not_mem_nil, or_false] at hmem hcommon
    grind
  have hnone : (startBindings p.name ++ bodyBindings p (.cell a)).lookup n = none := by
    rw [lookup_append, lookup_startBindings hn, lookup_eq_none_of_not_mem hv.1]
    rfl
  rw [h.member?_of_none hnames (not_mem_abstractNames_of_defines hp hw h hn) hnone, if_neg hv.2]

/-- The definition of a planned class makes a class that embodies the plan, but for the variants. -/
theorem embodies_of_defines : Embodies w' p (.made w.classes.length) [] := by
  obtain ⟨hname, hqualname, -, -, habstract, hincomplete, hholds⟩ := ClassInfo.frame_eq h.info
  have hqual : i.qualname = p.name := by
    have hq := h.made.qualname
    rw [lookup_append] at hq
    exact (Option.some.inj hq).symm
  exact {
    global := by rw [h.globals]; exact lookup_bindMember_self _ _ _
    made := ⟨_, rfl⟩
    there := h.isFixed
    name := hname.trans h.made.name_eq
    qualname := hqualname.trans hqual
    behind := ⟨line, h.linearize, contracts_behind_of_defines hw h, behind_of_defines hw h⟩
    isAbstractKind := habstract.trans (isAbstractKind_of_defines hp hw h)
    isIncomplete := fun hv => hincomplete.trans (isIncomplete_of_defines hp hw h hv)
    said := fun hv _ hx => said_of_defines hp hw h hv hx
    holdsAttributes := hholds.trans (holdsAttributes_of_defines hp hw h)
    bound := fun _ _ hn hv => bound_of_defines hp hw h hn hv
    free := fun _ hn hhash hv => free_of_defines hp hw h hn hhash hv }

end

end

/-! ## Classes of variants -/

section
variable {w w' w'' : World} {p : ClassPlan} {c : ClassRef} {vs : List (Variant × ClassRef)} {v : Variant} {name n : String}
  {i i' : ClassInfo} {q : Making.Places} {line : List ClassRef} {missing : List String} {cells cells' : List Cell}

theorem mem_map_variantBindings {own : ClassRef} (hn : n ∈ (startBindings name ++ variantBindings own name v).map (·.1)) :
    n ∈ ["__module__", "__qualname__", "__doc__", "__slots__", "__init__"] := by
  simp only [variantBindings, docBindings, startBindings, List.map_append, List.map_map, List.mem_append, List.map_cons,
    List.map_nil, List.mem_cons, List.not_mem_nil, or_false, List.mem_map, Function.comp_apply] at hn ⊢
  grind

theorem lookup_variantBindings {own : ClassRef} (hn : n ∉ ["__module__", "__qualname__", "__doc__", "__slots__", "__init__"]) :
    (startBindings name ++ variantBindings own name v).lookup n = none :=
  lookup_eq_none_of_not_mem fun hmem => hn (mem_map_variantBindings hmem)

theorem lookup_init_variantBindings (own : ClassRef) : (startBindings name ++ variantBindings own name v).lookup "__init__" =
    some (.function (function name "__init__" (.variantInit own) [("payload", v.payload.annotation)] "None")) := by
  have hdoc : (docBindings v.docs).lookup "__init__" = none :=
    lookup_eq_none_of_not_mem fun hmem => by simp [docBindings] at hmem
  rw [lookup_append, lookup_eq_none_of_not_mem (by simp [startBindings]), variantBindings, lookup_append, hdoc]
  rfl

theorem isRequired_variantBindings (own : ClassRef) :
    ∀ x ∈ startBindings name ++ variantBindings own name v, x.2.isRequired = false := by
  intro x hx
  simp only [variantBindings, List.mem_append, List.mem_cons, List.not_mem_nil, or_false] at hx
  rcases hx with hx | hx | rfl | rfl
  · exact isRequired_startBindings x hx
  · exact isRequired_docBindings _ x hx
  · rfl
  · rfl

section
variable (hc : Embodies w p c vs)
  (h : Defines w w' name [c] (startBindings name ++ variantBindings (.made w.classes.length) name v) [] i i' q line missing
    cells cells')
include hc h

theorem isIncomplete_of_defines_variant (hp : .valueObject ∉ p.bases) : i.isIncomplete = false := by
  rw [h.made.isIncomplete]
  cases hi : i.isAbstractKind with
  | false => rfl
  | true =>
    have hmissing : missing = [] := by
      refine required_eq_nil (h.made.required hi) (isRequired_variantBindings _) fun b hb ns hns n hn => ?_
      rw [List.mem_singleton.mp hb] at hns
      -- the sum itself leaves nothing
      cases hm : w.member? c "__abstractmethods__" with
      | none =>
        rw [← Except.ok.inj ((saidRequired_of_none hm).symm.trans hns)] at hn
        cases hn
      | some x =>
        rw [hc.said hp x hm] at hm
        rw [← Except.ok.inj ((saidRequired_of_some hm).symm.trans hns)] at hn
        cases hn
    rw [hmissing]
    rfl

omit hc in
theorem free_of_defines_variant (hn : n ∉ variantNames) : w'.member? (.made w.classes.length) n = none := by
  by_cases hhash : n = "__hash__"
  · rw [hhash, h.member? (by decide), h.made.member _ fun _ => by decide]
    exact Making.lookup_hash_complete (lookup_variantBindings (by decide)) (lookup_variantBindings (by decide)) h.names
  · have hnames : n ∉ noteNames ++ Making.commonNames ∧ n ∉ Making.abstractNames ∧
        n ∉ ["__module__", "__qualname__", "__doc__", "__slots__", "__init__"] := by
      simp only [variantNames, Making.commonNames, List.mem_append, List.mem_cons, List.not_mem_nil, or_false, not_or] at hn ⊢
      grind
    rw [h.member?_of_none hnames.1 (fun _ => hnames.2.1) (lookup_variantBindings hnames.2.2), if_neg List.not_mem_nil]

end

/-- The class of a variant, once it has been given the names of the variant, embodies it. -/
theorem embodiesVariant_of_defines (hc : Embodies w p c vs)
    (h : Defines w w' (ClassPlan.variantClass p.name v) [c] (startBindings (ClassPlan.variantClass p.name v)
      ++ variantBindings (.made w.classes.length) (ClassPlan.variantClass p.name v) v) [] i i' q line missing cells cells')
    (hinfo : w''.info (.made w.classes.length) =
      { w'.info (.made w.classes.length) with name := v.name, qualname := p.name ++ "." ++ v.name })
    (hfixed : w''.isFixed (.made w.classes.length) = false)
    (hmember : ∀ n, w''.member? (.made w.classes.length) n = w'.member? (.made w.classes.length) n)
    (hline : w''.linearize c = w.linearize c) : EmbodiesVariant w'' p c v (.made w.classes.length) := by
  obtain ⟨-, -, -, hlinear, habstract, hincomplete, hholds⟩ := ClassInfo.frame_eq h.info
  obtain ⟨rest, hrest, -⟩ := hc.behind
  have hbehind : line = w.linearize c := Bases.eq_of_linearize?_single (w := { w with cells }) hrest h.made.line_eq
  have hsame : w''.linearize (.made w.classes.length) = i.linearization := by
    rw [World.linearize, hinfo]
    exact hlinear
  have hkind : i.isAbstractKind = !p.bases.isEmpty := by
    rw [h.made.isAbstractKind, ← hc.isAbstractKind]
    exact Bool.or_false _
  have hattributes : i.holdsAttributes = false := by
    rw [h.made.holdsAttributes, h.attributes, Bool.or_false]
    change ((w.info c).holdsAttributes || false) = false
    rw [hc.holdsAttributes]
    rfl
  exact {
    made := ⟨_, rfl⟩
    there := hfixed
    name := by rw [hinfo]
    qualname := by rw [hinfo]
    behind := by rw [hsame, h.made.linearization, hbehind, hline]
    isAbstractKind := by rw [hinfo]; exact habstract.trans hkind
    isIncomplete := fun hp => by rw [hinfo]; exact hincomplete.trans (isIncomplete_of_defines_variant hc h hp)
    holdsAttributes := by rw [hinfo]; exact hholds.trans hattributes
    init := ⟨_, rfl, rfl, (hmember _).trans
      (h.member?_of_some (by decide) (fun _ => by decide) (lookup_init_variantBindings (.made w.classes.length)))⟩
    free := fun n hn => (hmember n).trans (free_of_defines_variant h hn) }

end

end DomainModel.Live.Loading
