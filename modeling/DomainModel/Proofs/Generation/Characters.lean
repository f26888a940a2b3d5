import DomainModel.Module
import DomainModel.Proofs.Text.Splitting

/-!
# Characters of generated modules

The text of a module has no other characters than its names, types and documentation have, besides the ones that a module is
written with anyway: those of ASCII that have ink, spaces and line feeds.
-/

namespace DomainModel

/-- The characters that every module may be written with. -/
def isWritten (c : Char) : Bool := c = '\n' || (0x20 ≤ c.toNat && c.toNat < 0x7f)

namespace Lines

variable {cs : List Char} {c : Char}

theorem mem_of_mem_join {ls : List (List Char)} (h : c ∈ join ls) : c = '\n' ∨ ∃ l ∈ ls, c ∈ l := by
  induction ls with
  | nil => cases h
  | cons l ls ih =>
    cases ls with
    | nil =>
      rw [join_singleton] at h
      exact .inr ⟨l, List.mem_singleton_self _, h⟩
    | cons l' ls =>
      rw [join_cons l (List.cons_ne_nil _ _), List.mem_append, List.mem_cons] at h
      rcases h with h | h | h
      · exact .inr ⟨l, List.mem_cons_self, h⟩
      · exact .inl h
      · exact (ih h).imp_right fun ⟨k, hk, hc⟩ => ⟨k, List.mem_cons_of_mem _ hk, hc⟩

theorem mem_of_mem_splitFeeds : ∀ l ∈ splitFeeds cs, ∀ c ∈ l, c ∈ cs := by
  induction cs with
  | nil => simp [splitFeeds]
  | cons d cs ih =>
    intro l hl c hc
    by_cases hd : d = '\n'
    · rw [splitFeeds, if_pos hd] at hl
      rcases List.mem_cons.mp hl with rfl | hl
      · cases hc
      · exact List.mem_cons_of_mem _ (ih l hl c hc)
    · obtain ⟨k, ks, hks, hsplit⟩ := splitFeeds_cons hd cs
      rw [hsplit] at hl
      rcases List.mem_cons.mp hl with rfl | hl
      · rcases List.mem_cons.mp hc with rfl | hc
        · exact List.mem_cons_self
        · exact List.mem_cons_of_mem _ (ih k (hks ▸ List.mem_cons_self) c hc)
      · exact List.mem_cons_of_mem _ (ih l (hks ▸ List.mem_cons_of_mem _ hl) c hc)

theorem mem_of_mem_split : ∀ x ∈ split cs, ∀ c ∈ x.1 ++ x.2, c ∈ cs := by
  induction cs using split_induction with
  | nil => simp [split]
  | ends s cs hs ih =>
    intro x hx c hc
    rw [hs.split_eq] at hx
    rcases List.mem_cons.mp hx with rfl | hx
    · exact List.mem_append_left _ hc
    · exact List.mem_append_right _ (ih x hx c hc)
  | other d cs hd ih =>
    intro x hx c hc
    rw [split_cons hd] at hx
    cases hsplit : split cs with
    | nil =>
      rw [hsplit] at hx
      obtain rfl := List.mem_singleton.mp hx
      simp_all
    | cons y ys =>
      rw [hsplit] at hx
      rcases List.mem_cons.mp hx with rfl | hx
      · rcases List.mem_cons.mp hc with rfl | hc
        · exact List.mem_cons_self
        · exact List.mem_cons_of_mem _ (ih y (hsplit ▸ List.mem_cons_self) c hc)
      · exact List.mem_cons_of_mem _ (ih x (hsplit ▸ List.mem_cons_of_mem _ hx) c hc)

theorem mem_margin (h : c ∈ margin) : isWritten c = true := by
  rw [List.eq_of_mem_replicate h]
  decide

theorem mem_of_mem_indent (h : c ∈ indent cs) : isWritten c = true ∨ c ∈ cs := by
  rw [indent_eq] at h
  obtain ⟨x, hx, hc⟩ := List.mem_flatMap.mp h
  rw [moved, List.mem_append] at hc
  have hmem := mem_of_mem_split x hx c
  rw [List.mem_append] at hmem
  rcases hc with hc | hc
  · split at hc
    · exact .inr (hmem (.inl hc))
    · rcases List.mem_append.mp hc with hc | hc
      · exact .inl (mem_margin hc)
      · exact .inr (hmem (.inl hc))
  · exact .inr (hmem (.inr hc))

theorem mem_of_mem_shift (h : c ∈ shift cs) : isWritten c = true ∨ c ∈ cs := by
  have hline : ∀ l ∈ (split (cs ++ ['\n'])).map Prod.fst, ∀ c ∈ l, isWritten c = true ∨ c ∈ cs := by
    intro l hl c hc
    obtain ⟨x, hx, rfl⟩ := List.mem_map.mp hl
    rcases List.mem_append.mp (mem_of_mem_split x hx c (List.mem_append_left _ hc)) with hc | hc
    · exact .inr hc
    · rw [List.mem_singleton.mp hc]
      exact .inl (by decide)
  rw [shift] at h
  split at h
  · exact .inl (mem_margin h)
  · next first rest hlines =>
    rw [hlines] at hline
    rcases mem_of_mem_join h with rfl | ⟨l, hl, hc⟩
    · exact .inl (by decide)
    · rcases List.mem_cons.mp hl with rfl | hl
      · rcases List.mem_append.mp hc with hc | hc
        · exact .inl (mem_margin hc)
        · exact hline first List.mem_cons_self c hc
      · obtain ⟨k, hk, rfl⟩ := List.mem_map.mp hl
        rw [shiftLine] at hc
        split at hc
        · exact hline k (List.mem_cons_of_mem _ hk) c hc
        · rcases List.mem_append.mp hc with hc | hc
          · exact .inl (mem_margin hc)
          · exact hline k (List.mem_cons_of_mem _ hk) c hc

theorem mem_of_mem_clearBlank (h : c ∈ clearBlank cs) : isWritten c = true ∨ c ∈ cs := by
  rcases mem_of_mem_join h with rfl | ⟨l, hl, hc⟩
  · exact .inl (by decide)
  · obtain ⟨k, hk, rfl⟩ := List.mem_map.mp hl
    split at hc
    · cases hc
    · exact .inr (mem_of_mem_splitFeeds k hk c hc)

theorem mem_of_mem_trimFeeds (h : c ∈ trimFeeds cs) : c ∈ cs := by
  rw [trimFeeds, List.mem_reverse] at h
  have hmem := (List.dropWhile_sublist _).subset h
  rw [List.mem_reverse] at hmem
  exact (List.dropWhile_sublist _).subset hmem

end Lines

namespace Docstring

variable {cs : List Char} {c : Char}

theorem mem_of_mem_escape (h : c ∈ escape cs) : isWritten c = true ∨ c ∈ cs := by
  induction cs using escape.induct with
  | case1 => cases h
  | case2 cs ih =>
    simp only [escape, List.mem_cons] at h
    rcases h with rfl | rfl | rfl | rfl | rfl | rfl | h
    all_goals first
      | exact .inl (by decide)
      | exact (ih h).imp_right fun hc => List.mem_cons_of_mem _ (List.mem_cons_of_mem _ (List.mem_cons_of_mem _ hc))
  | case3 cs hne ih =>
    rw [escape.eq_3 _ _ hne, if_pos rfl] at h
    simp only [List.mem_cons] at h
    rcases h with rfl | rfl | h
    · exact .inl (by decide)
    · exact .inl (by decide)
    · exact (ih h).imp_right (List.mem_cons_of_mem _)
  | case4 d cs hne hd ih =>
    rw [escape.eq_3 _ _ hne, if_neg hd] at h
    rcases List.mem_cons.mp h with rfl | h
    · exact .inr List.mem_cons_self
    · exact (ih h).imp_right (List.mem_cons_of_mem _)

theorem mem_of_mem_encode {lines : List (List Char)} (h : c ∈ encode lines) : isWritten c = true ∨ ∃ l ∈ lines, c ∈ l := by
  have hquotes : ∀ c ∈ quotes, isWritten c = true := by simp [quotes, isWritten]
  have hfeed : isWritten '\n' = true := by decide
  have hescaped : ∀ k ∈ lines.map escape, c ∈ k → isWritten c = true ∨ ∃ l ∈ lines, c ∈ l := by
    intro k hk hc
    obtain ⟨l, hl, rfl⟩ := List.mem_map.mp hk
    exact (mem_of_mem_escape hc).imp_right fun hmem => ⟨l, hl, hmem⟩
  rw [encode] at h
  split at h
  · cases h
  · next line hline =>
    rw [hline] at hescaped
    split at h
    · simp only [List.mem_append, List.mem_cons] at h
      rcases h with (h | h) | rfl | h
      · exact .inl (hquotes c h)
      · exact hescaped line List.mem_cons_self h
      · exact .inl hfeed
      · exact .inl (hquotes c h)
    · simp only [List.mem_append] at h
      rcases h with (h | h) | h
      · exact .inl (hquotes c h)
      · exact hescaped line List.mem_cons_self h
      · exact .inl (hquotes c h)
  · simp only [List.mem_append, List.mem_cons] at h
    rcases h with (h | h) | rfl | h
    · exact .inl (hquotes c h)
    · rcases Lines.mem_of_mem_join h with rfl | ⟨k, hk, hc⟩
      · exact .inl hfeed
      · exact hescaped k hk hc
    · exact .inl hfeed
    · exact .inl (hquotes c h)

end Docstring

/-! ## Texts -/

def Consists (P : Char → Prop) (s : String) : Prop := ∀ c ∈ s.toList, P c

/-- A kind of characters among which are all that a module may be written with. -/
def Covers (P : Char → Prop) : Prop := ∀ c, isWritten c = true → P c

section

variable {P : Char → Prop} {s t : String} {cs : List Char} {ss : List String}

@[simp]
theorem consists_append : Consists P (s ++ t) ↔ Consists P s ∧ Consists P t := by
  simp only [Consists, String.toList_append, List.mem_append, or_imp, forall_and]

theorem consists_ofList : Consists P (String.ofList cs) ↔ ∀ c ∈ cs, P c := by rw [Consists, String.toList_ofList]

theorem consists_join : Consists P (String.join ss) ↔ ∀ s ∈ ss, Consists P s := by
  simp only [Consists, String.toList_join, List.mem_flatMap]
  exact ⟨fun h s hs c hc => h c ⟨s, hs, hc⟩, fun h c ⟨s, hs, hc⟩ => h s hs c hc⟩

theorem consists_intercalate (ht : Consists P t) (h : ∀ s ∈ ss, Consists P s) : Consists P (t.intercalate ss) := by
  induction ss with
  | nil => intro c hc; simp at hc
  | cons s ss ih =>
    cases ss with
    | nil => simpa using h s List.mem_cons_self
    | cons s' ss =>
      rw [String.intercalate_cons_cons]
      simp only [consists_append]
      exact ⟨⟨h s List.mem_cons_self, ht⟩, ih fun k hk => h k (List.mem_cons_of_mem _ hk)⟩

theorem written_contract (b : Contract) : b.text.toList.all isWritten = true := by cases b <;> decide

namespace Covers

variable (hP : Covers P)
include hP

theorem written (h : s.toList.all isWritten = true) : Consists P s := fun c hc => hP c (List.all_eq_true.mp h c hc)

theorem ofLines (h : ∀ s ∈ ss, Consists P s) : Consists P (Member.ofLines ss) := by
  rw [Member.ofLines, consists_join]
  intro s hs
  obtain ⟨k, hk, rfl⟩ := List.mem_map.mp hs
  exact consists_append.mpr ⟨h k hk, hP.written (by decide)⟩

theorem tidy (h : Consists P s) : Consists P (Member.tidy s) := by
  rw [Member.tidy, consists_ofList]
  intro c hc
  exact (Lines.mem_of_mem_clearBlank (Lines.mem_of_mem_trimFeeds hc)).elim (hP c) (h c)

theorem shifted (h : Consists P s) : Consists P (ClassPlan.shifted s) := by
  rw [ClassPlan.shifted, consists_ofList]
  intro c hc
  exact (Lines.mem_of_mem_shift hc).elim (hP c) (h c)

theorem docstring {docs : List String} (h : ∀ s ∈ docs, Consists P s) : Consists P (Docstring.text docs) := by
  rw [Docstring.text, consists_ofList]
  intro c hc
  rcases Docstring.mem_of_mem_encode hc with hc | ⟨l, hl, hc⟩
  · exact hP c hc
  · obtain ⟨s, hs, rfl⟩ := List.mem_map.mp hl
    exact h s hs c hc

theorem bodyText {docs : List String} (h : ∀ s ∈ docs, Consists P s) : Consists P (Docstring.bodyText docs) := by
  rw [Docstring.bodyText, consists_ofList]
  intro c hc
  rcases Lines.mem_of_mem_indent hc with hc | hc
  · exact hP c hc
  · have htext := hP.docstring h
    rw [Docstring.text, consists_ofList] at htext
    exact htext c hc

theorem block (h : ∀ s ∈ ss, Consists P s) : Consists P (ClassPlan.block ss) :=
  consists_intercalate (hP.written (by decide)) h

theorem tuple (h : ∀ s ∈ ss, Consists P s) : Consists P (ClassPlan.tuple ss) := by
  have hquoted : Consists P (", ".intercalate (ss.map fun n => "\"" ++ n ++ "\"")) := by
    refine consists_intercalate (hP.written (by decide)) fun k hk => ?_
    obtain ⟨n, hn, rfl⟩ := List.mem_map.mp hk
    simp only [consists_append]
    exact ⟨⟨hP.written (by decide), h n hn⟩, hP.written (by decide)⟩
  rw [ClassPlan.tuple]
  simp only [consists_append]
  refine ⟨⟨⟨hP.written (by decide), hquoted⟩, ?_⟩, hP.written (by decide)⟩
  split
  · exact hP.written (by decide)
  · exact hP.written (by decide)

theorem slot (h : Consists P s) : Consists P (slot s) := consists_append.mpr ⟨hP.written (by decide), h⟩

end Covers

end

/-! ## Modules -/

def Member.parts : Member → List String
  | accessor name annotation (.stored field) docs => name :: annotation :: field :: docs
  | accessor name annotation (.count field) docs => name :: annotation :: field :: docs
  | property name annotation docs => name :: annotation :: docs
  | equality owner field => [owner, field]
  | hash field => [field]
  | display field => [field]
  | clone owner field => [owner, field]
  | tryFrom owner field annotation error => [owner, field, annotation, error]
  | dispatch owner variants name annotation => owner :: name :: annotation :: variants

def Field.parts (f : Field) : List String := f.name :: f.type.annotation :: f.docs

def Variant.parts (v : Variant) : List String := v.name :: v.payload.annotation :: v.docs

def Layout.parts : Layout → List String
  | .record fields assignable => (fields ++ assignable).flatMap Field.parts
  | .sum variants _ => variants.flatMap Variant.parts

def ClassPlan.parts (p : ClassPlan) : List String :=
  p.name :: p.docs ++ p.layout.parts ++ p.supplied.flatMap Member.parts
    ++ p.errors.flatMap (fun e => [e.owner, e.name]) ++ p.events

/-- The names, types and documentation of a module. -/
def Module.parts (m : Module) : List String :=
  m.contracts :: m.classes.flatMap ClassPlan.parts ++ m.synonyms.flatMap fun s => [s.name, s.annotation]

section

variable {P : Char → Prop} (hP : Covers P)
include hP

namespace Member

theorem consists_docLines {docs : List String} (h : ∀ s ∈ docs, Consists P s) : ∀ l ∈ docLines docs, Consists P l := by
  intro l hl
  rw [docLines] at hl
  split at hl
  · cases hl
  · rw [List.mem_singleton.mp hl]
    exact hP.bodyText h

theorem consists_accessor {name annotation : String} {reading : Reading} {docs : List String}
    (h : ∀ s ∈ (accessor name annotation reading docs).parts, Consists P s) :
    Consists P (accessor name annotation reading docs).source := by
  have hparts : Consists P name ∧ Consists P annotation ∧ Consists P reading.text ∧ ∀ s ∈ docs, Consists P s := by
    cases reading with
    | _ field =>
      simp only [parts, List.mem_cons, forall_eq_or_imp] at h
      obtain ⟨hname, hannotation, hfield, hdocs⟩ := h
      have hslot := hP.slot hfield
      exact ⟨hname, hannotation, by simp (disch := decide) [hP.written, Reading.text, hslot], hdocs⟩
  obtain ⟨hname, hannotation, hreading, hdocs⟩ := hparts
  refine hP.ofLines fun l hl => ?_
  simp only [List.mem_append, List.mem_cons, List.not_mem_nil, or_false] at hl
  rcases hl with ((rfl | rfl) | hl) | rfl
  · exact hP.written (by decide)
  · simp (disch := decide) [hP.written, hname, hannotation]
  · exact consists_docLines hP hdocs l hl
  · simp (disch := decide) [hP.written, hreading]

theorem consists_property {name annotation : String} {docs : List String}
    (h : ∀ s ∈ (property name annotation docs).parts, Consists P s) : Consists P (property name annotation docs).source := by
  simp only [parts, List.mem_cons, forall_eq_or_imp] at h
  obtain ⟨hname, hannotation, hdocs⟩ := h
  have hslot := hP.slot hname
  refine hP.ofLines fun l hl => ?_
  simp only [List.mem_append, List.mem_cons, List.not_mem_nil, or_false] at hl
  rcases hl with ((rfl | rfl) | hl) | rfl | rfl | rfl | rfl | rfl
  · exact hP.written (by decide)
  · simp (disch := decide) [hP.written, hname, hannotation]
  · exact consists_docLines hP hdocs l hl
  all_goals simp (disch := decide) [hP.written, hname, hannotation, hslot]

theorem consists_dispatch {owner name annotation : String} {variants : List String}
    (h : ∀ s ∈ (dispatch owner variants name annotation).parts, Consists P s) :
    Consists P (dispatch owner variants name annotation).source := by
  simp only [parts, List.mem_cons, forall_eq_or_imp] at h
  obtain ⟨howner, hname, hannotation, hvariants⟩ := h
  refine hP.ofLines fun l hl => ?_
  rcases List.mem_append.mp hl with hl | hl
  · simp only [List.mem_cons, List.not_mem_nil, or_false] at hl
    rcases hl with rfl | rfl
    · exact hP.written (by decide)
    · simp (disch := decide) [hP.written, hname, hannotation]
  · split at hl
    · rw [List.mem_singleton.mp hl]
      simp (disch := decide) [hP.written, howner]
    · rcases List.mem_cons.mp hl with rfl | hl
      · exact hP.written (by decide)
      · obtain ⟨v, hv, hl⟩ := List.mem_flatMap.mp hl
        have hvariant := hvariants v hv
        simp only [caseLines, List.mem_cons, List.not_mem_nil, or_false] at hl
        rcases hl with rfl | rfl
        all_goals simp (disch := decide) [hP.written, howner, hname, hvariant]

theorem consists_source {m : Member} (h : ∀ s ∈ m.parts, Consists P s) : Consists P m.source := by
  cases m with
  | accessor name annotation reading docs => exact consists_accessor hP h
  | property name annotation docs => exact consists_property hP h
  | equality owner field =>
    simp only [parts, List.mem_cons, List.not_mem_nil, or_false, forall_eq_or_imp, forall_eq] at h
    refine hP.ofLines ?_
    simp (disch := decide) [hP.written, h, hP.slot h.2]
  | hash field =>
    simp only [parts, List.mem_cons, List.not_mem_nil, or_false, forall_eq] at h
    refine hP.ofLines ?_
    simp (disch := decide) [hP.written, hP.slot h]
  | display field =>
    simp only [parts, List.mem_cons, List.not_mem_nil, or_false, forall_eq] at h
    refine hP.ofLines ?_
    simp (disch := decide) [hP.written, hP.slot h]
  | clone owner field =>
    simp only [parts, List.mem_cons, List.not_mem_nil, or_false, forall_eq_or_imp, forall_eq] at h
    refine hP.ofLines ?_
    simp (disch := decide) [hP.written, h, hP.slot h.2]
  | tryFrom owner field annotation error =>
    simp only [parts, List.mem_cons, List.not_mem_nil, or_false, forall_eq_or_imp, forall_eq] at h
    refine hP.ofLines ?_
    simp (disch := decide) [hP.written, h]
  | dispatch owner variants name annotation => exact consists_dispatch hP h

end Member

namespace ClassPlan

section
variable {name : String} {fields : List Field} {variants : List Variant}

theorem consists_recordInit (h : ∀ f ∈ fields, Consists P f.name ∧ Consists P f.type.annotation) :
    Consists P (recordInit fields) := by
  rw [recordInit]
  split
  · exact hP.block (by simp (disch := decide) [hP.written])
  · refine hP.block fun l hl => ?_
    rcases List.mem_cons.mp hl with rfl | hl
    · simp only [consists_append]
      refine ⟨⟨hP.written (by decide), consists_intercalate (hP.written (by decide)) fun n hn => ?_⟩, hP.written (by decide)⟩
      obtain ⟨f, hf, rfl⟩ := List.mem_map.mp hn
      simp (disch := decide) [hP.written, h f hf]
    · obtain ⟨f, hf, rfl⟩ := List.mem_map.mp hl
      simp (disch := decide) [hP.written, (h f hf).1, hP.slot (h f hf).1]

theorem consists_recordRepr (hname : Consists P name) (h : ∀ f ∈ fields, Consists P f.name) :
    Consists P (recordRepr name fields) := by
  have hparts : Consists P (", ".intercalate (fields.map fun f => f.name ++ "=\x7bself." ++ slot f.name ++ "!r\x7d")) := by
    refine consists_intercalate (hP.written (by decide)) fun n hn => ?_
    obtain ⟨f, hf, rfl⟩ := List.mem_map.mp hn
    simp (disch := decide) [hP.written, h f hf, hP.slot (h f hf)]
  exact hP.block (by simp (disch := decide) [hP.written, hname, hparts])

theorem consists_payloadUnion (h : ∀ v ∈ variants, Consists P v.payload.annotation) : Consists P (payloadUnion variants) := by
  rw [payloadUnion]
  split
  · exact hP.written (by decide)
  · refine consists_intercalate (hP.written (by decide)) fun s hs => ?_
    obtain ⟨v, hv, rfl⟩ := List.mem_map.mp hs
    exact h v hv

theorem consists_sumHeader (hname : Consists P name) (h : ∀ v ∈ variants, Consists P v.name) :
    Consists P (sumHeader name variants) := by
  refine hP.block fun l hl => ?_
  simp only [List.mem_append, List.mem_cons, List.not_mem_nil, or_false, List.mem_map] at hl
  rcases hl with (rfl | rfl | rfl) | ⟨v, hv, rfl⟩
  · exact consists_append.mpr ⟨hP.written (by decide), hP.tuple (by simp (disch := decide) [hP.written])⟩
  · exact hP.written (by decide)
  · refine consists_append.mpr ⟨hP.written (by decide), hP.tuple fun n hn => ?_⟩
    obtain ⟨v, hv, rfl⟩ := List.mem_map.mp hn
    exact h v hv
  · simp (disch := decide) [hP.written, h v hv, hname]

theorem consists_sumInit (hname : Consists P name) (h : ∀ v ∈ variants, Consists P v.payload.annotation)
    (payload : Option Contract) : Consists P (sumInit name variants payload) := by
  have hunion := consists_payloadUnion hP h
  refine hP.block fun l hl => ?_
  simp only [List.mem_append, List.mem_cons, List.not_mem_nil, or_false] at hl
  rcases hl with ((rfl | rfl | rfl) | hl) | rfl
  · simp (disch := decide) [hP.written, hunion]
  · simp (disch := decide) [hP.written, hname]
  · simp (disch := decide) [hP.written, hname]
  · obtain ⟨b, -, hl⟩ := List.mem_flatMap.mp hl
    have hb := hP.written (written_contract b)
    simp only [payloadCheck, List.mem_cons, List.not_mem_nil, or_false] at hl
    rcases hl with rfl | rfl | rfl | rfl | rfl
    all_goals simp (disch := decide) [hP.written, hb]
  · exact hP.written (by decide)

theorem consists_layoutSources {layout : Layout} (hname : Consists P name) (h : ∀ s ∈ layout.parts, Consists P s) :
    ∀ s ∈ layoutSources name layout, Consists P s := by
  intro s hs
  cases layout with
  | record fields assignable =>
    have hfield : ∀ f ∈ fields, Consists P f.name ∧ Consists P f.type.annotation := by
      intro f hf
      have hparts : ∀ s ∈ f.parts, Consists P s := fun s hs =>
        h s (List.mem_flatMap.mpr ⟨f, List.mem_append_left _ hf, hs⟩)
      simp only [Field.parts, List.mem_cons, forall_eq_or_imp] at hparts
      exact ⟨hparts.1, hparts.2.1⟩
    simp only [layoutSources, List.mem_append, List.mem_cons, List.not_mem_nil, or_false, List.mem_map] at hs
    rcases hs with (rfl | rfl | rfl) | ⟨f, hf, rfl⟩
    · refine consists_append.mpr ⟨hP.written (by decide), hP.tuple fun n hn => ?_⟩
      obtain ⟨f, hf, rfl⟩ := List.mem_map.mp hn
      exact hP.slot (hfield f hf).1
    · exact consists_recordInit hP hfield
    · exact consists_recordRepr hP hname fun f hf => (hfield f hf).1
    · refine hP.tidy (Member.consists_source hP fun s hs => ?_)
      exact h s (List.mem_flatMap.mpr ⟨f, List.mem_append_right _ hf, hs⟩)
  | sum variants payload =>
    have hvariant : ∀ v ∈ variants, Consists P v.name ∧ Consists P v.payload.annotation := by
      intro v hv
      have hparts : ∀ s ∈ v.parts, Consists P s := fun s hs => h s (List.mem_flatMap.mpr ⟨v, hv, hs⟩)
      simp only [Variant.parts, List.mem_cons, forall_eq_or_imp] at hparts
      exact ⟨hparts.1, hparts.2.1⟩
    have hunion := consists_payloadUnion hP fun v hv => (hvariant v hv).2
    simp only [layoutSources, List.mem_cons, List.not_mem_nil, or_false] at hs
    rcases hs with rfl | rfl | rfl | rfl | rfl | rfl
    · exact consists_sumHeader hP hname fun v hv => (hvariant v hv).1
    · exact consists_sumInit hP hname (fun v hv => (hvariant v hv).2) payload
    · exact hP.block (by simp (disch := decide) [hP.written, hunion])
    · exact hP.block (by simp (disch := decide) [hP.written])
    · exact hP.block (by simp (disch := decide) [hP.written])
    · exact hP.block (by simp (disch := decide) [hP.written])

end

theorem consists_docLines {docs : List String} (h : ∀ s ∈ docs, Consists P s) : ∀ l ∈ docLines docs, Consists P l := by
  intro l hl
  rw [docLines] at hl
  split at hl
  · cases hl
  · simp only [List.mem_cons, List.not_mem_nil, or_false] at hl
    rcases hl with rfl | rfl
    · exact hP.shifted (hP.docstring h)
    · exact hP.written (by decide)

theorem consists_variantLines {name : String} {v : Variant} (hname : Consists P name) (h : ∀ s ∈ v.parts, Consists P s) :
    ∀ l ∈ variantLines name v, Consists P l := by
  simp only [Variant.parts, List.mem_cons, forall_eq_or_imp] at h
  obtain ⟨hvariant, htype, hdocs⟩ := h
  intro l hl
  simp only [variantLines, List.mem_append, List.mem_singleton] at hl
  rcases hl with (rfl | hl) | hl
  · simp (disch := decide) [hP.written, variantClass, hname, hvariant]
  · exact consists_docLines hP hdocs l hl
  · simp only [List.mem_cons, List.not_mem_nil, or_false] at hl
    rcases hl with rfl | rfl | rfl | rfl | rfl | rfl | rfl | rfl | rfl
    all_goals simp (disch := decide) [hP.written, variantClass, hname, hvariant, htype]

theorem consists_lines {p : ClassPlan} (h : ∀ s ∈ p.parts, Consists P s) :
    (∀ l ∈ p.lines, Consists P l) ∧ (∀ l ∈ p.epilogue, Consists P l) ∧ ∀ e ∈ p.errors, Consists P (Member.tidy e.source) := by
  simp only [parts, List.mem_append, List.mem_cons, or_imp, forall_and, forall_eq] at h
  obtain ⟨⟨⟨⟨⟨hname, hdocs⟩, hlayout⟩, hsupplied⟩, herrors⟩, hevents⟩ := h
  refine ⟨fun l hl => ?_, fun l hl => ?_, fun e he => ?_⟩
  · simp only [lines, List.mem_append, List.mem_singleton] at hl
    rcases hl with ((rfl | hl) | hl) | hl
    · rw [headLine]
      simp only [consists_append]
      refine ⟨⟨⟨hP.written (by decide), hname⟩, ?_⟩, hP.written (by decide)⟩
      split
      · exact hP.written (by decide)
      · simp only [consists_append]
        refine ⟨⟨hP.written (by decide), consists_intercalate (hP.written (by decide)) fun s hs => ?_⟩, hP.written (by decide)⟩
        obtain ⟨b, -, rfl⟩ := List.mem_map.mp hs
        exact hP.written (written_contract b)
    · exact consists_docLines hP hdocs l hl
    · obtain ⟨s, hs, rfl⟩ := List.mem_map.mp hl
      refine hP.shifted ?_
      rcases List.mem_append.mp hs with hs | hs
      · exact consists_layoutSources hP hname hlayout s hs
      · obtain ⟨x, hx, rfl⟩ := List.mem_map.mp hs
        exact hP.tidy (Member.consists_source hP fun s hs => hsupplied s (List.mem_flatMap.mpr ⟨x, hx, hs⟩))
    · obtain ⟨v, hv, hl⟩ := List.mem_flatMap.mp hl
      refine consists_variantLines hP hname (fun s hs => hlayout s ?_) l hl
      rw [variants] at hv
      split at hv
      · cases hv
      · next vs payload hl =>
        rw [hl]
        exact List.mem_flatMap.mpr ⟨v, hv, hs⟩
  · obtain ⟨e, he, rfl⟩ := List.mem_map.mp hl
    simp (disch := decide) [Fragment.eventsLine, hP.written, hname, hevents e he]
  · have hparts := fun s hs => herrors s (List.mem_flatMap.mpr ⟨e, he, hs⟩)
    simp only [List.mem_cons, List.not_mem_nil, or_false, forall_eq_or_imp, forall_eq] at hparts
    refine hP.tidy (hP.ofLines ?_)
    simp (disch := decide) [hP.written, hparts]

end ClassPlan

/-- The text of a module has no other characters than its parts, but for those that it may be written with. -/
theorem Module.consists_text {m : Module} (h : ∀ s ∈ m.parts, Consists P s) : Consists P m.text := by
  simp only [parts, List.mem_append, List.mem_cons, or_imp, forall_and, forall_eq] at h
  obtain ⟨⟨hcontracts, hclasses⟩, hsynonyms⟩ := h
  have hclass : ∀ p ∈ m.classes, _ := fun p hp =>
    ClassPlan.consists_lines hP fun s hs => hclasses s (List.mem_flatMap.mpr ⟨p, hp, hs⟩)
  have himports : ∀ margin : String, margin.toList.all isWritten = true → ∀ l ∈ m.importLines margin, Consists P l := by
    intro margin hm l hl
    have hmargin : Consists P margin := hP.written hm
    simp only [importLines, List.mem_append, List.mem_singleton, List.mem_map] at hl
    rcases hl with (rfl | ⟨b, -, rfl⟩) | rfl
    · simp (disch := decide) [hP.written, hmargin, hcontracts]
    · have hb := hP.written (written_contract b)
      simp (disch := decide) [hP.written, hmargin, hb]
    · simp (disch := decide) [hP.written, hmargin]
  have hhead : ∀ l ∈ m.headLines, Consists P l := by
    intro l hl
    simp only [headLines, contractLines, List.mem_append] at hl
    rcases hl with ((hl | hl) | hl) | hl
    · exact hP.written (by revert l; decide)
    · split at hl
      · exact hP.written (by revert l; decide)
      · cases hl
    · exact hP.written (by revert l; decide)
    · split at hl
      · simp only [List.mem_append] at hl
        rcases hl with (hl | hl) | hl
        · exact hP.written (by revert l; decide)
        · exact himports _ (by decide) l hl
        · exact hP.written (by revert l; decide)
      · exact himports _ (by decide) l hl
  refine hP.ofLines fun l hl => ?_
  simp only [lines, List.mem_append, List.mem_flatMap, List.mem_map] at hl
  rcases hl with (((hl | ⟨p, hp, e, he, rfl⟩) | ⟨p, hp, hl⟩) | ⟨s, hs, rfl⟩) | ⟨p, hp, hl⟩
  · exact hhead l hl
  · exact (hclass p hp).2.2 e he
  · exact (hclass p hp).1 l hl
  · have hparts := fun t ht => hsynonyms t (List.mem_flatMap.mpr ⟨s, hs, ht⟩)
    simp only [List.mem_cons, List.not_mem_nil, or_false, forall_eq_or_imp, forall_eq] at hparts
    simp (disch := decide) [synonymLine, hP.written, hparts]
  · exact (hclass p hp).2.1 l hl

end

/-- A null character gets into a module only with its names, types and documentation. -/
theorem Module.null_not_mem_text {m : Module} (h : ∀ s ∈ m.parts, '\x00' ∉ s.toList) : '\x00' ∉ m.text.toList := by
  have hcovers : Covers (· ≠ '\x00') := by
    rintro c hc rfl
    exact absurd hc (by decide)
  have htext : Consists (· ≠ '\x00') m.text := Module.consists_text hcovers fun s hs c hc he => h s hs (he ▸ hc)
  exact fun hmem => htext _ hmem rfl

end DomainModel
