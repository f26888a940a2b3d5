import DomainModel.Proofs.Source.Acceptance
import DomainModel.Proofs.Source.Printing
import DomainModel.Proofs.Source.Spelling

/-!
# What reading does not depend on

What a reader does next depends neither on the places nor on the documentation that it has taken. `erased`
leaves them out of a reader, the documentation only if it is not to be kept; readers that are equal then
stay so with every token (`Reader.step_erased`, `Reader.steps_congr`) and scan a text as the same tokens,
only elsewhere (`Scans.elsewhere`). A whole line of documentation can be left out in the same way, if the
next token is one of the element behind it (`TakesDoc.step_erased`).
-/

namespace DomainModel

/-! ## Leaving out -/

def Token.unplaced (t : Token) : Token := { t with position := .start }

def Named.unlocated (n : Named) : Named := { n with location := ⟨0, 0, none⟩ }

section
variable (keep : Bool)

/-- The documentation, if it is kept. -/
def keptDocs (docs : List String) : List String := if keep then docs else []

def Field.erased (f : Field) : Field := { f with docs := keptDocs keep f.docs, location := none }

def Variant.erased (v : Variant) : Variant := { v with docs := keptDocs keep v.docs, location := none }

def Declaration.erased (d : Declaration) : Declaration :=
  { d with
    directives := d.directives.map Directive.unlocated
    docs := keptDocs keep d.docs
    fields := d.fields.map (Field.erased keep)
    variants := d.variants.map (Variant.erased keep)
    location := none }

def Header.erased (h : Header) : Header :=
  ⟨keptDocs keep h.docs, h.directives.map Directive.unlocated⟩

def FieldPoint.erased : FieldPoint → FieldPoint
  | start => start
  | documented docs => documented (keptDocs keep docs)
  | exposed docs => exposed (keptDocs keep docs)
  | named docs v n => named (keptDocs keep docs) v n.unlocated
  | typed docs v n p => typed (keptDocs keep docs) v n.unlocated p

def VariantPoint.erased : VariantPoint → VariantPoint
  | start => start
  | documented docs => documented (keptDocs keep docs)
  | named docs n => named (keptDocs keep docs) n.unlocated
  | payload docs n p => payload (keptDocs keep docs) n.unlocated p

def Point.erased : Point → Point
  | opening => opening
  | documented docs => documented (keptDocs keep docs)
  | directiveSign h => directiveSign (h.erased keep)
  | directiveNamed h n => directiveNamed (h.erased keep) n.unlocated
  | arguments h n taken p => arguments (h.erased keep) n.unlocated taken p
  | directed h => directed (h.erased keep)
  | keyword h kind => keyword (h.erased keep) kind
  | named h kind n => named (h.erased keep) kind n.unlocated
  | fields h n taken p =>
    fields (h.erased keep) n.unlocated (taken.map (Field.erased keep)) (p.erased keep)
  | variants h n taken p =>
    variants (h.erased keep) n.unlocated (taken.map (Variant.erased keep)) (p.erased keep)
  | target h n p => target (h.erased keep) n.unlocated p

def Reader.erased (r : Reader) : Reader :=
  ⟨none, r.done.map (Declaration.erased keep), r.point.erased keep⟩

end

/-! ## Leaving out twice -/

section
variable {keep : Bool}

@[simp] theorem keptDocs_keptDocs (docs : List String) :
    keptDocs keep (keptDocs keep docs) = keptDocs keep docs := by
  cases keep <;> rfl

@[simp] theorem keptDocs_nil : keptDocs keep [] = [] := by
  cases keep <;> rfl

@[simp] theorem keptDocs_snoc (docs : List String) (line : String) :
    keptDocs keep (keptDocs keep docs ++ [line]) = keptDocs keep (docs ++ [line]) := by
  cases keep <;> rfl

@[simp] theorem Token.unplaced_terminal (t : Token) : t.unplaced.terminal = t.terminal := rfl

@[simp] theorem Token.unplaced_lexeme (t : Token) : t.unplaced.lexeme = t.lexeme := rfl

@[simp] theorem Named.unlocated_unlocated (n : Named) : n.unlocated.unlocated = n.unlocated := rfl

@[simp] theorem Directive.unlocated_unlocated (d : Directive) : d.unlocated.unlocated = d.unlocated := rfl

@[simp] theorem Field.erased_erased (f : Field) : (f.erased keep).erased keep = f.erased keep := by
  simp [erased]

@[simp] theorem Variant.erased_erased (v : Variant) : (v.erased keep).erased keep = v.erased keep := by
  simp [erased]

@[simp] theorem Declaration.erased_erased (d : Declaration) : (d.erased keep).erased keep = d.erased keep := by
  simp [erased]

@[simp] theorem Header.erased_erased (h : Header) : (h.erased keep).erased keep = h.erased keep := by
  simp [erased]

@[simp] theorem FieldPoint.erased_erased (p : FieldPoint) : (p.erased keep).erased keep = p.erased keep := by
  cases p <;> simp [erased]

@[simp] theorem VariantPoint.erased_erased (p : VariantPoint) :
    (p.erased keep).erased keep = p.erased keep := by
  cases p <;> simp [erased]

@[simp] theorem Point.erased_erased (p : Point) : (p.erased keep).erased keep = p.erased keep := by
  cases p <;> simp [erased]

end

/-! ## Steps -/

@[simp] theorem TypePoint.step_unplaced (p : TypePoint) (t : Token) : p.step t.unplaced = p.step t := rfl

@[simp] theorem ArgumentPoint.step_unplaced (p : ArgumentPoint) (t : Token) : p.step t.unplaced = p.step t := rfl

namespace Reader
variable (keep : Bool) (r : Reader) (t : Token)

theorem context_erased : (r.erased keep).context = r.context := by
  obtain ⟨file, done, point⟩ := r
  cases point with
  | fields _ _ _ p => cases p <;> rfl
  | variants _ _ _ p => cases p <;> rfl
  | _ => rfl

@[simp] theorem erased_done : (r.erased keep).done = r.done.map (Declaration.erased keep) := rfl

@[simp] theorem erased_move (p : Point) :
    (r.move p).erased keep = ⟨none, r.done.map (Declaration.erased keep), p.erased keep⟩ := rfl

@[simp] theorem erased_close (d : Declaration) :
    (r.close d).erased keep = ⟨none, r.done.map (Declaration.erased keep) ++ [d.erased keep], .opening⟩ := by
  simp [close, erased, Point.erased]

@[simp] theorem unlocated_named : (r.named t).unlocated = ⟨t.lexeme, ⟨0, 0, none⟩⟩ := rfl

theorem stepHeader_erased (h : Header) :
    ((r.erased keep).stepHeader (h.erased keep) t.unplaced).map (erased keep) =
      (r.stepHeader h t).map (erased keep) := by
  unfold stepHeader
  rw [Token.unplaced_terminal]
  cases t.terminal <;> simp [Point.erased]

theorem stepOpening_erased (docs : List String) :
    ((r.erased keep).stepOpening (keptDocs keep docs) t.unplaced).map (erased keep) =
      (r.stepOpening docs t).map (erased keep) := by
  unfold stepOpening
  rw [Token.unplaced_terminal, Token.unplaced_lexeme]
  split
  · simp [Point.erased]
  · exact stepHeader_erased keep r t ⟨docs, []⟩

theorem withDirective_erased (h : Header) (n : Named) (args : List Argument) :
    ((h.erased keep).withDirective n.unlocated args).erased keep = (h.withDirective n args).erased keep := by
  simp [Header.withDirective, Header.erased, Directive.unlocated, Named.unlocated]

theorem stepArguments_erased (h : Header) (n : Named) (taken : List Argument) (p : ArgumentPoint) :
    ((r.erased keep).stepArguments (h.erased keep) n.unlocated taken p t.unplaced).map (erased keep) =
      (r.stepArguments h n taken p t).map (erased keep) := by
  unfold stepArguments
  rw [Token.unplaced_terminal, ArgumentPoint.step_unplaced]
  split <;> simp [Point.erased, withDirective_erased, Function.comp_def]

theorem stepNamed_erased (h : Header) (k : Kind) (n : Named) :
    ((r.erased keep).stepNamed (h.erased keep) k n.unlocated t.unplaced).map (erased keep) =
      (r.stepNamed h k n t).map (erased keep) := by
  unfold stepNamed
  rw [Token.unplaced_terminal]
  cases k <;> cases t.terminal <;> simp [Point.erased, FieldPoint.erased, VariantPoint.erased]

theorem stepField_erased (h : Header) (n : Named) (taken : List Field) (docs : List String) :
    ((r.erased keep).stepField (h.erased keep) n.unlocated (taken.map (Field.erased keep)) (keptDocs keep docs)
      t.unplaced).map (erased keep) = (r.stepField h n taken docs t).map (erased keep) := by
  unfold stepField
  rw [Token.unplaced_terminal, Token.unplaced_lexeme]
  cases t.terminal <;> simp [Point.erased, FieldPoint.erased]

theorem stepFields_erased (h : Header) (n : Named) (taken : List Field) :
    ((r.erased keep).stepFields (h.erased keep) n.unlocated (taken.map (Field.erased keep))
      t.unplaced).map (erased keep) = (r.stepFields h n taken t).map (erased keep) := by
  unfold stepFields
  rw [Token.unplaced_terminal]
  split
  · simp [record, Declaration.erased, Header.erased, Named.unlocated]
  · have hstep := stepField_erased keep r t h n taken []
    rwa [keptDocs_nil] at hstep

theorem stepVariant_erased (h : Header) (n : Named) (taken : List Variant) (docs : List String) :
    ((r.erased keep).stepVariant (h.erased keep) n.unlocated (taken.map (Variant.erased keep))
      (keptDocs keep docs) t.unplaced).map (erased keep) = (r.stepVariant h n taken docs t).map (erased keep) := by
  unfold stepVariant
  rw [Token.unplaced_terminal, Token.unplaced_lexeme]
  cases t.terminal <;> simp [Point.erased, VariantPoint.erased]

theorem only_erased (k : Terminal) {p p' : Point} (h : p.erased keep = p'.erased keep) :
    (if t.unplaced.terminal = k then some ((r.erased keep).move p) else none).map (erased keep) =
      (if t.terminal = k then some (r.move p') else none).map (erased keep) := by
  rw [Token.unplaced_terminal]
  split <;> simp [h]

section
variable {keep r t} {r' : Reader} {u : Token} {h h' : Header} {n n' : Named}

theorem stepHeader_congr (hr : r.erased keep = r'.erased keep) (ht : t.unplaced = u.unplaced)
    (hh : h.erased keep = h'.erased keep) :
    (r.stepHeader h t).map (erased keep) = (r'.stepHeader h' u).map (erased keep) := by
  rw [← stepHeader_erased keep r, ← stepHeader_erased keep r', hr, ht, hh]

theorem stepOpening_congr {docs docs' : List String} (hr : r.erased keep = r'.erased keep)
    (ht : t.unplaced = u.unplaced) (hd : keptDocs keep docs = keptDocs keep docs') :
    (r.stepOpening docs t).map (erased keep) = (r'.stepOpening docs' u).map (erased keep) := by
  rw [← stepOpening_erased keep r, ← stepOpening_erased keep r', hr, ht, hd]

theorem stepField_congr {taken : List Field} {docs docs' : List String}
    (hd : keptDocs keep docs = keptDocs keep docs') :
    (r.stepField h n taken docs t).map (erased keep) = (r.stepField h n taken docs' t).map (erased keep) := by
  rw [← stepField_erased keep r t h n taken docs, ← stepField_erased keep r t h n taken docs', hd]

theorem stepVariant_congr {taken : List Variant} {docs docs' : List String}
    (hd : keptDocs keep docs = keptDocs keep docs') :
    (r.stepVariant h n taken docs t).map (erased keep) = (r.stepVariant h n taken docs' t).map (erased keep) := by
  rw [← stepVariant_erased keep r t h n taken docs, ← stepVariant_erased keep r t h n taken docs', hd]

theorem stepFields_congr {taken taken' : List Field} (hr : r.erased keep = r'.erased keep)
    (ht : t.unplaced = u.unplaced) (hh : h.erased keep = h'.erased keep) (hn : n.unlocated = n'.unlocated)
    (hf : taken.map (Field.erased keep) = taken'.map (Field.erased keep)) :
    (r.stepFields h n taken t).map (erased keep) = (r'.stepFields h' n' taken' u).map (erased keep) := by
  rw [← stepFields_erased keep r, ← stepFields_erased keep r', hr, ht, hh, hn, hf]

end

theorem step_fields_erased (h : Header) (n : Named) (taken : List Field) (p : FieldPoint) :
    (((r.move (.fields h n taken p)).erased keep).step t.unplaced).map (erased keep) =
      ((r.move (.fields h n taken p)).step t).map (erased keep) := by
  cases p with
  | start => exact stepFields_erased keep (r.move _) t h n taken
  | documented docs => exact stepField_erased keep (r.move _) t h n taken docs
  | exposed docs => exact only_erased keep (r.move _) t .name (by simp [Point.erased, FieldPoint.erased])
  | named docs v f => exact only_erased keep (r.move _) t .colon (by simp [Point.erased, FieldPoint.erased])
  | typed docs v f p =>
    simp only [step, move, erased, Point.erased, FieldPoint.erased, TypePoint.step_unplaced]
    split
    · simp [erased, Point.erased, FieldPoint.erased]
    · refine stepFields_congr ?_ rfl (by simp) rfl (by simp [Field.erased, Named.unlocated])
      simp [erased, Point.erased, FieldPoint.erased]
    · rfl

theorem step_variants_erased (h : Header) (n : Named) (taken : List Variant) (p : VariantPoint) :
    (((r.move (.variants h n taken p)).erased keep).step t.unplaced).map (erased keep) =
      ((r.move (.variants h n taken p)).step t).map (erased keep) := by
  cases p with
  | start =>
    have hstep := stepVariant_erased keep (r.move (.variants h n taken .start)) t h n taken []
    rw [keptDocs_nil] at hstep
    by_cases hk : t.terminal = .closeBrace
    · simp [step, move, hk, erased, close, sum, Point.erased, VariantPoint.erased, Declaration.erased, Header.erased,
        Named.unlocated]
    · simpa only [step, move, hk, erased, Point.erased, VariantPoint.erased, Token.unplaced_terminal,
        if_false] using hstep
  | documented docs => exact stepVariant_erased keep (r.move _) t h n taken docs
  | named docs v => exact only_erased keep (r.move _) t .openParen (by simp [Point.erased, VariantPoint.erased])
  | payload docs v p =>
    simp only [step, move, erased, Point.erased, VariantPoint.erased, TypePoint.step_unplaced, Token.unplaced_terminal]
    split <;> simp [erased, Point.erased, VariantPoint.erased, Variant.erased, Named.unlocated]

theorem step_target_erased (h : Header) (n : Named) (p : TypePoint) :
    (((r.move (.target h n p)).erased keep).step t.unplaced).map (erased keep) =
      ((r.move (.target h n p)).step t).map (erased keep) := by
  simp only [step, move, erased, Point.erased, TypePoint.step_unplaced]
  split
  · simp [erased, Point.erased]
  · refine stepOpening_congr ?_ rfl rfl
    simp [synonym, Declaration.erased, Header.erased, Named.unlocated]
  · rfl

/-- A reader that has left something out takes what the reader itself takes. -/
theorem step_erased : ((r.erased keep).step t.unplaced).map (erased keep) = (r.step t).map (erased keep) := by
  obtain ⟨file, done, point⟩ := r
  cases point with
  | opening =>
    have hstep := stepOpening_erased keep ⟨file, done, .opening⟩ t []
    rwa [keptDocs_nil] at hstep
  | documented docs => exact stepOpening_erased keep ⟨file, done, .documented docs⟩ t docs
  | directiveSign h => exact only_erased keep ⟨file, done, _⟩ t .name (by simp [Point.erased])
  | directiveNamed h n =>
    by_cases hk : t.terminal = .openParen
    · simp [step, move, hk, erased, Point.erased]
    · simp only [step, hk, erased, Point.erased, Token.unplaced_terminal, if_false]
      refine stepHeader_congr ?_ rfl (withDirective_erased keep h n [])
      simp [erased, Point.erased]
  | arguments h n taken p => exact stepArguments_erased keep _ t h n taken p
  | directed h => exact stepHeader_erased keep _ t h
  | keyword h k => exact only_erased keep ⟨file, done, _⟩ t .name (by simp [Point.erased])
  | named h k n => exact stepNamed_erased keep _ t h k n
  | fields h n taken p => exact step_fields_erased keep ⟨file, done, .opening⟩ t h n taken p
  | variants h n taken p => exact step_variants_erased keep ⟨file, done, .opening⟩ t h n taken p
  | target h n p => exact step_target_erased keep ⟨file, done, .opening⟩ t h n p

theorem finish?_erased : (r.erased keep).finish?.map (List.map (Declaration.erased keep)) =
    r.finish?.map (List.map (Declaration.erased keep)) := by
  obtain ⟨file, done, point⟩ := r
  cases point with
  | opening => simp [finish?, erased, Point.erased]
  | target h n p =>
    cases ht : p.type? with
    | none => simp [finish?, erased, Point.erased, ht]
    | some type =>
      simp [finish?, erased, Point.erased, ht, synonym, Declaration.erased, Header.erased, Named.unlocated]
  | _ => rfl

section
variable {keep r t} {r' s : Reader} {ts us : List Token}

/-- Readers that differ only in what is left out take the same tokens, and differ only in that then. -/
theorem step_congr {u : Token} (hr : r.erased keep = r'.erased keep) (ht : t.unplaced = u.unplaced)
    (h : r.step t = some s) : ∃ s', r'.step u = some s' ∧ s.erased keep = s'.erased keep := by
  have hstep := step_erased keep r t
  rw [hr, ht, step_erased keep r' u, h] at hstep
  obtain ⟨s', hs, he⟩ := Option.map_eq_some_iff.mp hstep
  exact ⟨s', hs, he.symm⟩

theorem steps_congr (hr : r.erased keep = r'.erased keep) (ht : ts.map Token.unplaced = us.map Token.unplaced)
    (h : r.steps ts = some s) : ∃ s', r'.steps us = some s' ∧ s.erased keep = s'.erased keep := by
  induction ts generalizing r r' us with
  | nil =>
    obtain rfl := List.map_eq_nil_iff.mp ht.symm
    obtain rfl := Option.some.inj h
    exact ⟨r', rfl, hr⟩
  | cons t ts ih =>
    obtain ⟨u, us, rfl, hu, hus⟩ := List.map_eq_cons_iff.mp ht.symm
    obtain ⟨r₁, h₁, h⟩ := Option.bind_eq_some_iff.mp h
    obtain ⟨r₁', h₁', hr₁⟩ := step_congr hr hu.symm h₁
    obtain ⟨s', hs, he⟩ := ih hr₁ hus.symm h
    exact ⟨s', by rw [steps, h₁']; exact hs, he⟩

theorem finish?_congr {ds : List Declaration} (hr : r.erased keep = r'.erased keep) (h : r.finish? = some ds) :
    ∃ ds', r'.finish? = some ds' ∧ ds'.map (Declaration.erased keep) = ds.map (Declaration.erased keep) := by
  have hfinish := finish?_erased keep r
  rw [hr, finish?_erased keep r', h] at hfinish
  exact Option.map_eq_some_iff.mp hfinish

end

end Reader

/-! ## Documentation lines -/

theorem TypePoint.step_of_type? {p : TypePoint} {type : TypeRef} {k : Token} (h : p.type? = some type)
    (hk : k.terminal ∉ [.dot, .openBracket]) : p.step k = none := by
  simp only [List.mem_cons, List.not_mem_nil, or_false, not_or] at hk
  obtain ⟨outer, head⟩ := p
  cases outer with
  | cons o outer => cases h
  | nil =>
    cases head with
    | expected => cases h
    | dotted name => cases h
    | named name => unfold step; split <;> simp_all
    | closed t => unfold step; split <;> simp_all

/-- A documentation line stands before a declaration, a field or a variant, whose first token would do the
same without it, but for the documentation. -/
inductive TakesDoc (r : Reader) (line : String) : Reader → Prop
  | declaration {q : Reader} {docs : List String} :
      (∀ k, k.terminal ∈ Grammar.declarationHeads → r.step k = q.stepOpening docs k) →
      TakesDoc r line (q.move (.documented (docs ++ [line])))
  | field {q : Reader} {h : Header} {n : Named} {taken : List Field} {docs : List String} :
      (∀ k, k.terminal ∈ Grammar.fieldHeads → r.step k = q.stepField h n taken docs k) →
      TakesDoc r line (q.move (.fields h n taken (.documented (docs ++ [line]))))
  | variant {q : Reader} {h : Header} {n : Named} {taken : List Variant} {docs : List String} :
      (∀ k, k.terminal ∈ [Terminal.doc, .name] → r.step k = q.stepVariant h n taken docs k) →
      TakesDoc r line (q.move (.variants h n taken (.documented (docs ++ [line]))))

namespace TakesDoc
variable {r r' : Reader} {line : String}

theorem stepFields_of_head {h : Header} {n : Named} {taken : List Field} {k : Token}
    (hk : k.terminal ∈ Grammar.fieldHeads) : r.stepFields h n taken k = r.stepField h n taken [] k := by
  rw [Reader.stepFields, if_neg]
  intro hc
  simp [hc, Grammar.fieldHeads] at hk

theorem not_mem_of_heads {t : Terminal} (h : t ∈ Grammar.declarationHeads ∨ t ∈ Grammar.fieldHeads) :
    t ∉ [Terminal.dot, .openBracket] := by
  have hsub : ∀ t ∈ Grammar.declarationHeads ++ Grammar.fieldHeads, t ∉ [Terminal.dot, .openBracket] := by decide
  exact hsub t (List.mem_append.mpr h)

/-- Wherever a documentation line is taken, it stands before a declaration, a field or a variant. -/
theorem of_step {k : Token} (hk : k.terminal = .doc) (hs : r.step k = some r') :
    TakesDoc r (docText k.lexeme.toList) r' := by
  have declared : ∀ {q : Reader} {docs}, q.stepOpening docs k = some r' →
      r' = q.move (.documented (docs ++ [docText k.lexeme.toList])) := fun h => by
    simpa [Reader.stepOpening, hk] using h.symm
  have fielded : ∀ {q : Reader} {h n taken docs}, q.stepField h n taken docs k = some r' →
      r' = q.move (.fields h n taken (.documented (docs ++ [docText k.lexeme.toList]))) := fun h => by
    simpa [Reader.stepField, hk] using h.symm
  have varied : ∀ {q : Reader} {h n taken docs}, q.stepVariant h n taken docs k = some r' →
      r' = q.move (.variants h n taken (.documented (docs ++ [docText k.lexeme.toList]))) := fun h => by
    simpa [Reader.stepVariant, hk] using h.symm
  have hfield : k.terminal ∈ Grammar.fieldHeads := by simp [hk, Grammar.fieldHeads]
  have htype : ∀ p : TypePoint, p.step k = none := fun p => by simp [TypePoint.step, hk]
  obtain ⟨file, done, point⟩ := r
  -- only five points take documentation; at each the token is put down before what is read next
  cases point with
  | opening => exact declared hs ▸ .declaration fun _ _ => rfl
  | documented docs => exact declared hs ▸ .declaration fun _ _ => rfl
  | directiveSign _ => simp [Reader.step, hk] at hs
  | directiveNamed h n => simp [Reader.step, hk, Reader.stepHeader] at hs
  | arguments _ _ _ p =>
    cases p <;> simp [Reader.step, hk, Reader.stepArguments, ArgumentPoint.argument?, ArgumentPoint.step,
      Token.literal?] at hs
  | directed _ => simp [Reader.step, hk, Reader.stepHeader] at hs
  | keyword _ _ => simp [Reader.step, hk] at hs
  | named _ kind _ => cases kind <;> simp [Reader.step, hk, Reader.stepNamed] at hs
  | fields h n taken p =>
    cases p with
    | start =>
      simp only [Reader.step, stepFields_of_head hfield] at hs
      exact fielded hs ▸ .field fun k hk => stepFields_of_head hk
    | documented docs => exact fielded hs ▸ .field fun _ _ => rfl
    | exposed docs => simp [Reader.step, hk] at hs
    | named docs v f => simp [Reader.step, hk] at hs
    | typed docs v f p =>
      -- the type is closed first: documentation itself is no part of one
      cases ht : p.type? with
      | none => simp [Reader.step, htype, ht] at hs
      | some type =>
        simp only [Reader.step, htype, ht, stepFields_of_head hfield] at hs
        refine fielded hs ▸ .field fun k hk => ?_
        simp only [Reader.step, TypePoint.step_of_type? ht (not_mem_of_heads (.inr hk)), ht, stepFields_of_head hk]
  | variants h n taken p =>
    cases p with
    | start =>
      simp only [Reader.step, hk, reduceCtorEq, if_false] at hs
      refine varied hs ▸ .variant fun k hk => ?_
      have : k.terminal ≠ .closeBrace := by
        intro hc
        simp [hc] at hk
      simp only [Reader.step, this, if_false]
    | documented docs => exact varied hs ▸ .variant fun _ _ => rfl
    | named docs v => simp [Reader.step, hk] at hs
    | payload docs v p => simp [Reader.step, htype, hk] at hs
  | target h n p =>
    cases ht : p.type? with
    | none => simp [Reader.step, htype, ht] at hs
    | some type =>
      simp only [Reader.step, htype, ht] at hs
      refine declared hs ▸ .declaration fun k hk => ?_
      simp only [Reader.step, TypePoint.step_of_type? ht (not_mem_of_heads (.inl hk)), ht]

theorem context_eq (h : TakesDoc r line r') : r'.context = .afterDoc := by
  cases h <;> rfl

theorem finish?_eq (h : TakesDoc r line r') : r'.finish? = none := by
  cases h <;> rfl

/-- The token behind the line does the same without it, but for the documentation. -/
theorem step_erased {k : Token} {s' : Reader} (h : TakesDoc r line r') (hs : r'.step k = some s') :
    ∃ s, r.step k = some s ∧ s.erased false = s'.erased false := by
  have same : ∀ {x y : Option Reader}, x.map (Reader.erased false) = y.map (Reader.erased false) →
      y = some s' → ∃ s, x = some s ∧ s.erased false = s'.erased false := by
    rintro x _ he rfl
    exact Option.map_eq_some_iff.mp he
  cases h with
  | @declaration q docs hq =>
    have hline : q.stepOpening (docs ++ [line]) k = some s' := hs
    rw [hq k (Reader.mem_of_stepOpening hline)]
    refine same ?_ hline
    exact Reader.stepOpening_congr rfl rfl rfl
  | @field q h n taken docs hq =>
    have hline : q.stepField h n taken (docs ++ [line]) k = some s' := hs
    rw [hq k (Reader.mem_of_stepField hline)]
    refine same ?_ hline
    exact Reader.stepField_congr rfl
  | @variant q h n taken docs hq =>
    have hline : q.stepVariant h n taken (docs ++ [line]) k = some s' := hs
    rw [hq k (Reader.mem_of_stepVariant hline)]
    refine same ?_ hline
    exact Reader.stepVariant_congr rfl

end TakesDoc

/-! ## Scans -/

/-- A text is read as the same tokens wherever it stands, and whatever documentation stands before it. -/
theorem Scans.elsewhere {keep : Bool} {rest cs : List Char} {k k' l : Cursor} {ts : List Token}
    (h : Scans rest k cs ts k') (hr : k.reader.erased keep = l.reader.erased keep) :
    ∃ us l', Scans rest l cs us l' ∧ us.map Token.unplaced = ts.map Token.unplaced ∧
      l'.reader.erased keep = k'.reader.erased keep := by
  induction h generalizing l with
  | done => exact ⟨[], l, .done, rfl, hr.symm⟩
  | @skip k k' u cs ts hg _ ih =>
    obtain ⟨us, l', hs, ht, he⟩ := ih (l := l.pass u) hr
    exact ⟨us, l', .skip hg hs, ht, he⟩
  | @take k k' u cs t r ts h0 hl hs _ ih =>
    have hplace : (k.token t u).unplaced = (l.token t u).unplaced := rfl
    obtain ⟨r', hs', hr'⟩ := Reader.step_congr hr hplace hs
    obtain ⟨us, l', hscan, ht, he⟩ := ih (l := ⟨r', l.position.after u, l.position⟩) hr'
    have hcontext : l.reader.context = k.reader.context := by
      rw [← Reader.context_erased keep, ← hr, Reader.context_erased]
    refine ⟨_, l', .take h0 (by rwa [Cursor.lex?, hcontext]) hs' hscan, ?_, he⟩
    rw [List.map_cons, List.map_cons, ht]
    rfl

end DomainModel
