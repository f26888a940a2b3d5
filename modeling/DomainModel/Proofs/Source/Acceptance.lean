import DomainModel.Proofs.Source.Derivation

/-!
# Sentences are accepted

A reader takes every sentence of the grammar and gives what the sentence denotes (`steps_of_isFile`),
so that a sentence denotes one list of declarations only (`IsFile.unique`).

A field or a synonym is complete only when the token behind it has come, and a directive may still
get its arguments. What follows such a reader is therefore stated by what it does with the next token
(`Agrees`), not by its point.
-/

namespace DomainModel

namespace Reader

theorem steps_append (r : Reader) (ts us : List Token) :
    r.steps (ts ++ us) = (r.steps ts).bind (·.steps us) := by
  induction ts generalizing r with
  | nil => rfl
  | cons k ts ih =>
    rw [List.cons_append, steps, steps]
    cases r.step k with
    | none => rfl
    | some r => exact ih r

theorem steps_append_of_eq {r r' : Reader} {ts : List Token} (h : r.steps ts = some r') (us : List Token) :
    r.steps (ts ++ us) = r'.steps us := by
  rw [steps_append, h]
  rfl

theorem steps_cons_of_eq {r r' : Reader} {k : Token} (h : r.step k = some r') (ts : List Token) :
    r.steps (k :: ts) = r'.steps ts := by
  rw [steps, h]
  rfl

/-- Two readers do the same with the next token, if it is one of these. -/
def Agrees (l : List Terminal) (r r' : Reader) : Prop := ∀ k, k.terminal ∈ l → r.step k = r'.step k

theorem Agrees.refl (l : List Terminal) (r : Reader) : Agrees l r r := fun _ _ => rfl

theorem Agrees.steps_eq {l : List Terminal} {r r' : Reader} (h : Agrees l r r') {k : Token}
    (hk : k.terminal ∈ l) (ts : List Token) : r.steps (k :: ts) = r'.steps (k :: ts) := by
  rw [steps, steps, h k hk]

end Reader

/-! ## Types -/

namespace TypePoint

def steps (p : TypePoint) : List Token → Option TypePoint
  | [] => some p
  | k :: ts => (p.step k).bind (·.steps ts)

theorem steps_append_of_eq {p p' : TypePoint} {ts : List Token} (h : p.steps ts = some p')
    (us : List Token) : p.steps (ts ++ us) = p'.steps us := by
  induction ts generalizing p with
  | nil => cases h; rfl
  | cons k ts ih =>
    obtain ⟨q, hq, h⟩ := Option.bind_eq_some_iff.mp h
    rw [List.cons_append, steps, hq]
    exact ih h

theorem steps_cons_of_eq {p p' : TypePoint} {k : Token} (h : p.step k = some p') (ts : List Token) :
    p.steps (k :: ts) = p'.steps ts := by
  rw [steps, h]
  rfl

end TypePoint

def TypeHead.ended : TypeRef → TypeHead
  | ⟨n, []⟩ => .named n
  | t => .closed t

theorem TypeHead.inner?_ended (outer : List TypeRef) (t : TypeRef) :
    TypePoint.inner? ⟨outer, .ended t⟩ = some t := by
  obtain ⟨n, args⟩ := t
  cases args <;> rfl

namespace Grammar

theorem steps_dottedName {ts : List Token} {n : String} (h : IsDottedName ts n) (outer : List TypeRef) :
    TypePoint.steps ⟨outer, .expected⟩ ts = some ⟨outer, .named n⟩ := by
  induction h with
  | name hk => simp [TypePoint.steps, TypePoint.step, hk]
  | dot _ hd hk ih =>
    rw [TypePoint.steps_append_of_eq ih]
    simp [TypePoint.steps, TypePoint.step, hd, hk]

mutual

theorem steps_type {ts : List Token} {t : TypeRef} (h : IsType ts t) (outer : List TypeRef) :
    TypePoint.steps ⟨outer, .expected⟩ ts = some ⟨outer, .ended t⟩ := by
  match h with
  | .plain hn => exact steps_dottedName hn outer
  | @IsType.applied ts us n args o c hn ho ha hc =>
    obtain ⟨init, t, rfl, hs⟩ := steps_types ha ⟨n, []⟩ outer
    have hopen : TypePoint.step ⟨outer, .named n⟩ o = some ⟨⟨n, []⟩ :: outer, .expected⟩ := by
      simp [TypePoint.step, ho]
    have hclose : TypePoint.step ⟨⟨n, init⟩ :: outer, .ended t⟩ c =
        some ⟨outer, .closed ⟨n, init ++ [t]⟩⟩ := by
      simp [TypePoint.step, hc, TypeHead.inner?_ended]
    rw [TypePoint.steps_append_of_eq (steps_dottedName hn outer), TypePoint.steps_cons_of_eq hopen,
      TypePoint.steps_append_of_eq hs, List.nil_append, TypePoint.steps_cons_of_eq hclose]
    cases init <;> rfl

theorem steps_types {ts : List Token} {args : List TypeRef} (h : IsTypes ts args) (o : TypeRef)
    (outer : List TypeRef) : ∃ init t, args = init ++ [t] ∧ TypePoint.steps ⟨o :: outer, .expected⟩ ts =
      some ⟨⟨o.name, o.args ++ init⟩ :: outer, .ended t⟩ := by
  match h with
  | .one ht =>
    obtain ⟨n, args⟩ := o
    exact ⟨[], _, rfl, by rw [List.append_nil]; exact steps_type ht _⟩
  | @IsTypes.more ts us c args t ha hc ht =>
    obtain ⟨init, t', rfl, hs⟩ := steps_types ha o outer
    have hcomma : TypePoint.step ⟨⟨o.name, o.args ++ init⟩ :: outer, .ended t'⟩ c =
        some ⟨⟨o.name, o.args ++ (init ++ [t'])⟩ :: outer, .expected⟩ := by
      simp [TypePoint.step, hc, TypeHead.inner?_ended]
    refine ⟨init ++ [t'], t, rfl, ?_⟩
    rw [TypePoint.steps_append_of_eq hs, TypePoint.steps_cons_of_eq hcomma]
    exact steps_type ht _

end

theorem steps_frame {r : Reader} {p p' : TypePoint} {ts : List Token} (frame : TypePoint → Point)
    (hf : ∀ p p' k, p.step k = some p' → (r.move (frame p)).step k = some (r.move (frame p')))
    (h : p.steps ts = some p') : (r.move (frame p)).steps ts = some (r.move (frame p')) := by
  induction ts generalizing p with
  | nil => cases h; rfl
  | cons k ts ih =>
    obtain ⟨q, hq, h⟩ := Option.bind_eq_some_iff.mp h
    rw [Reader.steps_cons_of_eq (hf p q k hq)]
    exact ih h

theorem steps_typeWithin {r : Reader} {ts : List Token} {t : TypeRef} (frame : TypePoint → Point)
    (hf : ∀ p p' k, p.step k = some p' → (r.move (frame p)).step k = some (r.move (frame p')))
    (h : IsType ts t) :
    (r.move (frame .start)).steps ts = some (r.move (frame ⟨[], .ended t⟩)) :=
  steps_frame frame hf (steps_type h [])

theorem step_ended {t : TypeRef} {k : Token}
    (hk : k.terminal ∉ [.dot, .openBracket]) : TypePoint.step ⟨[], .ended t⟩ k = none := by
  simp only [List.mem_cons, List.not_mem_nil, or_false, not_or] at hk
  obtain ⟨n, args⟩ := t
  cases args <;> simp only [TypePoint.step, TypeHead.ended] <;> split <;> simp_all

/-! ## Headers -/

theorem many_head {α : Type} {rule : List Token → α → Prop} {l : List Terminal} {ts : List Token}
    {xs : List α} (hr : ∀ us x, rule us x → ∃ k us', us = k :: us' ∧ k.terminal ∈ l)
    (h : Many rule ts xs) : ts = [] ∨ ∃ k us, ts = k :: us ∧ k.terminal ∈ l := by
  induction h with
  | nil => exact .inl rfl
  | snoc _ hx ih =>
    right
    rcases ih with rfl | ⟨k, us, rfl, hk⟩
    · exact hr _ _ hx
    · exact ⟨k, _, rfl, hk⟩

theorem isDoc_head (us : List Token) (d : String) (h : IsDoc us d) :
    ∃ k us', us = k :: us' ∧ k.terminal ∈ [Terminal.doc] := by
  cases h with
  | mk hk => exact ⟨_, _, rfl, by simp [hk]⟩

section
variable {r : Reader} {ts : List Token}

theorem steps_docs {docs : List String} (h : Many IsDoc ts docs) :
    ∃ r', (r.move .opening).steps ts = some r' ∧ ∀ k, r'.step k = r.stepOpening docs k := by
  induction h with
  | nil => exact ⟨_, rfl, fun _ => rfl⟩
  | snoc _ hd ih =>
    obtain ⟨r', hs, hstep⟩ := ih
    cases hd with
    | mk hk =>
      refine ⟨r.move (.documented _), ?_, fun _ => rfl⟩
      rw [Reader.steps_append_of_eq hs]
      simp [Reader.steps, hstep, Reader.stepOpening, hk]

theorem not_mem_of_isValue {k : Token} {v : Literal} (h : IsValue k v) :
    k.terminal ∉ [Terminal.closeParen, .comma] := by
  cases h <;> simp [*]

theorem literal?_of_isValue {k : Token} {v : Literal} (h : IsValue k v) : k.literal? = some v := by
  cases h <;> simp [Token.literal?, *]

def startsArgument (p : ArgumentPoint) : Prop := p = .opened ∨ p = .separated

theorem step_word {p : ArgumentPoint} {k : Token} (hp : startsArgument p) (hk : k.terminal = .name) :
    p.step k = some (.word k.lexeme) := by
  rcases hp with rfl | rfl <;> simp [ArgumentPoint.step, hk]

theorem step_positional {p : ArgumentPoint} {k : Token} {v : Literal} (hp : startsArgument p)
    (hv : IsValue k v) : ∃ p', p.step k = some p' ∧ p'.argument? = some ⟨none, v⟩ := by
  cases hv with
  | word hk => exact ⟨_, step_word hp hk, rfl⟩
  | number hk =>
    refine ⟨.complete ⟨none, _⟩, ?_, rfl⟩
    rcases hp with rfl | rfl <;> simp [ArgumentPoint.step, hk, Token.literal?]
  | string hk =>
    refine ⟨.complete ⟨none, _⟩, ?_, rfl⟩
    rcases hp with rfl | rfl <;> simp [ArgumentPoint.step, hk, Token.literal?]

theorem step_argument {h : Header} {n : Named} {taken : List Argument} {p p' : ArgumentPoint} {k : Token}
    (hc : k.terminal ∉ [Terminal.closeParen, .comma]) (hs : p.step k = some p') :
    (r.move (.arguments h n taken p)).step k = some (r.move (.arguments h n taken p')) := by
  simp only [List.mem_cons, List.not_mem_nil, or_false, not_or] at hc
  simp only [Reader.step, Reader.move, Reader.stepArguments]
  split
  · next hk => exact absurd hk hc.1
  · next hk _ _ => exact absurd hk hc.1
  · next hk _ => exact absurd hk hc.2
  · rw [hs]
    rfl

theorem steps_isArgument {h : Header} {n : Named} {p : ArgumentPoint} {a : Argument}
    (taken : List Argument) (hp : startsArgument p) (ha : IsArgument ts a) :
    ∃ p', (r.move (.arguments h n taken p)).steps ts = some (r.move (.arguments h n taken p')) ∧
      p'.argument? = some a := by
  cases ha with
  | @named m e k v hm he hv =>
    have hes : (ArgumentPoint.word m.lexeme).step e = some (.assigned m.lexeme) := by
      simp [ArgumentPoint.step, he]
    have hvs : (ArgumentPoint.assigned m.lexeme).step k = some (.complete ⟨some m.lexeme, v⟩) := by
      simp [ArgumentPoint.step, literal?_of_isValue hv]
    refine ⟨.complete ⟨some m.lexeme, v⟩, ?_, rfl⟩
    rw [Reader.steps_cons_of_eq (step_argument (by simp [hm]) (step_word hp hm)),
      Reader.steps_cons_of_eq (step_argument (by simp [he]) hes),
      Reader.steps_cons_of_eq (step_argument (not_mem_of_isValue hv) hvs)]
    rfl
  | positional hv =>
    obtain ⟨p', hs, ha⟩ := step_positional hp hv
    exact ⟨p', Reader.steps_cons_of_eq (step_argument (not_mem_of_isValue hv) hs) [], ha⟩

theorem steps_separated {h : Header} {n : Named} {args : List Argument}
    (ha : Separated IsArgument ts args) : ∃ init a p, args = init ++ [a] ∧ p.argument? = some a ∧
      (r.move (.arguments h n [] .opened)).steps ts = some (r.move (.arguments h n init p)) := by
  induction ha with
  | one ha =>
    obtain ⟨p, hs, hp⟩ := steps_isArgument [] (.inl rfl) ha
    exact ⟨[], _, p, rfl, hp, hs⟩
  | @more ts us c args a _ hc ha ih =>
    obtain ⟨init, a', p', rfl, hp', hs'⟩ := ih
    obtain ⟨p, hs, hp⟩ := steps_isArgument (r := r) (h := h) (n := n) (init ++ [a']) (.inr rfl) ha
    refine ⟨init ++ [a'], a, p, rfl, hp, ?_⟩
    have hcomma : (r.move (.arguments h n init p')).step c =
        some (r.move (.arguments h n (init ++ [a']) .separated)) := by
      simp [Reader.step, Reader.move, Reader.stepArguments, hc, hp']
    rw [Reader.steps_append_of_eq hs', Reader.steps_cons_of_eq hcomma]
    exact hs

/-- What a reader does with the next token once it has the documentation and the directives of a
declaration. -/
def FollowsHeader (r : Reader) (h : Header) (r' : Reader) : Prop :=
  ∀ k, k.terminal ∈ [Terminal.atSign, .record, .sum, .synonym] → r'.step k = r.stepHeader h k

theorem steps_isDirective {h : Header} {r₀ : Reader} {d : Directive} (hr : FollowsHeader r h r₀)
    (hd : IsDirective r.file ts d) : ∃ r', r₀.steps ts = some r' ∧
      FollowsHeader r { h with directives := h.directives ++ [d] } r' := by
  have hsign : ∀ {s : Token}, s.terminal = .atSign → r₀.step s = some (r.move (.directiveSign h)) := by
    intro s hs
    rw [hr s (by simp [hs]), Reader.stepHeader, hs]
  have hname : ∀ {n : Token}, n.terminal = .name → (r.move (.directiveSign h)).step n =
      some (r.move (.directiveNamed h (nameAt r.file n))) := by
    intro n hn
    simp only [Reader.step, Reader.move, hn, if_true]
    rfl
  have hopen : ∀ {n : Named} {o : Token}, o.terminal = .openParen →
      (r.move (.directiveNamed h n)).step o = some (r.move (.arguments h n [] .opened)) := by
    intro n o ho
    simp [Reader.step, Reader.move, ho]
  cases hd with
  | @bare s n hs hn =>
    refine ⟨r.move (.directiveNamed h (nameAt r.file n)), ?_, fun k hk => ?_⟩
    · rw [Reader.steps_cons_of_eq (hsign hs), Reader.steps_cons_of_eq (hname hn)]
      rfl
    · -- arguments could still come, but this token is none
      have : k.terminal ≠ .openParen := by
        intro hp
        simp [hp] at hk
      simp only [Reader.step, Reader.move, this, if_false]
      rfl
  | @empty s n o c hs hn ho hc =>
    have hclose : (r.move (.arguments h (nameAt r.file n) [] .opened)).step c =
        some (r.move (.directed (h.withDirective (nameAt r.file n) []))) := by
      simp [Reader.step, Reader.move, Reader.stepArguments, hc]
    refine ⟨r.move (.directed (h.withDirective (nameAt r.file n) [])), ?_, fun k _ => rfl⟩
    rw [Reader.steps_cons_of_eq (hsign hs), Reader.steps_cons_of_eq (hname hn),
      Reader.steps_cons_of_eq (hopen ho), Reader.steps_cons_of_eq hclose]
    rfl
  | @applied s n o c us args hs hn ho ha hc =>
    obtain ⟨init, a, p, rfl, hp, hsteps⟩ := steps_separated (r := r) (h := h) (n := nameAt r.file n) ha
    have hclose : (r.move (.arguments h (nameAt r.file n) init p)).step c =
        some (r.move (.directed (h.withDirective (nameAt r.file n) (init ++ [a])))) := by
      cases p <;> simp_all [Reader.step, Reader.move, Reader.stepArguments, ArgumentPoint.argument?]
    refine ⟨r.move (.directed (h.withDirective (nameAt r.file n) (init ++ [a]))), ?_, fun k _ => rfl⟩
    rw [Reader.steps_cons_of_eq (hsign hs), Reader.steps_cons_of_eq (hname hn),
      Reader.steps_cons_of_eq (hopen ho), Reader.steps_append_of_eq hsteps,
      Reader.steps_cons_of_eq hclose]
    rfl

theorem steps_directives {docs : List String} {directives : List Directive} {r₀ : Reader}
    (hr : FollowsHeader r ⟨docs, []⟩ r₀) (h : Many (IsDirective r.file) ts directives) :
    ∃ r', r₀.steps ts = some r' ∧ FollowsHeader r ⟨docs, directives⟩ r' := by
  induction h with
  | nil => exact ⟨r₀, rfl, hr⟩
  | snoc _ hd ih =>
    obtain ⟨r₁, hs, hr₁⟩ := ih
    obtain ⟨r₂, hs₂, hr₂⟩ := steps_isDirective hr₁ hd
    exact ⟨r₂, by rw [Reader.steps_append_of_eq hs, hs₂], hr₂⟩

/-! ## Records and sums -/

def fieldHeads : List Terminal := [.doc, .pub, .name]

theorem isField_head {file : Option String} (us : List Token) (f : Field) (h : IsField file us f) :
    ∃ k us', us = k :: us' ∧ k.terminal ∈ fieldHeads := by
  cases h with
  | mk hdocs hv hn _ _ =>
    rcases many_head isDoc_head hdocs with rfl | ⟨k, us, rfl, hk⟩
    · cases hv with
      | hidden => exact ⟨_, _, rfl, by simp [hn, fieldHeads]⟩
      | exposed hp => exact ⟨_, _, rfl, by simp [hp, fieldHeads]⟩
    · exact ⟨k, _, rfl, by simp_all [fieldHeads]⟩

theorem steps_fieldDocs {h : Header} {n : Named} {docs : List String} (taken : List Field)
    (hd : Many IsDoc ts docs) : ∃ r', (r.move (.fields h n taken .start)).steps ts = some r' ∧
      ∀ k, k.terminal ∈ fieldHeads → r'.step k = r.stepField h n taken docs k := by
  induction hd with
  | nil =>
    refine ⟨_, rfl, fun k hk => ?_⟩
    have : k.terminal ≠ .closeBrace := by
      intro hc
      simp [hc, fieldHeads] at hk
    simp only [Reader.step, Reader.move, Reader.stepFields, this, if_false]
    rfl
  | @snoc ts us docs d _ hd ih =>
    obtain ⟨r', hs, hstep⟩ := ih
    cases hd with
    | @mk k hk =>
      refine ⟨r.move (.fields h n taken (.documented (docs ++ [docText k.lexeme.toList]))), ?_,
        fun _ _ => rfl⟩
      rw [Reader.steps_append_of_eq hs]
      refine Reader.steps_cons_of_eq ?_ []
      rw [hstep k (by simp [hk, fieldHeads]), Reader.stepField, hk]

theorem steps_isField {h : Header} {n : Named} {taken : List Field} {f : Field}
    (hf : IsField r.file ts f) : ∃ r', (r.move (.fields h n taken .start)).steps ts = some r' ∧
      Reader.Agrees (.closeBrace :: fieldHeads) r' (r.move (.fields h n (taken ++ [f]) .start)) := by
  cases hf with
  | @mk ds vs ts m c docs v t hdocs hv hm hc ht =>
    obtain ⟨r₁, hs₁, hr₁⟩ := steps_fieldDocs (r := r) (h := h) (n := n) taken hdocs
    have hname : r₁.steps (vs ++ m :: c :: ts) =
        (r.move (.fields h n taken (.named docs v (nameAt r.file m)))).steps (c :: ts) := by
      cases hv with
      | hidden =>
        refine Reader.steps_cons_of_eq ?_ _
        rw [hr₁ m (by simp [hm, fieldHeads]), Reader.stepField, hm]
        rfl
      | @exposed k hp =>
        have hpub : r₁.step k = some (r.move (.fields h n taken (.exposed docs))) := by
          rw [hr₁ k (by simp [hp, fieldHeads]), Reader.stepField, hp]
        rw [List.cons_append, Reader.steps_cons_of_eq hpub]
        refine Reader.steps_cons_of_eq ?_ _
        simp only [Reader.step, Reader.move, hm, if_true]
        rfl
    have hcolon : (r.move (.fields h n taken (.named docs v (nameAt r.file m)))).step c =
        some (r.move (.fields h n taken (.typed docs v (nameAt r.file m) .start))) := by
      simp [Reader.step, Reader.move, hc]
    have htype := steps_typeWithin (r := r) (fun p => .fields h n taken (.typed docs v (nameAt r.file m) p))
      (fun p p' k hp => by simp [Reader.step, Reader.move, hp]) ht
    refine ⟨r.move (.fields h n taken (.typed docs v (nameAt r.file m) ⟨[], .ended t⟩)), ?_,
      fun k hk => ?_⟩
    · rw [Reader.steps_append_of_eq hs₁, hname, Reader.steps_cons_of_eq hcolon]
      exact htype
    · have hnone : TypePoint.step ⟨[], .ended t⟩ k = none := by
        refine step_ended fun hm => ?_
        simp only [List.mem_cons, List.not_mem_nil, or_false] at hm
        rcases hm with hm | hm <;> simp [hm, fieldHeads] at hk
      have hin : TypePoint.type? ⟨[], .ended t⟩ = some t := TypeHead.inner?_ended [] t
      simp only [Reader.step, Reader.move, hnone, hin]
      rfl

theorem steps_fields {h : Header} {n : Named} {fields : List Field}
    (hf : Many (IsField r.file) ts fields) : ∃ r', (r.move (.fields h n [] .start)).steps ts = some r' ∧
      Reader.Agrees (.closeBrace :: fieldHeads) r' (r.move (.fields h n fields .start)) := by
  induction hf with
  | nil => exact ⟨_, rfl, .refl _ _⟩
  | snoc _ hf ih =>
    obtain ⟨r₁, hs₁, hr₁⟩ := ih
    obtain ⟨k, us, rfl, hk⟩ := isField_head _ _ hf
    obtain ⟨r₂, hs₂, hr₂⟩ := steps_isField (h := h) (n := n) hf
    refine ⟨r₂, ?_, hr₂⟩
    rw [Reader.steps_append_of_eq hs₁, hr₁.steps_eq (List.mem_cons_of_mem _ hk), hs₂]

theorem steps_variantDocs {h : Header} {n : Named} {docs : List String} (taken : List Variant)
    (hd : Many IsDoc ts docs) : ∃ r', (r.move (.variants h n taken .start)).steps ts = some r' ∧
      ∀ k, k.terminal ∈ [Terminal.doc, .name] → r'.step k = r.stepVariant h n taken docs k := by
  induction hd with
  | nil =>
    refine ⟨_, rfl, fun k hk => ?_⟩
    have : k.terminal ≠ .closeBrace := by
      intro hc
      simp [hc] at hk
    simp only [Reader.step, Reader.move, this, if_false]
    rfl
  | @snoc ts us docs d _ hd ih =>
    obtain ⟨r', hs, hstep⟩ := ih
    cases hd with
    | @mk k hk =>
      refine ⟨r.move (.variants h n taken (.documented (docs ++ [docText k.lexeme.toList]))), ?_,
        fun _ _ => rfl⟩
      rw [Reader.steps_append_of_eq hs]
      refine Reader.steps_cons_of_eq ?_ []
      rw [hstep k (by simp [hk]), Reader.stepVariant, hk]

theorem steps_isVariant {h : Header} {n : Named} {taken : List Variant} {v : Variant}
    (hv : IsVariant r.file ts v) : (r.move (.variants h n taken .start)).steps ts =
      some (r.move (.variants h n (taken ++ [v]) .start)) := by
  cases hv with
  | @mk ds ts m o c docs t hdocs hm ho ht hc =>
    obtain ⟨r₁, hs₁, hr₁⟩ := steps_variantDocs (r := r) (h := h) (n := n) taken hdocs
    have hname : r₁.step m = some (r.move (.variants h n taken (.named docs (nameAt r.file m)))) := by
      rw [hr₁ m (by simp [hm]), Reader.stepVariant, hm]
      rfl
    have hopen : (r.move (.variants h n taken (.named docs (nameAt r.file m)))).step o =
        some (r.move (.variants h n taken (.payload docs (nameAt r.file m) .start))) := by
      simp [Reader.step, Reader.move, ho]
    have htype := steps_typeWithin (r := r) (fun p => .variants h n taken (.payload docs (nameAt r.file m) p))
      (fun p p' k hp => by simp [Reader.step, Reader.move, hp]) ht
    have hclose : (r.move (.variants h n taken (.payload docs (nameAt r.file m) ⟨[], .ended t⟩))).step c =
        some (r.move (.variants h n (taken ++ [⟨m.lexeme, t, docs, some (nameAt r.file m).location⟩]) .start)) := by
      have hnone : TypePoint.step ⟨[], .ended t⟩ c = none := step_ended (by simp [hc])
      have hin : TypePoint.type? ⟨[], .ended t⟩ = some t := TypeHead.inner?_ended [] t
      simp only [Reader.step, Reader.move, hnone, hin, hc]
      rfl
    rw [Reader.steps_append_of_eq hs₁, Reader.steps_cons_of_eq hname, Reader.steps_cons_of_eq hopen,
      Reader.steps_append_of_eq htype, Reader.steps_cons_of_eq hclose]
    rfl

theorem steps_variants {h : Header} {n : Named} {variants : List Variant}
    (hv : Many (IsVariant r.file) ts variants) : (r.move (.variants h n [] .start)).steps ts =
      some (r.move (.variants h n variants .start)) := by
  induction hv with
  | nil => rfl
  | snoc _ hv ih => rw [Reader.steps_append_of_eq ih, steps_isVariant hv]

/-! ## Files -/

def declarationHeads : List Terminal := [.doc, .atSign, .record, .sum, .synonym]

/-- What a reader does at the end of a declaration, be it with the next token or with the end of the
file. -/
structure Follows (r₀ r : Reader) : Prop where
  agrees : Reader.Agrees declarationHeads r₀ r
  finish?_eq : r₀.finish? = r.finish?

theorem steps_keyword {h : Header} {r₀ : Reader} {k n : Token} (kind : Kind) (hr : FollowsHeader r h r₀)
    (hk : k.terminal = keywordOf kind) (hn : n.terminal = .name) :
    r₀.steps (k :: n :: ts) = (r.move (.named h kind (nameAt r.file n))).steps ts := by
  have hkey : r₀.step k = some (r.move (.keyword h kind)) := by
    cases kind <;> rw [hr k (by simp [hk, keywordOf]), Reader.stepHeader, hk] <;> rfl
  have hname : (r.move (.keyword h kind)).step n = some (r.move (.named h kind (nameAt r.file n))) := by
    simp only [Reader.step, Reader.move, hn, if_true]
    rfl
  rw [Reader.steps_cons_of_eq hkey, Reader.steps_cons_of_eq hname]

theorem steps_isBody {docs : List String} {directives : List Directive} {r₀ : Reader} {d : Declaration}
    (hr : FollowsHeader r ⟨docs, directives⟩ r₀) (hb : IsBody r.file docs directives ts d) :
    ∃ r', r₀.steps ts = some r' ∧ Follows r' (r.close d) := by
  cases hb with
  | @record k n o c ts fields hk hn ho hf hc =>
    have hopen : (r.move (.named ⟨docs, directives⟩ .record (nameAt r.file n))).step o =
        some (r.move (.fields ⟨docs, directives⟩ (nameAt r.file n) [] .start)) := by
      simp [Reader.step, Reader.move, Reader.stepNamed, ho]
    obtain ⟨r₁, hs₁, hr₁⟩ := steps_fields (h := ⟨docs, directives⟩) (n := nameAt r.file n) hf
    have hclose : (r.move (.fields ⟨docs, directives⟩ (nameAt r.file n) fields .start)).step c =
        some (r.close (Reader.record ⟨docs, directives⟩ (nameAt r.file n) fields)) := by
      simp only [Reader.step, Reader.move, Reader.stepFields, hc, if_true]
      rfl
    refine ⟨_, ?_, .refl _ _, rfl⟩
    rw [steps_keyword .record hr hk hn, Reader.steps_cons_of_eq hopen,
      Reader.steps_append_of_eq hs₁, hr₁.steps_eq (by simp [hc]), Reader.steps_cons_of_eq hclose]
    rfl
  | @sum k n o c ts variants hk hn ho hv hc =>
    have hopen : (r.move (.named ⟨docs, directives⟩ .sum (nameAt r.file n))).step o =
        some (r.move (.variants ⟨docs, directives⟩ (nameAt r.file n) [] .start)) := by
      simp [Reader.step, Reader.move, Reader.stepNamed, ho]
    have hs₁ := steps_variants (h := ⟨docs, directives⟩) (n := nameAt r.file n) hv
    have hclose : (r.move (.variants ⟨docs, directives⟩ (nameAt r.file n) variants .start)).step c =
        some (r.close (Reader.sum ⟨docs, directives⟩ (nameAt r.file n) variants)) := by
      simp only [Reader.step, Reader.move, hc, if_true]
      rfl
    refine ⟨_, ?_, .refl _ _, rfl⟩
    rw [steps_keyword .sum hr hk hn, Reader.steps_cons_of_eq hopen,
      Reader.steps_append_of_eq hs₁, Reader.steps_cons_of_eq hclose]
    rfl
  | @synonym k n e ts t hk hn he ht =>
    have hequals : (r.move (.named ⟨docs, directives⟩ .synonym (nameAt r.file n))).step e =
        some (r.move (.target ⟨docs, directives⟩ (nameAt r.file n) .start)) := by
      simp [Reader.step, Reader.move, Reader.stepNamed, he]
    have htype := steps_typeWithin (r := r) (fun p => .target ⟨docs, directives⟩ (nameAt r.file n) p)
      (fun p p' k hp => by simp [Reader.step, Reader.move, hp]) ht
    have hin : TypePoint.type? ⟨[], .ended t⟩ = some t := TypeHead.inner?_ended [] t
    refine ⟨r.move (.target ⟨docs, directives⟩ (nameAt r.file n) ⟨[], .ended t⟩), ?_,
      fun k hk => ?_, ?_⟩
    · rw [steps_keyword .synonym hr hk hn, Reader.steps_cons_of_eq hequals]
      exact htype
    -- no token that can follow a synonym continues its type
    · have hnone : TypePoint.step ⟨[], .ended t⟩ k = none := by
        refine step_ended fun hm => ?_
        simp only [List.mem_cons, List.not_mem_nil, or_false] at hm
        rcases hm with hm | hm <;> simp [hm, declarationHeads] at hk
      simp only [Reader.step, Reader.move, hnone, hin]
      rfl
    · simp only [Reader.finish?, Reader.move, hin]
      rfl

theorem isDeclaration_head {file : Option String} (us : List Token) (d : Declaration)
    (h : IsDeclaration file us d) : ∃ k us', us = k :: us' ∧ k.terminal ∈ declarationHeads := by
  cases h with
  | mk hdocs hdirs hb =>
    rcases many_head isDoc_head hdocs with rfl | ⟨k, us, rfl, hk⟩
    · rcases many_head (l := [.atSign]) (fun us d hd => by cases hd <;> simp [*]) hdirs with
        rfl | ⟨k, us, rfl, hk⟩
      · cases hb <;> simp [declarationHeads, *]
      · exact ⟨k, _, rfl, by simp_all [declarationHeads]⟩
    · exact ⟨k, _, rfl, by simp_all [declarationHeads]⟩

theorem steps_isDeclaration {d : Declaration} (hd : IsDeclaration r.file ts d) :
    ∃ r', (r.move .opening).steps ts = some r' ∧ Follows r' (r.close d) := by
  cases hd with
  | @mk ds us bs docs directives d hdocs hdirs hb =>
    obtain ⟨r₁, hs₁, hr₁⟩ := steps_docs (r := r) hdocs
    have hf : FollowsHeader r ⟨docs, []⟩ r₁ := by
      intro k hk
      have : k.terminal ≠ .doc := by
        intro hd
        simp [hd] at hk
      rw [hr₁, Reader.stepOpening, if_neg this]
    obtain ⟨r₂, hs₂, hr₂⟩ := steps_directives hf hdirs
    obtain ⟨r₃, hs₃, hr₃⟩ := steps_isBody hr₂ hb
    exact ⟨r₃, by rw [Reader.steps_append_of_eq hs₁, Reader.steps_append_of_eq hs₂, hs₃], hr₃⟩

end

theorem steps_many {file : Option String} {ts : List Token} {ds : List Declaration} (h : IsFile file ts ds) :
    ∃ r, (Reader.start file).steps ts = some r ∧ Follows r ⟨file, ds, .opening⟩ := by
  induction h with
  | nil => exact ⟨_, rfl, .refl _ _, rfl⟩
  | @snoc ts us ds d _ hd ih =>
    obtain ⟨r₁, hs₁, hr₁⟩ := ih
    obtain ⟨k, us, rfl, hk⟩ := isDeclaration_head _ _ hd
    obtain ⟨r₂, hs₂, hr₂⟩ := steps_isDeclaration (r := ⟨file, ds, .opening⟩) hd
    refine ⟨r₂, ?_, hr₂⟩
    rw [Reader.steps_append_of_eq hs₁, hr₁.agrees.steps_eq hk]
    exact hs₂

/-- A sentence of the grammar is read to its end. -/
theorem steps_of_isFile {file : Option String} {ts : List Token} {ds : List Declaration}
    (h : IsFile file ts ds) : ∃ r, (Reader.start file).steps ts = some r ∧ r.finish? = some ds := by
  obtain ⟨r, hs, hr⟩ := steps_many h
  exact ⟨r, hs, hr.finish?_eq⟩

/-- The sentences are the sequences of tokens that are read to their end. -/
theorem isFile_iff {file : Option String} {ts : List Token} {ds : List Declaration} :
    IsFile file ts ds ↔ ∃ r, (Reader.start file).steps ts = some r ∧ r.finish? = some ds :=
  ⟨steps_of_isFile, fun ⟨_, hs, hf⟩ => isFile_of_steps hs hf⟩

theorem IsFile.unique {file : Option String} {ts : List Token} {ds ds' : List Declaration}
    (h : IsFile file ts ds) (h' : IsFile file ts ds') : ds = ds' := by
  obtain ⟨r, hs, hf⟩ := steps_of_isFile h
  obtain ⟨r', hs', hf'⟩ := steps_of_isFile h'
  obtain rfl := Option.some.inj (hs.symm.trans hs')
  exact Option.some.inj (hf.symm.trans hf')

end Grammar

end DomainModel
