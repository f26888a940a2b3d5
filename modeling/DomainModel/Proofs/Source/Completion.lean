import DomainModel.Proofs.Source.Acceptance
import DomainModel.Proofs.Source.Spelling

/-!
# Every part of a file can be completed

Whatever a reader has taken, some further tokens take it to the end of a file. Which terminals those
tokens have depends on the point only (`Point.completion`). `completes` goes through the points from the
last ones of a declaration to the first, so that each step back adds one terminal.
-/

namespace DomainModel

/-! ## The missing terminals -/

/-- What a declaration lacks whose documentation and directives are there. -/
def synonymTokens : List Terminal := [.synonym, .name, .equals, .name]

def TypePoint.completion (p : TypePoint) : List Terminal :=
  (match p.head with
    | .expected | .dotted _ => [Terminal.name]
    | .named _ | .closed _ => []) ++ List.replicate p.outer.length .closeBracket

def ArgumentPoint.completion : ArgumentPoint → List Terminal
  | opened | word _ | complete _ => [.closeParen]
  | separated | assigned _ => [.name, .closeParen]

def FieldPoint.completion : FieldPoint → List Terminal
  | start => []
  | documented _ | exposed _ => [.name, .colon, .name]
  | named _ _ _ => [.colon, .name]
  | typed _ _ _ p => p.completion

def VariantPoint.completion : VariantPoint → List Terminal
  | start => []
  | documented _ => [.name, .openParen, .name, .closeParen]
  | named _ _ => [.openParen, .name, .closeParen]
  | payload _ _ p => p.completion ++ [.closeParen]

/-- The terminals that take a reader from a point to the end of a declaration. -/
def Point.completion : Point → List Terminal
  | opening => []
  | documented _ | directed _ | directiveNamed _ _ => synonymTokens
  | directiveSign _ => .name :: synonymTokens
  | arguments _ _ _ p => p.completion ++ synonymTokens
  | keyword _ .synonym => [.name, .equals, .name]
  | keyword _ _ => [.name, .openBrace, .closeBrace]
  | named _ .synonym _ => [.equals, .name]
  | named _ _ _ => [.openBrace, .closeBrace]
  | fields _ _ _ p => p.completion ++ [.closeBrace]
  | variants _ _ _ p => p.completion ++ [.closeBrace]
  | target _ _ p => p.completion

/-- The reader comes to the end of a file with any tokens of these terminals. -/
def Completes (l : List Terminal) (r : Reader) : Prop :=
  ∀ ts : List Token, ts.map (·.terminal) = l → ∃ r' ds, r.steps ts = some r' ∧ r'.finish? = some ds

namespace Completes
variable {r : Reader} {l : List Terminal} {t : Terminal}

theorem done {ds : List Declaration} (h : r.finish? = some ds) : Completes [] r := by
  intro ts hts
  obtain rfl := List.map_eq_nil_iff.mp hts
  exact ⟨r, ds, rfl, h⟩

theorem cons (h : ∀ k : Token, k.terminal = t → ∃ r', r.step k = some r' ∧ Completes l r') :
    Completes (t :: l) r := by
  intro ts hts
  cases ts with
  | nil => cases hts
  | cons k ts =>
    obtain ⟨hk, hl⟩ := List.cons.inj hts
    obtain ⟨r₁, h₁, hc⟩ := h k hk
    obtain ⟨r', ds, hs, hf⟩ := hc ts hl
    exact ⟨r', ds, by rw [Reader.steps_cons_of_eq h₁, hs], hf⟩

theorem append {l' : List Terminal} (h : ∀ ts : List Token, ts.map (·.terminal) = l →
    ∃ r', r.steps ts = some r' ∧ Completes l' r') : Completes (l ++ l') r := by
  intro ts hts
  obtain ⟨us, vs, rfl, hus, hvs⟩ := List.map_eq_append_iff.mp hts
  obtain ⟨r₁, h₁, hc⟩ := h us hus
  obtain ⟨r', ds, hs, hf⟩ := hc vs hvs
  exact ⟨r', ds, by rw [Reader.steps_append_of_eq h₁, hs], hf⟩

end Completes

/-! ## Types -/

namespace TypePoint
variable {ts : List Token}

theorem steps_closing {outer : List TypeRef} {head : TypeHead} {t : TypeRef}
    (ht : TypePoint.inner? ⟨outer, head⟩ = some t)
    (hts : ts.map (·.terminal) = List.replicate outer.length .closeBracket) :
    ∃ p' t', TypePoint.steps ⟨outer, head⟩ ts = some p' ∧ p'.type? = some t' := by
  induction outer generalizing head t ts with
  | nil =>
    obtain rfl := List.map_eq_nil_iff.mp hts
    exact ⟨_, t, rfl, ht⟩
  | cons o outer ih =>
    cases ts with
    | nil => cases hts
    | cons k ts =>
      obtain ⟨hk, hl⟩ := List.cons.inj hts
      have hs : TypePoint.step ⟨o :: outer, head⟩ k = some ⟨outer, .closed ⟨o.name, o.args ++ [t]⟩⟩ := by
        simp [TypePoint.step, hk, ht]
      have hclosed : TypePoint.inner? ⟨outer, .closed ⟨o.name, o.args ++ [t]⟩⟩ =
          some ⟨o.name, o.args ++ [t]⟩ := rfl
      obtain ⟨p', t', hp, hp'⟩ := ih hclosed hl
      exact ⟨p', t', by rw [steps_cons_of_eq hs, hp], hp'⟩

theorem steps_completion {p : TypePoint} (hts : ts.map (·.terminal) = p.completion) :
    ∃ p' t, p.steps ts = some p' ∧ p'.type? = some t := by
  obtain ⟨outer, head⟩ := p
  have hname : ∀ head, (∀ k : Token, k.terminal = .name →
        ∃ n, TypePoint.step ⟨outer, head⟩ k = some ⟨outer, .named n⟩) →
      ts.map (·.terminal) = .name :: List.replicate outer.length .closeBracket →
      ∃ p' t, TypePoint.steps ⟨outer, head⟩ ts = some p' ∧ p'.type? = some t := by
    intro head hstep hts
    cases ts with
    | nil => cases hts
    | cons k ts =>
      obtain ⟨hk, hl⟩ := List.cons.inj hts
      obtain ⟨n, hn⟩ := hstep k hk
      have hnamed : TypePoint.inner? ⟨outer, .named n⟩ = some _ := rfl
      obtain ⟨p', t, hp, ht⟩ := steps_closing hnamed hl
      exact ⟨p', t, by rw [steps_cons_of_eq hn, hp], ht⟩
  cases head with
  | expected => exact hname _ (fun k hk => ⟨_, by simp only [TypePoint.step, hk]; rfl⟩) hts
  | dotted n => exact hname _ (fun k hk => ⟨_, by simp only [TypePoint.step, hk]; rfl⟩) hts
  | named n => exact steps_closing rfl hts
  | closed t => exact steps_closing rfl hts

theorem step_eq_none {p : TypePoint} {k : Token} (hk : k.terminal = .closeBrace ∨ k.terminal = .closeParen) :
    p.step k = none := by
  rcases hk with hk | hk <;> simp [TypePoint.step, hk]

end TypePoint

/-! ## Points -/

section
variable (r : Reader) (h : Header) (n : Named)

theorem completes_target (p : TypePoint) : Completes p.completion (r.move (.target h n p)) := by
  intro ts hts
  obtain ⟨p', t, hs, ht⟩ := TypePoint.steps_completion hts
  refine ⟨r.move (.target h n p'), r.done ++ [Reader.synonym h n t], ?_, ?_⟩
  · exact Grammar.steps_frame (fun p => .target h n p)
      (fun p p' k hp => by simp [Reader.step, Reader.move, hp]) hs
  · simp [Reader.finish?, Reader.move, ht]

theorem completes_equals : Completes [.equals, .name] (r.move (.named h .synonym n)) :=
  .cons fun k hk => ⟨_, by simp [Reader.step, Reader.move, Reader.stepNamed, hk], completes_target r h n .start⟩

theorem completes_synonym : Completes [.name, .equals, .name] (r.move (.keyword h .synonym)) :=
  .cons fun k hk => ⟨_, by simp only [Reader.step, Reader.move, hk, if_true]; rfl, completes_equals r h _⟩

theorem completes_header {r₀ : Reader} (hr : Grammar.FollowsHeader r h r₀) : Completes synonymTokens r₀ :=
  .cons fun k hk => ⟨_, by rw [hr k (by simp [hk]), Reader.stepHeader, hk], completes_synonym r h⟩

theorem completes_directed : Completes synonymTokens (r.move (.directed h)) :=
  completes_header r h fun _ _ => rfl

theorem completes_directiveNamed : Completes synonymTokens (r.move (.directiveNamed h n)) := by
  refine completes_header r (h.withDirective n []) fun k hk => ?_
  have : k.terminal ≠ .openParen := by
    intro hp
    simp [hp] at hk
  simp only [Reader.step, Reader.move, this, if_false]
  rfl

theorem completes_arguments (taken : List Argument) (p : ArgumentPoint) :
    Completes (p.completion ++ synonymTokens) (r.move (.arguments h n taken p)) := by
  have hclose : ∀ taken p, p.argument?.isSome ∨ p = .opened →
      Completes (.closeParen :: synonymTokens) (r.move (.arguments h n taken p)) := by
    intro taken p hp
    refine .cons fun k hk => ?_
    rcases hp with hp | rfl
    · obtain ⟨a, ha⟩ := Option.isSome_iff_exists.mp hp
      refine ⟨_, ?_, completes_directed r (h.withDirective n (taken ++ [a]))⟩
      cases p <;> simp_all [Reader.step, Reader.move, Reader.stepArguments, ArgumentPoint.argument?]
    · exact ⟨_, by simp [Reader.step, Reader.move, Reader.stepArguments, hk],
        completes_directed r (h.withDirective n [])⟩
  cases p with
  | opened => exact hclose taken _ (.inr rfl)
  | word w => exact hclose taken _ (.inl rfl)
  | complete a => exact hclose taken _ (.inl rfl)
  | separated =>
    refine .cons fun k hk => ⟨_, ?_, hclose taken (.word k.lexeme) (.inl rfl)⟩
    simp [Reader.step, Reader.move, Reader.stepArguments, ArgumentPoint.step, hk]
  | assigned m =>
    refine .cons fun k hk => ⟨_, ?_, hclose taken (.complete ⟨some m, .text k.lexeme⟩) (.inl rfl)⟩
    simp [Reader.step, Reader.move, Reader.stepArguments, ArgumentPoint.step, Token.literal?, hk]

theorem completes_fields (taken : List Field) (p : FieldPoint) :
    Completes (p.completion ++ [Terminal.closeBrace]) (r.move (.fields h n taken p)) := by
  have hstart : Completes [.closeBrace] (r.move (.fields h n taken .start)) :=
    .cons fun k hk => ⟨r.close (Reader.record h n taken),
      by simp only [Reader.step, Reader.move, Reader.stepFields, hk, if_true]; rfl, .done rfl⟩
  have htyped : ∀ docs v m p, Completes (p.completion ++ [Terminal.closeBrace])
      (r.move (.fields h n taken (.typed docs v m p))) := by
    intro docs v m p
    refine .append fun ts hts => ?_
    obtain ⟨p', t, hs, ht⟩ := TypePoint.steps_completion hts
    refine ⟨_, Grammar.steps_frame (fun p => .fields h n taken (.typed docs v m p))
      (fun p p' k hp => by simp [Reader.step, Reader.move, hp]) hs, .cons fun k hk =>
      ⟨r.close (Reader.record h n (taken ++ [⟨m.name, t, v, docs, some m.location⟩])), ?_, .done rfl⟩⟩
    simp only [Reader.step, Reader.move, TypePoint.step_eq_none (.inl hk), ht, Reader.stepFields, hk, if_true]
    rfl
  have hnamed : ∀ docs v m, Completes [.colon, .name, .closeBrace]
      (r.move (.fields h n taken (.named docs v m))) := fun docs v m =>
    .cons fun k hk => ⟨_, by simp only [Reader.step, Reader.move, hk, if_true], htyped docs v m .start⟩
  cases p with
  | start => exact hstart
  | documented docs =>
    exact .cons fun k hk => ⟨_, by simp only [Reader.step, Reader.move, Reader.stepField, hk]; rfl,
      hnamed docs .hidden _⟩
  | exposed docs =>
    exact .cons fun k hk => ⟨_, by simp only [Reader.step, Reader.move, hk, if_true]; rfl, hnamed docs .exposed _⟩
  | named docs v m => exact hnamed docs v m
  | typed docs v m p => exact htyped docs v m p

theorem completes_variants (taken : List Variant) (p : VariantPoint) :
    Completes (p.completion ++ [Terminal.closeBrace]) (r.move (.variants h n taken p)) := by
  have hstart : ∀ taken, Completes [.closeBrace] (r.move (.variants h n taken .start)) := fun taken =>
    .cons fun k hk => ⟨r.close (Reader.sum h n taken), by simp only [Reader.step, Reader.move, hk, if_true]; rfl,
      .done rfl⟩
  have hpayload : ∀ docs m p, Completes (p.completion ++ [Terminal.closeParen, .closeBrace])
      (r.move (.variants h n taken (.payload docs m p))) := by
    intro docs m p
    refine .append fun ts hts => ?_
    obtain ⟨p', t, hs, ht⟩ := TypePoint.steps_completion hts
    refine ⟨_, Grammar.steps_frame (fun p => .variants h n taken (.payload docs m p))
      (fun p p' k hp => by simp [Reader.step, Reader.move, hp]) hs, .cons fun k hk =>
      ⟨_, ?_, hstart (taken ++ [⟨m.name, t, docs, some m.location⟩])⟩⟩
    simp only [Reader.step, Reader.move, TypePoint.step_eq_none (.inr hk), ht, hk]
  have hnamed : ∀ docs m, Completes [.openParen, .name, .closeParen, .closeBrace]
      (r.move (.variants h n taken (.named docs m))) := fun docs m =>
    .cons fun k hk => ⟨_, by simp only [Reader.step, Reader.move, hk, if_true], hpayload docs m .start⟩
  cases p with
  | start => exact hstart taken
  | documented docs =>
    exact .cons fun k hk => ⟨_, by simp only [Reader.step, Reader.move, Reader.stepVariant, hk]; rfl, hnamed docs _⟩
  | named docs m => exact hnamed docs m
  | payload docs m p =>
    rw [VariantPoint.completion, List.append_assoc]
    exact hpayload docs m p

theorem completes_record : Completes [.openBrace, .closeBrace] (r.move (.named h .record n)) :=
  .cons fun k hk => ⟨_, by simp [Reader.step, Reader.move, Reader.stepNamed, hk], completes_fields r h n [] .start⟩

theorem completes_sum : Completes [.openBrace, .closeBrace] (r.move (.named h .sum n)) :=
  .cons fun k hk => ⟨_, by simp [Reader.step, Reader.move, Reader.stepNamed, hk],
    completes_variants r h n [] .start⟩

end

/-- Every reader comes to the end of a file with the terminals that its point lacks. -/
theorem completes (r : Reader) : Completes r.point.completion r := by
  -- the declarations that are complete do not matter
  suffices h : ∀ p, Completes p.completion (r.move p) from h r.point
  intro p
  cases p with
  | opening => exact .done rfl
  | documented docs =>
    refine completes_header r ⟨docs, []⟩ fun k hk => ?_
    have : k.terminal ≠ .doc := by
      intro hd
      simp [hd] at hk
    simp only [Reader.step, Reader.move, Reader.stepOpening, this, if_false]
    rfl
  | directiveSign h =>
    exact .cons fun k hk => ⟨_, by simp only [Reader.step, Reader.move, hk, if_true]; rfl,
      completes_directiveNamed r h _⟩
  | directiveNamed h n => exact completes_directiveNamed r h n
  | arguments h n taken p => exact completes_arguments r h n taken p
  | directed h => exact completes_directed r h
  | keyword h kind =>
    cases kind with
    | record =>
      exact .cons fun k hk => ⟨_, by simp only [Reader.step, Reader.move, hk, if_true]; rfl, completes_record r h _⟩
    | sum =>
      exact .cons fun k hk => ⟨_, by simp only [Reader.step, Reader.move, hk, if_true]; rfl, completes_sum r h _⟩
    | synonym => exact completes_synonym r h
  | named h kind n =>
    cases kind with
    | record => exact completes_record r h n
    | sum => exact completes_sum r h n
    | synonym => exact completes_equals r h n
  | fields h n taken p => exact completes_fields r h n taken p
  | variants h n taken p => exact completes_variants r h n taken p
  | target h n p => exact completes_target r h n p

end DomainModel
