import DomainModel.Proofs.Target.TypeExpression

/-!
# Expressions and parameters

What stands in a line where an expression or the parameters of a function have to stand: names, types, the types of a
payload, and the fields of a record as parameters.
-/

namespace DomainModel

theorem isWord_iff {w : String} : IsWord w ↔ w.toList.head?.any Word.isStart ∧ w.toList.tail.all Word.isPart := by
  constructor
  · rintro ⟨c, cs, hw, hc, hcs⟩
    rw [hw]
    exact ⟨hc, List.all_eq_true.mpr hcs⟩
  · rintro ⟨hhead, hcs⟩
    cases hw : w.toList with
    | nil => simp [hw] at hhead
    | cons c cs =>
      rw [hw] at hhead hcs
      exact ⟨c, cs, hw, hhead, List.all_eq_true.mp hcs⟩

instance (w : String) : Decidable (IsWord w) := decidable_of_iff _ isWord_iff.symm

end DomainModel

namespace DomainModel.Target

open Live.Loading Scanner

variable {L : List Line} {bs : List Bracket} {l : Line} {σ : List Symbol} {rest : List Char} {n m : String} {p q : Bool}

/-! ## Free names -/

instance (n : String) : Decidable (IsFree n) :=
  decidable_of_iff (IsWord n ∧ Keyword.isReserved n = false) ⟨fun h => ⟨h.1, h.2⟩, fun h => ⟨h.word, h.free⟩⟩

theorem isReserved_underscore (s : String) : Keyword.isReserved ("_" ++ s) = false := by
  have hheads : ∀ w ∈ Keyword.reserved, w.toList.head? ≠ some '_' := by decide
  refine Bool.eq_false_iff.mpr fun h => hheads _ (of_decide_eq_true h) ?_
  rw [String.toList_append]
  rfl

theorem isFree_underscore {s : String} (hs : ∀ c ∈ s.toList, Word.isPart c = true) : IsFree ("_" ++ s) :=
  ⟨⟨'_', s.toList, by simp, by decide, hs⟩, isReserved_underscore s⟩

theorem IsFree.slot (h : IsFree n) : IsFree (slot n) := isFree_underscore h.word.isPart_of_mem

theorem IsFree.variantClass (hn : IsFree n) {v : Variant} (hv : IsFree v.name) : IsFree (ClassPlan.variantClass n v) := by
  rw [ClassPlan.variantClass, String.append_assoc]
  refine isFree_underscore fun c hc => ?_
  rw [String.toList_append, List.mem_append] at hc
  exact hc.elim (hn.word.isPart_of_mem c) (hv.word.isPart_of_mem c)

/-! ## Words in their places -/

theorem endsWord_cons {c : Char} (cs : List Char) (hc : Identifier.isPart c = false) (hq : c ≠ '"') : EndsWord (c :: cs) :=
  ⟨c, cs, rfl, hc, hq⟩

theorem run_free {p : Progress} (hn : IsFree n) (hrest : EndsWord rest) :
    run ⟨.code, bs, p, L⟩ (n.toList ++ rest) = resume (emit ⟨.code, bs, p, L⟩ (.name n)) rest := by
  rw [run_word hn.word hrest, hn.ofWord_eq]

theorem run_variable (hn : IsFree n) (hrest : EndsWord rest) :
    run ⟨.code, bs, ⟨l, .expr :: σ⟩, L⟩ (n.toList ++ rest) =
      run ⟨.code, bs, ⟨l, .trail :: .operators :: σ⟩, L⟩ rest := by
  rw [run_free hn hrest]
  simp

theorem run_attribute (hn : IsFree n) (hrest : EndsWord rest) :
    run ⟨.dots 1, bs, ⟨l, .trail :: σ⟩, L⟩ (n.toList ++ rest) = run ⟨.code, bs, ⟨l, .trail :: σ⟩, L⟩ rest := by
  have hdot : emit ⟨.dots 1, bs, ⟨l, .trail :: σ⟩, L⟩ .dot =
      some ⟨.code, bs, ⟨l, .selection :: .trail :: σ⟩, L⟩ := by rfl
  rw [run_dots_identifier hn.word.isIdentifier, hdot, resume_some, run_free hn hrest]
  simp

theorem run_bound (hn : IsFree n) (hrest : EndsWord rest) (s : Symbol) (hs : s = .bound ∨ s = .functionName) :
    run ⟨.code, bs, ⟨l, s :: σ⟩, L⟩ (n.toList ++ rest) =
      if isBindable n then run ⟨.code, bs, ⟨l, σ⟩, L⟩ rest else none := by
  rw [run_free hn hrest]
  rcases hs with rfl | rfl <;> cases hb : isBindable n <;> simp [hn.isBindable_eq, hb]

/-! ## Expressions -/

/-- Characters make an expression exactly if `p` is true, wherever an expression has to stand. -/
def IsExpression (cs : List Char) (p : Bool) : Prop :=
  ∀ L bs l σ rest, EndsType rest → run ⟨.code, bs, ⟨l, .expr :: σ⟩, L⟩ (cs ++ rest) =
    if p then run ⟨.code, bs, ⟨l, .trail :: .operators :: σ⟩, L⟩ rest else none

theorem isExpression_name (hn : IsFree n) : IsExpression n.toList true :=
  fun _ _ _ _ _ hrest => run_variable hn hrest.endsWord

theorem isExpression_typeText {t : TypeRef} (ht : HasWords t) : IsExpression t.annotation.toList (isReadableType t) := by
  intro L bs l σ rest hrest
  have h := @run_type L bs l σ rest true hrest t ht
  simpa [opening] using h

def alternativesText (ts : List TypeRef) : List Char := ts.flatMap fun t => ' ' :: '|' :: ' ' :: t.annotation.toList

theorem run_alternatives {ts : List TypeRef} (h : ∀ t ∈ ts, HasWords t) (hrest : EndsType rest) :
    run ⟨.code, bs, ⟨l, .trail :: .operators :: σ⟩, L⟩ (alternativesText ts ++ rest) =
      if ts.all fun t => isReadableType t && TypeRef.targetName t.name ≠ denialWord then
        run ⟨.code, bs, ⟨l, .trail :: .operators :: σ⟩, L⟩ rest
      else none := by
  induction ts with
  | nil => rfl
  | cons t ts ih =>
    have hends : EndsType (alternativesText ts ++ rest) := by
      cases ts with
      | nil => exact hrest
      | cons u us => exact .inr ⟨_, rfl⟩
    have htype := @run_type L bs l σ _ false hends t (h t List.mem_cons_self)
    have hmore := ih fun u hu => h u (List.mem_cons_of_mem _ hu)
    have hbar : run ⟨.code, bs, ⟨l, .trail :: .operators :: σ⟩, L⟩ (alternativesText (t :: ts) ++ rest) =
        run ⟨.code, bs, ⟨l, opening false σ⟩, L⟩ (t.annotation.toList ++ (alternativesText ts ++ rest)) := by
      simp [alternativesText, opening]
    rw [hbar, htype, hmore]
    by_cases ht : isReadableType t ∧ TypeRef.targetName t.name ≠ denialWord
    · simp [ht.1, ht.2]
    · have hall : ¬(isReadableType t = true ∧ (false = true ∨ TypeRef.targetName t.name ≠ denialWord)) := by
        simpa using ht
      rw [if_neg hall, if_neg]
      simp only [List.all_cons, Bool.and_eq_true, decide_eq_true_eq]
      exact fun h => ht h.1

theorem areReadableTypes_eq (ts : List TypeRef) : areReadableTypes ts = ts.all isReadableType := by
  induction ts with
  | nil => rfl
  | cons t ts ih => rw [areReadableTypes, List.all_cons, ih]

theorem toList_intercalate_cons (t s : String) (ss : List String) :
    (t.intercalate (s :: ss)).toList = s.toList ++ ss.flatMap fun u => t.toList ++ u.toList := by
  induction ss generalizing s with
  | nil => simp
  | cons u ss ih =>
    rw [String.intercalate_cons_cons, String.toList_append, String.toList_append, ih, List.flatMap_cons, List.append_assoc,
      List.append_assoc]

theorem toList_payloadUnion (v : Variant) (vs : List Variant) :
    (ClassPlan.payloadUnion (v :: vs)).toList =
      v.payload.annotation.toList ++ alternativesText (vs.map (·.payload)) := by
  rw [ClassPlan.payloadUnion, List.isEmpty_cons, if_neg Bool.false_ne_true, List.map_cons, toList_intercalate_cons,
    alternativesText, List.flatMap_map, List.flatMap_map]
  rfl

/-- The types of a payload make an expression if they can be read as alternatives. -/
theorem isExpression_union {vs : List Variant} (h : ∀ v ∈ vs, HasWords v.payload) :
    IsExpression (ClassPlan.payloadUnion vs).toList (areReadableAlternatives (vs.map (·.payload))) := by
  intro L bs l σ rest hrest
  cases vs with
  | nil =>
    have hobject : IsFree "object" := by decide
    exact isExpression_name hobject L bs l σ rest hrest
  | cons v vs =>
    have hends : EndsType (alternativesText (vs.map (·.payload)) ++ rest) := by
      cases vs with
      | nil => exact hrest
      | cons u us => exact .inr ⟨_, rfl⟩
    have hfirst := isExpression_typeText (h v List.mem_cons_self) L bs l σ _ hends
    have hwords : ∀ t ∈ vs.map (·.payload), HasWords t := by
      intro t ht
      obtain ⟨u, hu, rfl⟩ := List.mem_map.mp ht
      exact h u (List.mem_cons_of_mem _ hu)
    have hmore := @run_alternatives L bs l σ rest _ hwords hrest
    have hp : areReadableAlternatives ((v :: vs).map (·.payload)) = (isReadableType v.payload &&
        (vs.map (·.payload)).all fun t => isReadableType t && TypeRef.targetName t.name ≠ denialWord) := by
      rw [Bool.eq_iff_iff, areReadableAlternatives, areReadableTypes_eq]
      simp only [List.map_cons, List.tail_cons, List.all_cons, Bool.and_eq_true, List.all_eq_true]
      exact ⟨fun h => ⟨h.1.1, fun t ht => ⟨h.1.2 t ht, h.2 t ht⟩⟩,
        fun h => ⟨⟨h.1, fun t ht => (h.2 t ht).1⟩, fun t ht => (h.2 t ht).2⟩⟩
    rw [toList_payloadUnion, List.append_assoc, hfirst, hmore, hp]
    cases isReadableType v.payload <;> rfl

/-! ## Parameters -/

/-- Characters are read as the parameters `ns` of a function exactly if `p` is true. -/
def IsParameters (cs : List Char) (p : Bool) (ns : List String) : Prop :=
  ∀ L bs l σ rest, run ⟨.code, .round :: bs, ⟨l, .parameters false :: σ⟩, L⟩ (cs ++ ')' :: rest) =
    if p then run ⟨.code, bs, ⟨{ l with names := l.names ++ ns }, σ⟩, L⟩ rest else none

/-- Where a parameter can stand; `starred` if only parameters by name follow. -/
inductive Symbol.TakesParameter : Symbol → Bool → Prop
  | one (starred : Bool) : TakesParameter (.parameter starred) starred
  | more (starred : Bool) : TakesParameter (.parameters starred) starred

theorem run_parameter {s : Symbol} {starred : Bool} (hs : s.TakesParameter starred) (hn : IsFree n)
    (hrest : EndsWord rest) : run ⟨.code, bs, ⟨l, s :: σ⟩, L⟩ (n.toList ++ rest) =
      if isBindable n then
        run ⟨.code, bs, ⟨{ l with names := l.names ++ [n] }, .typing :: .moreParameters starred :: σ⟩, L⟩ rest
      else none := by
  rw [run_free hn hrest]
  cases hs <;> cases hb : isBindable n <;> simp [hn.isBindable_eq, hb]

theorem run_typed {s : Symbol} {starred : Bool} {e : List Char} (hs : s.TakesParameter starred) (hn : IsFree n)
    (he : IsExpression e p) (hrest : EndsType rest) :
    run ⟨.code, bs, ⟨l, s :: σ⟩, L⟩ (n.toList ++ ':' :: ' ' :: (e ++ rest)) =
      if isBindable n && p then
        run ⟨.code, bs, ⟨{ l with names := l.names ++ [n] }, .trail :: .operators :: .moreParameters starred :: σ⟩, L⟩ rest
      else none := by
  rw [run_parameter hs hn (endsWord_cons _ (by decide) (by decide))]
  cases isBindable n with
  | false => rfl
  | true => simpa using he L bs { l with names := l.names ++ [n] } (.moreParameters starred :: σ) rest hrest

theorem endsType_closeParen (rest : List Char) : EndsType (')' :: rest) := .inl ⟨')', rest, rfl, by decide⟩

theorem isParameters_one (hn : IsFree n) (hb : isBindable n = true) : IsParameters n.toList true [n] := by
  intro L bs l σ rest
  rw [run_parameter (.more false) hn (endsWord_cons _ (by decide) (by decide)), hb]
  simp

theorem isParameters_typed {e : List Char} (hm : IsFree m) (hb : isBindable m = true) (hn : IsFree n)
    (he : IsExpression e p) :
    IsParameters (m.toList ++ ',' :: ' ' :: (n.toList ++ ':' :: ' ' :: e)) (isBindable n && p) [m, n] := by
  intro L bs l σ rest
  have hends := endsType_closeParen rest
  have htyped := @run_typed L (.round :: bs) { l with names := l.names ++ [m] } σ _ n p _ _ e (.more false) hn he hends
  simp only [List.cons_append, List.append_assoc]
  rw [run_parameter (.more false) hm (endsWord_cons _ (by decide) (by decide)), hb]
  cases hp : isBindable n && p <;> simpa [hp] using htyped

/-! ### Fields as parameters -/

def fieldText (f : Field) : List Char := f.name.toList ++ ':' :: ' ' :: f.type.annotation.toList

def fieldsText : List Field → List Char
  | [] => []
  | f :: fs => fieldText f ++ fs.flatMap fun f => ',' :: ' ' :: fieldText f

def isReadableField (f : Field) : Bool := isBindable f.name && isReadableType f.type

theorem run_fields {s : Symbol} (hs : s.TakesParameter true) (f : Field) (fs : List Field)
    (h : ∀ g ∈ f :: fs, IsFree g.name ∧ HasWords g.type) :
    run ⟨.code, .round :: bs, ⟨l, s :: σ⟩, L⟩ (fieldsText (f :: fs) ++ ')' :: rest) =
      if (f :: fs).all isReadableField then
        run ⟨.code, bs, ⟨{ l with names := l.names ++ (f :: fs).map (·.name) }, σ⟩, L⟩ rest
      else none := by
  induction fs generalizing f s l with
  | nil =>
    obtain ⟨hn, ht⟩ := h f List.mem_cons_self
    have htyped := @run_typed L (.round :: bs) l σ _ _ _ s true _ hs hn (isExpression_typeText ht) (endsType_closeParen rest)
    cases hf : isBindable f.name && isReadableType f.type <;>
      simpa [fieldsText, fieldText, isReadableField, hf] using htyped
  | cons g gs ih =>
    obtain ⟨hn, ht⟩ := h f List.mem_cons_self
    have hends : EndsType (',' :: ' ' :: (fieldsText (g :: gs) ++ ')' :: rest)) := .inl ⟨',', _, rfl, by decide⟩
    have htyped := @run_typed L (.round :: bs) l σ _ _ _ s true _ hs hn (isExpression_typeText ht) hends
    have hmore := ih (l := { l with names := l.names ++ [f.name] }) (.more true) g fun x hx => h x (List.mem_cons_of_mem _ hx)
    have htext : fieldsText (f :: g :: gs) ++ ')' :: rest =
        f.name.toList ++ ':' :: ' ' :: (f.type.annotation.toList ++ ',' :: ' ' :: (fieldsText (g :: gs) ++ ')' :: rest)) := by
      simp [fieldsText, fieldText]
    rw [htext, htyped, List.all_cons, isReadableField]
    cases hf : isBindable f.name && isReadableType f.type with
    | false => simp
    | true => simpa [List.map_cons] using hmore

theorem isParameters_fields (f : Field) (fs : List Field) (h : ∀ g ∈ f :: fs, IsFree g.name ∧ HasWords g.type) :
    IsParameters ("self, *, ".toList ++ fieldsText (f :: fs)) ((f :: fs).all isReadableField)
      ("self" :: (f :: fs).map (·.name)) := by
  intro L bs l σ rest
  have hself : run ⟨.code, .round :: bs, ⟨l, .parameters false :: σ⟩, L⟩ "self, *, ".toList =
      some ⟨.code, .round :: bs, ⟨{ l with names := l.names ++ ["self"] }, .parameter true :: σ⟩, L⟩ := by rfl
  rw [List.append_assoc, run_append_of hself, run_fields (.one true) f fs h, List.append_assoc]
  rfl

end DomainModel.Target
