import DomainModel.Proofs.Target.Reading

/-!
# Types in generated modules

A type becomes an expression of the module exactly if it is readable: its names have no reserved word in them but the
constants at their start, or it denies a list (`run_type`).
-/

namespace DomainModel.Target

open Live.Loading Scanner

mutual

/-- Names of a module, which have other names for the built-in types, are words with dots between them. -/
def HasWords : TypeRef → Prop
  | ⟨name, args⟩ => IsQualified (TypeRef.targetName name) ∧ HaveWords args

def HaveWords : List TypeRef → Prop
  | [] => True
  | t :: ts => HasWords t ∧ HaveWords ts

end

/-! ## Dotted names -/

theorem nameParts_of_not_mem {cs : List Char} (h : '.' ∉ cs) : nameParts cs = [cs] := by
  induction cs with
  | nil => rfl
  | cons c cs ih =>
    simp only [List.mem_cons, not_or] at h
    rw [nameParts, if_neg (Ne.symm h.1), ih h.2]

theorem nameParts_append {cs : List Char} (h : '.' ∉ cs) (rest : List Char) :
    nameParts (cs ++ '.' :: rest) = cs :: nameParts rest := by
  induction cs with
  | nil => simp [nameParts]
  | cons c cs ih =>
    simp only [List.mem_cons, not_or] at h
    rw [List.cons_append, nameParts, if_neg (Ne.symm h.1), ih h.2]

theorem nameParts_eq {w : String} {ws : List String} (hw : IsWord w) (hws : ∀ v ∈ ws, IsWord v) :
    nameParts (w.toList ++ ws.flatMap fun v => '.' :: v.toList) = w.toList :: ws.map String.toList := by
  induction ws generalizing w with
  | nil => simp [nameParts_of_not_mem hw.dot_not_mem]
  | cons v ws ih =>
    simp only [List.mem_cons, forall_eq_or_imp] at hws
    rw [List.flatMap_cons, List.cons_append, nameParts_append hw.dot_not_mem, ih hws.1 hws.2]
    rfl

theorem isReadableName_eq {s w : String} {ws : List String} (hw : IsWord w) (hws : ∀ v ∈ ws, IsWord v)
    (hs : s.toList = w.toList ++ ws.flatMap fun v => '.' :: v.toList) :
    isReadableName s = ((!Keyword.isReserved w || w ∈ constantWords) && ws.all (!Keyword.isReserved ·)) := by
  rw [isReadableName, hs, nameParts_eq hw hws]
  simp

/-! ## Words in a line -/

def EndsWord (rest : List Char) : Prop := ∃ c cs, rest = c :: cs ∧ Identifier.isPart c = false ∧ c ≠ '"'

section
variable {L : List Line} {bs : List Bracket} {l : Line} {σ : List Symbol} {rest : List Char}

theorem run_word {w : String} {p : Progress} (hw : IsWord w) (hrest : EndsWord rest) :
    run ⟨.code, bs, p, L⟩ (w.toList ++ rest) = resume (emit ⟨.code, bs, p, L⟩ (.ofWord w)) rest := by
  obtain ⟨c, cs, rfl, hc, hq⟩ := hrest
  exact run_identifier hw.isIdentifier hc hq

theorem endsWord_flatMap (hrest : EndsWord rest) (ws : List String) :
    EndsWord ((ws.flatMap fun v => '.' :: v.toList) ++ rest) := by
  cases ws with
  | nil => exact hrest
  | cons v ws => exact ⟨'.', _, rfl, by decide, by decide⟩

theorem run_trail {ws : List String} (hws : ∀ v ∈ ws, IsWord v) (hrest : EndsWord rest) :
    run ⟨.code, bs, ⟨l, .trail :: σ⟩, L⟩ ((ws.flatMap fun v => '.' :: v.toList) ++ rest) =
      if ws.all (!Keyword.isReserved ·) then run ⟨.code, bs, ⟨l, .trail :: σ⟩, L⟩ rest else none := by
  induction ws with
  | nil => rfl
  | cons v ws ih =>
    simp only [List.mem_cons, forall_eq_or_imp] at hws
    rw [List.flatMap_cons, List.append_assoc, List.cons_append, run_cons, step_code, code_dot, resume_some,
      run_dots_identifier hws.1.isIdentifier]
    simp only [emit, Progress.take, feed, Symbol.on, Symbol.quiet, Symbol.ofTrail, Option.map_some, resume_some]
    rw [run_word hws.1 (endsWord_flatMap hrest ws), Token.ofWord]
    cases hv : Keyword.isReserved v with
    | true => simp [hv]
    | false => simpa [hv] using ih hws.2

/-! ## Names of types -/

/-- Where a type may stand: as an expression, or as an alternative to others, which cannot be denied. -/
def opening (canDeny : Bool) (σ : List Symbol) : List Symbol :=
  if canDeny then .expr :: σ else .operand :: .operators :: σ

theorem isReserved_constants {w : String} (h : w ∈ constantWords) : Keyword.isReserved w = true ∧ w ≠ denialWord := by
  simp only [constantWords, List.mem_cons, List.not_mem_nil, or_false] at h
  rcases h with rfl | rfl | rfl <;> decide

theorem take_opening (w : String) (canDeny : Bool) :
    (⟨l, opening canDeny σ⟩ : Progress).take (.ofWord w) =
      if !Keyword.isReserved w || w ∈ constantWords then some ⟨l, .trail :: .operators :: σ⟩
      else if w = denialWord ∧ canDeny then some ⟨l, .expr :: σ⟩ else none := by
  by_cases hr : Keyword.isReserved w = true
  · by_cases hc : w ∈ constantWords
    · have hne := (isReserved_constants hc).2
      cases canDeny <;> simp_all [Token.ofWord, opening, constantWords, denialWord]
    · by_cases hn : w = "not"
      · cases canDeny <;> simp_all [Token.ofWord, opening, constantWords, denialWord]
      · cases canDeny <;> simp_all [Token.ofWord, opening, constantWords, denialWord]
  · cases canDeny <;> simp_all [Token.ofWord, opening]

theorem run_expr_dot (cs : List Char) {w : String} (hw : IsWord w) :
    run ⟨.code, bs, ⟨l, .expr :: σ⟩, L⟩ ('.' :: (w.toList ++ cs)) = none := by
  rw [run_cons, step_code, code_dot, resume_some, run_dots_identifier hw.isIdentifier]
  simp

theorem run_name {s : String} (hs : IsQualified s) (canDeny : Bool) (hrest : EndsWord rest) :
    run ⟨.code, bs, ⟨l, opening canDeny σ⟩, L⟩ (s.toList ++ rest) =
      if isReadableName s then run ⟨.code, bs, ⟨l, .trail :: .operators :: σ⟩, L⟩ rest
      else if s = denialWord ∧ canDeny then run ⟨.code, bs, ⟨l, .expr :: σ⟩, L⟩ rest else none := by
  obtain ⟨w, ws, hw, hws, hs⟩ := hs
  rw [isReadableName_eq hw hws hs, hs, List.append_assoc, run_word hw (endsWord_flatMap hrest ws), emit, take_opening]
  by_cases hfirst : (!Keyword.isReserved w || w ∈ constantWords) = true
  · have hne : s ≠ denialWord ∨ ws.all (!Keyword.isReserved ·) = true := by
      cases ws with
      | nil => exact .inr rfl
      | cons v ws =>
        refine .inl fun h => ?_
        have hdot : '.' ∈ s.toList := by simp [hs]
        exact absurd hdot (by rw [h]; decide)
    rw [if_pos hfirst, hfirst, Bool.true_and, Option.map_some, resume_some, run_trail hws hrest]
    rcases hne with hne | hall
    · simp [hne]
    · simp [hall]
  · simp only [Bool.not_eq_true] at hfirst
    rw [hfirst, Bool.false_and, if_neg Bool.false_ne_true, if_neg Bool.false_ne_true]
    cases ws with
    | nil =>
      have : s = w := String.toList_inj.mp (by simpa using hs)
      subst this
      by_cases hn : s = denialWord ∧ canDeny = true <;> simp [hn]
    | cons v ws =>
      have hne : ¬(s = denialWord ∧ canDeny = true) := by
        intro h
        have hdot : '.' ∈ s.toList := by simp [hs]
        exact absurd hdot (by rw [h.1]; decide)
      rw [if_neg hne]
      by_cases hn : w = denialWord ∧ canDeny = true
      · rw [if_pos hn, Option.map_some, resume_some, List.flatMap_cons, List.cons_append, List.cons_append,
          List.append_assoc, run_expr_dot _ (hws v List.mem_cons_self)]
      · rw [if_neg hn]
        rfl

/-! ## Types -/

theorem toList_plain (name : String) : (TypeRef.annotation ⟨name, []⟩).toList = (TypeRef.targetName name).toList := rfl

def tailText (ts : List TypeRef) : List Char := ts.flatMap fun t => ',' :: ' ' :: t.annotation.toList

theorem toList_textTail (ts : List TypeRef) :
    (TypeRef.textTail (TypeRef.mapNamesList TypeRef.targetName ts)).toList = tailText ts := by
  induction ts with
  | nil => rfl
  | cons t ts ih =>
    rw [TypeRef.mapNamesList, TypeRef.textTail, String.toList_append, String.toList_append, ih]
    rfl

theorem toList_applied (name : String) (t : TypeRef) (ts : List TypeRef) :
    (TypeRef.annotation ⟨name, t :: ts⟩).toList =
      (TypeRef.targetName name).toList ++ '[' :: (t.annotation.toList ++ (tailText ts ++ [']'])) := by
  rw [TypeRef.annotation, TypeRef.mapNames, TypeRef.mapNamesList, TypeRef.text]
  simp only [String.toList_append, toList_textTail, List.append_assoc]
  rfl

def EndsType (rest : List Char) : Prop :=
  (∃ c cs, rest = c :: cs ∧ c ∈ [')', ']', ',', ':']) ∨ ∃ cs, rest = ' ' :: '|' :: cs

theorem EndsType.endsWord (h : EndsType rest) : EndsWord rest := by
  rcases h with ⟨c, cs, rfl, hc⟩ | ⟨cs, rfl⟩
  · simp only [List.mem_cons, List.not_mem_nil, or_false] at hc
    rcases hc with rfl | rfl | rfl | rfl <;> exact ⟨_, cs, rfl, by decide, by decide⟩
  · exact ⟨' ', _, rfl, by decide, by decide⟩

theorem run_missing (h : EndsType rest) : run ⟨.code, bs, ⟨l, .expr :: σ⟩, L⟩ rest = none := by
  rcases h with ⟨c, cs, rfl, hc⟩ | ⟨cs, rfl⟩
  · simp only [List.mem_cons, List.not_mem_nil, or_false] at hc
    rcases hc with rfl | rfl | rfl | rfl
    · cases bs <;> simp [closeBracket]
    · cases bs <;> simp [closeBracket]
    · simp
    · simp
  · simp

theorem endsWord_tailText (ts : List TypeRef) (rest : List Char) : EndsWord (tailText ts ++ ']' :: rest) := by
  cases ts with
  | nil => exact ⟨']', rest, rfl, by decide, by decide⟩
  | cons t ts => exact ⟨',', _, rfl, by decide, by decide⟩

theorem isReadableName_denialWord : isReadableName denialWord = false := by decide

theorem run_elements {t : TypeRef} (ht : HasWords t) (hrest : EndsWord rest) :
    run ⟨.code, bs, ⟨l, .elements .closeBracket :: σ⟩, L⟩ (t.annotation.toList ++ rest) =
      run ⟨.code, bs, ⟨l, .expr :: .moreElements .closeBracket :: σ⟩, L⟩ (t.annotation.toList ++ rest) := by
  have hword : ∀ w : String, (⟨l, .elements .closeBracket :: σ⟩ : Progress).take (.ofWord w) =
      (⟨l, .expr :: .moreElements .closeBracket :: σ⟩ : Progress).take (.ofWord w) := by
    intro w
    have hne : Token.ofWord w ≠ .closeBracket := by
      unfold Token.ofWord
      split <;> simp
    cases h : Symbol.ofExpr (.ofWord w) <;> simp only [Progress.take, feed, Symbol.on, Symbol.quiet, Symbol.ofElements,
      if_neg hne, h] <;> simp
  have hfirst : ∀ name rest, IsQualified name → EndsWord rest →
      run ⟨.code, bs, ⟨l, .elements .closeBracket :: σ⟩, L⟩ (name.toList ++ rest) =
        run ⟨.code, bs, ⟨l, .expr :: .moreElements .closeBracket :: σ⟩, L⟩ (name.toList ++ rest) := by
    rintro name rest ⟨w, ws, hw, -, hs⟩ hrest
    have hends := endsWord_flatMap hrest ws
    rw [hs, List.append_assoc, run_word hw hends, run_word hw hends, emit, emit, hword]
  obtain ⟨name, args⟩ := t
  cases args with
  | nil => exact hfirst _ _ ht.1 hrest
  | cons t ts =>
    rw [toList_applied, List.append_assoc, List.cons_append]
    exact hfirst _ _ ht.1 ⟨'[', _, rfl, by decide, by decide⟩

end

mutual

theorem run_type {L : List Line} {bs : List Bracket} {l : Line} {σ : List Symbol} {rest : List Char} (canDeny : Bool)
    (hrest : EndsType rest) : (t : TypeRef) → HasWords t →
    run ⟨.code, bs, ⟨l, opening canDeny σ⟩, L⟩ (t.annotation.toList ++ rest) =
      if isReadableType t ∧ (canDeny = true ∨ TypeRef.targetName t.name ≠ denialWord) then
        run ⟨.code, bs, ⟨l, .trail :: .operators :: σ⟩, L⟩ rest
      else none
  | ⟨name, []⟩, ht => by
    rw [toList_plain, run_name ht.1 canDeny hrest.endsWord, run_missing hrest, isReadableType, areReadableTypes]
    by_cases hr : isReadableName (TypeRef.targetName name) = true
    · have hne : TypeRef.targetName name ≠ denialWord := by
        intro h
        rw [h, isReadableName_denialWord] at hr
        cases hr
      simp [hr, hne]
    · simp [hr]
  | ⟨name, t :: ts⟩, ht => by
    have hbracket : EndsWord ('[' :: (t.annotation.toList ++ (tailText ts ++ ']' :: rest))) :=
      ⟨'[', _, rfl, by decide, by decide⟩
    have htext : (TypeRef.annotation ⟨name, t :: ts⟩).toList ++ rest =
        (TypeRef.targetName name).toList ++ '[' :: (t.annotation.toList ++ (tailText ts ++ ']' :: rest)) := by
      simp [toList_applied]
    have hargs := @run_types L bs l (.trail :: .operators :: σ) rest (t :: ts) ht.2 t ts rfl
    have hends : EndsWord (tailText ts ++ ']' :: rest) := endsWord_tailText ts rest
    rw [htext, run_name ht.1 canDeny hbracket, isReadableType]
    by_cases hr : isReadableName (TypeRef.targetName name) = true
    · have hne : TypeRef.targetName name ≠ denialWord := by
        intro h
        rw [h, isReadableName_denialWord] at hr
        cases hr
      rw [if_pos hr, run_cons]
      simpa [hr, hne] using hargs
    · by_cases hn : TypeRef.targetName name = denialWord ∧ canDeny = true
      · rw [if_neg hr, if_pos hn, run_cons]
        simpa [hr, hn.1, hn.2, run_elements ht.2.1 hends] using hargs
      · rw [if_neg hr, if_neg hn, if_neg]
        rintro ⟨hreadable, hdeny⟩
        simp only [Bool.and_eq_true, Bool.or_eq_true, decide_eq_true_eq] at hreadable
        have hname := (hreadable.1.resolve_left hr).1
        exact hn ⟨hname, hdeny.resolve_right fun h => h hname⟩

theorem run_types {L : List Line} {bs : List Bracket} {l : Line} {σ : List Symbol} {rest : List Char} :
    (ts : List TypeRef) → HaveWords ts → ∀ t us, ts = t :: us →
    run ⟨.code, .square :: bs, ⟨l, .expr :: .moreElements .closeBracket :: σ⟩, L⟩
        (t.annotation.toList ++ (tailText us ++ ']' :: rest)) =
      if areReadableTypes ts then run ⟨.code, bs, ⟨l, σ⟩, L⟩ rest else none
  | [], _ => by simp
  | t :: ts, h => by
    rintro t us ⟨⟩
    have hends : EndsType (tailText ts ++ ']' :: rest) := by
      cases ts with
      | nil => exact .inl ⟨']', rest, rfl, by decide⟩
      | cons t ts => exact .inl ⟨',', _, rfl, by decide⟩
    have htype := @run_type L (.square :: bs) l (.moreElements .closeBracket :: σ) _ true hends t h.1
    rw [opening, if_pos rfl] at htype
    rw [htype, areReadableTypes]
    by_cases hr : isReadableType t = true
    · cases ts with
      | nil => simp [hr, tailText, areReadableTypes, closeBracket]
      | cons u us =>
        have hmore := @run_types L bs l σ rest (u :: us) h.2 u us rfl
        have hends : EndsWord (tailText us ++ ']' :: rest) := endsWord_tailText us rest
        rw [← run_elements h.2.1 hends] at hmore
        simpa [hr, tailText] using hmore
    · simp [hr]

end

end DomainModel.Target
