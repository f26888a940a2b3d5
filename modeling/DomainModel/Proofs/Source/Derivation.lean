import DomainModel.Proofs.Source.Grammar
import DomainModel.Proofs.Source.Scan

/-!
# What a reader has read

`Reads r ts` says how the tokens `ts` that a reader has taken make up complete declarations and the
part of the next one that its point records. Every step keeps it (`Reads.step`), so that the tokens
of a file that is read to its end are a sentence of the grammar (`isFile_of_steps`).
-/

namespace DomainModel.Grammar

/-! ## The part of a type -/

/-- Type arguments, each with the comma behind it. -/
inductive ReadsArguments : List TypeRef → List Token → Prop
  | none : ReadsArguments [] []
  | comma {ts : List Token} {args : List TypeRef} {c : Token} : IsTypes ts args →
      c.terminal = .comma → ReadsArguments args (ts ++ [c])

inductive ReadsOuter : List TypeRef → List Token → Prop
  | nil : ReadsOuter [] []
  | cons {outer args : List TypeRef} {ts us vs : List Token} {n : String} {o : Token} :
      ReadsOuter outer ts → IsDottedName us n → o.terminal = .openBracket → ReadsArguments args vs →
      ReadsOuter (⟨n, args⟩ :: outer) (ts ++ (us ++ o :: vs))

inductive ReadsHead : TypeHead → List Token → Prop
  | expected : ReadsHead .expected []
  | dotted {ts : List Token} {n : String} {d : Token} : IsDottedName ts n → d.terminal = .dot →
      ReadsHead (.dotted n) (ts ++ [d])
  | named {ts : List Token} {n : String} : IsDottedName ts n → ReadsHead (.named n) ts
  | closed {ts : List Token} {t : TypeRef} : IsType ts t → ReadsHead (.closed t) ts

inductive ReadsType : TypePoint → List Token → Prop
  | mk {outer : List TypeRef} {head : TypeHead} {ts us : List Token} : ReadsOuter outer ts →
      ReadsHead head us → ReadsType ⟨outer, head⟩ (ts ++ us)

theorem ReadsHead.isType {p : TypePoint} {ts : List Token} {t : TypeRef} (h : ReadsHead p.head ts)
    (ht : p.inner? = some t) : IsType ts t := by
  obtain ⟨outer, head⟩ := p
  cases h with
  | expected => cases ht
  | dotted => cases ht
  | named h => cases ht; exact .plain h
  | closed h => cases ht; exact h

theorem ReadsType.isType {p : TypePoint} {ts : List Token} {t : TypeRef} (h : ReadsType p ts)
    (ht : p.type? = some t) : IsType ts t := by
  cases h with
  | mk ho hh =>
    cases ho with
    | nil => exact hh.isType ht
    | cons => cases ht

theorem ReadsArguments.isTypes {args : List TypeRef} {t : TypeRef} {ts us : List Token}
    (h : ReadsArguments args ts) (ht : IsType us t) : IsTypes (ts ++ us) (args ++ [t]) := by
  cases h with
  | none => exact .one ht
  | comma h hc =>
    rw [List.append_assoc]
    exact .more h hc ht

theorem ReadsType.step {p p' : TypePoint} {ts : List Token} {k : Token} (h : ReadsType p ts)
    (hs : p.step k = some p') : ReadsType p' (ts ++ [k]) := by
  cases h with
  | @mk outer head ts us ho hh =>
    rw [List.append_assoc]
    -- one case for each token a type can go on with; a comma and a bracket close the innermost argument
    unfold TypePoint.step at hs
    dsimp only at hs
    split at hs
    · next hk =>
      cases hs
      cases hh
      exact .mk ho (.named (.name hk))
    · next hk =>
      cases hs
      cases hh with
      | dotted hn hd =>
        rw [List.append_assoc]
        exact .mk ho (.named (.dot hn hd hk))
    · next hk =>
      cases hs
      cases hh with
      | named hn => exact .mk ho (.dotted hn hk)
    · next hk =>
      cases hs
      cases hh with
      | named hn =>
        have := ReadsType.mk (.cons ho hn hk .none) .expected
        rwa [List.append_nil] at this
    · next hk =>
      split at hs
      · next inner o outer hi =>
        cases hs
        have ht := ReadsHead.isType (p := ⟨_, _⟩) hh hi
        cases ho with
        | cons ho hn hb ha =>
          have := ReadsType.mk (.cons ho hn hb (.comma (ha.isTypes ht) hk)) .expected
          simpa using this
      · cases hs
    · next hk =>
      split at hs
      · next inner o outer hi =>
        cases hs
        have ht := ReadsHead.isType (p := ⟨_, _⟩) hh hi
        cases ho with
        | cons ho hn hb ha =>
          have := ReadsType.mk ho (.closed (.applied hn hb (ha.isTypes ht) hk))
          simpa using this
      · cases hs
    · cases hs

/-! ## The part of a directive's arguments -/

theorem isValue_of_literal? {k : Token} {v : Literal} (h : k.literal? = some v) : IsValue k v := by
  unfold Token.literal? at h
  split at h
  · next hk => cases h; exact .word hk
  · next hk => cases h; exact .string hk
  · next hk => cases h; exact .number hk
  · cases h

inductive ReadsArgument : ArgumentPoint → List Token → Prop
  | separated : ReadsArgument .separated []
  | word {k : Token} : k.terminal = .name → ReadsArgument (.word k.lexeme) [k]
  | assigned {n e : Token} : n.terminal = .name → e.terminal = .equals →
      ReadsArgument (.assigned n.lexeme) [n, e]
  | complete {a : Argument} {ts : List Token} : IsArgument ts a → ReadsArgument (.complete a) ts

/-- The arguments of a directive that are complete, and the part of the next one. -/
inductive ReadsList : List Argument → ArgumentPoint → List Token → Prop
  | opened : ReadsList [] .opened []
  | first {p : ArgumentPoint} {ts : List Token} : ReadsArgument p ts → ReadsList [] p ts
  | next {p : ArgumentPoint} {args : List Argument} {ts us : List Token} {c : Token} :
      Separated IsArgument ts args → c.terminal = .comma → ReadsArgument p us →
      ReadsList args p (ts ++ c :: us)

theorem ReadsArgument.isArgument {p : ArgumentPoint} {ts : List Token} {a : Argument}
    (h : ReadsArgument p ts) (ha : p.argument? = some a) : IsArgument ts a := by
  cases h with
  | separated => cases ha
  | word hk => cases ha; exact .positional (.word hk)
  | assigned => cases ha
  | complete h => cases ha; exact h

theorem ReadsList.separated {args : List Argument} {p : ArgumentPoint} {ts : List Token} {a : Argument}
    (h : ReadsList args p ts) (ha : p.argument? = some a) :
    Separated IsArgument ts (args ++ [a]) := by
  cases h with
  | opened => cases ha
  | first h => exact .one (h.isArgument ha)
  | next hs hc h => exact .more hs hc (h.isArgument ha)

theorem ReadsArgument.start {p : ArgumentPoint} {k : Token}
    (hs : ArgumentPoint.separated.step k = some p) : ReadsArgument p [k] := by
  simp only [ArgumentPoint.step] at hs
  split at hs
  · next hk => cases hs; exact .word hk
  · obtain ⟨v, hv, rfl⟩ := Option.map_eq_some_iff.mp hs
    exact .complete (.positional (isValue_of_literal? hv))

theorem ReadsArgument.step {p p' : ArgumentPoint} {ts : List Token} {k : Token}
    (h : ReadsArgument p ts) (hs : p.step k = some p') : ReadsArgument p' (ts ++ [k]) := by
  cases h with
  | separated => exact .start hs
  | word hn =>
    simp only [ArgumentPoint.step] at hs
    split at hs
    · next hk => cases hs; exact .assigned hn hk
    · cases hs
  | assigned hn he =>
    obtain ⟨v, hv, rfl⟩ := Option.map_eq_some_iff.mp hs
    exact .complete (.named hn he (isValue_of_literal? hv))
  | complete => cases hs

theorem ReadsList.step {args : List Argument} {p p' : ArgumentPoint} {ts : List Token} {k : Token}
    (h : ReadsList args p ts) (hs : p.step k = some p') : ReadsList args p' (ts ++ [k]) := by
  cases h with
  | opened => exact .first (.start hs)
  | first h => exact .first (h.step hs)
  | next ha hc h =>
    rw [List.append_assoc, List.cons_append]
    exact .next ha hc (h.step hs)

/-! ## The part of a declaration -/

section
variable (file : Option String)

inductive ReadsHeader : Header → List Token → Prop
  | mk {ts us : List Token} {docs : List String} {directives : List Directive} : Many IsDoc ts docs →
      Many (IsDirective file) us directives → ReadsHeader ⟨docs, directives⟩ (ts ++ us)

inductive ReadsField : FieldPoint → List Token → Prop
  | start : ReadsField .start []
  | documented {ts : List Token} {docs : List String} : Many IsDoc ts docs →
      ReadsField (.documented docs) ts
  | exposed {ts : List Token} {docs : List String} {k : Token} : Many IsDoc ts docs →
      k.terminal = .pub → ReadsField (.exposed docs) (ts ++ [k])
  | named {ts us : List Token} {docs : List String} {v : Visibility} {n : Token} : Many IsDoc ts docs →
      IsVisibility us v → n.terminal = .name →
      ReadsField (.named docs v (nameAt file n)) (ts ++ (us ++ [n]))
  | typed {ts us vs : List Token} {docs : List String} {v : Visibility} {n c : Token} {p : TypePoint} :
      Many IsDoc ts docs → IsVisibility us v → n.terminal = .name → c.terminal = .colon →
      ReadsType p vs → ReadsField (.typed docs v (nameAt file n) p) (ts ++ (us ++ n :: c :: vs))

inductive ReadsVariant : VariantPoint → List Token → Prop
  | start : ReadsVariant .start []
  | documented {ts : List Token} {docs : List String} : Many IsDoc ts docs →
      ReadsVariant (.documented docs) ts
  | named {ts : List Token} {docs : List String} {n : Token} : Many IsDoc ts docs →
      n.terminal = .name → ReadsVariant (.named docs (nameAt file n)) (ts ++ [n])
  | payload {ts us : List Token} {docs : List String} {n o : Token} {p : TypePoint} :
      Many IsDoc ts docs → n.terminal = .name → o.terminal = .openParen → ReadsType p us →
      ReadsVariant (.payload docs (nameAt file n) p) (ts ++ n :: o :: us)

def keywordOf : Kind → Terminal
  | .record => .record
  | .sum => .sum
  | .synonym => .synonym

inductive ReadsPoint : Point → List Token → Prop
  | opening : ReadsPoint .opening []
  | documented {ts : List Token} {docs : List String} : Many IsDoc ts docs →
      ReadsPoint (.documented docs) ts
  | directiveSign {ts : List Token} {h : Header} {s : Token} : ReadsHeader file h ts →
      s.terminal = .atSign → ReadsPoint (.directiveSign h) (ts ++ [s])
  | directiveNamed {ts : List Token} {h : Header} {s n : Token} : ReadsHeader file h ts →
      s.terminal = .atSign → n.terminal = .name →
      ReadsPoint (.directiveNamed h (nameAt file n)) (ts ++ [s, n])
  | arguments {ts us : List Token} {h : Header} {s n o : Token} {taken : List Argument}
      {p : ArgumentPoint} : ReadsHeader file h ts → s.terminal = .atSign → n.terminal = .name →
      o.terminal = .openParen → ReadsList taken p us →
      ReadsPoint (.arguments h (nameAt file n) taken p) (ts ++ s :: n :: o :: us)
  | directed {ts : List Token} {h : Header} : ReadsHeader file h ts → ReadsPoint (.directed h) ts
  | keyword {ts : List Token} {h : Header} {kind : Kind} {k : Token} : ReadsHeader file h ts →
      k.terminal = keywordOf kind → ReadsPoint (.keyword h kind) (ts ++ [k])
  | named {ts : List Token} {h : Header} {kind : Kind} {k n : Token} : ReadsHeader file h ts →
      k.terminal = keywordOf kind → n.terminal = .name →
      ReadsPoint (.named h kind (nameAt file n)) (ts ++ [k, n])
  | fields {ts us vs : List Token} {h : Header} {k n o : Token} {taken : List Field} {p : FieldPoint} :
      ReadsHeader file h ts → k.terminal = .record → n.terminal = .name → o.terminal = .openBrace →
      Many (IsField file) us taken → ReadsField file p vs →
      ReadsPoint (.fields h (nameAt file n) taken p) (ts ++ k :: n :: o :: (us ++ vs))
  | variants {ts us vs : List Token} {h : Header} {k n o : Token} {taken : List Variant}
      {p : VariantPoint} : ReadsHeader file h ts → k.terminal = .sum → n.terminal = .name →
      o.terminal = .openBrace → Many (IsVariant file) us taken → ReadsVariant file p vs →
      ReadsPoint (.variants h (nameAt file n) taken p) (ts ++ k :: n :: o :: (us ++ vs))
  | target {ts us : List Token} {h : Header} {k n e : Token} {p : TypePoint} : ReadsHeader file h ts →
      k.terminal = .synonym → n.terminal = .name → e.terminal = .equals → ReadsType p us →
      ReadsPoint (.target h (nameAt file n) p) (ts ++ k :: n :: e :: us)

end

/-- The tokens that the reader of a file has taken. -/
inductive Reads (file : Option String) : Reader → List Token → Prop
  | mk {ts us : List Token} {done : List Declaration} {p : Point} :
      IsFile file ts done → ReadsPoint file p us → Reads file ⟨file, done, p⟩ (ts ++ us)

theorem Reads.congr {file : Option String} {r : Reader} {ts us : List Token} (h : Reads file r ts)
    (e : ts = us) : Reads file r us := e ▸ h

/-! ## Steps -/

theorem Reads.start (file : Option String) : Reads file (.start file) [] :=
  .mk .nil .opening

theorem ReadsType.start : ReadsType .start [] := ReadsType.mk .nil .expected

theorem Many.one {α : Type} {rule : List Token → α → Prop} {ts : List Token} {x : α} (h : rule ts x) :
    Many rule ts [x] := Many.snoc .nil h

section
variable {r r' : Reader} {ts us : List Token} {k : Token}

theorem Reads.move {p : Point} (hd : IsFile r.file ts r.done) (hp : ReadsPoint r.file p us) :
    Reads r.file (r.move p) (ts ++ us) := .mk hd hp

theorem Reads.stepHeader {h : Header} (hd : IsFile r.file ts r.done) (hh : ReadsHeader r.file h us)
    (hs : r.stepHeader h k = some r') : Reads r.file r' (ts ++ (us ++ [k])) := by
  unfold Reader.stepHeader at hs
  split at hs
  · next hk => cases hs; exact .move hd (.directiveSign hh hk)
  · next hk => cases hs; exact .move hd (.keyword hh hk)
  · next hk => cases hs; exact .move hd (.keyword hh hk)
  · next hk => cases hs; exact .move hd (.keyword hh hk)
  · cases hs

theorem Reads.stepOpening {docs : List String} (hd : IsFile r.file ts r.done) (hdocs : Many IsDoc us docs)
    (hs : r.stepOpening docs k = some r') : Reads r.file r' (ts ++ (us ++ [k])) := by
  unfold Reader.stepOpening at hs
  split at hs
  · next hk => cases hs; exact .move hd (.documented (.snoc hdocs (.mk hk)))
  · refine .stepHeader hd ?_ hs
    have hh : ReadsHeader r.file ⟨docs, []⟩ (us ++ []) := .mk hdocs .nil
    rwa [List.append_nil] at hh

theorem ReadsHeader.withDirective {file : Option String} {h : Header} {n : Token} {args : List Argument}
    (hh : ReadsHeader file h ts) (hd : IsDirective file us ⟨n.lexeme, args, some (nameAt file n).location⟩) :
    ReadsHeader file (h.withDirective (nameAt file n) args) (ts ++ us) := by
  cases hh with
  | mk hdocs hdirs =>
    rw [List.append_assoc]
    exact .mk hdocs (.snoc hdirs hd)

theorem Reads.stepArguments {h : Header} {s n o : Token} {taken : List Argument} {p : ArgumentPoint}
    {vs : List Token} (hd : IsFile r.file ts r.done) (hh : ReadsHeader r.file h us)
    (hs : s.terminal = .atSign) (hn : n.terminal = .name) (ho : o.terminal = .openParen)
    (hp : ReadsList taken p vs) (hst : r.stepArguments h (nameAt r.file n) taken p k = some r') :
    Reads r.file r' (ts ++ (us ++ (s :: n :: o :: vs ++ [k]))) := by
  unfold Reader.stepArguments at hst
  split at hst
  · next hk =>
    cases hst
    obtain rfl : vs = [] := by
      cases hp with
      | opened => rfl
      | first h => cases h
      | next _ _ h => cases h
    exact .move hd (.directed (hh.withDirective (.empty hs hn ho hk)))
  · next a hk _ ha =>
    cases hst
    exact .move hd (.directed (hh.withDirective (.applied hs hn ho (hp.separated ha) hk)))
  · next a hk ha =>
    cases hst
    exact .move hd (.arguments hh hs hn ho (.next (hp.separated ha) hk .separated))
  · obtain ⟨p', hp', rfl⟩ := Option.map_eq_some_iff.mp hst
    exact .move hd (.arguments hh hs hn ho (hp.step hp'))

theorem Reads.stepNamed {h : Header} {kind : Kind} {n d : Token} (hd : IsFile r.file ts r.done)
    (hh : ReadsHeader r.file h us) (hk : d.terminal = keywordOf kind) (hn : n.terminal = .name)
    (hs : r.stepNamed h kind (nameAt r.file n) k = some r') : Reads r.file r' (ts ++ (us ++ [d, n, k])) := by
  unfold Reader.stepNamed at hs
  split at hs
  · next ho => cases hs; exact .move hd (.fields hh hk hn ho .nil .start)
  · next ho => cases hs; exact .move hd (.variants hh hk hn ho .nil .start)
  · next he => cases hs; exact .move hd (.target hh hk hn he .start)
  · cases hs

/-- A record that is being read: its header, keyword, name and brace, and its complete fields. -/
structure ReadsRecord (r : Reader) (h : Header) (n : Token) (taken : List Field) (ts us : List Token) :
    Prop where
  done : IsFile r.file ts r.done
  body : ∃ ds k o fs, us = ds ++ k :: n :: o :: fs ∧ ReadsHeader r.file h ds ∧ k.terminal = .record ∧
    n.terminal = .name ∧ o.terminal = .openBrace ∧ Many (IsField r.file) fs taken

structure ReadsSum (r : Reader) (h : Header) (n : Token) (taken : List Variant) (ts us : List Token) :
    Prop where
  done : IsFile r.file ts r.done
  body : ∃ ds k o vs, us = ds ++ k :: n :: o :: vs ∧ ReadsHeader r.file h ds ∧ k.terminal = .sum ∧
    n.terminal = .name ∧ o.terminal = .openBrace ∧ Many (IsVariant r.file) vs taken

namespace ReadsRecord
variable {h : Header} {n : Token} {taken : List Field} {vs : List Token}

theorem move {p : FieldPoint} (hr : ReadsRecord r h n taken ts us) (hp : ReadsField r.file p vs) :
    Reads r.file (r.move (.fields h (nameAt r.file n) taken p)) (ts ++ (us ++ vs)) := by
  obtain ⟨hd, ds, k, o, fs, rfl, hh, hk, hn, ho, hf⟩ := hr
  exact (Reads.move hd (.fields hh hk hn ho hf hp)).congr (by simp)

theorem snoc {f : Field} (hr : ReadsRecord r h n taken ts us) (hf : IsField r.file vs f) :
    ReadsRecord r h n (taken ++ [f]) ts (us ++ vs) := by
  obtain ⟨hd, ds, k, o, fs, rfl, hh, hk, hn, ho, hfs⟩ := hr
  exact ⟨hd, ds, k, o, fs ++ vs, by simp, hh, hk, hn, ho, .snoc hfs hf⟩

theorem close {c : Token} (hr : ReadsRecord r h n taken ts us) (hc : c.terminal = .closeBrace) :
    Reads r.file (r.close (Reader.record h (nameAt r.file n) taken)) (ts ++ (us ++ [c])) := by
  obtain ⟨hd, ds, k, o, fs, rfl, hh, hk, hn, ho, hf⟩ := hr
  cases hh with
  | mk hdocs hdirs =>
    exact (Reads.mk (hd.snoc (.mk hdocs hdirs (.record hk hn ho hf hc))) .opening).congr (by simp)

theorem stepField {docs : List String} (hr : ReadsRecord r h n taken ts us) (hdocs : Many IsDoc vs docs)
    (hs : r.stepField h (nameAt r.file n) taken docs k = some r') :
    Reads r.file r' (ts ++ (us ++ (vs ++ [k]))) := by
  unfold Reader.stepField at hs
  split at hs
  · next hk => cases hs; exact hr.move (.documented (.snoc hdocs (.mk hk)))
  · next hk => cases hs; exact hr.move (.exposed hdocs hk)
  · next hk => cases hs; exact hr.move (.named hdocs .hidden hk)
  · cases hs

theorem stepFields (hr : ReadsRecord r h n taken ts us)
    (hs : r.stepFields h (nameAt r.file n) taken k = some r') : Reads r.file r' (ts ++ (us ++ [k])) := by
  unfold Reader.stepFields at hs
  split at hs
  · next hk => cases hs; exact hr.close hk
  · exact (hr.stepField .nil hs :)

end ReadsRecord

namespace ReadsSum
variable {h : Header} {n : Token} {taken : List Variant} {vs : List Token}

theorem move {p : VariantPoint} (hr : ReadsSum r h n taken ts us) (hp : ReadsVariant r.file p vs) :
    Reads r.file (r.move (.variants h (nameAt r.file n) taken p)) (ts ++ (us ++ vs)) := by
  obtain ⟨hd, ds, k, o, fs, rfl, hh, hk, hn, ho, hf⟩ := hr
  exact (Reads.move hd (.variants hh hk hn ho hf hp)).congr (by simp)

theorem snoc {v : Variant} (hr : ReadsSum r h n taken ts us) (hv : IsVariant r.file vs v) :
    ReadsSum r h n (taken ++ [v]) ts (us ++ vs) := by
  obtain ⟨hd, ds, k, o, fs, rfl, hh, hk, hn, ho, hvs⟩ := hr
  exact ⟨hd, ds, k, o, fs ++ vs, by simp, hh, hk, hn, ho, .snoc hvs hv⟩

theorem close {c : Token} (hr : ReadsSum r h n taken ts us) (hc : c.terminal = .closeBrace) :
    Reads r.file (r.close (Reader.sum h (nameAt r.file n) taken)) (ts ++ (us ++ [c])) := by
  obtain ⟨hd, ds, k, o, fs, rfl, hh, hk, hn, ho, hf⟩ := hr
  cases hh with
  | mk hdocs hdirs =>
    exact (Reads.mk (hd.snoc (.mk hdocs hdirs (.sum hk hn ho hf hc))) .opening).congr (by simp)

theorem stepVariant {docs : List String} (hr : ReadsSum r h n taken ts us) (hdocs : Many IsDoc vs docs)
    (hs : r.stepVariant h (nameAt r.file n) taken docs k = some r') :
    Reads r.file r' (ts ++ (us ++ (vs ++ [k]))) := by
  unfold Reader.stepVariant at hs
  split at hs
  · next hk => cases hs; exact hr.move (.documented (.snoc hdocs (.mk hk)))
  · next hk => cases hs; exact hr.move (.named hdocs hk)
  · cases hs

end ReadsSum

theorem isFile_synonym {file : Option String} {done : List Declaration} {h : Header} {d n e : Token}
    {p : TypePoint} {type : TypeRef} {vs : List Token} (hd : IsFile file ts done)
    (hh : ReadsHeader file h us) (hk : d.terminal = .synonym) (hn : n.terminal = .name)
    (he : e.terminal = .equals) (hp : ReadsType p vs) (ht : p.type? = some type) :
    IsFile file (ts ++ (us ++ d :: n :: e :: vs)) (done ++ [Reader.synonym h (nameAt file n) type]) := by
  cases hh with
  | mk hdocs hdirs =>
    rw [List.append_assoc]
    exact hd.snoc (.mk hdocs hdirs (.synonym hk hn he (hp.isType ht)))

theorem Reads.stepRecord {h : Header} {n : Token} {taken : List Field} {p : FieldPoint}
    {vs : List Token} (hr : ReadsRecord r h n taken ts us) (hp : ReadsField r.file p vs)
    (hpoint : r.point = .fields h (nameAt r.file n) taken p) (hs : r.step k = some r') :
    Reads r.file r' (ts ++ (us ++ (vs ++ [k]))) := by
  rw [Reader.step, hpoint] at hs
  cases hp with
  | start => exact hr.stepFields hs
  | documented hdocs => exact hr.stepField hdocs hs
  | exposed hdocs hpub =>
    dsimp only at hs
    split at hs
    · next hk =>
      cases hs
      exact (hr.move (.named hdocs (.exposed hpub) hk)).congr (by simp)
    · cases hs
  | named hdocs hv hn =>
    dsimp only at hs
    split at hs
    · next hk =>
      cases hs
      exact (hr.move (.typed hdocs hv hn hk .start)).congr (by simp)
    · cases hs
  | typed hdocs hv hn hc hp =>
    dsimp only at hs
    split at hs
    · next hp' =>
      cases hs
      exact (hr.move (.typed hdocs hv hn hc (hp.step hp'))).congr (by simp)
    · next ht =>
      exact ((hr.snoc (.mk hdocs hv hn hc (hp.isType ht))).stepFields hs).congr (by simp)
    · cases hs

theorem Reads.stepSum {h : Header} {n : Token} {taken : List Variant} {p : VariantPoint}
    {vs : List Token} (hr : ReadsSum r h n taken ts us) (hp : ReadsVariant r.file p vs)
    (hpoint : r.point = .variants h (nameAt r.file n) taken p) (hs : r.step k = some r') :
    Reads r.file r' (ts ++ (us ++ (vs ++ [k]))) := by
  rw [Reader.step, hpoint] at hs
  cases hp with
  | start =>
    dsimp only at hs
    split at hs
    · next hk => cases hs; exact hr.close hk
    · exact (hr.stepVariant .nil hs :)
  | documented hdocs => exact hr.stepVariant hdocs hs
  | named hdocs hn =>
    dsimp only at hs
    split at hs
    · next hk =>
      cases hs
      exact (hr.move (.payload hdocs hn hk .start)).congr (by simp)
    · cases hs
  | payload hdocs hn ho hp =>
    dsimp only at hs
    split at hs
    · next hp' =>
      cases hs
      exact (hr.move (.payload hdocs hn ho (hp.step hp'))).congr (by simp)
    · next ht hk =>
      cases hs
      exact ((hr.snoc (.mk hdocs hn ho (hp.isType ht) hk)).move .start).congr (by simp)
    · cases hs

/-- What has been read is still accounted for after a step. -/
theorem Reads.step {file : Option String} (h : Reads file r ts) (hs : r.step k = some r') :
    Reads file r' (ts ++ [k]) := by
  cases h with
  | @mk ts us done p hd hp =>
    rw [List.append_assoc]
    cases hp with
    | opening => exact (Reads.stepOpening hd .nil hs :)
    | documented hdocs => exact .stepOpening hd hdocs hs
    | directiveSign hh hsign =>
      rw [List.append_assoc]
      simp only [Reader.step] at hs
      split at hs
      · next hk => cases hs; exact .mk hd (.directiveNamed hh hsign hk)
      · cases hs
    | directiveNamed hh hsign hn =>
      simp only [Reader.step] at hs
      split at hs
      · next hk =>
        cases hs
        exact (Reads.mk hd (.arguments hh hsign hn hk .opened)).congr (by simp)
      · -- the directive turns out to have no arguments, and the token goes on with the header
        exact .stepHeader hd (hh.withDirective (.bare hsign hn)) hs
    | arguments hh hsign hn ho hp =>
      exact (Reads.stepArguments hd hh hsign hn ho hp hs).congr (by simp)
    | directed hh => exact .stepHeader hd hh hs
    | keyword hh hkey =>
      rw [List.append_assoc]
      simp only [Reader.step] at hs
      split at hs
      · next hk => cases hs; exact .mk hd (.named hh hkey hk)
      · cases hs
    | named hh hkey hn =>
      rw [List.append_assoc]
      exact Reads.stepNamed hd hh hkey hn hs
    | fields hh hkey hn ho hf hp =>
      exact (Reads.stepRecord ⟨hd, _, _, _, _, rfl, hh, hkey, hn, ho, hf⟩ hp rfl hs).congr (by simp)
    | variants hh hkey hn ho hv hp =>
      exact (Reads.stepSum ⟨hd, _, _, _, _, rfl, hh, hkey, hn, ho, hv⟩ hp rfl hs).congr (by simp)
    | @target _ _ h _ n _ _ hh hkey hn he hp =>
      simp only [Reader.step] at hs
      split at hs
      · next hp' =>
        cases hs
        exact (Reads.mk hd (.target hh hkey hn he (hp.step hp'))).congr (by simp)
      · next type _ ht =>
        -- the token belongs to the next declaration, so the synonym ends before it
        have hd' := isFile_synonym hd hh hkey hn he hp ht
        exact (Reads.stepOpening (r := ⟨file, done ++ [Reader.synonym h (nameAt file n) type], .opening⟩)
          hd' .nil hs).congr (by simp)
      · cases hs

theorem Reads.steps {file : Option String} (h : Reads file r ts) (hs : r.steps us = some r') :
    Reads file r' (ts ++ us) := by
  induction us generalizing r ts with
  | nil =>
    cases hs
    rwa [List.append_nil]
  | cons k us ih =>
    obtain ⟨r₁, h₁, hs⟩ := Option.bind_eq_some_iff.mp hs
    exact (ih (h.step h₁) hs).congr (by simp)

theorem Reads.finish {file : Option String} {ds : List Declaration} (h : Reads file r ts)
    (hf : r.finish? = some ds) : IsFile file ts ds := by
  cases h with
  | mk hd hp =>
    cases hp with
    | opening =>
      cases hf
      rwa [List.append_nil]
    | target hh hkey hn he hp =>
      obtain ⟨type, ht, rfl⟩ := Option.map_eq_some_iff.mp hf
      exact isFile_synonym hd hh hkey hn he hp ht
    | _ => cases hf

end

/-- The tokens of a file that is read to its end are a sentence of the grammar. -/
theorem isFile_of_steps {file : Option String} {ts : List Token} {r : Reader} {ds : List Declaration}
    (hs : (Reader.start file).steps ts = some r) (hf : r.finish? = some ds) : IsFile file ts ds :=
  ((Reads.start file).steps hs).finish hf

end DomainModel.Grammar
