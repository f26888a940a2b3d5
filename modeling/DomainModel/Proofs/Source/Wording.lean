import DomainModel.Proofs.Source.Content

/-!
# Words of a file

The names of the declarations, fields and variants of a file are words, and its types are made of words with dots
between them (`isWorded_of_parse`).
-/

namespace DomainModel

def IsWord (w : String) : Prop := Terminal.name.Matches w.toList

def IsQualified (s : String) : Prop :=
  ∃ (w : String) (ws : List String), IsWord w ∧ (∀ v ∈ ws, IsWord v) ∧
    s.toList = w.toList ++ ws.flatMap fun v => '.' :: v.toList

namespace TypeRef

mutual

/-- The names of a type are words with dots between them. -/
def IsWorded : TypeRef → Prop
  | ⟨name, args⟩ => IsQualified name ∧ AreWorded args

def AreWorded : List TypeRef → Prop
  | [] => True
  | t :: ts => t.IsWorded ∧ AreWorded ts

end

theorem areWorded_append {ts us : List TypeRef} (h : AreWorded ts) (h' : AreWorded us) : AreWorded (ts ++ us) := by
  induction ts with
  | nil => exact h'
  | cons t ts ih => exact ⟨h.1, ih h.2⟩

end TypeRef

/-- The names and types of a declaration are made of words. -/
structure Declaration.IsWorded (d : Declaration) : Prop where
  name : IsWord d.name
  fields : ∀ f ∈ d.fields, IsWord f.name ∧ f.type.IsWorded
  variants : ∀ v ∈ d.variants, IsWord v.name ∧ v.payload.IsWorded
  target : ∀ t ∈ d.target, t.IsWorded

/-! ## Words -/

section
variable {w v : String}

theorem IsWord.isPart_of_mem (h : IsWord w) : ∀ c ∈ w.toList, Word.isPart c = true := by
  obtain ⟨c, cs, hw, hc, hcs⟩ := h
  intro d hd
  rw [hw] at hd
  rcases List.mem_cons.mp hd with rfl | hd
  · exact isPart_of_isStart hc
  · exact hcs d hd

theorem IsWord.dot_not_mem (h : IsWord w) : '.' ∉ w.toList :=
  fun hd => absurd (h.isPart_of_mem _ hd) (by decide)

theorem IsWord.ne_nil (h : IsWord w) : w.toList ≠ [] := by
  obtain ⟨c, cs, hw, -⟩ := h
  simp [hw]

theorem IsWord.isQualified (h : IsWord w) : IsQualified w := ⟨w, [], h, by simp, by simp⟩

theorem IsQualified.dot {s : String} (h : IsQualified s) (hv : IsWord v) : IsQualified (s ++ "." ++ v) := by
  obtain ⟨w, ws, hw, hws, hs⟩ := h
  refine ⟨w, ws ++ [v], hw, fun u hu => ?_, ?_⟩
  · rcases List.mem_append.mp hu with hu | hu
    · exact hws u hu
    · exact List.mem_singleton.mp hu ▸ hv
  · simp [hs]

theorem IsQualified.isPart_of_mem {s : String} (h : IsQualified s) : ∀ c ∈ s.toList, c = '.' ∨ Word.isPart c = true := by
  obtain ⟨w, ws, hw, hws, hs⟩ := h
  intro c hc
  rw [hs, List.mem_append, List.mem_flatMap] at hc
  rcases hc with hc | ⟨v, hv, hc⟩
  · exact .inr (hw.isPart_of_mem c hc)
  · exact (List.mem_cons.mp hc).imp id ((hws v hv).isPart_of_mem c)

end

/-! ## Sentences of words -/

def Token.IsMatched (k : Token) : Prop := k.terminal.Matches k.lexeme.toList

theorem Token.IsMatched.isWord {k : Token} (h : k.IsMatched) (hk : k.terminal = .name) : IsWord k.lexeme := by
  rw [Token.IsMatched, hk] at h
  exact h

namespace Grammar
variable {file : Option String} {ts : List Token}

theorem IsDottedName.isQualified {n : String} (h : IsDottedName ts n) (hm : ∀ k ∈ ts, k.IsMatched) : IsQualified n := by
  induction h with
  | name hk => exact ((hm _ List.mem_cons_self).isWord hk).isQualified
  | dot _ _ hk ih =>
    refine (ih fun k hk => hm k (List.mem_append_left _ hk)).dot ((hm _ ?_).isWord hk)
    simp

mutual

theorem isWorded_of_type {ts : List Token} {t : TypeRef} (h : IsType ts t) (hm : ∀ k ∈ ts, k.IsMatched) : t.IsWorded := by
  match h with
  | .plain hn => exact ⟨hn.isQualified hm, trivial⟩
  | .applied hn _ hts _ =>
    refine ⟨hn.isQualified fun k hk => hm k (List.mem_append_left _ hk), areWorded_of_types hts fun k hk => hm k ?_⟩
    simp [hk]

theorem areWorded_of_types {ts : List Token} {args : List TypeRef} (h : IsTypes ts args) (hm : ∀ k ∈ ts, k.IsMatched) :
    TypeRef.AreWorded args := by
  match h with
  | .one ht => exact ⟨isWorded_of_type ht hm, trivial⟩
  | .more hts _ ht =>
    refine TypeRef.areWorded_append (areWorded_of_types hts fun k hk => hm k (List.mem_append_left _ hk))
      ⟨isWorded_of_type ht fun k hk => hm k ?_, trivial⟩
    simp [hk]

end

theorem Many.forall {α : Type} {rule : List Token → α → Prop} {P : α → Prop} {xs : List α} (h : Many rule ts xs)
    (hP : ∀ us x, (∀ k ∈ us, k ∈ ts) → rule us x → P x) : ∀ x ∈ xs, P x := by
  induction h with
  | nil => exact fun x hx => (List.not_mem_nil hx).elim
  | @snoc ts us xs x _ hx ih =>
    intro y hy
    rcases List.mem_append.mp hy with hy | hy
    · exact ih (fun vs z hvs => hP vs z fun k hk => List.mem_append_left _ (hvs k hk)) y hy
    · rw [List.mem_singleton.mp hy]
      exact hP us x (fun k hk => List.mem_append_right _ hk) hx

theorem IsField.isWorded {f : Field} (h : IsField file ts f) (hm : ∀ k ∈ ts, k.IsMatched) :
    IsWord f.name ∧ f.type.IsWorded := by
  cases h with
  | mk _ _ hn _ ht =>
    refine ⟨(hm _ ?_).isWord hn, isWorded_of_type ht fun k hk => hm k ?_⟩
    · simp
    · simp [hk]

theorem IsVariant.isWorded {v : Variant} (h : IsVariant file ts v) (hm : ∀ k ∈ ts, k.IsMatched) :
    IsWord v.name ∧ v.payload.IsWorded := by
  cases h with
  | mk _ hn _ ht _ =>
    refine ⟨(hm _ ?_).isWord hn, isWorded_of_type ht fun k hk => hm k ?_⟩
    · simp
    · simp [hk]

theorem IsBody.isWorded {docs : List String} {directives : List Directive} {d : Declaration}
    (h : IsBody file docs directives ts d) (hm : ∀ k ∈ ts, k.IsMatched) : d.IsWorded := by
  cases h with
  | record _ hn _ hf _ =>
    refine ⟨(hm _ ?_).isWord hn, hf.forall fun us f hus h => h.isWorded fun k hk => hm k ?_, ?_, ?_⟩
    · simp
    · simp [hus k hk]
    · simp
    · simp
  | sum _ hn _ hv _ =>
    refine ⟨(hm _ ?_).isWord hn, ?_, hv.forall fun us v hus h => h.isWorded fun k hk => hm k ?_, ?_⟩
    · simp
    · simp
    · simp [hus k hk]
    · simp
  | synonym _ hn _ ht =>
    refine ⟨(hm _ ?_).isWord hn, ?_, ?_, fun t h => ?_⟩
    · simp
    · simp
    · simp
    · rw [← Option.some.inj h]
      exact isWorded_of_type ht fun k hk => hm k (by simp [hk])

theorem IsDeclaration.isWorded {d : Declaration} (h : IsDeclaration file ts d) (hm : ∀ k ∈ ts, k.IsMatched) :
    d.IsWorded := by
  cases h with
  | mk _ _ hb => exact hb.isWorded fun k hk => hm k (by simp [hk])

end Grammar

theorem isWorded_of_parse {text : String} {file : Option String} {ds : List Declaration}
    (h : parse text file = .ok ds) : ∀ d ∈ ds, d.IsWorded := by
  obtain ⟨ts, hs, hf⟩ := isFile_of_parse h
  have hm : ∀ k ∈ ts, k.IsMatched := fun k hk => by
    obtain ⟨a, b, -, -, hb⟩ := hs.exists_of_mem hk
    exact hb.holds
  exact hf.forall fun us d hus hd => hd.isWorded fun k hk => hm k (hus k hk)

end DomainModel
