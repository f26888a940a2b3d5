import DomainModel.Proofs.Source.Soundness
import DomainModel.Proofs.Source.Spelling
import DomainModel.Proofs.Text.Splitting

/-!
# Places

A position goes up with every character, so that a place in a text is given by its position and the tokens
of a text stand one behind another (`Splits.pairwise`). The named elements of a file are some of its name
tokens, in their order (`IsFile.marks`). `parse_located` puts both together: every directive, declaration,
field and variant is located where its own name stands.
-/

namespace DomainModel

/-! ## The order of positions -/

namespace Position
variable {p q r : Position}

/-- On an earlier line, or further left on the same one. -/
instance : LT Position := ⟨fun p q => p.line < q.line ∨ (p.line = q.line ∧ p.column < q.column)⟩

theorem lt_iff : p < q ↔ p.line < q.line ∨ (p.line = q.line ∧ p.column < q.column) := Iff.rfl

theorem lt_irrefl (p : Position) : ¬p < p := by
  rw [lt_iff]
  omega

theorem lt_trans (h : p < q) (h' : q < r) : p < r := by
  rw [lt_iff] at *
  omega

theorem lt_next (p : Position) (c : Char) : p < p.next c := by
  rw [lt_iff, next]
  split
  · exact .inl (Nat.lt_succ_self _)
  · exact .inr ⟨rfl, Nat.lt_succ_self _⟩

theorem lt_after (p : Position) {cs : List Char} (h : cs ≠ []) : p < p.after cs := by
  induction cs generalizing p with
  | nil => exact absurd rfl h
  | cons c cs ih =>
    rw [after_cons]
    by_cases hcs : cs = []
    · rw [hcs]
      exact lt_next p c
    · exact lt_trans (lt_next p c) (ih _ hcs)

theorem eq_of_after_eq {a b a' b' : List Char} (hab : a ++ b = a' ++ b') (h : p.after a = p.after a') :
    a = a' := by
  have shorter : ∀ {a d : List Char}, p.after a = p.after (a ++ d) → d = [] := by
    intro a d h
    by_contra hd
    have hlt := lt_after (p.after a) hd
    rw [← after_append, ← h] at hlt
    exact lt_irrefl _ hlt
  rcases List.append_eq_append_iff.mp hab with ⟨d, rfl, -⟩ | ⟨d, rfl, -⟩
  · rw [shorter h, List.append_nil]
  · rw [shorter h.symm, List.append_nil]

end Position

/-! ## Lines and columns -/

theorem Lines.head_splitFeeds (cs : List Char) : (splitFeeds cs)[0]? = some (cs.takeWhile (· ≠ '\n')) := by
  induction cs with
  | nil => rfl
  | cons c cs ih =>
    by_cases hc : c = '\n'
    · simp [splitFeeds, hc]
    · obtain ⟨l, ls, h, h'⟩ := splitFeeds_cons hc cs
      rw [h] at ih
      simp only [List.getElem?_cons_zero, Option.some.injEq] at ih
      simp [h', hc, ih]

theorem Lines.exists_line_after (p : Position) (a b : List Char) :
    ∃ i l, (p.after a).line = p.line + i ∧
      (splitFeeds (a ++ b))[i]? = some (l ++ b.takeWhile (· ≠ '\n')) ∧
      (p.after a).column = (if i = 0 then p.column else 1) + l.length := by
  induction a generalizing p with
  | nil => exact ⟨0, [], rfl, head_splitFeeds b, rfl⟩
  | cons c a ih =>
    obtain ⟨i, l, hline, hrest, hcolumn⟩ := ih (p.next c)
    rw [Position.after_cons, List.cons_append]
    by_cases hc : c = '\n'
    · refine ⟨i + 1, l, ?_, ?_, ?_⟩
      · rw [hline, Position.next, if_pos hc]
        simp only
        omega
      · rw [splitFeeds, if_pos hc, List.getElem?_cons_succ, hrest]
      · rw [hcolumn, Position.next, if_pos hc]
        simp
    · obtain ⟨l₀, ls, h, h'⟩ := splitFeeds_cons hc (a ++ b)
      rw [h] at hrest
      have hnext : p.next c = ⟨p.line, p.column + 1⟩ := if_neg hc
      rw [hnext] at hline hcolumn ⊢
      cases i with
      | zero =>
        rw [List.getElem?_cons_zero, Option.some.injEq] at hrest
        refine ⟨0, c :: l, hline, ?_, ?_⟩
        · rw [h', List.getElem?_cons_zero, hrest, List.cons_append]
        · rw [hcolumn, if_pos rfl, if_pos rfl, List.length_cons]
          simp only
          omega
      | succ i => exact ⟨i + 1, l, hline, by rw [h', List.getElem?_cons_succ]; exact hrest, hcolumn⟩

/-- The longest run of name characters at a position of a text, whose lines end with line feeds only. -/
def Position.word? (p : Position) (text : List Char) : Option (List Char) :=
  match p with
  | ⟨line + 1, column + 1⟩ =>
    (Lines.splitFeeds text)[line]?.map fun l => (l.drop column).takeWhile Word.isPart
  | _ => none

theorem isPart_of_isStart {c : Char} (h : Word.isStart c = true) : Word.isPart c = true := by
  simp only [Word.isStart, Bool.or_eq_true] at h
  simp only [Word.isPart, Char.isAlphanum, Bool.or_eq_true]
  exact h.imp .inl id

theorem Terminal.Heads.takeWhile_eq {cs w : List Char} (h : Terminal.Heads Terminal.name.Matches cs w) :
    cs.takeWhile Word.isPart = w := by
  obtain ⟨rest, rfl⟩ := h.isPrefix
  obtain ⟨c, w, rfl, hc, hw⟩ := h.holds
  refine Terminal.takeWhile_run (fun x hx => ?_) h.wordEnds
  rcases List.mem_cons.mp hx with rfl | hx
  · exact isPart_of_isStart hc
  · exact hw x hx

theorem Position.word?_after {a b w : List Char} (h : Terminal.Heads Terminal.name.Matches b w) :
    (Position.start.after a).word? (a ++ b) = some w := by
  obtain ⟨i, l, hline, hrest, hcolumn⟩ := Lines.exists_line_after .start a b
  have hpos : Position.start.after a = ⟨i + 1, l.length + 1⟩ := by
    have hcol : (Position.start.after a).column = l.length + 1 := by
      rw [hcolumn]
      change (if i = 0 then 1 else 1) + l.length = l.length + 1
      rw [ite_self, Nat.add_comm]
    rw [← hcol, Nat.add_comm, ← show Position.start.line = 1 from rfl, ← hline]
  -- name characters do not go over the end of the line
  have hword : (b.takeWhile (· ≠ '\n')).takeWhile Word.isPart = b.takeWhile Word.isPart := by
    rw [List.takeWhile_takeWhile]
    congr 1
    funext c
    by_cases hc : c = '\n'
    · rw [hc]
      rfl
    · simp [hc]
  rw [hpos, Position.word?, hrest, Option.map_some, List.drop_left, hword, h.takeWhile_eq]

/-! ## The tokens of a text -/

namespace Splits
variable {p : Position} {cs : List Char} {ts : List Token} {k : Token}

/-- A token stands where its position says. -/
theorem exists_of_mem (h : Splits p cs ts) (hk : k ∈ ts) :
    ∃ a b, cs = a ++ b ∧ k.position = p.after a ∧ Terminal.Heads k.terminal.Matches b k.lexeme.toList := by
  induction h with
  | done => cases hk
  | @gap p u cs ts _ _ ih =>
    obtain ⟨a, b, rfl, hp, hb⟩ := ih hk
    exact ⟨u ++ a, b, by rw [List.append_assoc], by rw [hp, Position.after_append], hb⟩
  | @token p t u cs ts hu _ ih =>
    rcases List.mem_cons.mp hk with rfl | hk
    · exact ⟨[], u ++ cs, rfl, rfl, by rw [String.toList_ofList]; exact hu⟩
    · obtain ⟨a, b, rfl, hp, hb⟩ := ih hk
      exact ⟨u ++ a, b, by rw [List.append_assoc], by rw [hp, Position.after_append], hb⟩

theorem pairwise (h : Splits p cs ts) : ts.Pairwise (·.position < ·.position) := by
  induction h with
  | done => exact .nil
  | gap _ _ ih => exact ih
  | @token p t u cs ts hu hcs ih =>
    refine .cons (fun k hk => ?_) ih
    obtain ⟨a, b, -, hp, -⟩ := hcs.exists_of_mem hk
    rw [hp, ← Position.after_append]
    exact Position.lt_after p (List.append_ne_nil_of_left_ne_nil hu.holds.ne_nil a)

end Splits

/-! ## The elements of a file -/

/-- The named elements of a declaration, each with its name and location: its directives, itself, its
fields and its variants. -/
def Declaration.marks (d : Declaration) : List (String × Option Location) :=
  d.directives.map (fun x => (x.name, x.location)) ++
    (d.name, d.location) ::
      (d.fields.map (fun f => (f.name, f.location)) ++ d.variants.map fun v => (v.name, v.location))

namespace Grammar

section
variable (file : Option String)

/-- The names of some name tokens, in their order, and where these stand. -/
def Marks (ts : List Token) (marks : List (String × Option Location)) : Prop :=
  ∃ ks : List Token, ks.Sublist ts ∧ (∀ k ∈ ks, k.terminal = .name) ∧
    marks = ks.map fun k => (k.lexeme, some (nameAt file k).location)

end

section
variable {file : Option String} {ts us : List Token} {k : Token} {m m' : List (String × Option Location)}

theorem Marks.none (ts : List Token) : Marks file ts [] :=
  ⟨[], List.nil_sublist ts, by simp, rfl⟩

theorem Marks.name (hk : k.terminal = .name) : Marks file [k] [(k.lexeme, some (nameAt file k).location)] :=
  ⟨[k], List.Sublist.refl _, by simpa using hk, rfl⟩

theorem Marks.append (h : Marks file ts m) (h' : Marks file us m') : Marks file (ts ++ us) (m ++ m') := by
  obtain ⟨ks, hks, hn, rfl⟩ := h
  obtain ⟨ks', hks', hn', rfl⟩ := h'
  refine ⟨ks ++ ks', hks.append hks', fun k hk => ?_, (List.map_append).symm⟩
  exact (List.mem_append.mp hk).elim (hn k) (hn' k)

theorem Marks.cons (k : Token) (h : Marks file ts m) : Marks file (k :: ts) m := (Marks.none [k]).append h

theorem Marks.named (hk : k.terminal = .name) (h : Marks file ts m) :
    Marks file (k :: ts) ((k.lexeme, some (nameAt file k).location) :: m) := (Marks.name hk).append h

theorem Many.marks {α : Type} {rule : List Token → α → Prop} {xs : List α}
    (f : α → List (String × Option Location)) (hr : ∀ us x, rule us x → Marks file us (f x))
    (h : Many rule ts xs) : Marks file ts (xs.flatMap f) := by
  induction h with
  | nil => exact .none []
  | snoc _ hx ih =>
    rw [List.flatMap_append, List.flatMap_singleton]
    exact ih.append (hr _ _ hx)

theorem IsDirective.marks {d : Directive} (h : IsDirective file ts d) : Marks file ts [(d.name, d.location)] := by
  cases h with
  | bare _ hn => exact (Marks.name hn).cons _
  | empty _ hn => exact (Marks.named hn (.none _)).cons _
  | applied _ hn => exact (Marks.named hn (.none _)).cons _

theorem IsField.marks {f : Field} (h : IsField file ts f) : Marks file ts [(f.name, f.location)] := by
  cases h with
  | @mk ds vs us n c docs v t _ _ hn _ _ =>
    exact (Marks.none ds).append ((Marks.none vs).append (.named hn (.none (c :: us))))

theorem IsVariant.marks {v : Variant} (h : IsVariant file ts v) : Marks file ts [(v.name, v.location)] := by
  cases h with
  | @mk ds us n o c docs t _ hn _ _ _ =>
    exact (Marks.none ds).append (.named hn (.none (o :: (us ++ [c]))))

theorem IsBody.marks {docs : List String} {directives : List Directive} {d : Declaration}
    (h : IsBody file docs directives ts d) :
    Marks file ts ((d.name, d.location) ::
      (d.fields.map (fun f => (f.name, f.location)) ++ d.variants.map fun v => (v.name, v.location))) := by
  cases h with
  | @record k n o c us fields _ hn _ hf _ =>
    have hfields := hf.marks (fun f => [(f.name, f.location)]) fun _ _ => IsField.marks
    rw [← List.map_eq_flatMap] at hfields
    simpa using (Marks.named hn ((hfields.append (.none [c])).cons o)).cons k
  | @sum k n o c us variants _ hn _ hv _ =>
    have hvariants := hv.marks (fun v => [(v.name, v.location)]) fun _ _ => IsVariant.marks
    rw [← List.map_eq_flatMap] at hvariants
    simpa using (Marks.named hn ((hvariants.append (.none [c])).cons o)).cons k
  | @synonym k n e us t _ hn _ _ => exact (Marks.named hn (.none (e :: us))).cons k

theorem IsDeclaration.marks {d : Declaration} (h : IsDeclaration file ts d) : Marks file ts d.marks := by
  cases h with
  | @mk ds us bs docs directives d _ hdirs hb =>
    have hdirectives := hdirs.marks (fun x => [(x.name, x.location)]) fun _ _ => IsDirective.marks
    rw [← List.map_eq_flatMap] at hdirectives
    have hd : d.directives = directives := by cases hb <;> rfl
    rw [Declaration.marks, hd]
    exact (Marks.none ds).append (hdirectives.append hb.marks)

/-- The elements of a file are marked by name tokens of it, in their order. -/
theorem IsFile.marks {ds : List Declaration} (h : IsFile file ts ds) :
    Marks file ts (ds.flatMap Declaration.marks) :=
  Many.marks Declaration.marks (fun _ _ => IsDeclaration.marks) h

end

end Grammar

/-! ## Locations -/

theorem readDeclarations_of_parse {text : String} {file : Option String} {ds : List Declaration}
    (h : parse text file = .ok ds) :
    readDeclarations text file = .ok ds ∧ Naming.check ds = .ok () := by
  cases hr : readDeclarations text file with
  | error e => rw [parse, hr] at h; cases h
  | ok ds' =>
    rw [parse_of_read hr] at h
    cases hc : Naming.check ds' with
    | error e => rw [hc] at h; cases h
    | ok =>
      rw [hc] at h
      cases h
      exact ⟨rfl, hc⟩

/-- The elements of a file stand one behind another, each located in that file where the text reads its own
name. -/
theorem parse_located {text : String} {file : Option String} {ds : List Declaration}
    (h : parse text file = .ok ds) :
    ∃ ps : List Position, ps.Pairwise (· < ·) ∧
      List.Forall₂ (fun (mark : String × Option Location) p => mark.2 = some (.ofPosition file p) ∧
        mark.1 ≠ "" ∧ p.word? text.toList = some mark.1.toList) (ds.flatMap Declaration.marks) ps := by
  obtain ⟨ts, k, hs, hf⟩ := (Cursor.run_eq_ok_iff (k := .start file)).mp (readDeclarations_of_parse h).1
  have hsplit : Splits .start text.toList ts := hs.splits
  obtain ⟨ks, hks, hn, hmarks⟩ := (Grammar.isFile_of_steps hs.steps_eq hf).marks
  refine ⟨ks.map (·.position), List.pairwise_map.mpr (hsplit.pairwise.sublist hks), ?_⟩
  rw [hmarks, List.forall₂_map_left_iff, List.forall₂_map_right_iff, List.forall₂_same]
  intro k hk
  obtain ⟨a, b, htext, hp, hb⟩ := hsplit.exists_of_mem (hks.subset hk)
  rw [hn k hk] at hb
  refine ⟨rfl, fun he => ?_, ?_⟩
  · have hempty : k.lexeme = "" := he
    exact hb.holds.ne_nil (by rw [hempty]; rfl)
  · rw [htext, hp]
    exact Position.word?_after hb

/-- A name that is glued to its keyword, and a field behind a carriage return. -/
theorem parse_located_glued :
    parse "@a\nrecordUser\x7b\r\n#: b\n pub pub: c\x7d" (some "u") = .ok
      [{ kind := .record, name := "User", directives := [⟨"a", [], some ⟨1, 2, some "u"⟩⟩]
         fields := [⟨"pub", ⟨"c", []⟩, .exposed, ["b"], some ⟨4, 6, some "u"⟩⟩]
         location := some ⟨2, 7, some "u"⟩ }] ∧
      ∃ ps : List Position, ps.Pairwise (· < ·) ∧
        List.Forall₂ (fun (mark : String × Option Location) p => mark.2 = some (.ofPosition (some "u") p) ∧
          mark.1 ≠ "" ∧ p.word? "@a\nrecordUser\x7b\r\n#: b\n pub pub: c\x7d".toList = some mark.1.toList)
          [("a", some ⟨1, 2, some "u"⟩), ("User", some ⟨2, 7, some "u"⟩), ("pub", some ⟨4, 6, some "u"⟩)] ps := by
  have h : parse "@a\nrecordUser\x7b\r\n#: b\n pub pub: c\x7d" (some "u") = .ok
      [{ kind := .record, name := "User", directives := [⟨"a", [], some ⟨1, 2, some "u"⟩⟩]
         fields := [⟨"pub", ⟨"c", []⟩, .exposed, ["b"], some ⟨4, 6, some "u"⟩⟩]
         location := some ⟨2, 7, some "u"⟩ }] := by cbv
  exact ⟨h, parse_located h⟩

end DomainModel
