import DomainModel.Proofs.Source.Layout
import DomainModel.Proofs.Source.RoundTrip

/-!
# Documentation put before an element

A line of documentation may stand before every declaration, field and variant, and belongs to it then
(`IsFile.takesLine`). Behind such a line all the terminals are tried that may start an element of any
kind, so that the first word of the element is read as a whole, and as a keyword if it spells one.
`parse_documented` says that the line changes nothing else exactly if that word is unmistakable.
-/

namespace DomainModel

/-! ## Elements -/

section
variable (line : String)

def Declaration.document (d : Declaration) : Declaration := { d with docs := line :: d.docs }

def Field.document (f : Field) : Field := { f with docs := line :: f.docs }

def Variant.document (v : Variant) : Variant := { v with docs := line :: v.docs }

theorem Declaration.names_document (d : Declaration) : (d.document line).names = d.names := rfl

theorem Field.name_document (f : Field) : (f.document line).name = f.name := rfl

theorem Variant.name_document (v : Variant) : (v.document line).name = v.name := rfl

end

/-- A declaration, or a field or a variant of one, by its number. -/
inductive Documentable
  | declaration (i : Nat)
  | field (i j : Nat)
  | variant (i j : Nat)

namespace Documentable

def IsIn (ds : List Declaration) : Documentable → Prop
  | declaration i => i < ds.length
  | field i j => ∃ d ∈ ds[i]?, j < d.fields.length
  | variant i j => ∃ d ∈ ds[i]?, j < d.variants.length

/-- The declarations with a line before the documentation of an element. -/
def document (line : String) (ds : List Declaration) : Documentable → List Declaration
  | declaration i => ds.modify i (Declaration.document line)
  | field i j => ds.modify i fun d => { d with fields := d.fields.modify j (Field.document line) }
  | variant i j => ds.modify i fun d => { d with variants := d.variants.modify j (Variant.document line) }

def Derives (file : Option String) (ts : List Token) (ds : List Declaration) : Documentable → Prop
  | declaration i => ∃ d ∈ ds[i]?, Grammar.IsDeclaration file ts d
  | field i j => ∃ d ∈ ds[i]?, ∃ f ∈ d.fields[j]?, Grammar.IsField file ts f
  | variant i j => ∃ d ∈ ds[i]?, ∃ v ∈ d.variants[j]?, Grammar.IsVariant file ts v

theorem map_modify {α β : Type} {f : α → α} {g : α → β} (h : ∀ x, g (f x) = g x) (xs : List α) (i : Nat) :
    (xs.modify i f).map g = xs.map g := by
  refine List.ext_getElem? fun j => ?_
  simp only [List.getElem?_map, List.getElem?_modify]
  cases xs[j]? with
  | none => rfl
  | some x => by_cases hij : i = j <;> simp [hij, h]

theorem names_document (line : String) (ds : List Declaration) (e : Documentable) :
    (e.document line ds).map (·.names) = ds.map (·.names) := by
  cases e with
  | declaration i => exact map_modify (Declaration.names_document line) ds i
  | field i j =>
    refine map_modify (fun d => ?_) ds i
    simp only [Declaration.names, map_modify (Field.name_document line)]
  | variant i j =>
    refine map_modify (fun d => ?_) ds i
    simp only [Declaration.names, map_modify (Variant.name_document line)]

end Documentable

/-! ## Sentences with a line more -/

namespace Grammar

section
variable {α : Type} {rule : List Token → α → Prop} {ts us : List Token} {xs ys : List α} {x : α}

theorem Many.append (h : Many rule ts xs) (h' : Many rule us ys) : Many rule (ts ++ us) (xs ++ ys) := by
  induction h' with
  | nil => simpa using h
  | snoc _ hx ih =>
    rw [← List.append_assoc, ← List.append_assoc]
    exact .snoc ih hx

theorem Many.exists_append (h : Many rule ts (xs ++ ys)) :
    ∃ us vs, ts = us ++ vs ∧ Many rule us xs ∧ Many rule vs ys := by
  generalize hzs : xs ++ ys = zs at h
  induction h generalizing ys with
  | nil =>
    obtain ⟨rfl, rfl⟩ := List.append_eq_nil_iff.mp hzs
    exact ⟨[], [], rfl, .nil, .nil⟩
  | @snoc ts us zs z hzs' hz ih =>
    rcases List.eq_nil_or_concat ys with rfl | ⟨ys, y, rfl⟩
    · rw [List.append_nil] at hzs
      exact ⟨ts ++ us, [], by simp, hzs ▸ .snoc hzs' hz, .nil⟩
    · rw [List.concat_eq_append, ← List.append_assoc] at hzs
      obtain ⟨rfl, hy⟩ := List.append_inj' hzs rfl
      obtain rfl := List.singleton_inj.mp hy
      obtain ⟨us', vs, rfl, hxs, hys⟩ := ih rfl
      exact ⟨us', vs ++ us, by simp, hxs, by simpa using Many.snoc hys hz⟩

theorem Many.of_one (h : Many rule ts [x]) : rule ts x := by
  generalize hxs : [x] = xs at h
  cases h with
  | nil => cases hxs
  | @snoc ts us xs y hxs' hy =>
    obtain ⟨hnil, hx⟩ := List.append_inj' (show [] ++ [x] = xs ++ [y] from hxs) rfl
    obtain rfl := List.singleton_inj.mp hx
    cases hxs' with
    | nil => exact hy
    | snoc => simp at hnil

end

/-- A line of documentation can be put into a sentence, before tokens with a property. -/
def TakesLine (P : List Token → Prop) (R : Token → List Token → Prop) (ts : List Token) : Prop :=
  ∃ us vs ws, ts = us ++ (vs ++ ws) ∧ P vs ∧ ∀ k : Token, k.terminal = .doc → R k (us ++ (k :: vs ++ ws))

section
variable {P P' : List Token → Prop} {R R' : Token → List Token → Prop} {ts : List Token}

theorem TakesLine.here (h : P ts) (hR : ∀ k : Token, k.terminal = .doc → R k (k :: ts)) : TakesLine P R ts :=
  ⟨[], ts, [], by simp, h, fun k hk => by simpa using hR k hk⟩

theorem TakesLine.mono (h : TakesLine P R ts) (hP : ∀ vs, P vs → P' vs) : TakesLine P' R ts := by
  obtain ⟨us, vs, ws, hts, hvs, hall⟩ := h
  exact ⟨us, vs, ws, hts, hP vs hvs, hall⟩

theorem TakesLine.within (h : TakesLine P R ts) (as bs : List Token)
    (hR : ∀ k us, R k us → R' k (as ++ (us ++ bs))) : TakesLine P R' (as ++ (ts ++ bs)) := by
  obtain ⟨us, vs, ws, rfl, hvs, hall⟩ := h
  refine ⟨as ++ us, vs, ws ++ bs, by simp, hvs, fun k hk => ?_⟩
  simpa using hR k _ (hall k hk)

theorem Many.takesLine {α : Type} {rule : List Token → α → Prop} {xs : List α} {x : α} {i : Nat}
    {g : Token → α → α} (h : Many rule ts xs) (hx : xs[i]? = some x)
    (hg : ∀ vs, rule vs x → TakesLine P (fun k us => rule us (g k x)) vs) :
    TakesLine P (fun k us => Many rule us (xs.modify i (g k))) ts := by
  obtain ⟨hi, rfl⟩ := List.getElem?_eq_some_iff.mp hx
  have hsplit : xs = xs.take i ++ ([xs[i]] ++ xs.drop (i + 1)) := by simp
  rw [hsplit] at h
  obtain ⟨us, vws, rfl, hus, hvws⟩ := h.exists_append
  obtain ⟨vs, ws, rfl, hvs, hws⟩ := hvws.exists_append
  refine (hg vs hvs.of_one).within us ws fun k vs' hk => ?_
  rw [List.modify_eq_take_cons_drop hi]
  exact hus.append ((Many.one hk).append hws)

end

section
variable {file : Option String} {ts bs : List Token} {k : Token} {docs docs' : List String}
  {directives : List Directive} {d : Declaration} {j : Nat}

theorem many_doc_cons (hk : k.terminal = .doc) (h : Many IsDoc ts docs) :
    Many IsDoc (k :: ts) (docText k.lexeme.toList :: docs) := (Many.one (.mk hk)).append h

theorem IsBody.with_docs (h : IsBody file docs directives bs d) :
    IsBody file docs' directives bs { d with docs := docs' } := by
  cases h with
  | record hk hn ho hf hc => exact .record hk hn ho hf hc
  | sum hk hn ho hv hc => exact .sum hk hn ho hv hc
  | synonym hk hn he ht => exact .synonym hk hn he ht

theorem IsBody.docs_eq (h : IsBody file docs directives bs d) : d.docs = docs := by
  cases h <;> rfl

theorem IsDeclaration.document (h : IsDeclaration file ts d) (hk : k.terminal = .doc) :
    IsDeclaration file (k :: ts) (d.document (docText k.lexeme.toList)) := by
  cases h with
  | mk hdocs hdirs hb =>
    rw [Declaration.document, hb.docs_eq]
    exact .mk (many_doc_cons hk hdocs) hdirs hb.with_docs

theorem IsField.document {f : Field} (h : IsField file ts f) (hk : k.terminal = .doc) :
    IsField file (k :: ts) (f.document (docText k.lexeme.toList)) := by
  cases h with
  | mk hdocs hv hn hc ht => exact .mk (many_doc_cons hk hdocs) hv hn hc ht

theorem IsVariant.document {v : Variant} (h : IsVariant file ts v) (hk : k.terminal = .doc) :
    IsVariant file (k :: ts) (v.document (docText k.lexeme.toList)) := by
  cases h with
  | mk hdocs hn ho ht hc => exact .mk (many_doc_cons hk hdocs) hn ho ht hc

theorem IsDeclaration.takesLine_field {f : Field} (h : IsDeclaration file ts d) (hf : d.fields[j]? = some f) :
    TakesLine (IsField file · f) (fun k us => IsDeclaration file us
      { d with fields := d.fields.modify j (Field.document (docText k.lexeme.toList)) }) ts := by
  cases h with
  | @mk dts us bs docs directives d hdocs hdirs hb =>
    cases hb with
    | @record k n o c fts fields hk hn ho hfs hc =>
      have hfields := hfs.takesLine (g := fun k => Field.document (docText k.lexeme.toList)) hf
        fun vs hv => .here hv fun k hk => hv.document hk
      have hts : dts ++ (us ++ k :: n :: o :: (fts ++ [c])) = dts ++ (us ++ [k, n, o]) ++ (fts ++ [c]) := by simp
      rw [hts]
      refine hfields.within _ [c] fun k' vs hvs => ?_
      simpa using IsDeclaration.mk hdocs hdirs (.record hk hn ho hvs hc)
    | sum => simp at hf
    | synonym => simp at hf

theorem IsDeclaration.takesLine_variant {v : Variant} (h : IsDeclaration file ts d) (hv : d.variants[j]? = some v) :
    TakesLine (IsVariant file · v) (fun k us => IsDeclaration file us
      { d with variants := d.variants.modify j (Variant.document (docText k.lexeme.toList)) }) ts := by
  cases h with
  | @mk dts us bs docs directives d hdocs hdirs hb =>
    cases hb with
    | @sum k n o c vts variants hk hn ho hvs hc =>
      have hvariants := hvs.takesLine (g := fun k => Variant.document (docText k.lexeme.toList)) hv
        fun vs hv => .here hv fun k hk => hv.document hk
      have hts : dts ++ (us ++ k :: n :: o :: (vts ++ [c])) = dts ++ (us ++ [k, n, o]) ++ (vts ++ [c]) := by simp
      rw [hts]
      refine hvariants.within _ [c] fun k' vs hvs => ?_
      simpa using IsDeclaration.mk hdocs hdirs (.sum hk hn ho hvs hc)
    | record => simp at hv
    | synonym => simp at hv

theorem IsFile.takesLine {ds : List Declaration} {e : Documentable} (h : IsFile file ts ds) (he : e.IsIn ds) :
    TakesLine (e.Derives file · ds)
      (fun k us => IsFile file us (e.document (docText k.lexeme.toList) ds)) ts := by
  cases e with
  | declaration i =>
    have hd := List.getElem?_eq_getElem he
    refine (Many.takesLine h hd fun vs hvs => ?_).mono fun vs hvs => ⟨_, hd, hvs⟩
    exact .here hvs fun k hk => hvs.document hk
  | field i j =>
    obtain ⟨d, hd, hj⟩ := he
    have hf := List.getElem?_eq_getElem hj
    refine (Many.takesLine h hd fun vs hvs => ?_).mono fun vs hvs => ⟨d, hd, _, hf, hvs⟩
    exact hvs.takesLine_field hf
  | variant i j =>
    obtain ⟨d, hd, hj⟩ := he
    have hv := List.getElem?_eq_getElem hj
    refine (Many.takesLine h hd fun vs hvs => ?_).mono fun vs hvs => ⟨d, hd, _, hv, hvs⟩
    exact hvs.takesLine_variant hv

end

end Grammar

theorem Documentable.Derives.exists_cons {file : Option String} {ts : List Token} {ds : List Declaration}
    {e : Documentable} (h : e.Derives file ts ds) : ∃ k us, ts = k :: us := by
  cases e with
  | declaration i =>
    obtain ⟨d, -, hd⟩ := h
    obtain ⟨k, us, rfl, -⟩ := Grammar.isDeclaration_head ts d hd
    exact ⟨k, us, rfl⟩
  | field i j =>
    obtain ⟨-, -, f, -, hf⟩ := h
    obtain ⟨k, us, rfl, -⟩ := Grammar.isField_head ts f hf
    exact ⟨k, us, rfl⟩
  | variant i j =>
    obtain ⟨-, -, v, -, hv⟩ := h
    cases hv with
    | mk => exact List.exists_cons_of_ne_nil (by simp)

/-! ## The first word of an element -/

/-- A name that spells no keyword, a keyword that is a whole word, or no word at all. -/
structure Unmistakable (t : Terminal) (u rest : List Char) : Prop where
  name : t = .name → ∀ k ∈ Terminal.keywords, k.spelling ≠ u
  keyword : t ∈ Terminal.keywords → WordEnds rest

section
variable {t : Terminal} {u rest : List Char}

theorem Terminal.Matches.eq_spelling (h : t.Matches u) (ht : t ∈ Terminal.keywords) : u = t.spelling := by
  simp only [Terminal.keywords, List.mem_cons, List.not_mem_nil, or_false] at ht
  rcases ht with rfl | rfl | rfl | rfl <;> exact h

theorem wordEnds_of_keyword {c : Context} (hc : c.accepts .name = true) (ht : t ∈ Terminal.keywords)
    (h : Terminal.lex? c.accepts (u ++ rest) = some (t, u.length)) : WordEnds rest := by
  obtain rfl := (Terminal.heads_of_lex? h).holds.eq_spelling ht
  have hm := Terminal.width?_measured .name (t.spelling ++ rest)
  cases hw : Terminal.name.width? (t.spelling ++ rest) with
  | none =>
    rw [hw] at hm
    exact absurd (Terminal.matches_name_of_keyword ht) (hm _ (List.prefix_append _ _))
  | some n =>
    rw [hw] at hm
    obtain ⟨v, hv, rfl⟩ := hm
    rw [Terminal.lex?_of_word hc hw] at h
    have hlen : v.length = t.spelling.length := (Prod.mk.inj (Option.some.inj h)).2
    obtain rfl : v = t.spelling := by
      rw [List.prefix_iff_eq_take.mp hv.isPrefix, hlen, List.take_left]
    exact hv.wordEnds

/-- Behind a line of documentation whole words are found, and keywords among them. -/
theorem unmistakable_of_lex? (h : Terminal.lex? Context.afterDoc.accepts (u ++ rest) = some (t, u.length)) :
    Unmistakable t u rest := by
  have hu := Terminal.heads_of_lex? h
  refine ⟨?_, fun ht => wordEnds_of_keyword rfl ht h⟩
  rintro rfl k hk rfl
  have hkeywords : ∀ k ∈ Terminal.keywords, Context.afterDoc.accepts k = true ∧ k ≠ .name := by decide
  have hkeyword := (Solid.keyword hk hu.wordEnds).lexed .afterDoc (hkeywords k hk).1
  rw [h] at hkeyword
  exact (hkeywords k hk).2 (Prod.mk.inj (Option.some.inj hkeyword)).1.symm

theorem solid_of_unmistakable (hu : Terminal.Heads t.Matches (u ++ rest) u) (ht : Context.afterDoc.accepts t = true)
    (h : Unmistakable t u rest) : Solid t u rest := by
  have keyword : t ∈ Terminal.keywords → Solid t u rest := fun hk =>
    hu.holds.eq_spelling hk ▸ Solid.keyword hk (h.keyword hk)
  simp only [Context.accepts_iff, Context.terminals, List.mem_cons, List.not_mem_nil, or_false] at ht
  rcases ht with rfl | rfl | rfl | rfl | rfl | rfl | rfl
  · obtain ⟨w, rfl, hw⟩ := hu.holds
    exact .doc hw hu.line_end
  · obtain rfl : u = ['@'] := hu.holds
    exact .sign (by decide) rfl
  · exact keyword (by decide)
  · exact keyword (by decide)
  · exact keyword (by decide)
  · exact keyword (by decide)
  · exact .word hu.holds (h.name rfl) hu.wordEnds

end

/-! ## The text with a line more -/

/-- A line of documentation, with a line feed on each side. -/
def insertedLine (line : String) : String := "\n#: " ++ line ++ "\n"

theorem exists_take {rest cs : List Char} {k k' : Cursor} {ts : List Token} (h : Scans rest k cs ts k')
    (hne : cs ≠ []) (h0 : skipWidth (cs ++ rest) = 0) :
    ∃ u b t r, cs = u ++ b ∧ k.lex? (cs ++ rest) = some (t, u.length) ∧ k.reader.step (k.token t u) = some r := by
  cases h with
  | done => exact absurd rfl hne
  | skip hg _ =>
    rw [List.append_assoc, skipWidth_eq_of_gap hg] at h0
    exact absurd (List.length_eq_zero_iff.mp h0) hg.ne_nil
  | take _ hl hst _ => exact ⟨_, _, _, _, rfl, by rwa [List.append_assoc], hst⟩

theorem scans_insertedLine {line : String} (hl : IsDocLine line) {l : Cursor} {r : Reader} (rest : List Char)
    (h : l.reader.step ⟨.doc, "#: " ++ line, l.position.after ['\n']⟩ = some r) :
    ∃ l', Scans rest l (insertedLine line).toList [⟨.doc, "#: " ++ line, l.position.after ['\n']⟩] l' ∧
      l'.reader = r := by
  have hdoc : Solid .doc ("#: " ++ line).toList (['\n'] ++ rest) := by
    have hline : ("#: " ++ line).toList = '#' :: ':' :: ' ' :: line.toList := by simp
    rw [hline]
    refine .doc ?_ (by simp)
    simpa using hl.1
  have hspells : Spells rest l.position (['\n'] ++ (("#: " ++ line).toList ++ ['\n'])) _ :=
    .append (.blank rfl) (.append (.lexeme hdoc) (.blank rfl))
  have htext : (insertedLine line).toList = ['\n'] ++ (("#: " ++ line).toList ++ ['\n']) := by
    simp [insertedLine]
  rw [← htext, List.nil_append, List.append_nil, String.ofList_toList] at hspells
  exact hspells.scans (Reader.steps_cons_of_eq h [])

theorem Scans.exists_insertedLine {file : Option String} {a b : List Char} {us : List Token} {l : Cursor} {r : Reader}
    {line : String} (h : Scans b (.start file) a us l) (hl : IsDocLine line)
    (hr : l.reader.step ⟨.doc, "#: " ++ line, l.position.after ['\n']⟩ = some r) :
    ∃ l', Scans b (.start file) (a ++ (insertedLine line).toList)
      (us ++ [⟨.doc, "#: " ++ line, l.position.after ['\n']⟩]) l' ∧ l'.reader = r := by
  obtain ⟨l', hs, he⟩ := scans_insertedLine hl b hr
  have htext : (insertedLine line).toList ++ b = '\n' :: (("#: " ++ line ++ "\n").toList ++ b) := by
    simp [insertedLine]
  have hcut : Scans ((insertedLine line).toList ++ b) (.start file) a us l := by
    rw [htext]
    exact Scans.cut (a := []) h
  exact ⟨l', hcut.append hs, he⟩

/-- Where a sentence has a line of documentation, a text is scanned with it up to there. -/
theorem Scans.exists_documented {file : Option String} {a b : List Char} {us vs : List Token} {l : Cursor}
    {k : Token} {line : String} {ds : List Declaration} (h : Scans b (.start file) a us l) (hl : IsDocLine line)
    (hf : Grammar.IsFile file (us ++ ⟨.doc, "#: " ++ line, l.position.after ['\n']⟩ :: k :: vs) ds) :
    ∃ l' s, Scans b (.start file) (a ++ (insertedLine line).toList)
        (us ++ [⟨.doc, "#: " ++ line, l.position.after ['\n']⟩]) l' ∧
      TakesDoc l.reader line l'.reader ∧ l'.reader.step k = some s := by
  obtain ⟨R, hR, -⟩ := Grammar.steps_of_isFile hf
  have hbefore : (Reader.start file).steps us = some l.reader := h.steps_eq
  rw [Reader.steps_append_of_eq hbefore] at hR
  obtain ⟨r, hline, hbehind⟩ := Option.bind_eq_some_iff.mp hR
  obtain ⟨s, hst, -⟩ := Option.bind_eq_some_iff.mp hbehind
  obtain ⟨l', hscan, rfl⟩ := h.exists_insertedLine hl hline
  have hT := TakesDoc.of_step rfl hline
  rw [docText_line hl] at hT
  exact ⟨l', s, hscan, hT, hst⟩

section
variable {l l' : Cursor} {line : String} {t : Terminal} {u b : List Char}

/-- What is read behind the line is the first word of the element, as it was read without the line. -/
theorem unmistakable_of_run {ds : List Declaration} (hT : TakesDoc l.reader line l'.reader)
    (hlex : l.lex? (u ++ b) = some (t, u.length)) (h0 : skipWidth (u ++ b) = 0) (h : l'.run (u ++ b) = .ok ds) :
    Unmistakable t u b := by
  obtain ⟨ts, k, hs, -⟩ := Cursor.run_eq_ok_iff.mp h
  have hne := (Terminal.heads_of_lex? hlex).holds.ne_nil
  obtain ⟨v, c, x, s, hvc, hlex', hst⟩ := exists_take hs (by simp [hne]) (by rwa [List.append_nil])
  rw [List.append_nil, hvc, Cursor.lex?, hT.context_eq] at hlex'
  have hv := unmistakable_of_lex? hlex'
  have hsolid := solid_of_unmistakable (Terminal.heads_of_lex? hlex') (Terminal.lex?_eq_some hlex').1 hv
  obtain ⟨s', hst', -⟩ := hT.step_erased hst
  -- the reader before the line takes this token, so its context accepts it, and there it is found
  have hfound := hsolid.lexed _ (Reader.accepts_of_step hst')
  rw [← hvc, ← Cursor.lex?, hlex] at hfound
  obtain ⟨rfl, hlen⟩ := Prod.mk.inj (Option.some.inj hfound)
  obtain ⟨rfl, rfl⟩ := List.append_inj hvc hlen
  exact hv

theorem Scans.behind_line {r s : Reader} {vs : List Token} {k : Cursor} (hT : TakesDoc l.reader line l'.reader)
    (hlex : l.lex? (u ++ b) = some (t, u.length)) (h0 : skipWidth (u ++ b) = 0)
    (hst : l.reader.step (l.token t u) = some r) (hst' : l'.reader.step (l.token t u) = some s)
    (hb : Scans [] ⟨r, l.position.after u, l.position⟩ b vs k) (hu : Unmistakable t u b) :
    ∃ ws k', Scans [] l' (u ++ b) ws k' ∧ ws.map Token.unplaced = (l.token t u :: vs).map Token.unplaced := by
  have hsolid := solid_of_unmistakable (Terminal.heads_of_lex? hlex)
    (hT.context_eq ▸ Reader.accepts_of_step hst') hu
  obtain ⟨r', hr, hrs⟩ := hT.step_erased hst'
  obtain rfl := Option.some.inj (hst.symm.trans hr)
  have hplace : (l.token t u).unplaced = (l'.token t u).unplaced := rfl
  have hreader : l'.reader.erased false = l'.reader.erased false := rfl
  obtain ⟨s', hs', hss⟩ := Reader.step_congr hreader hplace hst'
  obtain ⟨ws, k', hscan, hws, -⟩ := hb.elsewhere (l := ⟨s', l'.position.after u, l'.position⟩) (hrs.trans hss)
  refine ⟨l'.token t u :: ws, k', .take ?_ ?_ hs' hscan, ?_⟩
  · rwa [List.append_nil]
  · rw [List.append_nil]
    exact hsolid.lexed _ (Reader.accepts_of_step hs')
  · rw [List.map_cons, List.map_cons, hws, hplace]

end

/-- The first token of an element stands between two parts of a text. -/
def Documentable.StartsAt (e : Documentable) (text : String) (file : Option String) (ds : List Declaration)
    (a : String) (k : Token) (b : String) : Prop :=
  text = a ++ (k.lexeme ++ b) ∧ k.position = Position.start.after a.toList ∧
    ∃ us vs ws l, Scans [] (.start file) text.toList (us ++ (k :: vs ++ ws)) l ∧ e.Derives file (k :: vs) ds

/-- A line of documentation before an element belongs to it and changes nothing else but places. The text is
accepted with it exactly if the first word of the element is unmistakable. -/
theorem parse_documented {text : String} {file : Option String} {ds : List Declaration} {e : Documentable}
    {line : String} (h : parse text file = .ok ds) (he : e.IsIn ds) (hl : IsDocLine line) :
    ∃ a k b, e.StartsAt text file ds a k b ∧
      ((∃ ds', parse (a ++ insertedLine line ++ (k.lexeme ++ b)) file = .ok ds') ↔
        Unmistakable k.terminal k.lexeme.toList b.toList) ∧
      ∀ ds', parse (a ++ insertedLine line ++ (k.lexeme ++ b)) file = .ok ds' →
        ds'.map Declaration.unlocated = (e.document line ds).map Declaration.unlocated := by
  obtain ⟨hread, hnames⟩ := readDeclarations_of_parse h
  obtain ⟨ts, K, hs, hf⟩ := (Cursor.run_eq_ok_iff (k := .start file)).mp hread
  obtain ⟨us, vs, ws, rfl, hvs, hdoc⟩ := (Grammar.isFile_of_steps hs.steps_eq hf).takesLine he
  obtain ⟨k, vs, rfl⟩ := Documentable.Derives.exists_cons hvs
  obtain ⟨a, u, b, r, l, htext, ha, hk, h0, hlex, hst, hb⟩ := hs.exists_token rfl
  rw [List.append_nil] at h0 hlex ha
  have hfile : Grammar.IsFile file (us ++ ⟨.doc, "#: " ++ line, l.position.after ['\n']⟩ :: k :: (vs ++ ws))
      (e.document (docText ("#: " ++ line).toList) ds) := hdoc _ rfl
  rw [docText_line hl] at hfile
  obtain ⟨l', s, hscan, hT, hst'⟩ := ha.exists_documented hl hfile
  have hnew : (String.ofList a ++ insertedLine line ++ (k.lexeme ++ String.ofList b)).toList =
      a ++ (insertedLine line).toList ++ (u ++ b) := by
    rw [hk]
    simp [Cursor.token]
  have hlexeme : k.lexeme.toList = u := by
    rw [hk]
    exact String.toList_ofList
  generalize hinserted : String.ofList a ++ insertedLine line ++ (k.lexeme ++ String.ofList b) = inserted at hnew
  -- to be read at all, the text must have such a word behind the line; from there on it is read as it was
  have hneg : ∀ ds', parse inserted file = .ok ds' → Unmistakable k.terminal u b := by
    intro ds' h'
    have hrun : (Cursor.start file).run inserted.toList = .ok ds' := (readDeclarations_of_parse h').1
    rw [hnew, hscan.run_eq] at hrun
    exact unmistakable_of_run hT hlex h0 hrun
  have hpos : Unmistakable k.terminal u b → ∃ ds', parse inserted file = .ok ds' ∧
      ds'.map Declaration.unlocated = (e.document line ds).map Declaration.unlocated := by
    intro hu
    rw [hk] at hst hst'
    obtain ⟨xs, K', hxs, hsame⟩ := Scans.behind_line hT hlex h0 hst hst' hb hu
    rw [← List.append_nil (u ++ b)] at hscan
    have hall := hscan.append hxs
    rw [← hnew] at hall
    have hcheck : Naming.check (e.document line ds) = .ok () :=
      (Naming.check_congr (e.names_document line ds)).mpr hnames
    exact parse_of_unplaced hall hfile (by simp [hsame, ← hk]) hcheck
  refine ⟨String.ofList a, k, String.ofList b, ⟨?_, ?_, us, vs, ws, K, hs, hvs⟩, ?_⟩
  · rw [← String.toList_inj, htext, hk]
    simp [Cursor.token]
  · rw [hk, String.toList_ofList]
    exact ha.position_eq
  · rw [hinserted, hlexeme, String.toList_ofList]
    refine ⟨⟨fun haccepted => ?_, fun hu => (hpos hu).imp fun _ => And.left⟩, fun ds' h' => ?_⟩
    · obtain ⟨ds', h'⟩ := haccepted
      exact hneg ds' h'
    · obtain ⟨ds'', h'', he'⟩ := hpos (hneg ds' h')
      rw [h'] at h''
      cases h''
      exact he'

theorem parse_documented_variant :
    parse "sum S \x7b a(T) \x7d" none = .ok
      [{ kind := .sum, name := "S", variants := [⟨"a", ⟨"T", []⟩, [], some ⟨1, 9, none⟩⟩]
         location := some ⟨1, 5, none⟩ }] ∧
      IsDocLine "note" ∧
      ∃ a k b, (Documentable.variant 0 0).StartsAt "sum S \x7b a(T) \x7d" none
          [{ kind := .sum, name := "S", variants := [⟨"a", ⟨"T", []⟩, [], some ⟨1, 9, none⟩⟩]
             location := some ⟨1, 5, none⟩ }] a k b ∧
        ((∃ ds', parse (a ++ insertedLine "note" ++ (k.lexeme ++ b)) none = .ok ds') ↔
          Unmistakable k.terminal k.lexeme.toList b.toList) ∧
        ∀ ds', parse (a ++ insertedLine "note" ++ (k.lexeme ++ b)) none = .ok ds' →
          ds'.map Declaration.unlocated =
            [{ kind := .sum, name := "S", variants := [⟨"a", ⟨"T", []⟩, ["note"], none⟩] }] := by
  have h : parse "sum S \x7b a(T) \x7d" none = .ok
      [{ kind := .sum, name := "S", variants := [⟨"a", ⟨"T", []⟩, [], some ⟨1, 9, none⟩⟩]
         location := some ⟨1, 5, none⟩ }] := by cbv
  have hl : IsDocLine "note" := by decide
  exact ⟨h, hl, parse_documented h ⟨_, rfl, Nat.zero_lt_one⟩ hl⟩

/-- A field may be called like a keyword, but not behind a line of documentation. -/
theorem parse_documented_keyword :
    parse "record A \x7b record: T \x7d" none = .ok
      [{ kind := .record, name := "A", fields := [⟨"record", ⟨"T", []⟩, .hidden, [], some ⟨1, 12, none⟩⟩]
         location := some ⟨1, 8, none⟩ }] ∧
      parse ("record A \x7b " ++ insertedLine "note" ++ "record: T \x7d") none =
        .error ⟨.syntactic (.unexpectedToken "record"), some ⟨3, 1, none⟩⟩ := by
  constructor <;> cbv

end DomainModel
