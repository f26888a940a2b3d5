import DomainModel.Proofs.Source.Documenting

/-!
# Keywords and whole words

Where a name may stand, a keyword is a whole word. Where only a declaration may start, and no documentation and no type stands
right before it (`Bare`), a keyword is found at the head of any word. `parse_keywords` says that these are all the places: a
keyword that is no whole word stands at one of them, and at each of them a keyword may be glued to the name behind it.
-/

namespace DomainModel

/-! ## Places -/

/-- Where a declaration is read that no documentation and no type stands right before: at the start of a file, behind a brace
or a parenthesis, or behind a directive that has no arguments. -/
inductive Bare : List Token → Prop
  | start : Bare []
  | closing {ts : List Token} {k : Token} : k.terminal ∈ [Terminal.closeBrace, .closeParen] → Bare (ts ++ [k])
  | directive {ts : List Token} {s n : Token} : s.terminal = .atSign → n.terminal = .name → Bare (ts ++ [s, n])

/-- What a terminal that leads from one point to another is, as far as it matters where declarations start. -/
def Point.Leads (p : Point) (t : Terminal) : Point → Prop
  | opening => t = .closeBrace
  | directiveSign _ => t = .atSign
  | directiveNamed h _ => p = .directiveSign h ∧ t = .name
  | directed _ => t = .closeParen
  | variants _ _ _ .start => t = .openBrace ∨ t = .closeParen
  | documented _ | arguments _ _ _ _ | keyword _ _ | named _ _ _ | fields _ _ _ _ | variants _ _ _ _ | target _ _ _ =>
    t ∉ [Terminal.closeBrace, .closeParen, .atSign]

theorem Point.eq_of_leads_closing {p q : Point} {t : Terminal} (h : p.Leads t q) (ht : t ∈ [Terminal.closeBrace, .closeParen]) :
    q = .opening ∨ (∃ h, q = .directed h) ∨ ∃ h n taken, q = .variants h n taken .start := by
  cases q with
  | opening => exact .inl rfl
  | directed => exact .inr (.inl ⟨_, rfl⟩)
  | variants h n taken v => cases v <;> simp_all [Leads]
  | _ => simp_all [Leads]

theorem Point.eq_of_leads_atSign {p q : Point} {t : Terminal} (h : p.Leads t q) (ht : t = .atSign) : ∃ h, q = .directiveSign h := by
  subst ht
  cases q with
  | directiveSign => exact ⟨_, rfl⟩
  | variants h n taken v => cases v <;> simp_all [Leads]
  | _ => simp_all [Leads]

theorem TypePoint.terminal_of_step {p p' : TypePoint} {k : Token} (hs : p.step k = some p') :
    k.terminal ∉ [Terminal.closeBrace, .closeParen, .atSign] := by
  unfold step at hs
  split at hs
  case h_7 => cases hs
  all_goals simp_all

theorem ArgumentPoint.terminal_of_step {p p' : ArgumentPoint} {k : Token} (hs : p.step k = some p') :
    k.terminal ∉ [Terminal.closeBrace, .closeParen, .atSign] := by
  intro hk
  simp only [List.mem_cons, List.not_mem_nil, or_false] at hk
  rcases hk with hk | hk | hk <;> cases p <;> simp [step, Token.literal?, hk] at hs

namespace Reader
variable {r r' : Reader} {k : Token} {p : Point} {h : Header} {n : Named} {docs : List String}

theorem leads_of_stepHeader (hs : r.stepHeader h k = some r') : p.Leads k.terminal r'.point := by
  unfold stepHeader at hs
  split at hs
  · next hk => cases hs; exact hk
  · next hk => cases hs; simp [move, Point.Leads, hk]
  · next hk => cases hs; simp [move, Point.Leads, hk]
  · next hk => cases hs; simp [move, Point.Leads, hk]
  · cases hs

theorem leads_of_stepOpening (hs : r.stepOpening docs k = some r') : p.Leads k.terminal r'.point := by
  unfold stepOpening at hs
  split at hs
  · next hk => cases hs; simp [move, Point.Leads, hk]
  · exact leads_of_stepHeader hs

theorem leads_of_stepArguments {taken : List Argument} {a : ArgumentPoint} (hs : r.stepArguments h n taken a k = some r') :
    p.Leads k.terminal r'.point := by
  unfold stepArguments at hs
  split at hs
  · next hk => cases hs; exact hk
  · next hk _ _ => cases hs; exact hk
  · next hk _ => cases hs; simp [move, Point.Leads, hk]
  · obtain ⟨a', ha, rfl⟩ := Option.map_eq_some_iff.mp hs
    exact ArgumentPoint.terminal_of_step ha

theorem leads_of_stepNamed {kind : Kind} (hs : r.stepNamed h kind n k = some r') : p.Leads k.terminal r'.point := by
  unfold stepNamed at hs
  split at hs
  · next hk => cases hs; simp [move, Point.Leads, hk]
  · next hk => cases hs; exact .inl hk
  · next hk => cases hs; simp [move, Point.Leads, hk]
  · cases hs

theorem leads_of_stepField {taken : List Field} (hs : r.stepField h n taken docs k = some r') :
    p.Leads k.terminal r'.point := by
  unfold stepField at hs
  split at hs
  · next hk => cases hs; simp [move, Point.Leads, hk]
  · next hk => cases hs; simp [move, Point.Leads, hk]
  · next hk => cases hs; simp [move, Point.Leads, hk]
  · cases hs

theorem leads_of_stepFields {taken : List Field} (hs : r.stepFields h n taken k = some r') :
    p.Leads k.terminal r'.point := by
  unfold stepFields at hs
  split at hs
  · next hk => cases hs; exact hk
  · exact leads_of_stepField hs

theorem leads_of_stepVariant {taken : List Variant} (hs : r.stepVariant h n taken docs k = some r') :
    p.Leads k.terminal r'.point := by
  unfold stepVariant at hs
  split at hs
  · next hk => cases hs; simp [move, Point.Leads, hk]
  · next hk => cases hs; simp [move, Point.Leads, hk]
  · cases hs

theorem terminal_of_only {t : Terminal} {x : Option Reader} (hs : (if k.terminal = t then x else none) = some r') :
    k.terminal = t := by
  by_contra hk
  rw [if_neg hk] at hs
  cases hs

theorem leads_of_only {t : Terminal} {q : Point} (hp : p.Leads t q)
    (hs : (if k.terminal = t then some (r.move q) else none) = some r') : p.Leads k.terminal r'.point := by
  have hk := terminal_of_only hs
  rw [if_pos hk] at hs
  cases hs
  exact hk ▸ hp

theorem leads_of_fields {taken : List Field} {f : FieldPoint} (hs : (r.move (.fields h n taken f)).step k = some r') :
    p.Leads k.terminal r'.point := by
  cases f with
  | start => exact leads_of_stepFields hs
  | documented docs => exact leads_of_stepField hs
  | exposed docs => exact leads_of_only (t := .name) (by simp [Point.Leads]) hs
  | named docs v f => exact leads_of_only (t := .colon) (by simp [Point.Leads]) hs
  | typed docs v f type =>
    simp only [step, move] at hs
    split at hs
    · next htype => cases hs; exact TypePoint.terminal_of_step htype
    · exact leads_of_stepFields hs
    · cases hs

theorem leads_of_variants {taken : List Variant} {v : VariantPoint} (hs : (r.move (.variants h n taken v)).step k = some r') :
    p.Leads k.terminal r'.point := by
  cases v with
  | start =>
    simp only [step, move] at hs
    split at hs
    · next hk => cases hs; exact hk
    · exact leads_of_stepVariant hs
  | documented docs => exact leads_of_stepVariant hs
  | named docs v => exact leads_of_only (t := .openParen) (by simp [Point.Leads]) hs
  | payload docs v type =>
    simp only [step, move] at hs
    split at hs
    · next htype => cases hs; exact TypePoint.terminal_of_step htype
    · next hk => cases hs; exact .inr hk
    · cases hs

theorem leads_of_target {type : TypePoint} (hs : (r.move (.target h n type)).step k = some r') :
    p.Leads k.terminal r'.point := by
  simp only [step, move] at hs
  split at hs
  · next htype => cases hs; exact TypePoint.terminal_of_step htype
  · exact leads_of_stepOpening hs
  · cases hs

theorem leads_of_step (hs : r.step k = some r') : r.point.Leads k.terminal r'.point := by
  obtain ⟨file, done, point⟩ := r
  cases point with
  | opening => exact leads_of_stepOpening hs
  | documented docs => exact leads_of_stepOpening hs
  | directiveSign h => exact leads_of_only (t := .name) (q := .directiveNamed h _) ⟨rfl, rfl⟩ hs
  | directiveNamed h n =>
    simp only [step] at hs
    split at hs
    · next hk => cases hs; simp [move, Point.Leads, hk]
    · exact leads_of_stepHeader hs
  | arguments h n taken a => exact leads_of_stepArguments hs
  | directed h => exact leads_of_stepHeader hs
  | keyword h kind => exact leads_of_only (t := .name) (by simp [Point.Leads]) hs
  | named h kind n => exact leads_of_stepNamed hs
  | fields h n taken f => exact leads_of_fields (r := ⟨file, done, .opening⟩) hs
  | variants h n taken v => exact leads_of_variants (r := ⟨file, done, .opening⟩) hs
  | target h n type => exact leads_of_target (r := ⟨file, done, .opening⟩) hs

theorem exists_last {ts : List Token} (hs : r.steps (ts ++ [k]) = some r') : ∃ q, r.steps ts = some q ∧ q.step k = some r' := by
  obtain ⟨q, hq, hk⟩ := Option.bind_eq_some_iff.mp (steps_append r ts [k] ▸ hs)
  obtain ⟨q', hq', hlast⟩ := Option.bind_eq_some_iff.mp hk
  obtain rfl := Option.some.inj hlast
  exact ⟨q, hq, hq'⟩

theorem terminal_of_stepNamed {kind : Kind} (hs : r.stepNamed h kind n k = some r') :
    k.terminal ∈ [Terminal.openBrace, .equals] := by
  unfold stepNamed at hs
  split at hs
  · next hk => simp [hk]
  · next hk => simp [hk]
  · next hk => simp [hk]
  · cases hs

/-- The points where a keyword is read and no name may stand. -/
theorem point_of_keyword (hs : r.step k = some r') (hk : k.terminal ∈ Terminal.keywords)
    (hn : r.context.accepts .name = false) :
    r.point = .opening ∨ (∃ h n, r.point = .directiveNamed h n) ∨ ∃ h, r.point = .directed h := by
  have htype : ∀ type : TypePoint, type.context.accepts .name = true := fun type => by
    obtain ⟨outer, head⟩ := type
    cases head <;> rfl
  have other : ∀ {l : List Terminal}, (∀ t ∈ Terminal.keywords, t ∉ l) → k.terminal ∉ l := fun hl => hl _ hk
  have haccepts := Context.accepts_iff.mp (accepts_of_step hs)
  obtain ⟨file, done, point⟩ := r
  cases point with
  | opening => exact .inl rfl
  | directiveNamed h n => exact .inr (.inl ⟨h, n, rfl⟩)
  | directed h => exact .inr (.inr ⟨h, rfl⟩)
  | documented docs => cases hn
  | directiveSign h => cases hn
  | keyword h kind => cases hn
  | named h kind n => exact absurd (terminal_of_stepNamed hs) (other (by decide))
  | arguments h n taken a =>
    have harguments : ∀ c ∈ [Context.arguments, .argumentValue, .afterWord, .afterValue], ∀ t ∈ Terminal.keywords,
        t ∉ c.terminals := by decide
    exact absurd haccepts (harguments a.context (by cases a <;> simp [ArgumentPoint.context]) _ hk)
  | fields h n taken f =>
    cases f with
    | start => cases hn
    | documented docs => cases hn
    | exposed docs => cases hn
    | named docs v f => exact absurd (List.mem_singleton.mpr (terminal_of_only hs)) (other (by decide))
    | typed docs v f type => exact absurd (htype type) (Bool.not_eq_true _ ▸ hn)
  | variants h n taken v =>
    cases v with
    | start => cases hn
    | documented docs => cases hn
    | named docs v => exact absurd (List.mem_singleton.mpr (terminal_of_only hs)) (other (by decide))
    | payload docs v type => exact absurd (htype type) (Bool.not_eq_true _ ▸ hn)
  | target h n type => exact absurd (htype type) (Bool.not_eq_true _ ▸ hn)

/-- A keyword is read where no name may stand exactly if nothing but a brace, a parenthesis or a directive is right before it. -/
theorem not_accepts_name_iff {file : Option String} {ts : List Token} (hr : (start file).steps ts = some r)
    (hs : r.step k = some r') (hk : k.terminal ∈ Terminal.keywords) : r.context.accepts .name = false ↔ Bare ts := by
  -- the last token taken tells the point: a closed body, or a sign and the name of a directive
  constructor
  · intro hn
    rcases List.eq_nil_or_concat ts with rfl | ⟨us, t, rfl⟩
    · exact .start
    · rw [List.concat_eq_append] at hr ⊢
      obtain ⟨q, hq, ht⟩ := exists_last hr
      have hleads := leads_of_step ht
      rcases point_of_keyword hs hk hn with hp | ⟨h, n, hp⟩ | ⟨h, hp⟩
      · rw [hp] at hleads
        exact .closing (by simp [show t.terminal = _ from hleads])
      · rw [hp] at hleads
        obtain ⟨hsign, hname⟩ := hleads
        rcases List.eq_nil_or_concat us with rfl | ⟨vs, s, rfl⟩
        · obtain rfl := Option.some.inj hq
          cases hsign
        · rw [List.concat_eq_append] at hq ⊢
          obtain ⟨p, -, hs⟩ := exists_last hq
          have hat := leads_of_step hs
          rw [hsign] at hat
          rw [List.append_assoc]
          exact .directive hat hname
      · rw [hp] at hleads
        exact .closing (by simp [show t.terminal = _ from hleads])
  · intro hbare
    cases hbare with
    | start =>
      obtain rfl := Option.some.inj hr
      rfl
    | @closing us t ht =>
      obtain ⟨q, -, hlast⟩ := exists_last hr
      rcases Point.eq_of_leads_closing (leads_of_step hlast) ht with hp | ⟨h, hp⟩ | ⟨h, n, taken, hp⟩
      · rw [context, hp]
        rfl
      · rw [context, hp]
        rfl
      -- within a sum no keyword can follow a variant
      · rw [step, hp] at hs
        have hvariant : k.terminal ∈ [Terminal.closeBrace, .doc, .name] := by
          simp only at hs
          split at hs
          · next hk => simp [hk]
          · exact List.mem_cons_of_mem _ (mem_of_stepVariant hs)
        exact absurd hvariant ((by decide : ∀ t ∈ Terminal.keywords, t ∉ [Terminal.closeBrace, .doc, .name]) _ hk)
    | @directive us s n hsign hname =>
      rw [List.append_cons] at hr
      obtain ⟨q, hq, hlast⟩ := exists_last hr
      obtain ⟨p, -, hat⟩ := exists_last hq
      obtain ⟨h, hp⟩ := Point.eq_of_leads_atSign (leads_of_step hat) hsign
      rw [step, hp] at hlast
      simp only [hname, if_true] at hlast
      cases hlast
      rfl

end Reader

/-! ## What stands before a keyword -/

namespace Terminal

theorem first?_congr {l : List Terminal} {cs ds : List Char} (h : ∀ t ∈ l, t.width? cs = t.width? ds) :
    first? l cs = first? l ds := by
  induction l with
  | nil => rfl
  | cons t l ih =>
    have htail := ih fun x hx => h x (List.mem_cons_of_mem _ hx)
    unfold first? at htail ⊢
    rw [List.findSome?_cons, List.findSome?_cons, h t List.mem_cons_self, htail]

section
variable {t x k : Terminal} {accepts : Terminal → Bool} {a r s u v : List Char}

theorem Matches.prefix_of_keyword (hv : x.Matches v) (hx : x.IsCompact) (hn : x ≠ name) (hk : k ∈ keywords) (hu : u ≠ [])
    (h : v <+: u ++ (k.spelling ++ r)) : v <+: u ++ k.spelling := by
  have hfront : u ++ k.spelling <+: u ++ (k.spelling ++ r) := ⟨r, by simp⟩
  rcases Nat.le_total v.length (u ++ k.spelling).length with hle | hle
  · exact List.prefix_of_prefix_length_le h hfront hle
  · obtain ⟨w, rfl⟩ := List.prefix_of_prefix_length_le hfront h hle
    have hspelled : ∀ x : Terminal, u ++ k.spelling ++ w ≠ x.spelling := by
      intro x hx
      have hinside : ∀ x ∈ inOrder, ∀ k ∈ keywords, ¬k.spelling <:+: x.spelling.tail := by decide
      obtain ⟨c, u, rfl⟩ := List.exists_cons_of_ne_nil hu
      exact hinside x (mem_inOrder x) k hk ⟨u, w, by rw [← hx]; rfl⟩
    have hletter : ∀ k ∈ keywords, k.spelling.head? ∈ [some 'r', some 's', some 'a', some 'p'] := by decide
    cases x with
    | name => exact absurd rfl hn
    | doc => exact absurd rfl hx.1
    | string => exact absurd rfl hx.2
    | number =>
      have hnumeric : ∀ c, k.spelling.head? = some c → IsNumeric c := fun c hc =>
        numeric_of_number hv c (by simp [List.mem_of_head? hc])
      have hhead := hletter k hk
      simp only [List.mem_cons, List.not_mem_nil, or_false] at hhead
      rcases hhead with hc | hc | hc | hc <;> simpa [IsNumeric] using hnumeric _ hc
    | _ => exact absurd hv (hspelled _)

theorem Matches.name_of_prefix (hv : name.Matches v) (hu : u ≠ []) (h : u <+: v) : name.Matches u := by
  obtain ⟨c, cs, rfl, hc, hcs⟩ := hv
  obtain ⟨d, u, rfl⟩ := List.exists_cons_of_ne_nil hu
  obtain ⟨rfl, hpre⟩ := List.cons_prefix_cons.mp h
  exact ⟨d, u, rfl, hc, fun x hx => hcs x (hpre.subset hx)⟩

theorem length_le_of_name {c : Context} {n : Nat} (hc : c.accepts name = true) (hv : name.Matches v) (hp : v <+: a)
    (h : lex? c.accepts a = some (t, n)) : v.length ≤ n := by
  have hm := width?_measured name a
  cases hw : name.width? a with
  | none =>
    rw [hw] at hm
    exact absurd hv (hm v hp)
  | some m =>
    rw [hw] at hm
    obtain ⟨u, hu, rfl⟩ := hm
    rw [lex?_of_word hc hw] at h
    obtain rfl := (Prod.mk.inj (Option.some.inj h)).2
    exact hu.longest v hp hv

/-- What stands behind a keyword does not matter to a lexeme before it. -/
theorem lex?_before_keyword {c : Context} (hk : k ∈ keywords) (ht : t.IsCompact)
    (h : lex? c.accepts (u ++ (a ++ (k.spelling ++ r))) = some (t, u.length)) :
    lex? c.accepts (u ++ (a ++ (k.spelling ++ s))) = some (t, u.length) := by
  have hu := (heads_of_lex? h).holds
  have hspelling : k.spelling ≠ [] := (matches_name_of_keyword hk).ne_nil
  have hfront : ∀ q : List Char, u ++ a ++ k.spelling <+: u ++ (a ++ (k.spelling ++ q)) := fun q => ⟨q, by simp⟩
  have hword : c.accepts name = true → ¬name.Matches (u ++ a ++ k.spelling) := fun hc hm => by
    have hlen := length_le_of_name hc hm (hfront r) h
    have := List.length_pos_iff.mpr hspelling
    simp only [List.length_append] at hlen
    omega
  -- no lexeme that is tried goes on behind the keyword
  have within : ∀ x, c.accepts x = true → x.IsCompact → ∀ (q v : List Char), x.Matches v →
      v <+: u ++ (a ++ (k.spelling ++ q)) → v <+: u ++ a ++ k.spelling := by
    intro x hc hx q v hv hp
    by_cases hn : x = name
    · subst hn
      rcases List.prefix_or_prefix_of_prefix hp (hfront q) with h | h
      · exact h
      · exact absurd (hv.name_of_prefix (by simp [hspelling]) h) (hword hc)
    · rw [← List.append_assoc] at hp
      exact hv.prefix_of_keyword hx hn hk (by simp [hu.ne_nil]) hp
  have hwidth : ∀ x, c.accepts x = true →
      x.width? (u ++ (a ++ (k.spelling ++ r))) = x.width? (u ++ (a ++ (k.spelling ++ s))) := by
    intro x hc
    by_cases hx : x.IsCompact
    · exact width?_congr fun v hv => ⟨fun hp => (within x hc hx _ v hv hp).trans (hfront s),
        fun hp => (within x hc hx _ v hv hp).trans (hfront r)⟩
    · obtain ⟨d, w, rfl⟩ := List.exists_cons_of_ne_nil hu.ne_nil
      have hopens := not_opens_of_compact hu ht hx
      rw [List.cons_append, List.cons_append, width?_of_not_opens hopens, width?_of_not_opens hopens]
  rw [lex?_eq] at h ⊢
  rw [first?_congr fun x hx => hwidth x (List.mem_filter.mp hx).2] at h
  obtain ⟨⟨x, n⟩, hf, he⟩ := Option.map_eq_some_iff.mp h
  obtain rfl : n = u.length := (Prod.mk.inj he).2
  rw [hf, Option.map_some, ← he]
  simp only [List.take_left]

end

end Terminal

/-! ## Scans -/

theorem Gap.of_head {rest rest' u : List Char} (h : Gap rest u) (hr : rest.head? = rest'.head?) : Gap rest' u := by
  cases h with
  | blank hc => exact .blank hc
  | comment hw hh hline => exact .comment hw hh (hr ▸ hline)

theorem Scans.before_keyword {t : Terminal} {r s cs : List Char} {k k' : Cursor} {ts : List Token} (ht : t ∈ Terminal.keywords)
    (h : Scans (t.spelling ++ r) k cs ts k') : Scans (t.spelling ++ s) k cs ts k' := by
  have hhead : ∀ cs, (cs ++ (t.spelling ++ r)).head? = (cs ++ (t.spelling ++ s)).head? := fun cs => by
    obtain ⟨d, w, hw⟩ := List.exists_cons_of_ne_nil (Terminal.matches_name_of_keyword ht).ne_nil
    cases cs <;> simp [hw]
  induction h with
  | done => exact .done
  | skip hg _ ih => exact .skip (hg.of_head (hhead _)) ih
  | @take k k' u cs x q ts h0 hl hst _ ih =>
    have hu := Terminal.heads_of_lex? hl
    have haccepts := (Terminal.lex?_eq_some hl).1
    refine .take (skipWidth_of_token h0 hu.holds) ?_ hst ih
    by_cases hx : x.IsCompact
    · exact Terminal.lex?_before_keyword ht hx hl
    · rcases Terminal.not_isCompact hx with rfl | rfl
      · obtain ⟨w, rfl, hw⟩ := hu.holds
        exact (Solid.doc hw (hhead cs ▸ hu.line_end)).lexed _ haccepts
      · obtain ⟨w, rfl, hw⟩ := hu.holds
        exact (Solid.quoted hw).lexed _ haccepts

/-- Where no documentation and no type stands before a declaration, its keyword may be glued to its name. -/
theorem Scans.glued {file : Option String} {a g c : List Char} {us vs : List Token} {t n : Token} {k : Cursor}
    (h : Scans [] (.start file) (a ++ (t.terminal.spelling ++ (g ++ c))) (us ++ t :: n :: vs) k)
    (ht : t.terminal ∈ Terminal.keywords) (hbare : Bare us) (hp : t.position = Position.start.after a)
    (hn : n.position = Position.start.after (a ++ (t.terminal.spelling ++ g))) :
    ∃ ws l, Scans [] (.start file) (a ++ (t.terminal.spelling ++ c)) ws l ∧
      ws.map Token.unplaced = (us ++ t :: n :: vs).map Token.unplaced := by
  obtain ⟨a', u, b, r, l, hab, hs, htoken, h0, hl, hst, hb⟩ := h.exists_token rfl
  have hu := (Terminal.heads_of_lex? hl).holds
  obtain rfl : u = t.terminal.spelling := hu.eq_spelling ht
  have hplace := hs.position_eq
  rw [htoken] at hp
  obtain rfl : a' = a := Position.eq_of_after_eq hab.symm (hplace.symm.trans hp)
  obtain rfl : b = g ++ c := (List.append_cancel_left (List.append_cancel_left hab)).symm
  obtain ⟨g', v, d, r', l', hgc, hg, hname, h0', hl', hst', hd⟩ := hb.exists_token (List.nil_append _).symm
  have hplace' := hg.position_eq
  rw [hname] at hn
  obtain rfl : g' = g := by
    refine Position.eq_of_after_eq (p := l.position.after t.terminal.spelling) hgc.symm (hplace'.symm.trans (hn.trans ?_))
    rw [Position.after_append, Position.after_append, hplace]
    rfl
  obtain rfl : c = v ++ d := List.append_cancel_left hgc
  -- nothing is read between the two, so what is behind the gap is read where the gap was
  have hreader : l'.reader = r := Option.some.inj hg.steps_eq.symm
  have hrest : Scans [] l' (v ++ d) (n :: vs) k := by
    rw [hname]
    exact .take h0' hl' (hname ▸ hst') hd
  have herased : l'.reader.erased true = r.erased true := by rw [hreader]
  obtain ⟨ws, m, hws, hsame, -⟩ := hrest.elsewhere (l := ⟨r, l.position.after t.terminal.spelling, l.position⟩) herased
  have hnone : l.reader.context.accepts .name = false := (Reader.not_accepts_name_iff hs.steps_eq hst ht).mpr hbare
  have hlex : l.lex? (t.terminal.spelling ++ (v ++ d ++ [])) = some (t.terminal, t.terminal.spelling.length) :=
    Terminal.lex?_of_keyword ht (Reader.accepts_of_step hst) hnone
  have hkeyword : Scans [] l (t.terminal.spelling ++ (v ++ d)) (t :: ws) m := by
    rw [htoken] at hst ⊢
    exact .take (skipWidth_of_token h0 hu) hlex hst hws
  have hbefore : Scans (t.terminal.spelling ++ (v ++ d) ++ []) (.start file) a' us l := by
    rw [List.append_assoc]
    exact hs.before_keyword ht
  refine ⟨us ++ t :: ws, m, ?_, ?_⟩
  · exact hbefore.append hkeyword
  · rw [List.map_append, List.map_append, List.map_cons, List.map_cons, hsame]

/-- A keyword is a whole word, except that the keyword of a declaration which no documentation and no type stands right before
need not be. There it may be glued to the name behind it, whatever stands between them, and nothing changes but places. -/
theorem parse_keywords {text : String} {file : Option String} {ds : List Declaration} (h : parse text file = .ok ds) :
    ∃ ts k, Scans [] (.start file) text.toList ts k ∧
      (∀ us l, Scans [] (.start file) text.toList us l → us = ts) ∧
      ∀ us t vs, ts = us ++ t :: vs → t.terminal ∈ Terminal.keywords →
        ∃ a b : String, text = a ++ (t.lexeme ++ b) ∧ t.position = Position.start.after a.toList ∧
          t.lexeme.toList = t.terminal.spelling ∧
          (WordEnds b.toList ∨ t.terminal ≠ .pub ∧ Bare us) ∧
          (Bare us → ∀ n ws, vs = n :: ws → ∀ g c : String, b = g ++ c →
            n.position = Position.start.after (a ++ (t.lexeme ++ g)).toList →
              ∃ ds', parse (a ++ (t.lexeme ++ c)) file = .ok ds' ∧
                ds'.map Declaration.unlocated = ds.map Declaration.unlocated) := by
  obtain ⟨hread, hnames⟩ := readDeclarations_of_parse h
  obtain ⟨ts, k, hs, hf⟩ := (Cursor.run_eq_ok_iff (k := .start file)).mp hread
  have hfile : Grammar.IsFile file ts ds := Grammar.isFile_of_steps hs.steps_eq hf
  refine ⟨ts, k, hs, fun us l hs' => (hs.unique hs').1, ?_⟩
  rintro us t vs rfl ht
  obtain ⟨a, u, b, r, l, htext, ha, htoken, h0, hl, hst, hb⟩ := hs.exists_token rfl
  obtain rfl : u = t.terminal.spelling := (Terminal.heads_of_lex? hl).holds.eq_spelling ht
  have hlexeme : t.lexeme = String.ofList t.terminal.spelling := congrArg Token.lexeme htoken
  have hposition : t.position = Position.start.after a := by
    rw [htoken]
    exact ha.position_eq
  refine ⟨String.ofList a, String.ofList b, ?_, ?_, ?_, ?_, ?_⟩
  · rw [← String.toList_inj, htext, hlexeme]
    simp
  · rwa [String.toList_ofList]
  · rw [hlexeme, String.toList_ofList]
  · rw [String.toList_ofList]
    rw [List.append_nil] at hl
    cases hname : l.reader.context.accepts .name with
    -- where a name could stand too, the longer reading wins, and the keyword has to end as a word
    | true => exact .inl (wordEnds_of_keyword hname ht hl)
    | false =>
      refine .inr ⟨fun hpub => ?_, (Reader.not_accepts_name_iff ha.steps_eq hst ht).mp hname⟩
      have hcontext : ∀ c ∈ contexts, c.accepts .pub = true → c.accepts .name = true := by decide
      have haccepts := Reader.accepts_of_step hst
      rw [hpub] at haccepts
      rw [hcontext _ (mem_contexts _) haccepts] at hname
      cases hname
  · rintro hbare n ws rfl g c hgc hn
    have hb : b = g.toList ++ c.toList := by rw [← String.toList_append, ← hgc, String.toList_ofList]
    rw [htext, hb] at hs
    have hn' : n.position = Position.start.after (a ++ (t.terminal.spelling ++ g.toList)) := by
      rw [hn, hlexeme]
      simp
    -- with the space between them gone both tokens are read as before, only at other places
    obtain ⟨xs, l', hglued, hsame⟩ := hs.glued ht hbare hposition hn'
    have hnew : (String.ofList a ++ (t.lexeme ++ c)).toList = a ++ (t.terminal.spelling ++ c.toList) := by
      rw [hlexeme]
      simp
    rw [← hnew] at hglued
    exact parse_of_unplaced hglued hfile hsame hnames

/-- A blank that may be left out. -/
theorem parse_keywords_spaced :
    parse "record User\x7b\x7d" none = .ok [{ kind := .record, name := "User", location := some ⟨1, 8, none⟩ }] ∧
      ∃ ds', parse "recordUser\x7b\x7d" none = .ok ds' ∧
        ds'.map Declaration.unlocated = [{ kind := .record, name := "User" }] := by
  have h : parse "record User\x7b\x7d" none =
      .ok [{ kind := .record, name := "User", location := some ⟨1, 8, none⟩ }] := by cbv
  obtain ⟨k, hs⟩ : ∃ k, Scans [] (.start none) "record User\x7b\x7d".toList
      [⟨.record, "record", ⟨1, 1⟩⟩, ⟨.name, "User", ⟨1, 8⟩⟩, ⟨.openBrace, "\x7b", ⟨1, 12⟩⟩, ⟨.closeBrace, "\x7d", ⟨1, 13⟩⟩] k :=
    ⟨_, @Scans.take [] _ _ "record".toList " User\x7b\x7d".toList _ _ _ rfl (by cbv) rfl
      (@Scans.skip [] _ _ [' '] "User\x7b\x7d".toList _ (.blank rfl)
        (@Scans.take [] _ _ "User".toList "\x7b\x7d".toList _ _ _ rfl (by cbv) rfl
          (@Scans.take [] _ _ ['\x7b'] ['\x7d'] _ _ _ rfl (by cbv) rfl
            (@Scans.take [] _ _ ['\x7d'] [] _ _ _ rfl (by cbv) rfl .done))))⟩
  obtain ⟨ts, -, -, hunique, hall⟩ := parse_keywords h
  obtain rfl := hunique _ _ hs
  obtain ⟨a, b, hab, ha, -, -, hglued⟩ := hall [] _ _ rfl (by decide)
  have hsplit : a.toList ++ ("record".toList ++ b.toList) = [] ++ "record User\x7b\x7d".toList := by
    simpa using (congrArg String.toList hab).symm
  obtain rfl : a = "" := String.toList_inj.mp (Position.eq_of_after_eq hsplit ha.symm)
  obtain rfl : b = " User\x7b\x7d" := by
    have hrest : "record".toList ++ b.toList = "record".toList ++ " User\x7b\x7d".toList := hsplit
    exact String.toList_inj.mp (List.append_cancel_left hrest)
  exact ⟨h, hglued .start _ _ rfl " " "User\x7b\x7d" rfl rfl⟩

theorem scans_misspelt : ∃ k, Scans [] (.start none) "records \x7b\x7d".toList
    [⟨.record, "record", ⟨1, 1⟩⟩, ⟨.name, "s", ⟨1, 7⟩⟩, ⟨.openBrace, "\x7b", ⟨1, 9⟩⟩, ⟨.closeBrace, "\x7d", ⟨1, 10⟩⟩] k :=
  ⟨_, @Scans.take [] _ _ "record".toList "s \x7b\x7d".toList _ _ _ rfl (by cbv) rfl
    (@Scans.take [] _ _ ['s'] " \x7b\x7d".toList _ _ _ rfl (by cbv) rfl
      (@Scans.skip [] _ _ [' '] "\x7b\x7d".toList _ (.blank rfl)
        (@Scans.take [] _ _ ['\x7b'] ['\x7d'] _ _ _ rfl (by cbv) rfl
          (@Scans.take [] _ _ ['\x7d'] [] _ _ _ rfl (by cbv) rfl .done))))⟩

/-- A misspelt keyword is read as the keyword and a name. -/
theorem parse_keywords_misspelt : ∃ t us k,
    parse "records \x7b\x7d" none = .ok [{ kind := .record, name := "s", location := some ⟨1, 7, none⟩ }] ∧
      Scans [] (.start none) "records \x7b\x7d".toList (t :: us) k ∧ t.terminal ∈ Terminal.keywords ∧
      "records \x7b\x7d" = t.lexeme ++ "s \x7b\x7d" ∧ Word.isPart 's' = true := by
  obtain ⟨k, hs⟩ := scans_misspelt
  refine ⟨_, _, k, ?_, hs, by decide, rfl, rfl⟩
  cbv

end DomainModel
