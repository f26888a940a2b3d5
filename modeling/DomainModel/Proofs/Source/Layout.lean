import DomainModel.Proofs.Naming.Names
import DomainModel.Proofs.Source.Independence
import DomainModel.Proofs.Source.Place

/-!
# Layout

Blanks and comments may be put before any token (`parse_layout`). What stands before the place is scanned as
it was (`Scans.insert`): no lexeme but a string or a documentation line has a blank or a comment mark in it,
so that none goes on into what is put there. What stands behind is scanned as it was, only elsewhere.
-/

namespace DomainModel

/-! ## Lexemes and what parts them -/

def isParting (c : Char) : Bool := isBlank c || c = '#'

def Parts (rest : List Char) : Prop := ∀ c ∈ rest.head?, isParting c = true

namespace Terminal

theorem not_parting_of_isPart {c : Char} (h : Word.isPart c = true) : isParting c = false := by
  by_contra hc
  simp only [isParting, isBlank, Bool.not_eq_false, Bool.or_eq_true, decide_eq_true_eq] at hc
  rcases hc with ((((rfl | rfl) | rfl) | rfl) | rfl) | rfl <;> cases h

theorem not_parting_of_isNumeric {c : Char} (h : IsNumeric c) : isParting c = false := by
  rcases h with h | h
  · refine not_parting_of_isPart ?_
    simp [Word.isPart, Char.isAlphanum, h]
  · simp only [List.mem_cons, List.not_mem_nil, or_false] at h
    rcases h with rfl | rfl | rfl | rfl | rfl <;> rfl

def IsCompact (t : Terminal) : Prop := t ≠ doc ∧ t ≠ string

theorem not_isCompact {t : Terminal} (h : ¬t.IsCompact) : t = doc ∨ t = string := by
  by_contra hno
  exact h (not_or.mp hno)

theorem Matches.not_parting {t : Terminal} {w : List Char} (h : t.Matches w) (ht : t.IsCompact) :
    ∀ c ∈ w, isParting c = false := by
  have hspelling : ∀ t ∈ inOrder, t.spelling.all (fun c => !isParting c) = true := by decide
  cases t with
  | name =>
    obtain ⟨c, cs, rfl, hc, hcs⟩ := h
    intro d hd
    rcases List.mem_cons.mp hd with rfl | hd
    · exact not_parting_of_isPart (isPart_of_isStart hc)
    · exact not_parting_of_isPart (hcs d hd)
  | number => exact fun c hc => not_parting_of_isNumeric (numeric_of_number h c hc)
  | doc => exact absurd rfl ht.1
  | string => exact absurd rfl ht.2
  | _ =>
    subst h
    exact fun c hc => by simpa using List.all_eq_true.mp (hspelling _ (mem_inOrder _)) c hc

section
variable {t : Terminal} {accepts : Terminal → Bool} {a r s u v : List Char}

theorem prefix_of_parts (hv : ∀ c ∈ v, isParting c = false) (hr : Parts r) (h : v <+: a ++ r) : v <+: a := by
  have hlen : v.length ≤ a.length := length_le_of_prefix_run (p := fun c => !isParting c)
    (fun c hc => by simp [hv c hc]) (fun c hc => by simp [hr c hc]) h
  exact List.prefix_of_prefix_length_le h (List.prefix_append a r) hlen

theorem width?_congr (h : ∀ v, t.Matches v → (v <+: r ↔ v <+: s)) : t.width? r = t.width? s := by
  have hmr := width?_measured t r
  have hms := width?_measured t s
  cases hwr : t.width? r with
  | none =>
    rw [hwr] at hmr
    cases hws : t.width? s with
    | none => rfl
    | some n =>
      rw [hws] at hms
      obtain ⟨v, hv, -⟩ := hms
      exact absurd hv.holds (hmr v ((h v hv.holds).mpr hv.isPrefix))
  | some m =>
    rw [hwr] at hmr
    obtain ⟨u, hu, rfl⟩ := hmr
    cases hws : t.width? s with
    | none =>
      rw [hws] at hms
      exact absurd hu.holds (hms u ((h u hu.holds).mp hu.isPrefix))
    | some n =>
      rw [hws] at hms
      obtain ⟨v, hv, rfl⟩ := hms
      have hle := hu.longest v ((h v hv.holds).mpr hv.isPrefix) hv.holds
      have hge := hv.longest u ((h u hu.holds).mp hu.isPrefix) hu.holds
      rw [Nat.le_antisymm hge hle]

theorem width?_parts (ht : t.IsCompact) (hr : Parts r) (hs : Parts s) : t.width? (a ++ r) = t.width? (a ++ s) := by
  have heads : ∀ {r s}, Parts r → ∀ v, t.Matches v → v <+: a ++ r → v <+: a ++ s := fun hr v hm hv =>
    (prefix_of_parts (hm.not_parting ht) hr hv).trans (List.prefix_append _ _)
  exact width?_congr fun v hm => ⟨heads hr v hm, heads hs v hm⟩

theorem not_opens_of_compact {x : Terminal} {c : Char} (h : t.Matches (c :: u)) (ht : t.IsCompact)
    (hx : ¬x.IsCompact) : x.opens c = false := by
  rcases not_isCompact hx with rfl | rfl
  · have := h.not_parting ht c (by simp)
    simp only [isParting, Bool.or_eq_false_iff] at this
    exact this.2
  · have hquote : t ≠ string → t.opens '"' = false := by cases t <;> decide
    by_contra hc
    obtain rfl : c = '"' := by simpa [opens] using hc
    exact absurd h.opens (by simp [hquote ht.2])

theorem lex?_parts (h : lex? accepts (u ++ (a ++ r)) = some (t, u.length)) (ht : t.IsCompact) (hr : Parts r)
    (hs : Parts s) : lex? accepts (u ++ (a ++ s)) = some (t, u.length) := by
  have hu := (heads_of_lex? h).holds
  obtain ⟨c, u, rfl⟩ := List.exists_cons_of_ne_nil hu.ne_nil
  have hwidth : ∀ x : Terminal, x.width? (c :: u ++ (a ++ r)) = x.width? (c :: u ++ (a ++ s)) := by
    intro x
    by_cases hx : x.IsCompact
    · rw [← List.append_assoc, ← List.append_assoc]
      exact width?_parts hx hr hs
    · have hopens := not_opens_of_compact hu ht hx
      rw [List.cons_append, List.cons_append, width?_of_not_opens hopens, width?_of_not_opens hopens]
  rw [lex?_eq] at h ⊢
  simp only [first?, hwidth] at h
  obtain ⟨⟨x, n⟩, hf, he⟩ := Option.map_eq_some_iff.mp h
  have hn : n = (c :: u).length := (Prod.mk.inj he).2
  rw [first?, hf, Option.map_some, ← he]
  simp only [hn, List.take_left]

end

end Terminal

/-! ## Fillers -/

inductive Filler : List Char → Prop
  | nil : Filler []
  | blank {c : Char} {g : List Char} : isBlank c = true → Filler g → Filler (c :: g)
  | comment {w g : List Char} : '\n' ∉ w → w.head? ≠ some ':' → Filler g → Filler ('#' :: (w ++ '\n' :: g))

namespace Filler
variable {g b : List Char}

theorem head (h : Filler g) : ∀ c ∈ g.head?, isParting c = true := by
  cases h with
  | nil => simp
  | blank hc _ => simp [isParting, hc]
  | comment => simp [isParting]

theorem parts (h : Filler g) (hne : g ≠ []) : Parts (g ++ b) := by
  obtain ⟨c, g, rfl⟩ := List.exists_cons_of_ne_nil hne
  exact h.head

theorem exists_line (h : Filler g) : '\n' ∉ g ∨ ∃ v g', g = v ++ '\n' :: g' ∧ '\n' ∉ v ∧ Filler g' := by
  induction h with
  | nil => exact .inl (by simp)
  | @blank c g hc hg ih =>
    by_cases hn : c = '\n'
    · subst hn
      exact .inr ⟨[], g, rfl, by simp, hg⟩
    · rcases ih with hno | ⟨v, g', rfl, hv, hg'⟩
      · exact .inl (by simp [Ne.symm hn, hno])
      · exact .inr ⟨c :: v, g', rfl, by simp [Ne.symm hn, hv], hg'⟩
  | @comment w g hw hc hg _ => exact .inr ⟨'#' :: w, g, rfl, by simp [hw], hg⟩

theorem scans (h : Filler g) (k : Cursor) : ∃ l, Scans b k g [] l ∧ l.reader = k.reader := by
  induction h generalizing k with
  | nil => exact ⟨k, .done, rfl⟩
  | @blank c g hc _ ih =>
    obtain ⟨l, hs, hr⟩ := ih (k.pass [c])
    exact ⟨l, .skip (u := [c]) (.blank hc) hs, hr⟩
  | @comment w g hw hc _ ih =>
    obtain ⟨l, hs, hr⟩ := ih ((k.pass ('#' :: w)).pass ['\n'])
    have hline : Scans b (k.pass ('#' :: w)) ('\n' :: g) [] l := .skip (u := ['\n']) (.blank rfl) hs
    exact ⟨l, .skip (u := '#' :: w) (.comment hw hc (by simp)) hline, hr⟩

/-- A comment that the text ends with goes on to the end of the filler's first line. -/
theorem scans_comment {w : List Char} (h : Filler g) (hw : '\n' ∉ w) (hc : w.head? ≠ some ':') (k : Cursor) :
    ∃ l, Scans [] k ('#' :: w ++ g) [] l ∧ l.reader = k.reader := by
  have hcolon : ∀ v g', g = v ++ g' → (w ++ v).head? ≠ some ':' := by
    rintro v g' rfl
    cases w with
    | cons d w => exact hc
    | nil =>
      cases v with
      | nil => simp
      | cons d v =>
        intro hd
        obtain rfl : d = ':' := Option.some.inj hd
        exact absurd (h.head ':' rfl) (by decide)
  rcases h.exists_line with hno | ⟨v, g', rfl, hv, hg'⟩
  · have hgap : Gap [] ('#' :: (w ++ g)) := .comment (by simp [hw, hno]) (hcolon g [] (by simp)) (by simp)
    have hs : Scans [] k ('#' :: (w ++ g) ++ []) [] (k.pass ('#' :: (w ++ g))) := .skip hgap .done
    rw [List.append_nil] at hs
    exact ⟨_, hs, rfl⟩
  · have hgap : Gap ('\n' :: g' ++ []) ('#' :: (w ++ v)) := .comment (by simp [hw, hv]) (hcolon v _ rfl) (by simp)
    obtain ⟨l, hs, hr⟩ := hg'.scans (b := []) ((k.pass ('#' :: (w ++ v))).pass ['\n'])
    have hline : Scans [] (k.pass ('#' :: (w ++ v))) ('\n' :: g') [] l := .skip (u := ['\n']) (.blank rfl) hs
    refine ⟨l, ?_, hr⟩
    have := Scans.skip hgap hline
    simpa using this

end Filler

/-! ## Before the place -/

/-- A lexeme stays one if blanks or comments are put behind the text that it stands in. -/
theorem Cursor.lex?_insert {k : Cursor} {u a b g : List Char} {t : Terminal}
    (h : k.lex? (u ++ (a ++ b)) = some (t, u.length)) (hg : Filler g) (hne : g ≠ []) (hd : t = .doc → a ≠ []) :
    k.lex? (u ++ (a ++ (g ++ b))) = some (t, u.length) := by
  have haccepts := (Terminal.lex?_eq_some h).1
  have hu := Terminal.heads_of_lex? h
  by_cases ht : t.IsCompact
  · -- by way of a text whose line ends at the place
    rw [Cursor.lex?, ← List.append_assoc] at h
    have hcut := Terminal.lex?_cut (s := []) h (by simp)
    rw [List.append_assoc] at hcut
    exact Terminal.lex?_parts hcut ht (by simp [Parts, isParting, isBlank]) (hg.parts hne)
  · rcases Terminal.not_isCompact ht with rfl | rfl
    · obtain ⟨c, a, rfl⟩ := List.exists_cons_of_ne_nil (hd rfl)
      obtain rfl := hu.line_end c rfl
      obtain ⟨w, rfl, hw⟩ := hu.holds
      exact (Solid.doc hw (by simp)).lexed _ haccepts
    · obtain ⟨w, rfl, hw⟩ := hu.holds
      exact (Solid.quoted hw).lexed _ haccepts

/-- Blanks and comments are passed over behind a text whose end is no line feed, and within no documentation line. -/
theorem Scans.insert {b g cs : List Char} {k k' : Cursor} {ts : List Token} (h : Scans b k cs ts k') (hg : Filler g)
    (hne : g ≠ []) (hb : ∀ c ∈ b.head?, c ≠ '\n') (hend : b = [] → k'.reader.finish? ≠ none) :
    ∃ l, Scans b k (cs ++ g) ts l ∧ l.reader = k'.reader := by
  have last : (∀ c ∈ b.head?, c = '\n') → b = [] := fun h => by
    cases b with
    | nil => rfl
    | cons c b => exact absurd (h c rfl) (hb c rfl)
  induction h with
  | @done k => exact hg.scans k
  | @skip k k' u cs ts hgap hs ih =>
    obtain ⟨l, hs', hr⟩ := ih hend
    rw [List.append_assoc]
    cases hgap with
    | blank hc => exact ⟨l, .skip (.blank hc) hs', hr⟩
    | @comment w hw hh hline =>
      cases cs with
      | nil =>
        -- a comment that ends with the text takes in what is put there, up to a line feed
        obtain rfl := last hline
        obtain ⟨rfl, rfl⟩ := hs.of_nil
        exact hg.scans_comment hw hh k
      | cons c cs => exact ⟨l, .skip (.comment hw hh hline) hs', hr⟩
  | @take k k' u cs t r ts h0 hl hst hs ih =>
    obtain ⟨l, hs', hr⟩ := ih hend
    have hu := Terminal.heads_of_lex? hl
    have hdoc : t = .doc → cs ≠ [] := by
      -- a file does not end with a documentation line
      rintro rfl rfl
      obtain rfl := last hu.line_end
      obtain ⟨-, rfl⟩ := hs.of_nil
      exact hend rfl (TakesDoc.of_step rfl hst).finish?_eq
    rw [List.append_assoc]
    have hlex := Cursor.lex?_insert hl hg hne hdoc
    rw [← List.append_assoc cs] at hlex
    exact ⟨l, .take (skipWidth_of_token h0 hu.holds) hlex hst hs', hr⟩

/-! ## Texts -/

/-- A token starts here, or the text ends. -/
def IsBoundary (ts : List Token) (a b : List Char) : Prop :=
  b = [] ∨ ∃ t ∈ ts, t.position = Position.start.after a

theorem not_newline_of_skipWidth {cs : List Char} (h : skipWidth cs = 0) : ∀ c ∈ cs.head?, c ≠ '\n' := by
  rintro c hc rfl
  obtain ⟨cs, rfl⟩ : ∃ cs', cs = '\n' :: cs' := List.head?_eq_some_iff.mp hc
  cases h

theorem Scans.parted {file : Option String} {a b g : List Char} {ts : List Token} {k : Cursor}
    (h : Scans [] (.start file) (a ++ b) ts k) (hend : k.reader.finish? ≠ none) (hb : IsBoundary ts a b)
    (hg : Filler g) (hne : g ≠ []) :
    ∃ us l, Scans [] (.start file) (a ++ g ++ b) us l ∧ us.map Token.unplaced = ts.map Token.unplaced := by
  rcases hb with rfl | ⟨t, ht, hp⟩
  · rw [List.append_nil] at h
    obtain ⟨l, hs, -⟩ := h.insert hg hne (by simp) fun _ => hend
    exact ⟨ts, l, by rwa [List.append_nil], rfl⟩
  · -- the scan is cut before the token, and what is behind it is scanned elsewhere
    obtain ⟨us, vs, rfl⟩ := List.append_of_mem ht
    obtain ⟨a', u, b', r, l, hab, hs, ht, h0, hl, hst, hs'⟩ := h.exists_token rfl
    rw [ht] at hp
    obtain rfl : a' = a := Position.eq_of_after_eq hab.symm (hs.position_eq.symm.trans hp)
    obtain rfl : b = u ++ b' := List.append_cancel_left hab
    have hu := (Terminal.heads_of_lex? hl).holds.ne_nil
    obtain ⟨l', hinsert, hr⟩ := hs.insert hg hne (not_newline_of_skipWidth h0) (by simp [hu])
    have hrest : Scans [] l (u ++ b') (l.token t.terminal u :: vs) k := .take h0 hl (ht ▸ hst) hs'
    have hsame : l.reader.erased true = l'.reader.erased true := by rw [hr]
    obtain ⟨ws, k', hrest', hws, -⟩ := hrest.elsewhere hsame
    rw [← List.append_assoc u] at hinsert
    refine ⟨us ++ ws, k', hinsert.append hrest', ?_⟩
    rw [List.map_append, List.map_append, hws, ← ht]

/-- A text that is scanned as a sentence, but for the places, is parsed as what the sentence denotes. -/
theorem parse_of_unplaced {text : String} {file : Option String} {ts us : List Token} {k : Cursor}
    {ds : List Declaration} (h : Scans [] (.start file) text.toList us k) (hf : Grammar.IsFile file ts ds)
    (hu : us.map Token.unplaced = ts.map Token.unplaced) (hnames : Naming.check ds = .ok ()) :
    ∃ ds', parse text file = .ok ds' ∧ ds'.map Declaration.unlocated = ds.map Declaration.unlocated := by
  obtain ⟨r, hr, hds⟩ := Grammar.steps_of_isFile hf
  have hstart : (Reader.start file).erased true = (Reader.start file).erased true := rfl
  obtain ⟨r', hr', he⟩ := Reader.steps_congr hstart hu.symm hr
  obtain rfl := Option.some.inj (hr'.symm.trans h.steps_eq)
  obtain ⟨ds', hds', hsame⟩ := Reader.finish?_congr he hds
  have hread : readDeclarations text file = .ok ds' :=
    (Cursor.run_eq_ok_iff (k := .start file)).mpr ⟨us, k, h, hds'⟩
  refine ⟨ds', ?_, hsame⟩
  rw [parse_of_read hread, Naming.check_of_unlocated hsame hnames]
  rfl

/-- Blanks and comments before a token, or at the end of a text, change nothing but places. -/
theorem parse_layout {text : String} {file : Option String} {ds : List Declaration}
    (h : parse text file = .ok ds) :
    ∃ ts k, Scans [] (.start file) text.toList ts k ∧
      (∀ us l, Scans [] (.start file) text.toList us l → us = ts) ∧
      ∀ a b g : String, text = a ++ b → IsBoundary ts a.toList b.toList → Filler g.toList →
        ∃ ds', parse (a ++ g ++ b) file = .ok ds' ∧
          ds'.map Declaration.unlocated = ds.map Declaration.unlocated := by
  obtain ⟨hread, hnames⟩ := readDeclarations_of_parse h
  obtain ⟨ts, k, hs, hf⟩ := (Cursor.run_eq_ok_iff (k := .start file)).mp hread
  have hfile : Grammar.IsFile file ts ds := Grammar.isFile_of_steps hs.steps_eq hf
  refine ⟨ts, k, hs, fun us l hs' => (hs.unique hs').1, ?_⟩
  rintro a b g rfl hb hg
  by_cases hne : g = ""
  · subst hne
    exact ⟨ds, by rwa [String.append_empty], rfl⟩
  · rw [String.toList_append] at hs
    obtain ⟨us, l, hs', hu⟩ := hs.parted (by simp [hf]) hb hg (by simpa using hne)
    rw [← String.toList_append, ← String.toList_append] at hs'
    exact parse_of_unplaced hs' hfile hu hnames

def gluedTokens : List Token :=
  [⟨.record, "record", ⟨1, 1⟩⟩, ⟨.name, "User", ⟨1, 7⟩⟩, ⟨.openBrace, "\x7b", ⟨1, 11⟩⟩,
    ⟨.closeBrace, "\x7d", ⟨1, 12⟩⟩]

theorem scans_gluedTokens :
    ∃ k, Scans [] (.start none) ("record" ++ "User\x7b\x7d").toList gluedTokens k :=
  ⟨_, @Scans.take [] _ _ "record".toList "User\x7b\x7d".toList _ _ _ rfl (by cbv) rfl
    (@Scans.take [] _ _ "User".toList "\x7b\x7d".toList _ _ _ rfl (by cbv) rfl
      (@Scans.take [] _ _ ['\x7b'] ['\x7d'] _ _ _ rfl (by cbv) rfl
        (@Scans.take [] _ _ ['\x7d'] [] _ _ _ rfl (by cbv) rfl .done)))⟩

theorem parse_layout_glued :
    parse "recordUser\x7b\x7d" none = .ok [{ kind := .record, name := "User", location := some ⟨1, 7, none⟩ }] ∧
      ∃ ds', parse ("record" ++ " #a\n\t" ++ "User\x7b\x7d") none = .ok ds' ∧
        ds'.map Declaration.unlocated = [{ kind := .record, name := "User" }] := by
  have h : parse "recordUser\x7b\x7d" none =
      .ok [{ kind := .record, name := "User", location := some ⟨1, 7, none⟩ }] := by cbv
  obtain ⟨k, hs⟩ := scans_gluedTokens
  obtain ⟨ts, -, -, hunique, hall⟩ := parse_layout h
  obtain rfl := hunique _ k hs
  have hb : IsBoundary gluedTokens "record".toList "User\x7b\x7d".toList :=
    .inr ⟨⟨.name, "User", ⟨1, 7⟩⟩, by simp [gluedTokens], rfl⟩
  have hg : Filler " #a\n\t".toList :=
    .blank rfl (@Filler.comment ['a'] ['\t'] (by decide) (by decide) (.blank rfl .nil))
  exact ⟨h, hall "record" "User\x7b\x7d" " #a\n\t" rfl hb hg⟩

end DomainModel
