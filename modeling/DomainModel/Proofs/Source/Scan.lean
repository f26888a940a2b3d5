import DomainModel.Source.Scan
import DomainModel.Proofs.Source.Lexeme

/-!
# Scanning

`Scans rest k cs ts k'` says that a reader at the place `k` takes the text `cs`, with `rest` behind
it, as the tokens `ts`, and is at `k'` then. `run_eq_ok_iff` and `run_eq_error` say what a run is
in these terms. A scan stays as it is when the text behind it is replaced by one on a new line
(`Scans.cut`).
-/

namespace DomainModel

namespace Terminal

/-! ## The terminal at the head of a text -/

/-- The first terminal of a list that has a lexeme at the head of a text. -/
def first? (l : List Terminal) (cs : List Char) : Option (Terminal × Nat) :=
  l.findSome? fun t => (t.width? cs).map (t, ·)

theorem lex?_eq (accepts : Terminal → Bool) (cs : List Char) :
    lex? accepts cs = (first? (inOrder.filter accepts) cs).map fun f =>
      (if f.1 = name then ofWord accepts (cs.take f.2) else f.1, f.2) := by
  unfold lex? first?
  cases h : (inOrder.filter accepts).findSome? fun t => (t.width? cs).map (t, ·) with
  | none => rfl
  | some f =>
    obtain ⟨t, n⟩ := f
    cases t <;> rfl

theorem first?_eq_some {l : List Terminal} {cs : List Char} {t : Terminal} {n : Nat}
    (h : first? l cs = some (t, n)) : t ∈ l ∧ t.width? cs = some n := by
  obtain ⟨t', ht', he⟩ := List.exists_of_findSome?_eq_some h
  cases hw : t'.width? cs with
  | none => rw [hw] at he; cases he
  | some m =>
    rw [hw] at he
    cases he
    exact ⟨ht', hw⟩

theorem ofWord_spec (accepts : Terminal → Bool) (w : List Char) :
    ofWord accepts w = name ∨ accepts (ofWord accepts w) = true ∧
      ofWord accepts w ∈ keywords ∧ (ofWord accepts w).spelling = w := by
  unfold ofWord
  cases h : keywords.find? fun k => accepts k && k.spelling = w with
  | none => exact .inl rfl
  | some k =>
    have hk := List.find?_some h
    simp only [Bool.and_eq_true, decide_eq_true_eq] at hk
    exact .inr ⟨hk.1, List.mem_of_find?_eq_some h, hk.2⟩

theorem width?_of_mem_keywords {k : Terminal} (hk : k ∈ keywords) (cs : List Char) :
    k.width? cs = spellingWidth? k.spelling cs := by
  simp only [keywords, List.mem_cons, List.not_mem_nil, or_false] at hk
  rcases hk with rfl | rfl | rfl | rfl <;> rfl

/-- What is found is acceptable, and its lexeme is the longest of its terminal. -/
theorem lex?_eq_some {accepts : Terminal → Bool} {cs : List Char} {t : Terminal} {n : Nat}
    (h : lex? accepts cs = some (t, n)) : accepts t = true ∧ t.width? cs = some n := by
  rw [lex?_eq] at h
  obtain ⟨⟨t', m⟩, hf, he⟩ := Option.map_eq_some_iff.mp h
  obtain ⟨hmem, hw⟩ := first?_eq_some hf
  cases he
  dsimp only
  by_cases hn : t' = name
  · subst hn
    rw [if_pos rfl]
    rcases ofWord_spec accepts (cs.take m) with h | ⟨ha, hk, hs⟩
    · rw [h]
      exact ⟨(List.mem_filter.mp hmem).2, hw⟩
    · have hl := (length_of_width? hw).2
      refine ⟨ha, ?_⟩
      rw [width?_of_mem_keywords hk, spellingWidth?, hs, if_pos, List.length_take, Nat.min_eq_left hl]
      exact List.isPrefixOf_iff_prefix.mpr (List.take_prefix m cs)
  · rw [if_neg hn]
    exact ⟨(List.mem_filter.mp hmem).2, hw⟩

theorem heads_of_lex? {accepts : Terminal → Bool} {u cs : List Char} {t : Terminal}
    (h : lex? accepts (u ++ cs) = some (t, u.length)) : Heads t.Matches (u ++ cs) u := by
  have hm := width?_measured t (u ++ cs)
  rw [(lex?_eq_some h).2] at hm
  obtain ⟨v, hv, hlen⟩ := hm
  have : v = u := by rw [List.prefix_iff_eq_take.mp hv.isPrefix, hlen, List.take_left]
  exact this ▸ hv

section
variable {accepts : Terminal → Bool} {a b s : List Char} {t : Terminal} {n : Nat}

theorem first?_cut {l : List Terminal} (h : first? l (a ++ b) = some (t, n)) (hn : n ≤ a.length) :
    first? l (a ++ '\n' :: s) = some (t, n) := by
  induction l with
  | nil => cases h
  | cons x l ih =>
    unfold first? at h ih ⊢
    rw [List.findSome?_cons] at h ⊢
    cases hx : x.width? (a ++ b) with
    | none =>
      rw [hx] at h
      rw [width?_cut_none hx]
      exact ih h
    | some m =>
      rw [hx] at h
      cases h
      rw [width?_cut hx hn]
      rfl

theorem first?_cut_none {l : List Terminal} (h : first? l (a ++ b) = none) :
    first? l (a ++ '\n' :: s) = none := by
  unfold first? at h ⊢
  rw [List.findSome?_eq_none_iff] at h ⊢
  intro x hx
  rw [Option.map_eq_none_iff] at *
  exact width?_cut_none (Option.map_eq_none_iff.mp (h x hx))

theorem lex?_cut (h : lex? accepts (a ++ b) = some (t, n)) (hn : n ≤ a.length) :
    lex? accepts (a ++ '\n' :: s) = some (t, n) := by
  rw [lex?_eq] at h ⊢
  obtain ⟨⟨t', m⟩, hf, he⟩ := Option.map_eq_some_iff.mp h
  cases he
  rw [first?_cut hf hn, Option.map_some]
  dsimp only
  rw [List.take_append_of_le_length hn, List.take_append_of_le_length hn]

theorem lex?_cut_none (h : lex? accepts (a ++ b) = none) : lex? accepts (a ++ '\n' :: s) = none := by
  rw [lex?_eq, Option.map_eq_none_iff] at h ⊢
  exact first?_cut_none h

end

theorem Matches.behind_hash {t : Terminal} {w : List Char} (h : t.Matches ('#' :: w)) :
    w.head? = some ':' := by
  cases t with
  | name =>
    obtain ⟨c, cs, he, hc, -⟩ := h
    cases he
    cases hc
  | doc =>
    obtain ⟨cs, he, -⟩ := h
    cases he
    rfl
  | string => obtain ⟨_, h, _⟩ := h; cases h
  | number =>
    obtain ⟨s, u, he, hs, hu⟩ := h
    cases hs with
    | plus => cases he
    | minus => cases he
    | none =>
      cases hu with
      | @whole d e hd hne _ =>
        cases d with
        | nil => exact absurd rfl hne
        | cons c d => cases he; cases hd '#' (by simp)
      | @decimal x y e hx _ _ _ =>
        cases x with
        | nil => cases he
        | cons c d => cases he; cases hx '#' (by simp)
  | _ => cases h

end Terminal

/-! ## What is passed over -/

/-- What is passed over before a rest of the text: a blank, or a comment up to the end of its
line. -/
inductive Gap (rest : List Char) : List Char → Prop
  | blank {c : Char} : isBlank c = true → Gap rest [c]
  | comment {w : List Char} : '\n' ∉ w → w.head? ≠ some ':' → (∀ c ∈ rest.head?, c = '\n') →
      Gap rest ('#' :: w)

theorem Gap.ne_nil {rest u : List Char} (h : Gap rest u) : u ≠ [] := by
  cases h <;> simp

theorem Gap.cut {a b s u : List Char} (h : Gap (a ++ b) u) : Gap (a ++ '\n' :: s) u := by
  cases h with
  | blank hc => exact .blank hc
  | comment hw hh hr =>
    refine .comment hw hh ?_
    cases a with
    | nil => simp
    | cons c a => exact hr

theorem lineWidth_append {w rest : List Char} (hw : '\n' ∉ w) (hr : ∀ c ∈ rest.head?, c = '\n') :
    Terminal.lineWidth (w ++ rest) = w.length := by
  rw [Terminal.lineWidth, Terminal.takeWhile_run]
  · intro c hc
    simpa using fun h : c = '\n' => hw (h ▸ hc)
  · intro c hc
    simp [hr c hc]

theorem skipWidth_eq_of_gap {rest u : List Char} (h : Gap rest u) : skipWidth (u ++ rest) = u.length := by
  cases h with
  | @blank c hc => simp [skipWidth, hc]
  | @comment w hw hh hr =>
    have hb : isBlank '#' = false := rfl
    rw [List.cons_append, skipWidth, hb, if_neg (by simp), commentWidth, lineWidth_append hw hr,
      List.length_cons]
    rintro cs he
    cases w with
    | nil => cases rest with
      | nil => cases he
      | cons c rest =>
        cases he
        cases hr ':' rfl
    | cons c w =>
      cases he
      exact hh rfl

theorem exists_gap_of_skipWidth {cs : List Char} {n : Nat} (h : skipWidth cs = n + 1) :
    ∃ u rest, cs = u ++ rest ∧ u.length = n + 1 ∧ Gap rest u := by
  cases cs with
  | nil => cases h
  | cons c cs =>
    rw [skipWidth] at h
    by_cases hc : isBlank c = true
    · rw [if_pos hc] at h
      exact ⟨[c], cs, rfl, h, .blank hc⟩
    · rw [if_neg hc] at h
      unfold commentWidth at h
      split at h
      · cases h
      · next cs' hno he =>
        cases he
        obtain ⟨w, rest, rfl, hw, hall, hr⟩ := Terminal.exists_run (· ≠ '\n') cs
        rw [Terminal.lineWidth, hw] at h
        refine ⟨'#' :: w, rest, rfl, h, .comment ?_ ?_ ?_⟩
        · exact fun hm => by simpa using hall _ hm
        · intro hh
          obtain ⟨v, rfl⟩ : ∃ v, w = ':' :: v := by
            cases w with
            | nil => cases hh
            | cons d v => cases hh; exact ⟨v, rfl⟩
          exact hno _ rfl
        · exact fun d hd => by simpa using hr d hd
      · cases h

theorem skipWidth_of_token {cs ds u : List Char} {t : Terminal} (h : skipWidth (u ++ cs) = 0)
    (hu : t.Matches u) : skipWidth (u ++ ds) = 0 := by
  cases u with
  | nil => exact absurd rfl hu.ne_nil
  | cons c u =>
    rw [List.cons_append, skipWidth] at h ⊢
    by_cases hc : isBlank c = true
    · rw [if_pos hc] at h
      cases h
    · rw [if_neg hc] at h ⊢
      unfold commentWidth
      split
      · rfl
      · next cs hno he =>
        obtain ⟨rfl, rfl⟩ := List.cons.inj he
        cases u with
        | nil => cases hu.behind_hash
        | cons d u =>
          obtain rfl : d = ':' := Option.some.inj hu.behind_hash
          exact absurd rfl (hno _)
      · rfl

/-! ## Scans -/

/-- A reader, its place, and the place of the token that it took last. -/
structure Cursor where
  reader : Reader
  position : Position
  last : Position

namespace Cursor

def start (file : Option String) : Cursor := ⟨.start file, .start, .start⟩

def pass (k : Cursor) (u : List Char) : Cursor := { k with position := k.position.after u }

def token (k : Cursor) (t : Terminal) (u : List Char) : Token := ⟨t, String.ofList u, k.position⟩

def run (k : Cursor) (cs : List Char) : Except SyntaxError (List Declaration) :=
  k.reader.run k.position k.last cs

/-- The acceptable terminal at the head of a text, and the length of its lexeme. -/
def lex? (k : Cursor) (cs : List Char) : Option (Terminal × Nat) :=
  Terminal.lex? k.reader.context.accepts cs

end Cursor

/-- A reader takes a text, with a rest behind it, as tokens. -/
inductive Scans (rest : List Char) : Cursor → List Char → List Token → Cursor → Prop
  | done {k : Cursor} : Scans rest k [] [] k
  | skip {k k' : Cursor} {u cs : List Char} {ts : List Token} : Gap (cs ++ rest) u →
      Scans rest (k.pass u) cs ts k' → Scans rest k (u ++ cs) ts k'
  | take {k k' : Cursor} {u cs : List Char} {t : Terminal} {r : Reader} {ts : List Token} :
      skipWidth (u ++ (cs ++ rest)) = 0 → k.lex? (u ++ (cs ++ rest)) = some (t, u.length) →
      k.reader.step (k.token t u) = some r →
      Scans rest ⟨r, k.position.after u, k.position⟩ cs ts k' →
      Scans rest k (u ++ cs) (k.token t u :: ts) k'

/-- A run stops where no acceptable token stands, or at one that does not fit. -/
inductive Stops (k : Cursor) : List Char → SyntaxError → Prop
  | unread {c : Char} {cs : List Char} : skipWidth (c :: cs) = 0 → k.lex? (c :: cs) = none →
      Stops k (c :: cs) (Reader.refuse k.position c cs)
  | unfit {u cs : List Char} {t : Terminal} : skipWidth (u ++ cs) = 0 →
      k.lex? (u ++ cs) = some (t, u.length) → k.reader.step (k.token t u) = none →
      Stops k (u ++ cs) ⟨.unexpectedToken (String.ofList u), k.position⟩

namespace Cursor
variable {k : Cursor} {u rest cs : List Char} {t : Terminal} {r : Reader} {e : SyntaxError}

theorem run_nil (k : Cursor) : k.run [] =
    match k.reader.finish? with
    | some ds => .ok ds
    | none => .error ⟨.unexpectedEnd, k.last⟩ := by
  cases hf : k.reader.finish? <;> simp [run, Reader.run, hf]

theorem run_skip (h : Gap rest u) : k.run (u ++ rest) = (k.pass u).run rest := by
  have hw := skipWidth_eq_of_gap h
  cases u with
  | nil => exact absurd rfl h.ne_nil
  | cons c u =>
    rw [List.cons_append, List.length_cons] at hw
    rw [run, List.cons_append, Reader.run, hw]
    simp [pass, run]

theorem run_token (h0 : skipWidth (u ++ rest) = 0) (hl : k.lex? (u ++ rest) = some (t, u.length)) :
    k.run (u ++ rest) =
      match k.reader.step (k.token t u) with
      | some r => run ⟨r, k.position.after u, k.position⟩ rest
      | none => .error ⟨.unexpectedToken (String.ofList u), k.position⟩ := by
  have hpos := (Terminal.length_of_width? (Terminal.lex?_eq_some hl).2).1
  cases u with
  | nil => cases hpos
  | cons c u =>
    rw [lex?, List.cons_append] at hl
    rw [List.cons_append] at h0
    rw [run, List.cons_append, Reader.run, h0, hl]
    simp only [token, List.length_cons, List.take_succ_cons, List.take_left, Nat.add_sub_cancel,
      List.drop_left]
    cases k.reader.step ⟨t, String.ofList (c :: u), k.position⟩ <;> rfl

theorem run_of_stops (h : Stops k cs e) : k.run cs = .error e := by
  cases h with
  | @unread c cs h0 hl =>
    rw [lex?] at hl
    rw [run, Reader.run, h0, hl]
  | unfit h0 hl hs => rw [run_token h0 hl, hs]

end Cursor

namespace Scans
variable {rest a b s cs ds : List Char} {k k' k'' : Cursor} {ts us : List Token}

theorem run_eq (h : Scans rest k cs ts k') : k.run (cs ++ rest) = k'.run rest := by
  induction h with
  | done => rfl
  | skip hg _ ih => rw [List.append_assoc, Cursor.run_skip hg, ih]
  | take h0 hl hs _ ih =>
    rw [List.append_assoc, Cursor.run_token h0 hl, hs]
    exact ih

theorem append (h : Scans (b ++ rest) k a ts k') (h' : Scans rest k' b us k'') :
    Scans rest k (a ++ b) (ts ++ us) k'' := by
  induction h with
  | done => exact h'
  | skip hg _ ih =>
    rw [List.append_assoc]
    exact .skip (by rwa [List.append_assoc]) (ih h')
  | take h0 hl hs _ ih =>
    rw [List.append_assoc, List.cons_append]
    exact .take (by rwa [List.append_assoc]) (by rwa [List.append_assoc]) hs (ih h')

/-- A scan does not see past the end of the line that it ends on. -/
theorem cut (h : Scans (a ++ b) k cs ts k') : Scans (a ++ '\n' :: s) k cs ts k' := by
  induction h with
  | done => exact .done
  | @skip k k' u cs ts hg _ ih =>
    rw [← List.append_assoc] at hg
    have := hg.cut (s := s)
    rw [List.append_assoc] at this
    exact .skip this ih
  | @take k k' u cs t r ts h0 hl hs _ ih =>
    -- no lexeme has a line feed, so the one that is found ends before the cut
    have hm := Terminal.heads_of_lex? hl
    refine .take (skipWidth_of_token h0 hm.holds) ?_ hs ih
    rw [Cursor.lex?, ← List.append_assoc cs, ← List.append_assoc u] at hl
    rw [Cursor.lex?, ← List.append_assoc cs, ← List.append_assoc u]
    exact Terminal.lex?_cut hl (by simp)

theorem position_eq (h : Scans rest k cs ts k') : k'.position = k.position.after cs := by
  induction h with
  | done => rfl
  | skip _ _ ih => rw [ih, Position.after_append]; rfl
  | take _ _ _ _ ih => rw [ih, Position.after_append]

theorem of_nil (h : Scans rest k [] ts k') : ts = [] ∧ k' = k := by
  generalize he : ([] : List Char) = cs at h
  cases h with
  | done => exact ⟨rfl, rfl⟩
  | skip hg _ => exact absurd (List.append_eq_nil_iff.mp he.symm).1 hg.ne_nil
  | take _ hl _ _ => exact absurd (List.append_eq_nil_iff.mp he.symm).1 (Terminal.heads_of_lex? hl).holds.ne_nil

/-- A text is scanned in one way only. -/
theorem unique (h : Scans rest k cs ts k') (h' : Scans rest k cs us k'') : us = ts ∧ k'' = k' := by
  induction h generalizing us k'' with
  | done => exact h'.of_nil
  | @skip k k' u cs ts hg _ ih =>
    have hw := skipWidth_eq_of_gap hg
    generalize he : u ++ cs = x at h'
    cases h' with
    | done => exact absurd (List.append_eq_nil_iff.mp he).1 hg.ne_nil
    | @skip _ _ v ds _ hg' hs =>
      have hw' := skipWidth_eq_of_gap hg'
      rw [← List.append_assoc, ← he, List.append_assoc, hw] at hw'
      obtain ⟨rfl, rfl⟩ := List.append_inj he hw'
      exact ih hs
    | take h0 _ _ _ =>
      rw [← List.append_assoc, ← he, List.append_assoc, hw] at h0
      exact absurd (List.length_eq_zero_iff.mp h0) hg.ne_nil
  | @take k k' u cs t r ts h0 hl hst _ ih =>
    generalize he : u ++ cs = x at h'
    cases h' with
    | done => exact absurd (List.append_eq_nil_iff.mp he).1 (Terminal.heads_of_lex? hl).holds.ne_nil
    | skip hg' _ =>
      have hw' := skipWidth_eq_of_gap hg'
      rw [← List.append_assoc, ← he, List.append_assoc, h0] at hw'
      exact absurd (List.length_eq_zero_iff.mp hw'.symm) hg'.ne_nil
    | @take _ _ v ds _ _ _ _ hl' hst' hs =>
      rw [← List.append_assoc, ← he, List.append_assoc, hl] at hl'
      obtain ⟨rfl, hlen⟩ := Prod.mk.inj (Option.some.inj hl')
      obtain ⟨rfl, rfl⟩ := List.append_inj he hlen
      obtain rfl := Option.some.inj (hst.symm.trans hst')
      obtain ⟨rfl, hk⟩ := ih hs
      exact ⟨rfl, hk⟩

theorem exists_token {t : Token} {vs : List Token} (h : Scans rest k cs ts k') (hts : ts = us ++ t :: vs) :
    ∃ a u b r l, cs = a ++ (u ++ b) ∧ Scans (u ++ (b ++ rest)) k a us l ∧ t = l.token t.terminal u ∧
      skipWidth (u ++ (b ++ rest)) = 0 ∧ l.lex? (u ++ (b ++ rest)) = some (t.terminal, u.length) ∧
      l.reader.step t = some r ∧ Scans rest ⟨r, l.position.after u, l.position⟩ b vs k' := by
  induction h generalizing us with
  | done => simp at hts
  | @skip k k' v cs ts hg _ ih =>
    obtain ⟨a, u, b, r, l, rfl, hs, ht⟩ := ih hts
    refine ⟨v ++ a, u, b, r, l, by rw [List.append_assoc], .skip ?_ hs, ht⟩
    simpa using hg
  | @take k k' v cs x r ts h0 hl hst hs ih =>
    cases us with
    | nil =>
      obtain ⟨rfl, rfl⟩ := List.cons.inj hts
      exact ⟨[], v, cs, r, k, rfl, .done, rfl, h0, hl, hst, hs⟩
    | cons y us =>
      obtain ⟨rfl, rfl⟩ := List.cons.inj hts
      obtain ⟨a, u, b, r', l, rfl, hs', ht⟩ := ih rfl
      refine ⟨v ++ a, u, b, r', l, by rw [List.append_assoc], .take ?_ ?_ hst hs', ht⟩
      · simpa using h0
      · simpa using hl

end Scans

def Reader.steps (r : Reader) : List Token → Option Reader
  | [] => some r
  | t :: ts => (r.step t).bind (·.steps ts)

theorem Scans.steps_eq {rest cs : List Char} {k k' : Cursor} {ts : List Token}
    (h : Scans rest k cs ts k') : k.reader.steps ts = some k'.reader := by
  induction h with
  | done => rfl
  | skip _ _ ih => exact ih
  | take _ _ hs _ ih => rw [Reader.steps, hs]; exact ih

/-- A text is scanned to its end or up to a place where a run stops. -/
theorem exists_scan (k : Cursor) (cs : List Char) :
    ∃ a b ts k', cs = a ++ b ∧ Scans b k a ts k' ∧ (b = [] ∨ ∃ e, Stops k' b e) := by
  match cs with
  | [] => exact ⟨[], [], [], k, rfl, .done, .inl rfl⟩
  | c :: cs =>
    cases hw : skipWidth (c :: cs) with
    | succ n =>
      obtain ⟨u, rest, hcs, hlen, hg⟩ := exists_gap_of_skipWidth hw
      have : rest.length < cs.length + 1 := by rw [← List.length_cons, hcs, List.length_append]; omega
      obtain ⟨a, b, ts, k', rfl, hs, hb⟩ := exists_scan (k.pass u) rest
      exact ⟨u ++ a, b, ts, k', by rw [hcs, List.append_assoc], .skip hg hs, hb⟩
    | zero =>
      cases hl : k.lex? (c :: cs) with
      | none => exact ⟨[], c :: cs, [], k, rfl, .done, .inr ⟨_, .unread hw hl⟩⟩
      | some f =>
        obtain ⟨t, n⟩ := f
        obtain ⟨hpos, hle⟩ := Terminal.length_of_width? (Terminal.lex?_eq_some hl).2
        have hcs : c :: cs = (c :: cs).take n ++ (c :: cs).drop n := (List.take_append_drop n _).symm
        have hn : n = ((c :: cs).take n).length := by rw [List.length_take, Nat.min_eq_left hle]
        rw [hn] at hl
        generalize hu : (c :: cs).take n = u at *
        generalize hrest : (c :: cs).drop n = rest at *
        rw [hcs] at hw hl ⊢
        cases hst : k.reader.step (k.token t u) with
        | none => exact ⟨[], u ++ rest, [], k, rfl, .done, .inr ⟨_, .unfit hw hl hst⟩⟩
        | some r =>
          have : rest.length < cs.length + 1 := by rw [← List.length_cons, hcs, List.length_append]; omega
          obtain ⟨a, b, ts, k', rfl, hs, hb⟩ := exists_scan ⟨r, k.position.after u, k.position⟩ rest
          exact ⟨u ++ a, b, _, k', by rw [List.append_assoc], .take hw hl hst hs, hb⟩
termination_by cs.length

theorem Cursor.run_eq_ok_iff {k : Cursor} {cs : List Char} {ds : List Declaration} :
    k.run cs = .ok ds ↔ ∃ ts k', Scans [] k cs ts k' ∧ k'.reader.finish? = some ds := by
  constructor
  · intro h
    obtain ⟨a, b, ts, k', rfl, hs, hb⟩ := exists_scan k cs
    rw [hs.run_eq] at h
    rcases hb with rfl | ⟨e, he⟩
    · rw [List.append_nil]
      rw [run_nil] at h
      cases hf : k'.reader.finish? with
      | none => rw [hf] at h; cases h
      | some ds' =>
        rw [hf] at h
        cases h
        exact ⟨ts, k', hs, hf⟩
    · rw [run_of_stops he] at h
      cases h
  · rintro ⟨ts, k', hs, hf⟩
    have := hs.run_eq
    rw [List.append_nil] at this
    rw [this, run_nil, hf]

theorem Cursor.run_eq_error {k : Cursor} {cs : List Char} {e : SyntaxError} (h : k.run cs = .error e) :
    (∃ ts k', Scans [] k cs ts k' ∧ e.fault = .unexpectedEnd) ∨
      ∃ a b ts k', cs = a ++ b ∧ Scans b k a ts k' ∧ Stops k' b e := by
  obtain ⟨a, b, ts, k', rfl, hs, hb⟩ := exists_scan k cs
  rw [hs.run_eq] at h
  rcases hb with rfl | ⟨e', he⟩
  · left
    rw [List.append_nil]
    rw [run_nil] at h
    cases hf : k'.reader.finish? with
    | some ds => rw [hf] at h; cases h
    | none =>
      rw [hf] at h
      cases h
      exact ⟨ts, k', hs, rfl⟩
  · right
    rw [run_of_stops he] at h
    cases h
    exact ⟨a, b, ts, k', rfl, hs, he⟩

end DomainModel
