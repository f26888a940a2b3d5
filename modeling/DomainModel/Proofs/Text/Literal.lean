import DomainModel.Text.Docstring
import DomainModel.Proofs.Text.Splitting

/-!
# Literals between triple quotes

`Quoting.step` reads a text as far as a literal between triple quotes goes, `Quoting.strictStep` does so only as long
as no backslash stands before anything but a backslash or a quote. To move the lines of a literal, and to clear blank
ones, makes no difference to either, since only blanks change that stand at the start of a line (`foldl_shifted`,
`foldl_clearBlank`, `foldl_indent`). The literal of documentation is read to its end (`strictRead_encode`).
-/

namespace DomainModel

/-! ## Machines that do not see blanks -/

/-- All blanks are alike to a machine, and it does not see more than one of them. -/
structure IsBlind {σ : Type} (step : σ → Char → σ) : Prop where
  alike : ∀ q c d, Lines.isSpace c = true → Lines.isSpace d = true → step q c = step q d
  settles : ∀ q c d, Lines.isSpace c = true → Lines.isSpace d = true → step (step q c) d = step q c

def IsSettled {σ : Type} (step : σ → Char → σ) (q : σ) : Prop := ∀ c, Lines.isSpace c = true → step q c = q

namespace IsBlind
variable {σ : Type} {step : σ → Char → σ} {q : σ} {cs : List Char}

theorem isSettled_feed (h : IsBlind step) (q : σ) : IsSettled step (step q '\n') :=
  fun c => h.settles q '\n' c (by decide)

theorem foldl_blanks (hq : IsSettled step q) (hcs : ∀ c ∈ cs, Lines.isSpace c = true) : cs.foldl step q = q := by
  induction cs with
  | nil => rfl
  | cons c cs ih =>
    rw [List.foldl_cons, hq c (hcs c List.mem_cons_self)]
    exact ih fun c hc => hcs c (List.mem_cons_of_mem _ hc)

theorem foldl_feed (step : σ → Char → σ) (q : σ) (a b : List Char) :
    (a ++ '\n' :: b).foldl step q = b.foldl step (step (a.foldl step q) '\n') := by
  rw [List.foldl_append, List.foldl_cons]

theorem foldl_join_congr (h : IsBlind step) {f : List Char → List Char}
    (hf : ∀ q, IsSettled step q → ∀ l : List Char, (f l).foldl step q = l.foldl step q) (ls : List (List Char))
    (hq : IsSettled step q) : (Lines.join (ls.map f)).foldl step q = (Lines.join ls).foldl step q := by
  induction ls generalizing q with
  | nil => rfl
  | cons l ls ih =>
    by_cases hls : ls = []
    · rw [hls, List.map_singleton, Lines.join_singleton, Lines.join_singleton, hf q hq]
    · rw [List.map_cons, Lines.join_cons _ (by simp [hls]), Lines.join_cons _ hls, foldl_feed, foldl_feed, hf q hq,
        ih (h.isSettled_feed _)]

theorem foldl_clearBlank (h : IsBlind step) (hq : IsSettled step q) (cs : List Char) :
    (Lines.clearBlank cs).foldl step q = cs.foldl step q := by
  rw [Lines.clearBlank, h.foldl_join_congr ?_ _ hq, Lines.join_splitFeeds]
  intro q hq l
  split
  · next hl =>
    refine (foldl_blanks hq fun c hc => ?_).symm
    have := List.all_eq_true.mp hl c hc
    simp only [Bool.or_eq_true, decide_eq_true_eq] at this
    rcases this with rfl | rfl <;> decide
  · rfl

theorem foldl_margin (hq : IsSettled step q) (cs : List Char) :
    (Lines.margin ++ cs).foldl step q = cs.foldl step q := by
  rw [List.foldl_append, foldl_blanks hq]
  exact fun c hc => by rw [List.eq_of_mem_replicate hc]; decide

theorem foldl_ends (h : IsBlind step) (q : σ) {s : List Char} (hs : Lines.Ends s cs) : s.foldl step q = step q '\n' := by
  have hblank : ∀ c ∈ s, Lines.isSpace c = true := fun c hc => Lines.isSpace_of_isBreak (hs.isBreak_of_mem c hc)
  obtain ⟨c, s, rfl⟩ := List.exists_cons_of_ne_nil hs.ne_nil
  have hc := hblank c List.mem_cons_self
  rw [List.foldl_cons, foldl_blanks (fun d hd => h.settles q c d hc hd) fun d hd => hblank d (List.mem_cons_of_mem _ hd),
    h.alike q c '\n' hc (by decide)]

/-- Ends of lines are read alike, whatever they are. A return at the end of the text is left out. -/
theorem foldl_split (h : IsBlind step) (q : σ) (hlast : cs.getLast? ≠ some '\r') :
    (Lines.join ((Lines.split (cs ++ ['\n'])).map Prod.fst)).foldl step q = cs.foldl step q := by
  induction cs using Lines.split_induction generalizing q with
  | nil => rfl
  | ends s cs hs ih =>
    have hcr : ¬(s = ['\r'] ∧ cs = []) := by
      rintro ⟨rfl, rfl⟩
      exact hlast rfl
    have hlast' : cs.getLast? ≠ some '\r' := by
      intro hcs
      rw [List.getLast?_append, hcs] at hlast
      exact hlast rfl
    have hne : (Lines.split (cs ++ ['\n'])).map Prod.fst ≠ [] := by
      simp [Lines.split_ne_nil]
    rw [List.append_assoc, (hs.append (.inl hcr)).split_eq, List.map_cons, Lines.join_cons _ hne, List.nil_append,
      List.foldl_cons, ih _ hlast', List.foldl_append, h.foldl_ends q hs]
  | other c cs hc ih =>
    have hlast' : cs.getLast? ≠ some '\r' := by
      intro hcs
      rw [List.getLast?_cons, hcs] at hlast
      exact hlast rfl
    have hne : cs ++ ['\n'] ≠ [] := by simp
    obtain ⟨x, rest, hx⟩ := List.exists_cons_of_ne_nil (Lines.split_ne_nil hne)
    have hread := ih (step q c) hlast'
    rw [hx, List.map_cons] at hread
    rw [List.cons_append, Lines.split_cons hc, hx, List.foldl_cons, ← hread, List.map_cons, ← List.foldl_cons]
    cases rest with
    | nil => simp only [List.map_nil, Lines.join_singleton]
    | cons y rest => rw [List.map_cons, Lines.join_cons _ (List.cons_ne_nil _ _), Lines.join_cons _ (List.cons_ne_nil _ _)]; rfl

theorem foldl_shifted (h : IsBlind step) (hq : IsSettled step q) (hlast : cs.getLast? ≠ some '\r') :
    (Lines.join (Lines.shifted cs)).foldl step q = cs.foldl step q := by
  have hmap : Lines.shifted cs = ((Lines.split (cs ++ ['\n'])).map Prod.fst).map Lines.shiftLine := by
    rw [List.map_map]
    rfl
  rw [hmap, h.foldl_join_congr ?_ _ hq, h.foldl_split q hlast]
  intro q hq l
  rw [Lines.shiftLine]
  split
  · rfl
  · exact foldl_margin hq l

theorem foldl_indent_of (hq : IsSettled step q) (h : ∀ line stop rest, Lines.split cs = (line, stop) :: rest →
    (line ++ (stop ++ rest.flatMap Lines.moved)).foldl step q = cs.foldl step q) :
    (Lines.indent cs).foldl step q = cs.foldl step q := by
  rw [Lines.indent_eq]
  cases hcs : Lines.split cs with
  | nil =>
    by_cases hnil : cs = []
    · rw [hnil]
      rfl
    · exact absurd hcs (Lines.split_ne_nil hnil)
  | cons x rest =>
    rw [List.flatMap_cons, Lines.moved, List.append_assoc, ← h x.1 x.2 rest hcs]
    split
    · rfl
    · rw [List.append_assoc, foldl_margin hq]

/-- A text of which all lines but the first are moved is read as the text is. -/
theorem foldl_moved (h : IsBlind step) (q : σ) (cs : List Char) {line stop : List Char}
    {rest : List (List Char × List Char)} (hcs : Lines.split cs = (line, stop) :: rest) :
    (line ++ (stop ++ rest.flatMap Lines.moved)).foldl step q = cs.foldl step q := by
  induction cs using Lines.split_induction generalizing q line stop rest with
  | nil => cases hcs
  | ends s cs hs ih =>
    rw [hs.split_eq, List.cons.injEq, Prod.mk.injEq] at hcs
    obtain ⟨⟨rfl, rfl⟩, rfl⟩ := hcs
    rw [List.nil_append, List.foldl_append, List.foldl_append, h.foldl_ends q hs, ← Lines.indent_eq]
    exact foldl_indent_of (h.isSettled_feed q) fun line stop rest => ih _
  | other c cs hc ih =>
    rw [Lines.split_cons hc] at hcs
    cases hsplit : Lines.split cs with
    | nil =>
      rw [hsplit, List.cons.injEq, Prod.mk.injEq] at hcs
      obtain ⟨⟨rfl, rfl⟩, rfl⟩ := hcs
      by_cases hnil : cs = []
      · rw [hnil]
        rfl
      · exact absurd hsplit (Lines.split_ne_nil hnil)
    | cons x rest' =>
      rw [hsplit, List.cons.injEq, Prod.mk.injEq] at hcs
      obtain ⟨⟨rfl, rfl⟩, rfl⟩ := hcs
      rw [List.cons_append, List.foldl_cons, List.foldl_cons]
      exact ih _ hsplit

theorem foldl_indent (h : IsBlind step) (hq : IsSettled step q) (cs : List Char) :
    (Lines.indent cs).foldl step q = cs.foldl step q :=
  foldl_indent_of hq fun _ _ _ => h.foldl_moved q cs

end IsBlind

/-! ## Literals -/

/-- How far a literal between triple quotes has been read. -/
inductive Quoting
  /-- Before the literal, or behind some of its opening quotes. -/
  | opening (quotes : Nat)
  /-- In the literal, behind some quotes that may close it. -/
  | inside (quotes : Nat)
  | escaped
  | closed
  /-- No literal, or something behind it. -/
  | beyond
deriving DecidableEq

namespace Quoting

def step : Quoting → Char → Quoting
  | opening n, c =>
    if c = '"' then if n = 2 then inside 0 else opening (n + 1)
    else if n = 0 ∧ Lines.isSpace c then opening 0 else beyond
  | inside n, c =>
    if c = '"' then if n = 2 then closed else inside (n + 1)
    else if c = '\\' then escaped else inside 0
  | escaped, _ => inside 0
  | closed, _ => beyond
  | beyond, _ => beyond

def read (q : Quoting) (cs : List Char) : Quoting := cs.foldl step q

/-- A backslash escapes itself and quotes, and nothing else. -/
def strictStep (q : Quoting) (c : Char) : Quoting :=
  if q = escaped ∧ c ≠ '\\' ∧ c ≠ '"' then beyond else q.step c

def strictRead (q : Quoting) (cs : List Char) : Quoting := cs.foldl strictStep q

variable {q : Quoting} {a b cs : List Char} {c d : Char}

theorem strictRead_append (q : Quoting) (a b : List Char) : q.strictRead (a ++ b) = (q.strictRead a).strictRead b :=
  List.foldl_append

theorem strictRead_cons (q : Quoting) (c : Char) (cs : List Char) : q.strictRead (c :: cs) = (q.strictStep c).strictRead cs :=
  rfl

theorem strictRead_feed (q : Quoting) (a b : List Char) :
    q.strictRead (a ++ '\n' :: b) = ((q.strictRead a).strictStep '\n').strictRead b := by
  rw [strictRead_append, strictRead_cons]

theorem strictRead_beyond (cs : List Char) : beyond.strictRead cs = beyond := by
  induction cs with
  | nil => rfl
  | cons c cs ih =>
    rw [strictRead_cons]
    exact ih

theorem read_of_strictRead (h : q.strictRead cs = closed) : q.read cs = closed := by
  induction cs generalizing q with
  | nil => exact h
  | cons c cs ih =>
    rw [strictRead_cons, strictStep] at h
    split at h
    · rw [strictRead_beyond] at h
      cases h
    · exact ih h

theorem quote_of_not_isSpace (h : Lines.isSpace c = true) : c ≠ '"' ∧ c ≠ '\\' := by
  constructor <;> rintro rfl <;> exact absurd h (by decide)

theorem isBlind : IsBlind strictStep := by
  constructor <;> intro q c d hc hd <;> obtain ⟨hcq, hcb⟩ := quote_of_not_isSpace hc <;>
    obtain ⟨hdq, hdb⟩ := quote_of_not_isSpace hd
  · cases q <;> simp [strictStep, step, *]
  · cases q with
    | opening n => by_cases hn : n = 0 <;> simp [strictStep, step, *]
    | inside n => simp [strictStep, step, *]
    | escaped => simp [strictStep, step, *]
    | closed => simp [strictStep, step]
    | beyond => simp [strictStep, step]

theorem isSettled_opening : IsSettled strictStep (opening 0) := by
  intro c hc
  simp [strictStep, step, (quote_of_not_isSpace hc).1, hc]

/-! ## Documentation -/

/-- Two quotes at most stand at the start of what is no triple. -/
theorem length_quotes_le (h : ∀ ds, cs ≠ '"' :: '"' :: ds) : (cs.takeWhile (· = '"')).length ≤ 1 := by
  match cs with
  | [] => exact Nat.zero_le 1
  | [c] => exact (List.takeWhile_prefix _).length_le
  | c :: d :: ds =>
    by_cases hc : c = '"'
    · have hd : d ≠ '"' := fun hd => h ds (by rw [hc, hd])
      simp [hc, hd]
    · simp [hc]

/-- An escaped line is read without closing the literal, if the quotes before it make no triple with its own. -/
theorem strictRead_escape (line : List Char) (n : Nat) (hn : n ≤ 2)
    (hrun : n = 0 ∨ n + (line.takeWhile (· = '"')).length ≤ 2) :
    ∃ m ≤ 2, (inside n).strictRead (Docstring.escape line) = inside m := by
  induction line using Docstring.escape.induct generalizing n with
  | case1 => exact ⟨n, hn, rfl⟩
  | case2 cs ih =>
    have hzero : n = 0 := by
      rcases hrun with hzero | hrun
      · exact hzero
      · simp at hrun
        omega
    rw [hzero, Docstring.escape]
    exact ih 0 (Nat.zero_le 2) (.inl rfl)
  | case3 cs hcs ih =>
    rw [Docstring.escape, if_pos rfl]
    · exact ih 0 (Nat.zero_le 2) (.inl rfl)
    · exact hcs
  | case4 c cs hcs hc ih =>
    rw [Docstring.escape, if_neg hc, strictRead_cons]
    · by_cases hquote : c = '"'
      · have hle := length_quotes_le fun ds => hcs ds hquote
        have hlt : n ≠ 2 ∧ (n + 1) + (cs.takeWhile (· = '"')).length ≤ 2 := by
          rcases hrun with rfl | hrun
          · omega
          · simp [hquote] at hrun
            omega
        have hstep : (inside n).strictStep c = inside (n + 1) := by simp [strictStep, step, hquote, hlt.1]
        rw [hstep]
        exact ih (n + 1) (by omega) (.inr hlt.2)
      · have hstep : (inside n).strictStep c = inside 0 := by simp [strictStep, step, hquote, hc]
        rw [hstep]
        exact ih 0 (Nat.zero_le 2) (.inl rfl)
    · exact hcs

theorem quote_of_strictStep (h : q.strictStep c = closed ∨ ∃ m, q.strictStep c = inside (m + 1)) : c = '"' := by
  by_contra hc
  cases q with
  | opening n =>
    by_cases hn : n = 0 ∧ Lines.isSpace c = true <;> simp [strictStep, step, hc, hn] at h
  | inside n =>
    by_cases hb : c = '\\' <;> simp [strictStep, step, hc, hb] at h
  | escaped =>
    by_cases hb : c = '\\' <;> simp [strictStep, step, hc, hb] at h
  | closed => simp [strictStep, step] at h
  | beyond => simp [strictStep, step] at h

theorem getLast?_of_strictRead {q' : Quoting} (h : q.strictRead cs = q') (hq : q' ≠ q)
    (hq' : q' = closed ∨ ∃ m, q' = inside (m + 1)) : cs.getLast? = some '"' := by
  rcases List.eq_nil_or_concat cs with rfl | ⟨ds, c, rfl⟩
  · exact absurd h.symm hq
  · rw [List.concat_eq_append, strictRead_append] at h
    have hstep : (q.strictRead ds).strictStep c = q' := h
    rw [← hstep] at hq'
    rw [List.concat_eq_append, List.getLast?_append, quote_of_strictStep hq']
    rfl

theorem strictStep_feed (m : Nat) : (inside m).strictStep '\n' = inside 0 := rfl

theorem strictRead_join_escape (lines : List (List Char)) :
    ∃ m ≤ 2, (inside 0).strictRead (Lines.join (lines.map Docstring.escape)) = inside m := by
  induction lines with
  | nil => exact ⟨0, Nat.zero_le 2, rfl⟩
  | cons line lines ih =>
    obtain ⟨m, hm, hline⟩ := strictRead_escape line 0 (Nat.zero_le 2) (.inl rfl)
    by_cases hlines : lines = []
    · rw [hlines, List.map_singleton, Lines.join_singleton]
      exact ⟨m, hm, hline⟩
    · rw [List.map_cons, Lines.join_cons _ (by simp [hlines]), strictRead_feed, hline, strictStep_feed]
      exact ih

/-- The literal of documentation lines is read to its end. -/
theorem strictRead_encode {lines : List (List Char)} (h : lines ≠ []) :
    (opening 0).strictRead (Docstring.encode lines) = closed := by
  have hopen : (opening 0).strictRead Docstring.quotes = inside 0 := rfl
  have hclose : (inside 0).strictRead Docstring.quotes = closed := rfl
  -- closing quotes on a line of their own follow a line feed
  have hlong : ∀ body m, (inside 0).strictRead body = inside m →
      (opening 0).strictRead (Docstring.quotes ++ body ++ '\n' :: Docstring.quotes) = closed := by
    intro body m hbody
    rw [strictRead_feed, strictRead_append, hopen, hbody, strictStep_feed, hclose]
  obtain ⟨line, rest, rfl⟩ := List.exists_cons_of_ne_nil h
  cases rest with
  | nil =>
    obtain ⟨m, hm, hline⟩ := strictRead_escape line 0 (Nat.zero_le 2) (.inl rfl)
    simp only [Docstring.encode, List.map_cons, List.map_nil]
    split
    · exact hlong _ m hline
    · next hlast =>
      cases m with
      | zero => rw [strictRead_append, strictRead_append, hopen, hline, hclose]
      | succ m => exact absurd (getLast?_of_strictRead hline (by simp) (.inr ⟨m, rfl⟩)) hlast
  | cons line' rest =>
    obtain ⟨m, -, hlines⟩ := strictRead_join_escape (line :: line' :: rest)
    exact hlong _ m hlines

theorem quotes_prefix_encode {lines : List (List Char)} (h : lines ≠ []) :
    Docstring.quotes <+: Docstring.encode lines := by
  obtain ⟨line, rest, rfl⟩ := List.exists_cons_of_ne_nil h
  cases rest with
  | nil =>
    simp only [Docstring.encode, List.map_cons, List.map_nil]
    split <;> exact ⟨_, (List.append_assoc _ _ _).symm⟩
  | cons line' rest => exact ⟨_, (List.append_assoc _ _ _).symm⟩

end Quoting

/-! ## Blocks -/

/-- Lines that hold a literal between triple quotes, from a column on, and nothing else. -/
structure IsDocstring (column : Nat) (block : List (List Char)) : Prop where
  starts : ∃ l ls, block = (List.replicate column ' ' ++ (Docstring.quotes ++ l)) :: ls
  closes : (Quoting.opening 0).read (Lines.join block) = .closed

/-- The lines of such a literal in which a backslash escapes nothing but itself and quotes. -/
structure IsPlainDocstring (column : Nat) (block : List (List Char)) : Prop where
  starts : ∃ l ls, block = (List.replicate column ' ' ++ (Docstring.quotes ++ l)) :: ls
  closes : (Quoting.opening 0).strictRead (Lines.join block) = .closed

theorem IsPlainDocstring.isDocstring {k : Nat} {block : List (List Char)} (h : IsPlainDocstring k block) : IsDocstring k block :=
  ⟨h.starts, Quoting.read_of_strictRead h.closes⟩

theorem quotes_spec : (∀ c ∈ Docstring.quotes, Lines.isBreak c = false) ∧ ∃ c ∈ Docstring.quotes, Lines.isSpace c = false :=
  ⟨by simp [Docstring.quotes, Lines.isBreak], '"', by decide, by decide⟩

/-- A text that starts with quotes and is one literal makes a block when its lines are moved. -/
theorem isPlainDocstring_shifted {k : Nat} {cs : List Char} (hstart : List.replicate k ' ' ++ Docstring.quotes <+: cs)
    (hclosed : (Quoting.opening 0).strictRead cs = .closed) : IsPlainDocstring (4 + k) (Lines.shifted cs) := by
  have hlast : cs.getLast? ≠ some '\r' := by
    rw [Quoting.getLast?_of_strictRead hclosed (by simp) (.inl rfl)]
    decide
  have hink : ∀ c ∈ List.replicate k ' ' ++ Docstring.quotes, Lines.isBreak c = false := by
    intro c hc
    rcases List.mem_append.mp hc with hc | hc
    · rw [List.eq_of_mem_replicate hc]
      decide
    · exact quotes_spec.1 c hc
  obtain ⟨-, l, ls, hshifted⟩ := Lines.splitFeeds_shift hink (by simp [Docstring.quotes]) hstart
  refine ⟨⟨l, ls, ?_⟩, ?_⟩
  · rw [hshifted, Lines.margin, ← List.replicate_append_replicate, List.append_assoc, List.append_assoc]
  · exact (Quoting.isBlind.foldl_shifted Quoting.isSettled_opening hlast).trans hclosed

section
variable {lines : List (List Char)}

theorem isPlainDocstring_encode (h : lines ≠ []) : IsPlainDocstring 4 (Lines.shifted (Docstring.encode lines)) :=
  isPlainDocstring_shifted (k := 0) (Quoting.quotes_prefix_encode h) (Quoting.strictRead_encode h)

theorem isPlainDocstring_indent (h : lines ≠ []) :
    IsPlainDocstring 8 (Lines.shifted (Lines.clearBlank (Lines.indent (Docstring.encode lines)))) := by
  have hindent := Lines.prefix_indent quotes_spec.1 quotes_spec.2 (Quoting.quotes_prefix_encode h)
  refine isPlainDocstring_shifted (k := 4) (Lines.prefix_clearBlank (by decide) ⟨'"', by decide, by decide⟩ hindent) ?_
  rw [Quoting.strictRead, Quoting.isBlind.foldl_clearBlank Quoting.isSettled_opening,
    Quoting.isBlind.foldl_indent Quoting.isSettled_opening]
  exact Quoting.strictRead_encode h

end

end DomainModel
