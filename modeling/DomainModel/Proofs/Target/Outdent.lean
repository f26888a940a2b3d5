import DomainModel.Proofs.Target.Placed
import DomainModel.Proofs.Text.Docstring

/-!
# Literals moved back

The literal of the documentation of a member is moved to the right twice, and its blank lines are cleared in between.
To take the columns away again gives the literal of the documentation lines exactly if no line holds another end of a
line, and none behind the first one is blank without being empty (`says_iff`).
-/

namespace DomainModel

namespace Lines

variable {cs l : List Char} {ls : List (List Char)}

theorem split_unbroken (h : ∀ c ∈ cs, isBreak c = false) (hne : cs ≠ []) : split cs = [(cs, [])] := by
  induction cs with
  | nil => exact absurd rfl hne
  | cons c cs ih =>
    rw [split_cons (h c List.mem_cons_self)]
    by_cases hcs : cs = []
    · rw [hcs]
      rfl
    · rw [ih (fun d hd => h d (List.mem_cons_of_mem _ hd)) hcs]

/-! ## Lines of a member -/

/-- A line with ink, moved to the right. -/
def indentLine (l : List Char) : List Char := if l.all isSpace then l else margin ++ l

def clearLine (l : List Char) : List Char := if l.all (fun c => c = ' ' || c = '\t') then [] else l

/-- The line of a class that a line of a literal in a member becomes. -/
def place (l : List Char) : List Char := shiftLine (clearLine (indentLine l))

theorem indent_unbroken (h : ∀ c ∈ cs, isBreak c = false) : indent cs = indentLine cs := by
  by_cases hne : cs = []
  · rw [hne]
    rfl
  · unfold indent indentLine
    rw [split_unbroken h hne]
    simp

theorem indent_join (hne : ls ≠ []) (h : ∀ l ∈ ls, ∀ c ∈ l, isBreak c = false) : indent (join ls) = join (ls.map indentLine) := by
  induction ls with
  | nil => exact absurd rfl hne
  | cons l ls ih =>
    have hl := h l List.mem_cons_self
    by_cases hls : ls = []
    · rw [hls, List.map_singleton, join_singleton, join_singleton]
      exact indent_unbroken hl
    · have hrest := ih hls fun l' hl' => h l' (List.mem_cons_of_mem _ hl')
      rw [List.map_cons, join_cons l hls, join_cons _ (by simp [hls]), ← hrest]
      unfold indent
      rw [split_append, split_of_not_isBreak hl]
      simp [indentLine]

theorem clearBlank_join (hne : ls ≠ []) (h : ∀ l ∈ ls, '\n' ∉ l) : clearBlank (join ls) = join (ls.map clearLine) := by
  unfold clearBlank
  rw [splitFeeds_join hne h]
  rfl

theorem shifted_unbroken (h : ∀ c ∈ cs, isBreak c = false) : shifted cs = [shiftLine cs] := by
  unfold shifted
  rw [split_of_not_isBreak h]
  rfl

theorem mem_indentLine {c : Char} (h : c ∈ indentLine l) : c = ' ' ∨ c ∈ l := by
  unfold indentLine at h
  split at h
  · exact .inr h
  · exact (List.mem_append.mp h).imp List.eq_of_mem_replicate id

theorem mem_clearLine {c : Char} (h : c ∈ clearLine l) : c ∈ l := by
  unfold clearLine at h
  split at h
  · cases h
  · exact h

theorem mem_shiftLine {c : Char} (h : c ∈ shiftLine l) : c = ' ' ∨ c ∈ l := by
  unfold shiftLine at h
  split at h
  · exact .inr h
  · exact (List.mem_append.mp h).imp List.eq_of_mem_replicate id

theorem isBreak_of_mem_indentLine (h : ∀ c ∈ l, isBreak c = false) : ∀ c ∈ indentLine l, isBreak c = false := by
  intro c hc
  rcases mem_indentLine hc with rfl | hc
  · rfl
  · exact h c hc

theorem shifted_clearBlank_indent (hne : ls ≠ []) (h : ∀ l ∈ ls, ∀ c ∈ l, isBreak c = false) :
    shifted (clearBlank (indent (join ls))) = ls.map place := by
  have hindent : ∀ l ∈ ls.map indentLine, ∀ c ∈ l, isBreak c = false := by
    intro l hl
    obtain ⟨l', hl', rfl⟩ := List.mem_map.mp hl
    exact isBreak_of_mem_indentLine (h l' hl')
  rw [indent_join hne h, clearBlank_join (by simpa using hne) fun l hl hc => absurd (hindent l hl _ hc) (by decide),
    shifted_join (by simpa using hne), List.map_map, List.flatMap_map, ← List.flatMap_singleton' (ls.map place), List.flatMap_map]
  apply List.flatMap_congr
  intro l hl
  exact shifted_unbroken fun c hc => isBreak_of_mem_indentLine (h l hl) c (mem_clearLine hc)

theorem place_ink (h : ∃ c ∈ l, isSpace c = false) : place l = List.replicate 8 ' ' ++ l := by
  obtain ⟨c, hc, hs⟩ := h
  have hspace : l.all isSpace = false := List.all_eq_false.mpr ⟨c, hc, by simp [hs]⟩
  have hblank : (margin ++ l).all (fun c => c = ' ' || c = '\t') = false := by
    refine List.all_eq_false.mpr ⟨c, List.mem_append_right _ hc, ?_⟩
    simp only [isSpace, Bool.or_eq_false_iff, decide_eq_false_iff_not] at hs
    simp [hs]
  unfold place indentLine clearLine shiftLine
  rw [hspace]
  simp only [Bool.false_eq_true, if_false, hblank]
  rw [if_neg (by simp [margin]), ← List.append_assoc, margin, List.replicate_append_replicate]

theorem length_place_blank (h : l.all isSpace = true) (hne : l ≠ []) : ((place l).drop 8).length < l.length := by
  have hlen : (place l).length ≤ l.length + 4 := by
    unfold place indentLine clearLine shiftLine
    rw [if_pos h]
    by_cases hblank : l.all (fun c => c = ' ' || c = '\t') = true
    · simp [hblank]
    · simp [hblank, hne, margin]
  have := List.length_pos_of_ne_nil hne
  rw [List.length_drop]
  omega

/-- What is left of a line that is placed and moved back. -/
def kept (l : List Char) : List Char := if l.all isSpace then (place l).drop 8 else l

theorem kept_eq_iff : kept l = l ↔ l = [] ∨ ∃ c ∈ l, isSpace c = false := by
  unfold kept
  by_cases h : l.all isSpace = true
  · rw [if_pos h]
    constructor
    · intro he
      by_cases hne : l = []
      · exact .inl hne
      · have := length_place_blank h hne
        rw [he] at this
        omega
    · rintro (rfl | ⟨c, hc, hs⟩)
      · rfl
      · rw [List.all_eq_true.mp h c hc] at hs
        cases hs
  · rw [if_neg h]
    simp only [true_iff]
    right
    simpa using h

theorem mem_kept {c : Char} (h : c ∈ kept l) : c ∈ l ∨ c = ' ' := by
  unfold kept at h
  split at h
  · have h := List.mem_of_mem_drop h
    rcases mem_shiftLine h with rfl | h
    · exact .inr rfl
    · rcases mem_indentLine (mem_clearLine h) with rfl | h
      · exact .inr rfl
      · exact .inl h
  · exact .inl h

end Lines

namespace Docstring

variable {line : List Char} {lines rest : List (List Char)}

/-- A text whose lines but the first have lost their first characters. -/
def outdent (n : Nat) (cs : List Char) : List Char :=
  match Lines.splitFeeds cs with
  | [] => []
  | first :: rest => Lines.join (first :: rest.map (·.drop n))

/-- The literal, moved back by eight columns, stands for the lines, and for the line feed that follows several of them. -/
def Says (literal : List Char) (lines : List (List Char)) : Prop :=
  ∃ body, outdent 8 literal = quotes ++ body ++ quotes ∧ unescape? body = some (Lines.join lines ++ ending lines)

/-- No line ends before its end, and none behind the first is blank without being empty. -/
structure IsKept (lines : List (List Char)) : Prop where
  unbroken : ∀ line ∈ lines, ∀ c ∈ line, Lines.isBreak c = false
  ink : ∀ line ∈ lines.tail, line = [] ∨ ∃ c ∈ line, Lines.isSpace c = false

theorem escape_of_blank (h : ∀ c ∈ line, c ≠ '"' ∧ c ≠ '\\') : escape line = line := by
  induction line with
  | nil => rfl
  | cons c line ih =>
    obtain ⟨hq, hb⟩ := h c List.mem_cons_self
    rw [escape, if_neg hb, ih fun d hd => h d (List.mem_cons_of_mem _ hd)]
    rintro _ he
    exact absurd he hq

theorem exists_ink_escape (h : ∃ c ∈ line, Lines.isSpace c = false) : ∃ c ∈ escape line, Lines.isSpace c = false := by
  induction line using escape.induct with
  | case1 => exact h
  | case2 => exact ⟨'\\', by simp [escape], by decide⟩
  | case3 rest hne => exact ⟨'\\', by rw [escape, if_pos rfl] <;> simp, by decide⟩
  | case4 c rest hne hc ih =>
    obtain ⟨d, hd, hs⟩ := h
    rw [escape, if_neg hc]
    · rcases List.mem_cons.mp hd with rfl | hd
      · exact ⟨d, List.mem_cons_self, hs⟩
      · obtain ⟨e, he, hs⟩ := ih ⟨d, hd, hs⟩
        exact ⟨e, List.mem_cons_of_mem _ he, hs⟩
    · exact hne

/-- An escaped line is moved there and back as the line is. -/
theorem drop_place_escape (line : List Char) : (Lines.place (escape line)).drop 8 = escape (Lines.kept line) := by
  unfold Lines.kept
  by_cases h : line.all Lines.isSpace = true
  · have hspace := List.all_eq_true.mp h
    have hmem : ∀ c ∈ (Lines.place line).drop 8, c ≠ '"' ∧ c ≠ '\\' := by
      intro c hc
      rcases Lines.mem_shiftLine (List.mem_of_mem_drop hc) with rfl | hc
      · decide
      · rcases Lines.mem_indentLine (Lines.mem_clearLine hc) with rfl | hc
        · decide
        · exact Quoting.quote_of_not_isSpace (hspace c hc)
    rw [if_pos h, escape_of_blank fun c hc => Quoting.quote_of_not_isSpace (hspace c hc), escape_of_blank hmem]
  · have hink : ∃ c ∈ line, Lines.isSpace c = false := by simpa using h
    rw [if_neg h, Lines.place_ink (exists_ink_escape hink)]
    simp

/-! ## The literal in a class -/

/-- The lines of the literal of documentation in a function of a class. -/
def placed (lines : List (List Char)) : List (List Char) := Lines.shifted (Lines.clearBlank (Lines.indent (encode lines)))

theorem join_append_head (a l : List Char) (ls : List (List Char)) : Lines.join ((a ++ l) :: ls) = a ++ Lines.join (l :: ls) := by
  by_cases hls : ls = []
  · rw [hls, Lines.join_singleton, Lines.join_singleton]
  · rw [Lines.join_cons _ hls, Lines.join_cons _ hls, List.append_assoc]

def following (line : List Char) (rest : List (List Char)) : List (List Char) :=
  if ending (line :: rest) = [] then [] else rest.map escape ++ [quotes]

def leading (line : List Char) (rest : List (List Char)) : List Char :=
  quotes ++ escape line ++ if ending (line :: rest) = [] then quotes else []

theorem rest_eq_nil (h : ending (line :: rest) = []) : rest = [] := by
  cases rest with
  | nil => rfl
  | cons => simp [ending] at h

theorem encode_eq_join (line : List Char) (rest : List (List Char)) :
    encode (line :: rest) = Lines.join (leading line rest :: following line rest) := by
  rw [encode_eq (List.cons_ne_nil _ _)]
  unfold leading following
  rcases (ending_spec (List.cons_ne_nil line rest)).1 with h | h
  · rw [if_pos h, if_pos h, h, rest_eq_nil h, List.map_singleton, Lines.join_singleton, Lines.join_singleton]
    simp
  · have hne : ending (line :: rest) ≠ [] := by simp [h]
    rw [if_neg hne, if_neg hne, h, List.append_nil, join_append_head, ← List.cons_append, ← List.map_cons,
      Lines.join_append (by simp) (by simp), Lines.join_singleton]
    simp

theorem ending_kept (line : List Char) (rest : List (List Char)) :
    ending (line :: rest.map Lines.kept) = ending (line :: rest) := by
  cases rest <;> rfl

theorem following_kept (line : List Char) (rest : List (List Char)) :
    (following line rest).map (fun l => (Lines.place l).drop 8) = following line (rest.map Lines.kept) := by
  unfold following
  rw [ending_kept]
  split
  · rfl
  · have hquotes : (Lines.place quotes).drop 8 = quotes := by rfl
    rw [List.map_append, List.map_singleton, hquotes, List.map_map, List.map_map]
    congr 1
    exact List.map_congr_left fun l _ => drop_place_escape l

theorem leading_kept (line : List Char) (rest : List (List Char)) : leading line (rest.map Lines.kept) = leading line rest := by
  unfold leading
  rw [ending_kept]

theorem isBreak_of_mem_escape (h : ∀ c ∈ line, Lines.isBreak c = false) : ∀ c ∈ escape line, Lines.isBreak c = false := by
  induction line using escape.induct with
  | case1 => exact h
  | case2 rest ih =>
    have hrest := ih fun c hc => h c (by simp [hc])
    simp only [escape, List.forall_mem_cons]
    exact ⟨rfl, rfl, rfl, rfl, rfl, rfl, hrest⟩
  | case3 rest hne ih =>
    have hrest := ih fun c hc => h c (by simp [hc])
    rw [escape, if_pos rfl]
    · rw [List.forall_mem_cons, List.forall_mem_cons]
      exact ⟨rfl, rfl, hrest⟩
    · exact hne
  | case4 c rest hne hc ih =>
    rw [List.forall_mem_cons] at h
    rw [escape, if_neg hc, List.forall_mem_cons]
    · exact ⟨h.1, ih h.2⟩
    · exact hne

theorem isBreak_of_mem_lines (h : ∀ l ∈ line :: rest, ∀ c ∈ l, Lines.isBreak c = false) :
    ∀ l ∈ leading line rest :: following line rest, ∀ c ∈ l, Lines.isBreak c = false := by
  have hquotes := quotes_spec.1
  rw [List.forall_mem_cons] at h ⊢
  constructor
  · have hline := isBreak_of_mem_escape h.1
    intro c hc
    unfold leading at hc
    rcases List.mem_append.mp hc with hc | hc
    · exact (List.mem_append.mp hc).elim (hquotes c) (hline c)
    · split at hc
      · exact hquotes c hc
      · cases hc
  · unfold following
    split
    · simp
    · intro l hl
      rcases List.mem_append.mp hl with hl | hl
      · obtain ⟨l, hl', rfl⟩ := List.mem_map.mp hl
        exact isBreak_of_mem_escape (h.2 l hl')
      · rw [List.mem_singleton.mp hl]
        exact hquotes

/-- The literal of documentation in a function of a class, from its opening quotes on. -/
def literal (lines : List (List Char)) : List Char := (Lines.join (placed lines)).drop 8

theorem exists_placed (h : lines ≠ []) : ∃ l ls, placed lines = (List.replicate 8 ' ' ++ (quotes ++ l)) :: ls ∧
    literal lines = quotes ++ Lines.join (l :: ls) := by
  obtain ⟨l, ls, hplaced⟩ := (isPlainDocstring_indent h).starts
  refine ⟨l, ls, hplaced, ?_⟩
  unfold literal placed
  rw [hplaced, join_append_head, join_append_head]
  simp

theorem splitFeeds_literal (h : lines ≠ []) : Lines.splitFeeds (List.replicate 8 ' ' ++ literal lines) = placed lines := by
  obtain ⟨l, ls, hplaced, hliteral⟩ := exists_placed h
  rw [hliteral, ← join_append_head, ← join_append_head, ← hplaced]
  exact Lines.splitFeeds_join (by simp [hplaced]) Lines.feed_not_mem_shifted

theorem isBreak_of_mem_literal (lines : List (List Char)) : ∀ c ∈ literal lines, Lines.isBreak c = true → c = '\n' := by
  intro c hc hb
  have hmem := List.mem_of_mem_drop hc
  rcases Lines.mem_of_mem_join hmem with hfeed | ⟨l, hl, hc⟩
  · exact hfeed
  · obtain ⟨x, hx, rfl⟩ := List.mem_map.mp hl
    rcases Lines.mem_shiftLine hc with rfl | hc
    · cases hb
    · rw [Lines.isBreak_of_mem_line x hx c hc] at hb
      cases hb

theorem mem_of_mem_outdent {n : Nat} {cs : List Char} {c : Char} (h : c ∈ outdent n cs) : c = '\n' ∨ c ∈ cs := by
  unfold outdent at h
  cases hs : Lines.splitFeeds cs with
  | nil => exact absurd hs (Lines.splitFeeds_ne_nil cs)
  | cons first rest =>
    have hlines : ∀ l ∈ Lines.splitFeeds cs, ∀ c ∈ l, c ∈ cs := Lines.mem_of_mem_splitFeeds
    rw [hs] at h hlines
    rcases Lines.mem_of_mem_join h with hc | ⟨l, hl, hc⟩
    · exact .inl hc
    · rcases List.mem_cons.mp hl with rfl | hl
      · exact .inr (hlines _ List.mem_cons_self c hc)
      · obtain ⟨l', hl', rfl⟩ := List.mem_map.mp hl
        exact .inr (hlines l' (List.mem_cons_of_mem _ hl') c (List.mem_of_mem_drop hc))

theorem mem_of_mem_unescape? {body cs : List Char} {c : Char} (h : unescape? body = some cs) (hc : c ∈ cs) : c ∈ body := by
  induction body using unescape?.induct generalizing cs with
  | case1 =>
    cases h
    cases hc
  | case2 d rest hd ih =>
    rw [unescape?, if_pos hd] at h
    obtain ⟨ds, hds, rfl⟩ := Option.map_eq_some_iff.mp h
    rcases List.mem_cons.mp hc with rfl | hc
    · simp
    · simp [ih hds hc]
  | case3 d rest hd => simp [unescape?, hd] at h
  | case4 rest hne => simp [unescape?] at h
  | case5 d rest hne hd ih =>
    rw [unescape?_cons hd] at h
    obtain ⟨ds, hds, rfl⟩ := Option.map_eq_some_iff.mp h
    rcases List.mem_cons.mp hc with rfl | hc
    · simp
    · simp [ih hds hc]

theorem mem_join {l : List Char} {c : Char} (hl : l ∈ lines) (hc : c ∈ l) : c ∈ Lines.join lines := by
  induction lines with
  | nil => cases hl
  | cons l' ls ih =>
    by_cases hls : ls = []
    · rw [hls, List.mem_singleton] at hl
      rw [hls, Lines.join_singleton, ← hl]
      exact hc
    · rw [Lines.join_cons _ hls, List.mem_append, List.mem_cons]
      rcases List.mem_cons.mp hl with rfl | hl
      · exact .inl hc
      · exact .inr (.inr (ih hl))

theorem Says.unbroken (hfeed : ∀ line ∈ lines, '\n' ∉ line) (hs : Says (literal lines) lines) :
    ∀ line ∈ lines, ∀ c ∈ line, Lines.isBreak c = false := by
  intro line hline c hc
  obtain ⟨body, hbody, hunescape⟩ := hs
  have hmem := mem_of_mem_unescape? hunescape (List.mem_append_left _ (mem_join hline hc))
  have hout : c ∈ outdent 8 (literal lines) := by
    rw [hbody]
    simp [hmem]
  apply Bool.eq_false_iff.mpr
  intro hb
  have hc' : c = '\n' := (mem_of_mem_outdent hout).elim id fun hc' => isBreak_of_mem_literal lines c hc' hb
  rw [hc'] at hc
  exact hfeed line hline hc

theorem placed_unbroken (h : ∀ l ∈ line :: rest, ∀ c ∈ l, Lines.isBreak c = false) :
    placed (line :: rest) = (List.replicate 8 ' ' ++ leading line rest) :: (following line rest).map Lines.place := by
  have hink : ∃ c ∈ leading line rest, Lines.isSpace c = false := ⟨'"', by simp [leading, quotes], by decide⟩
  unfold placed
  rw [encode_eq_join, Lines.shifted_clearBlank_indent (List.cons_ne_nil _ _) (isBreak_of_mem_lines h), List.map_cons, Lines.place_ink hink]

/-- Moved back, a literal is that of what is left of the lines. -/
theorem outdent_literal (h : ∀ l ∈ line :: rest, ∀ c ∈ l, Lines.isBreak c = false) :
    outdent 8 (literal (line :: rest)) = encode (line :: rest.map Lines.kept) := by
  have hplaced := placed_unbroken h
  have hsplit : Lines.splitFeeds (literal (line :: rest)) = leading line rest :: (following line rest).map Lines.place := by
    have hfeed : ∀ l ∈ placed (line :: rest), '\n' ∉ l := Lines.feed_not_mem_shifted
    rw [hplaced, List.forall_mem_cons] at hfeed
    unfold literal
    rw [hplaced, join_append_head, List.drop_left' (List.length_replicate)]
    apply Lines.splitFeeds_join (List.cons_ne_nil _ _)
    rw [List.forall_mem_cons]
    exact ⟨fun hc => hfeed.1 (List.mem_append_right _ hc), hfeed.2⟩
  unfold outdent
  rw [hsplit, encode_eq_join, ← following_kept, leading_kept]
  simp only [List.map_map]
  rfl

theorem says_encode_iff {kept : List (List Char)} (hne : kept ≠ []) (hending : ending kept = ending lines)
    (hkept : ∀ l ∈ kept, '\n' ∉ l) (hlines : ∀ l ∈ lines, '\n' ∉ l) (h : lines ≠ []) {cs : List Char}
    (hcs : outdent 8 cs = encode kept) : Says cs lines ↔ kept = lines := by
  have hend : unescape? (ending kept) = some (ending kept) := by
    rcases (ending_spec hne).1 with he | he <;> rw [he] <;> rfl
  have hbody : unescape? (Lines.join (kept.map escape) ++ ending kept) = some (Lines.join kept ++ ending kept) := by
    rw [unescape?_join, hend]
    rfl
  constructor
  · rintro ⟨body, hout, hunescape⟩
    rw [hcs, encode_eq hne] at hout
    have := List.append_cancel_left (List.append_cancel_right hout)
    rw [← this, hbody, hending, Option.some.injEq, List.append_left_inj] at hunescape
    rw [← Lines.splitFeeds_join hne hkept, hunescape, Lines.splitFeeds_join h hlines]
  · rintro rfl
    exact ⟨_, hcs.trans (encode_eq hne), hbody⟩

/-- The literal says the lines exactly if they are kept. -/
theorem says_iff (h : lines ≠ []) (hfeed : ∀ line ∈ lines, '\n' ∉ line) : Says (literal lines) lines ↔ IsKept lines := by
  obtain ⟨line, rest, rfl⟩ := List.exists_cons_of_ne_nil h
  by_cases hb : ∀ l ∈ line :: rest, ∀ c ∈ l, Lines.isBreak c = false
  · have hkept : ∀ l ∈ line :: rest.map Lines.kept, '\n' ∉ l := by
      rw [List.forall_mem_cons] at hfeed ⊢
      refine ⟨hfeed.1, fun l hl hc => ?_⟩
      obtain ⟨l', hl', rfl⟩ := List.mem_map.mp hl
      rcases Lines.mem_kept hc with hc | hc
      · exact hfeed.2 l' hl' hc
      · cases hc
    have hmap : rest.map Lines.kept = rest ↔ ∀ l ∈ rest, l = [] ∨ ∃ c ∈ l, Lines.isSpace c = false := by
      have hiff := List.map_eq_map_iff (f := Lines.kept) (g := id) (l := rest)
      rw [List.map_id] at hiff
      exact hiff.trans (forall₂_congr fun l _ => Lines.kept_eq_iff)
    rw [says_encode_iff (List.cons_ne_nil _ _) (ending_kept line rest) hkept hfeed h (outdent_literal hb), List.cons.injEq, hmap]
    exact ⟨fun hk => ⟨hb, hk.2⟩, fun hk => ⟨rfl, hk.ink⟩⟩
  · constructor
    · intro hs
      exact absurd (Says.unbroken hfeed hs) hb
    · intro hk
      exact absurd hk.unbroken hb

end Docstring

end DomainModel
