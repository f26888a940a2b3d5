import Mathlib.Data.List.TakeWhile
import DomainModel.Text.Lines

/-!
# Splitting texts

A line feed parts a text: what is done to the lines of a text is done to the text before a line feed and to the
text behind it (`splitFeeds_append`, `clearBlank_append`, `shifted_append`).
-/

namespace DomainModel.Lines

variable {c : Char} {a b cs p : List Char}

/-! ## Line feeds -/

theorem splitFeeds_ne_nil (cs : List Char) : splitFeeds cs ≠ [] := by
  cases cs with
  | nil => exact List.cons_ne_nil _ _
  | cons c cs =>
    rw [splitFeeds]
    split
    · exact List.cons_ne_nil _ _
    · split <;> exact List.cons_ne_nil _ _

theorem splitFeeds_cons (hc : c ≠ '\n') (cs : List Char) :
    ∃ l ls, splitFeeds cs = l :: ls ∧ splitFeeds (c :: cs) = (c :: l) :: ls := by
  obtain ⟨l, ls, h⟩ := List.exists_cons_of_ne_nil (splitFeeds_ne_nil cs)
  exact ⟨l, ls, h, by rw [splitFeeds, if_neg hc, h]⟩

theorem splitFeeds_append (a b : List Char) : splitFeeds (a ++ '\n' :: b) = splitFeeds a ++ splitFeeds b := by
  induction a with
  | nil => simp [splitFeeds]
  | cons c a ih =>
    by_cases hc : c = '\n'
    · simp [splitFeeds, hc, ih]
    · obtain ⟨l, ls, h, h'⟩ := splitFeeds_cons hc a
      obtain ⟨l', ls', hab, hab'⟩ := splitFeeds_cons hc (a ++ '\n' :: b)
      rw [ih, h, List.cons_append, List.cons.injEq] at hab
      rw [List.cons_append, hab', h', ← hab.1, ← hab.2, List.cons_append]

theorem splitFeeds_of_not_mem (h : '\n' ∉ cs) : splitFeeds cs = [cs] := by
  induction cs with
  | nil => rfl
  | cons c cs ih =>
    rw [List.mem_cons, not_or] at h
    rw [splitFeeds, if_neg (Ne.symm h.1), ih h.2]

theorem join_singleton (l : List Char) : join [l] = l := by
  simp [join, List.intercalate]

theorem join_cons (l : List Char) {ls : List (List Char)} (h : ls ≠ []) : join (l :: ls) = l ++ '\n' :: join ls := by
  obtain ⟨l', ls, rfl⟩ := List.exists_cons_of_ne_nil h
  rfl

theorem join_append {ls ls' : List (List Char)} (h : ls ≠ []) (h' : ls' ≠ []) :
    join (ls ++ ls') = join ls ++ '\n' :: join ls' := by
  induction ls with
  | nil => exact absurd rfl h
  | cons l ls ih =>
    by_cases hls : ls = []
    · rw [hls, List.singleton_append, join_cons l h', join_singleton]
    · rw [List.cons_append, join_cons l (by simp [hls]), join_cons l hls, ih hls, List.append_assoc, List.cons_append]

theorem join_splitFeeds (cs : List Char) : join (splitFeeds cs) = cs := by
  induction cs with
  | nil => rfl
  | cons c cs ih =>
    by_cases hc : c = '\n'
    · rw [splitFeeds, if_pos hc, join_cons _ (splitFeeds_ne_nil cs), ih, hc]
      rfl
    · obtain ⟨l, ls, h, h'⟩ := splitFeeds_cons hc cs
      rw [h] at ih
      rw [h', ← ih]
      cases ls <;> rfl

theorem splitFeeds_join {ls : List (List Char)} (hne : ls ≠ []) (h : ∀ l ∈ ls, '\n' ∉ l) : splitFeeds (join ls) = ls := by
  induction ls with
  | nil => exact absurd rfl hne
  | cons l ls ih =>
    have hl := splitFeeds_of_not_mem (h l List.mem_cons_self)
    by_cases hls : ls = []
    · rw [hls, join_singleton]
      exact hl
    · rw [join_cons l hls, splitFeeds_append, hl, ih hls fun l' hl' => h l' (List.mem_cons_of_mem _ hl')]
      rfl

theorem splitFeeds_concat (hc : c ≠ '\n') (cs : List Char) : ∃ ls l, splitFeeds (cs ++ [c]) = ls ++ [l ++ [c]] := by
  induction cs with
  | nil => exact ⟨[], [], splitFeeds_of_not_mem (by simp [hc.symm])⟩
  | cons d cs ih =>
    obtain ⟨ls, l, h⟩ := ih
    by_cases hd : d = '\n'
    · exact ⟨[] :: ls, l, by rw [List.cons_append, splitFeeds, if_pos hd, h]; rfl⟩
    · rw [List.cons_append, splitFeeds, if_neg hd, h]
      cases ls with
      | nil => exact ⟨[], d :: l, rfl⟩
      | cons l' ls => exact ⟨(d :: l') :: ls, l, rfl⟩

/-! ## Blank lines -/

theorem clearBlank_append (a b : List Char) : clearBlank (a ++ '\n' :: b) = clearBlank a ++ '\n' :: clearBlank b := by
  have hne : ∀ {cs : List Char} (f : List Char → List Char), (splitFeeds cs).map f ≠ [] :=
    fun f => by simp [splitFeeds_ne_nil]
  rw [clearBlank, splitFeeds_append, List.map_append, join_append (hne _) (hne _)]
  rfl

theorem prefix_clearBlank (hp : '\n' ∉ p) (hink : ∃ c ∈ p, isSpace c = false) (h : p <+: cs) : p <+: clearBlank cs := by
  obtain ⟨r, rfl⟩ := h
  have hsplit : ∃ l ls, splitFeeds (p ++ r) = (p ++ l) :: ls := by
    clear hink
    induction p with
    | nil => exact List.exists_cons_of_ne_nil (splitFeeds_ne_nil r)
    | cons c p ih =>
      rw [List.mem_cons, not_or] at hp
      obtain ⟨l, ls, hl⟩ := ih hp.2
      exact ⟨l, ls, by rw [List.cons_append, splitFeeds, if_neg (Ne.symm hp.1), hl]; rfl⟩
  obtain ⟨l, ls, hl⟩ := hsplit
  have hblank : (p ++ l).all (fun c => c = ' ' || c = '\t') = false := by
    obtain ⟨c, hc, hs⟩ := hink
    refine List.all_eq_false.mpr ⟨c, List.mem_append_left _ hc, ?_⟩
    simp only [isSpace, Bool.or_eq_false_iff, decide_eq_false_iff_not] at hs
    simp [hs]
  rw [clearBlank, hl, List.map_cons, if_neg (by simp [hblank])]
  cases ls with
  | nil =>
    rw [List.map_nil, join_singleton]
    exact List.prefix_append p l
  | cons l' ls =>
    rw [List.map_cons, join_cons _ (List.cons_ne_nil _ _), List.append_assoc]
    exact List.prefix_append _ _

theorem clearBlank_concat (hc : isSpace c = false) (cs : List Char) : ∃ ds, clearBlank (cs ++ [c]) = ds ++ [c] := by
  have hfeed : c ≠ '\n' := by
    rintro rfl
    exact absurd hc (by decide)
  obtain ⟨ls, l, h⟩ := splitFeeds_concat hfeed cs
  have hblank : (l ++ [c]).all (fun c => c = ' ' || c = '\t') = false := by
    simp only [isSpace, Bool.or_eq_false_iff, decide_eq_false_iff_not] at hc
    simp [hc]
  rw [clearBlank, h, List.map_append, List.map_singleton, if_neg (by simp [hblank])]
  by_cases hls : ls = []
  · exact ⟨l, by rw [hls, List.map_nil, List.nil_append, join_singleton]⟩
  · rw [join_append (by simp [hls]) (List.cons_ne_nil _ _), join_singleton]
    exact ⟨_, (List.append_assoc _ ('\n' :: l) _).symm⟩

/-! ## Ends of lines -/

theorem split_cons (h : isBreak c = false) (cs : List Char) :
    split (c :: cs) = match split cs with
      | [] => [([c], [])]
      | (line, stop) :: rest => (c :: line, stop) :: rest := by
  have hc : c ≠ '\r' := by
    rintro rfl
    exact absurd h (by decide)
  rw [split]
  · rw [h]
    rfl
  · intro cs' hcr
    exact absurd hcr hc

/-- What ends a line, and what stands behind it: a carriage return and a line feed end one line. -/
inductive Ends : List Char → List Char → Prop
  | pair {cs : List Char} : Ends ['\r', '\n'] cs
  | single {c : Char} {cs : List Char} (h : isBreak c = true) (hc : c = '\r' → cs.head? ≠ some '\n') : Ends [c] cs

theorem Ends.split_eq {s : List Char} (h : Ends s cs) : split (s ++ cs) = ([], s) :: split cs := by
  cases h with
  | pair =>
    rw [List.cons_append, List.singleton_append, split]
  | single h hc =>
    rw [List.singleton_append, split]
    · rw [if_pos h]
    · rintro cs' rfl rfl
      exact hc rfl rfl

theorem Ends.isBreak_of_mem {s : List Char} (h : Ends s cs) : ∀ c ∈ s, isBreak c = true := by
  cases h with
  | pair => simp [isBreak]
  | single h hc =>
    intro c hc
    rw [List.mem_singleton.mp hc]
    exact h

theorem Ends.ne_nil {s : List Char} (h : Ends s cs) : s ≠ [] := by
  cases h <;> exact List.cons_ne_nil _ _

/-- What is put behind a text leaves the ends of its lines as they are, unless a return and a line feed meet. -/
theorem Ends.append {s d : List Char} (h : Ends s cs) (hd : ¬(s = ['\r'] ∧ cs = []) ∨ d.head? ≠ some '\n') :
    Ends s (cs ++ d) := by
  cases h with
  | pair => exact .pair
  | single h hc =>
    refine .single h fun hr => ?_
    cases cs with
    | nil => exact hd.resolve_left (not_not.mpr ⟨by rw [hr], rfl⟩)
    | cons c cs => exact hc hr

theorem split_induction {motive : List Char → Prop} (nil : motive [])
    (ends : ∀ s cs, Ends s cs → motive cs → motive (s ++ cs))
    (other : ∀ c cs, isBreak c = false → motive cs → motive (c :: cs)) (cs : List Char) : motive cs := by
  induction cs using split.induct with
  | case1 => exact nil
  | case2 cs ih => exact ends ['\r', '\n'] cs .pair ih
  | case3 c cs hcr hbreak ih =>
    refine ends [c] cs (.single hbreak fun hc hhead => ?_) ih
    obtain ⟨cs', rfl⟩ := List.head?_eq_some_iff.mp hhead
    exact hcr cs' hc rfl
  | case4 c cs hcr hc hnil ih => exact other c cs (Bool.not_eq_true _ ▸ hc) ih
  | case5 c cs hcr hc line stop rest hcs ih => exact other c cs (Bool.not_eq_true _ ▸ hc) ih

theorem split_ne_nil (h : cs ≠ []) : split cs ≠ [] := by
  induction cs using split_induction with
  | nil => exact absurd rfl h
  | ends s cs hs _ =>
    rw [hs.split_eq]
    exact List.cons_ne_nil _ _
  | other c cs hc _ =>
    rw [split_cons hc]
    split <;> exact List.cons_ne_nil _ _

theorem split_append (a b : List Char) : split (a ++ '\n' :: b) = split (a ++ ['\n']) ++ split b := by
  induction a using split_induction with
  | nil => rfl
  | ends s cs hs ih =>
    by_cases hcr : s = ['\r'] ∧ cs = []
    · rw [hcr.1, hcr.2]
      rfl
    · rw [List.append_assoc, List.append_assoc, (hs.append (.inl hcr)).split_eq, (hs.append (.inl hcr)).split_eq, ih]
      rfl
  | other c cs hc ih =>
    have hne : cs ++ ['\n'] ≠ [] := by simp
    obtain ⟨x, rest, hx⟩ := List.exists_cons_of_ne_nil (split_ne_nil hne)
    rw [List.cons_append, List.cons_append, split_cons hc, split_cons hc, ih, hx]
    rfl

theorem split_prefix (hp : ∀ c ∈ p, isBreak c = false) (hne : p ≠ []) (r : List Char) :
    ∃ l stop rest, split (p ++ r) = (p ++ l, stop) :: rest := by
  induction p with
  | nil => exact absurd rfl hne
  | cons c p ih =>
    have hc := hp c List.mem_cons_self
    rw [List.cons_append, split_cons hc]
    by_cases hp' : p = []
    · rw [hp', List.nil_append]
      cases split r with
      | nil => exact ⟨[], [], [], rfl⟩
      | cons x rest => exact ⟨x.1, x.2, rest, rfl⟩
    · obtain ⟨l, stop, rest, h⟩ := ih (fun c hc => hp c (List.mem_cons_of_mem _ hc)) hp'
      exact ⟨l, stop, rest, by rw [h]; rfl⟩

theorem isBreak_of_mem_line : ∀ x ∈ split cs, ∀ c ∈ x.1, isBreak c = false := by
  induction cs using split_induction with
  | nil => exact fun x hx => nomatch hx
  | ends s cs hs ih =>
    rw [hs.split_eq]
    intro x hx
    rcases List.mem_cons.mp hx with rfl | hx
    · exact fun c hc => nomatch hc
    · exact ih x hx
  | other c cs hc ih =>
    rw [split_cons hc]
    intro x hx d hd
    cases hcs : split cs with
    | nil =>
      rw [hcs] at hx
      rw [List.mem_singleton.mp hx] at hd
      rw [List.mem_singleton.mp hd]
      exact hc
    | cons y rest =>
      rw [hcs] at hx ih
      rcases List.mem_cons.mp hx with rfl | hx
      · rcases List.mem_cons.mp hd with rfl | hd
        · exact hc
        · exact ih y List.mem_cons_self d hd
      · exact ih x (List.mem_cons_of_mem _ hx) d hd

/-! ## Lines moved to the right -/

/-- A line with its end, moved to the right if it has ink. -/
def moved (x : List Char × List Char) : List Char := (if x.1.all isSpace then x.1 else margin ++ x.1) ++ x.2

theorem indent_eq (cs : List Char) : indent cs = (split cs).flatMap moved := rfl

/-- The lines of a text, each moved to the right unless it is empty. -/
def shifted (cs : List Char) : List (List Char) := (split (cs ++ ['\n'])).map fun x => shiftLine x.1

theorem shifted_append (a b : List Char) : shifted (a ++ '\n' :: b) = shifted a ++ shifted b := by
  rw [shifted, List.append_assoc, List.cons_append, split_append, List.map_append]
  rfl

theorem feed_not_mem_shifted : ∀ l ∈ shifted cs, '\n' ∉ l := by
  intro l hl hfeed
  obtain ⟨x, hx, rfl⟩ := List.mem_map.mp hl
  have hbreak : isBreak '\n' = true := by decide
  rw [shiftLine] at hfeed
  split at hfeed
  · exact absurd (isBreak_of_mem_line x hx _ hfeed) (by simp [hbreak])
  · rcases List.mem_append.mp hfeed with hfeed | hfeed
    · exact absurd (List.eq_of_mem_replicate hfeed) (by decide)
    · exact absurd (isBreak_of_mem_line x hx _ hfeed) (by simp [hbreak])

theorem splitFeeds_shift (hp : ∀ c ∈ p, isBreak c = false) (hne : p ≠ []) (h : p <+: cs) :
    splitFeeds (shift cs) = shifted cs ∧ ∃ l ls, shifted cs = (margin ++ (p ++ l)) :: ls := by
  obtain ⟨r, rfl⟩ := h
  obtain ⟨l, stop, rest, hl⟩ := split_prefix hp hne (r ++ ['\n'])
  rw [← List.append_assoc] at hl
  have hshift : shiftLine (p ++ l) = margin ++ (p ++ l) := if_neg (by simp [hne])
  have hlines : shifted (p ++ r) = (margin ++ (p ++ l)) :: rest.map fun x => shiftLine x.1 := by
    rw [shifted, hl, List.map_cons, hshift]
  refine ⟨?_, l, _, hlines⟩
  have hjoin : shift (p ++ r) = join (shifted (p ++ r)) := by
    rw [hlines, shift, hl, List.map_cons]
    simp only [List.map_map]
    rfl
  rw [hjoin]
  exact splitFeeds_join (by rw [hlines]; exact List.cons_ne_nil _ _) feed_not_mem_shifted

theorem prefix_indent (hp : ∀ c ∈ p, isBreak c = false) (hink : ∃ c ∈ p, isSpace c = false) (h : p <+: cs) :
    margin ++ p <+: indent cs := by
  obtain ⟨r, rfl⟩ := h
  obtain ⟨c, hc, hs⟩ := hink
  obtain ⟨l, stop, rest, hl⟩ := split_prefix hp (List.ne_nil_of_mem hc) r
  have hspace : (p ++ l).all isSpace = false := List.all_eq_false.mpr ⟨c, List.mem_append_left _ hc, by simp [hs]⟩
  rw [indent, hl, List.flatMap_cons]
  simp only [hspace, Bool.false_eq_true, if_false, List.append_assoc]
  exact ⟨_, rfl⟩

theorem split_concat (hc : isBreak c = false) (cs : List Char) :
    ∃ xs l, split (cs ++ [c] ++ ['\n']) = xs ++ [(l ++ [c], ['\n'])] := by
  induction cs using split_induction with
  | nil =>
    refine ⟨[], [], ?_⟩
    rw [List.nil_append, List.singleton_append, split_cons hc]
    rfl
  | ends s cs hs ih =>
    obtain ⟨xs, l, h⟩ := ih
    have hfeed : ([c] ++ ['\n']).head? ≠ some '\n' := by
      rintro hc'
      rw [Option.some.inj hc'] at hc
      exact absurd hc (by decide)
    refine ⟨([], s) :: xs, l, ?_⟩
    rw [List.append_assoc, List.append_assoc, (hs.append (.inr hfeed)).split_eq, ← List.append_assoc, h]
    rfl
  | other d cs hd ih =>
    obtain ⟨xs, l, h⟩ := ih
    rw [List.cons_append, List.cons_append, split_cons hd, h]
    cases xs with
    | nil => exact ⟨[], d :: l, rfl⟩
    | cons x xs => exact ⟨(d :: x.1, x.2) :: xs, l, rfl⟩

theorem shifted_concat (hc : isBreak c = false) (cs : List Char) :
    ∃ ls l, shifted (cs ++ [c]) = ls ++ [l ++ [c]] := by
  obtain ⟨xs, l, h⟩ := split_concat hc cs
  refine ⟨xs.map fun x => shiftLine x.1, margin ++ l, ?_⟩
  rw [shifted, h, List.map_append, List.map_singleton, shiftLine, if_neg (by simp), List.append_assoc]

/-! ## Ends of texts -/

/-- What stands before ink is kept whatever is cut off behind it. -/
theorem trimFeeds_append (ha : a.head? ≠ some '\n') (hne : a ≠ []) (hb : ∃ c ∈ b, c ≠ '\n') :
    trimFeeds (a ++ b) = a ++ (b.reverse.dropWhile (· = '\n')).reverse := by
  have hstart : (a ++ b).dropWhile (· = '\n') = a ++ b := by
    cases a with
    | nil => exact absurd rfl hne
    | cons c a =>
      rw [List.cons_append, List.dropWhile_cons_of_neg]
      simpa using ha
  have hend : (b.reverse.dropWhile (· = '\n')).isEmpty = false := by
    obtain ⟨c, hc, hn⟩ := hb
    rw [List.isEmpty_eq_false_iff, ne_eq, List.dropWhile_eq_nil_iff]
    exact fun hall => hn (of_decide_eq_true (hall c (List.mem_reverse.mpr hc)))
  rw [trimFeeds, hstart, List.reverse_append, List.dropWhile_append, hend, if_neg Bool.false_ne_true,
    List.reverse_append, List.reverse_reverse]

end DomainModel.Lines
