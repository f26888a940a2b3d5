import DomainModel.Proofs.Generation.Skeleton
import DomainModel.Proofs.Target.Line

/-!
# Sources in classes

A class puts the sources of its members into its body: their lines are moved to the right, and blank ones are cleared.
`Placed` says what line of a module a line of a source makes there, `Sources` what lines all of them make.
-/

namespace DomainModel

def isInline (c : Char) : Bool := 0x20 ≤ c.toNat && c.toNat < 0x7f

def IsInline (s : String) : Prop := s.toList.all isInline = true

instance (s : String) : Decidable (IsInline s) := inferInstanceAs (Decidable (_ = true))

@[simp] theorem isInline_append {s t : String} : IsInline (s ++ t) ↔ IsInline s ∧ IsInline t := by
  simp only [IsInline, String.toList_append, List.all_append, Bool.and_eq_true]

theorem isInline_intercalate {t : String} {ss : List String} (ht : IsInline t) (h : ∀ s ∈ ss, IsInline s) :
    IsInline (t.intercalate ss) :=
  List.all_eq_true.mpr (consists_intercalate (List.all_eq_true.mp ht) fun s hs => List.all_eq_true.mp (h s hs))

theorem isInline_tuple {ns : List String} (h : ∀ n ∈ ns, IsInline n) : IsInline (ClassPlan.tuple ns) := by
  have hquoted : IsInline (", ".intercalate (ns.map fun n => "\"" ++ n ++ "\"")) := by
    refine isInline_intercalate (by decide) fun s hs => ?_
    obtain ⟨n, hn, rfl⟩ := List.mem_map.mp hs
    simp +decide [h n hn]
  rw [ClassPlan.tuple]
  by_cases hone : ns.length = 1 <;> simp +decide [hone, hquoted]

structure IsCode (s : String) : Prop where
  inline : IsInline s
  ink : ∃ c ∈ s.toList, c ≠ ' '

instance (s : String) : Decidable (IsCode s) :=
  decidable_of_iff ((s.toList.all isInline && s.toList.any (· ≠ ' ')) = true) (by
    rw [Bool.and_eq_true, List.any_eq_true]
    exact ⟨fun h => ⟨h.1, by simpa using h.2⟩, fun h => ⟨h.inline, by simpa using h.ink⟩⟩)

section
variable {s : String} {c : Char}

theorem not_isBreak_of_isInline (h : isInline c = true) : Lines.isBreak c = false := by
  refine Bool.eq_false_iff.mpr fun hb => ?_
  simp only [Lines.isBreak, Bool.or_eq_true, decide_eq_true_eq] at hb
  rcases hb with (((((((((rfl | rfl) | rfl) | rfl) | rfl) | rfl) | rfl) | rfl) | rfl) | rfl) <;> exact absurd h (by decide)

theorem not_isSpace_of_isInline (h : isInline c = true) (hc : c ≠ ' ') : Lines.isSpace c = false := by
  have hb := not_isBreak_of_isInline h
  have hlt : 0x20 ≤ c.toNat ∧ c.toNat < 0x7f := by simpa [isInline] using h
  have hne : ∀ d : Char, ¬(0x20 ≤ d.toNat ∧ d.toNat < 0x7f) → c ≠ d := by
    rintro d hd rfl
    exact hd hlt
  simp only [Lines.isSpace, hb, Bool.false_or, Bool.or_eq_false_iff, decide_eq_false_iff_not, Bool.and_eq_false_iff]
  refine ⟨⟨⟨⟨⟨⟨⟨⟨hc, hne _ (by decide)⟩, hne _ (by decide)⟩, hne _ (by decide)⟩, hne _ (by decide)⟩, .inl ?_⟩,
    hne _ (by decide)⟩, hne _ (by decide)⟩, hne _ (by decide)⟩
  omega

theorem IsCode.ne_nil (h : IsCode s) : s.toList ≠ [] := by
  obtain ⟨c, hc, -⟩ := h.ink
  exact List.ne_nil_of_mem hc

theorem IsCode.isUnbroken (h : IsCode s) : ∀ c ∈ s.toList, Lines.isBreak c = false :=
  fun c hc => not_isBreak_of_isInline (List.all_eq_true.mp h.inline c hc)

theorem IsCode.feed_not_mem (h : IsCode s) : '\n' ∉ s.toList := fun hc => absurd (h.isUnbroken _ hc) (by decide)

theorem IsCode.exists_ink (h : IsCode s) : ∃ c ∈ s.toList, Lines.isSpace c = false := by
  obtain ⟨c, hc, hne⟩ := h.ink
  exact ⟨c, hc, not_isSpace_of_isInline (List.all_eq_true.mp h.inline c hc) hne⟩

theorem isInline_of_isPart (h : Word.isPart c = true) : isInline c = true := by
  have hlt := toNat_lt_of_isPart h
  have hne : c.toNat ≠ 0x7f := by
    intro he
    have : c = '\x7f' := Char.toNat_inj.mp he
    rw [this] at h
    cases h
  have hle : 0x20 ≤ c.toNat := by
    refine Decidable.byContradiction fun hle => ?_
    have hall : ∀ n < 0x20, Word.isPart (Char.ofNat n) = false := by decide
    have := hall c.toNat (by omega)
    rw [Char.ofNat_toNat, h] at this
    cases this
  simp only [isInline, Bool.and_eq_true, decide_eq_true_eq]
  omega

theorem IsWord.isInline (h : IsWord s) : IsInline s :=
  List.all_eq_true.mpr fun c hc => isInline_of_isPart (h.isPart_of_mem c hc)

end

namespace Lines

variable {cs : List Char}

theorem split_of_not_isBreak (h : ∀ c ∈ cs, isBreak c = false) : split (cs ++ ['\n']) = [(cs, ['\n'])] := by
  induction cs with
  | nil => rfl
  | cons c cs ih =>
    rw [List.cons_append, split_cons (h c List.mem_cons_self), ih fun d hd => h d (List.mem_cons_of_mem _ hd)]

theorem shifted_of_not_isBreak (h : ∀ c ∈ cs, isBreak c = false) (hne : cs ≠ []) : shifted cs = [margin ++ cs] := by
  rw [shifted, split_of_not_isBreak h, List.map_singleton, shiftLine, if_neg (by simpa using hne)]

theorem shifted_join {ls : List (List Char)} (hne : ls ≠ []) : shifted (join ls) = ls.flatMap shifted := by
  induction ls with
  | nil => exact absurd rfl hne
  | cons l ls ih =>
    by_cases hls : ls = []
    · rw [hls, join_singleton, List.flatMap_singleton]
    · rw [join_cons l hls, shifted_append, ih hls, List.flatMap_cons]

end Lines

/-! ## Types as texts -/

namespace Target

variable {P : Char → Prop}

mutual

theorem consists_typeText (hpart : ∀ c, Word.isPart c = true → P c) (hmarks : ∀ c ∈ ['.', '[', ']', ',', ' '], P c) :
    (t : TypeRef) → HasWords t → Consists P t.annotation
  | ⟨name, args⟩, h => by
    have hname : ∀ c ∈ (TypeRef.targetName name).toList, P c := fun c hc =>
      (h.1.isPart_of_mem c hc).elim (fun hdot => hmarks c (by simp [hdot])) (hpart c)
    match args, h.2 with
    | [], _ => exact hname
    | t :: ts, hts =>
      have hfirst := consists_typeText hpart hmarks t hts.1
      have htail := mem_tailText hpart hmarks ts hts.2
      intro c hc
      rw [toList_applied] at hc
      simp only [List.mem_append, List.mem_cons, List.not_mem_nil, or_false] at hc
      rcases hc with hc | rfl | hc | hc | rfl
      · exact hname c hc
      · exact hmarks _ (by decide)
      · exact hfirst c hc
      · exact htail c hc
      · exact hmarks _ (by decide)

theorem mem_tailText (hpart : ∀ c, Word.isPart c = true → P c) (hmarks : ∀ c ∈ ['.', '[', ']', ',', ' '], P c) :
    (ts : List TypeRef) → HaveWords ts → ∀ c ∈ tailText ts, P c
  | [], _ => by simp [tailText]
  | t :: ts, h => by
    have hfirst := consists_typeText hpart hmarks t h.1
    have htail := mem_tailText hpart hmarks ts h.2
    intro c hc
    simp only [tailText, List.flatMap_cons, List.cons_append, List.mem_cons, List.mem_append] at hc
    rcases hc with rfl | rfl | hc | hc
    · exact hmarks _ (by decide)
    · exact hmarks _ (by decide)
    · exact hfirst c hc
    · exact htail c hc

end

theorem isInline_typeText {t : TypeRef} (h : HasWords t) : IsInline t.annotation := by
  have hmarks : ['.', '[', ']', ',', ' '].all isInline = true := by decide
  exact List.all_eq_true.mpr (consists_typeText (fun _ => isInline_of_isPart) (List.all_eq_true.mp hmarks) t h)

theorem isInert_typeText {t : TypeRef} (h : HasWords t) : Scanner.IsInert t.annotation.toList := by
  have hmarks : Scanner.IsInert ['.', '[', ']', ',', ' '] := by simp [Scanner.IsInert, Scanner.isForbidden]
  exact consists_typeText (fun _ => isInert_of_isPart) hmarks t h

theorem isInline_payloadUnion {vs : List Variant} (h : ∀ v ∈ vs, HasWords v.payload) :
    IsInline (ClassPlan.payloadUnion vs) := by
  rw [ClassPlan.payloadUnion]
  split
  · decide
  · refine isInline_intercalate (by decide) fun s hs => ?_
    obtain ⟨v, hv, rfl⟩ := List.mem_map.mp hs
    exact isInline_typeText (h v hv)

theorem isQualified_targetName {n : String} (h : IsQualified n) : IsQualified (TypeRef.targetName n) := by
  have hbuiltins : ∀ x ∈ TypeRef.builtins, IsWord x.2 := by decide
  rw [TypeRef.targetName]
  cases hl : TypeRef.builtins.lookup n with
  | none => exact h
  | some m =>
    obtain ⟨before, behind, he, -⟩ := List.lookup_eq_some_iff.mp hl
    exact (hbuiltins (n, m) (by rw [he]; simp)).isQualified

mutual

theorem hasWords_of_isWorded : (t : TypeRef) → t.IsWorded → HasWords t
  | ⟨_, args⟩, h => ⟨isQualified_targetName h.1, haveWords_of_areWorded args h.2⟩

theorem haveWords_of_areWorded : (ts : List TypeRef) → TypeRef.AreWorded ts → HaveWords ts
  | [], _ => trivial
  | t :: ts, h => ⟨hasWords_of_isWorded t h.1, haveWords_of_areWorded ts h.2⟩

end

end Target

/-! ## Sources of lines -/

/-- The lines of a class that a line of a source becomes, or a text in it that has its own lines. -/
def placeLine (s : String) : List (List Char) := Lines.shifted (Lines.clearBlank s.toList)

section
variable {s : String} {ss : List String}

theorem IsCode.clearBlank_eq (h : IsCode s) : Lines.clearBlank s.toList = s.toList :=
  clearBlank_of_ink h.feed_not_mem h.exists_ink

theorem IsCode.placeLine_eq (h : IsCode s) : placeLine s = [Lines.margin ++ s.toList] := by
  rw [placeLine, h.clearBlank_eq, Lines.shifted_of_not_isBreak h.isUnbroken h.ne_nil]

theorem placeLine_empty : placeLine "" = [[]] := by rfl

theorem toList_block (s : String) (ss : List String) :
    (ClassPlan.block (s :: ss)).toList = Lines.join ((s :: ss).map String.toList) := by
  induction ss generalizing s with
  | nil => simp [ClassPlan.block, Lines.join_singleton]
  | cons t ss ih =>
    have hblock : ClassPlan.block (s :: t :: ss) = s ++ "\n" ++ ClassPlan.block (t :: ss) := String.intercalate_cons_cons
    rw [hblock, String.toList_append, String.toList_append, ih, List.append_assoc, List.map_cons (l := t :: ss),
      Lines.join_cons s.toList (by simp)]
    rfl

theorem textLines_block (h : ∀ t ∈ s :: ss, IsCode t) :
    textLines [ClassPlan.shifted (ClassPlan.block (s :: ss))] = (s :: ss).flatMap placeLine := by
  have hs := h s List.mem_cons_self
  have hprefix : s.toList <+: (ClassPlan.block (s :: ss)).toList := by
    rw [toList_block, List.map_cons]
    cases ss with
    | nil => rw [List.map_nil, Lines.join_singleton]
    | cons t ss => rw [Lines.join_cons _ (by simp)]; exact List.prefix_append _ _
  have hlines : ∀ t ∈ s :: ss, (Lines.shifted ∘ String.toList) t = placeLine t := fun t ht => by
    rw [Function.comp_apply, placeLine, (h t ht).clearBlank_eq]
  rw [textLines, List.flatMap_singleton, ClassPlan.shifted, String.toList_ofList,
    (Lines.splitFeeds_shift hs.isUnbroken hs.ne_nil hprefix).1, toList_block, Lines.shifted_join (by simp), List.flatMap_map]
  exact List.flatMap_congr hlines

theorem clearBlank_ofLines (ss : List String) :
    Lines.clearBlank (Member.ofLines ss).toList = ss.flatMap fun s => Lines.clearBlank s.toList ++ ['\n'] := by
  induction ss with
  | nil => rfl
  | cons s ss ih =>
    rw [toList_ofLines_cons, Lines.clearBlank_append, ih, List.flatMap_cons, List.append_assoc]
    rfl

theorem shifted_lines (f : String → List Char) (ss : List String) (r : List Char) :
    Lines.shifted ((ss.flatMap fun s => f s ++ ['\n']) ++ r) = (ss.flatMap fun s => Lines.shifted (f s)) ++ Lines.shifted r := by
  induction ss with
  | nil => rfl
  | cons s ss ih =>
    rw [List.flatMap_cons, List.flatMap_cons, List.append_assoc, List.append_assoc, List.append_assoc, ← ih]
    exact Lines.shifted_append (f s) _

theorem textLines_tidy {t : String} (hs : IsCode s) (ht : IsCode t) :
    textLines [ClassPlan.shifted (Member.tidy (Member.ofLines (s :: ss ++ [t])))] = (s :: ss ++ [t]).flatMap placeLine := by
  let before : List Char := (s :: ss).flatMap fun s => Lines.clearBlank s.toList ++ ['\n']
  have hclear : Lines.clearBlank (Member.ofLines (s :: ss ++ [t])).toList = before ++ (t.toList ++ ['\n']) := by
    rw [clearBlank_ofLines, List.flatMap_append, List.flatMap_singleton, ht.clearBlank_eq]
  have hbefore : s.toList <+: before := by
    change s.toList <+: Lines.clearBlank s.toList ++ ['\n'] ++ _
    rw [hs.clearBlank_eq, List.append_assoc]
    exact List.prefix_append _ _
  have hhead : before.head? ≠ some '\n' := by
    obtain ⟨r, hr⟩ := hbefore
    obtain ⟨c, cs, hcs⟩ := List.exists_cons_of_ne_nil hs.ne_nil
    rw [← hr, hcs, List.cons_append, List.head?_cons, ne_eq, Option.some.injEq]
    rintro rfl
    exact hs.feed_not_mem (by rw [hcs]; exact List.mem_cons_self)
  have hne : before ≠ [] := fun hnil => hs.ne_nil (List.prefix_nil.mp (hnil ▸ hbefore))
  have hlast : ((t.toList ++ ['\n']).reverse.dropWhile (· = '\n')).reverse = t.toList := by
    have hkept : t.toList.reverse.dropWhile (· = '\n') = t.toList.reverse := by
      cases hr : t.toList.reverse with
      | nil => rfl
      | cons c cs =>
        refine List.dropWhile_cons_of_neg ?_
        have hc : c ∈ t.toList := List.mem_reverse.mp (hr ▸ List.mem_cons_self)
        simpa using fun he : c = '\n' => ht.feed_not_mem (he ▸ hc)
    rw [List.reverse_append, List.reverse_singleton, List.singleton_append, List.dropWhile_cons_of_pos (by simp), hkept,
      List.reverse_reverse]
  have htidy : (Member.tidy (Member.ofLines (s :: ss ++ [t]))).toList = before ++ t.toList := by
    obtain ⟨c, hc, hspace⟩ := ht.exists_ink
    have hink : ∃ c ∈ t.toList ++ ['\n'], c ≠ '\n' :=
      ⟨c, List.mem_append_left _ hc, fun he => ht.feed_not_mem (he ▸ hc)⟩
    rw [Member.tidy, String.toList_ofList, hclear, Lines.trimFeeds_append hhead hne hink, hlast]
  rw [textLines, List.flatMap_singleton, ClassPlan.shifted, String.toList_ofList, htidy,
    (Lines.splitFeeds_shift hs.isUnbroken hs.ne_nil (hbefore.trans (List.prefix_append _ _))).1, shifted_lines,
    List.flatMap_append, List.flatMap_singleton, placeLine, ht.clearBlank_eq]
  rfl

end

end DomainModel

namespace DomainModel.Target

open Scanner

variable {s t : String} {ss ss' : List String} {p q : Bool} {l : Line} {ls ls' : List Line}

/-- A line of a source makes a line in a class exactly if `p` is true. -/
structure Placed (s : String) (p : Bool) (l : Line) : Prop where
  code : IsCode s
  reads : Reads (placeLine s) (p = true) [l]

theorem Makes.ink {cs : List Char} {f : Form} {ns : List String} (h : Makes cs p f ns) : ∃ c ∈ cs, c ≠ ' ' := by
  refine Decidable.byContradiction fun hno => ?_
  have hblank : cs = List.replicate cs.length ' ' :=
    List.eq_replicate_of_mem fun c hc => Decidable.byContradiction fun hne => hno ⟨c, hc, hne⟩
  have hrun := h 0
  rw [hblank, run_margin] at hrun
  cases p <;> simp at hrun

theorem Makes.placed {cs : List Char} {f : Form} {ns : List String} {j : Nat} (h : Makes cs p f ns)
    (htext : s.toList = List.replicate j ' ' ++ cs) (hinline : IsInline s) : Placed s p ⟨4 + j, f, ns⟩ := by
  have hcode : IsCode s := by
    obtain ⟨c, hc, hne⟩ := h.ink
    exact ⟨hinline, c, by rw [htext]; exact List.mem_append_right _ hc, hne⟩
  refine ⟨hcode, ?_⟩
  rw [hcode.placeLine_eq]
  refine h.reads ?_
  rw [htext, Lines.margin, ← List.append_assoc, List.replicate_append_replicate]

theorem placed_fixed {f : Form} {ns : List String} (j : Nat) (u : String)
    (h : ∀ k, run ⟨.margin k, [], { column := 0 }, []⟩ (u.toList ++ ['\n']) = some { lines := [⟨k, f, ns⟩] })
    (htext : s.toList = List.replicate j ' ' ++ u.toList) (hinline : IsInline s) : Placed s true ⟨4 + j, f, ns⟩ :=
  Makes.placed (fun k => (h k).trans (if_pos rfl).symm) htext hinline

/-- What lines all lines of a source make. -/
def Sources (ss : List String) (p : Bool) (ls : List Line) : Prop := Reads (ss.flatMap placeLine) (p = true) ls

namespace Sources

theorem nil : Sources [] true [] := Reads.nil.congr (by simp)

theorem append (h : Sources ss p ls) (h' : Sources ss' q ls') : Sources (ss ++ ss') (p && q) (ls ++ ls') := by
  rw [Sources, List.flatMap_append]
  exact (Reads.append h h').congr (by rw [Bool.and_eq_true])

theorem cons (h : Placed s p l) (h' : Sources ss q ls) : Sources (s :: ss) (p && q) (l :: ls) :=
  (Reads.append h.reads h').congr (by rw [Bool.and_eq_true])

theorem blank (h : Sources ss q ls) : Sources ("" :: ss) q ls := by
  have hblank : Reads [[]] True [] := .of_run rfl
  exact (Reads.append hblank h).congr (by simp)

theorem flatMap {α : Type} {xs : List α} {f : α → List String} {p : α → Bool} {g : α → List Line}
    (h : ∀ x ∈ xs, Sources (f x) (p x) (g x)) : Sources (xs.flatMap f) (xs.all p) (xs.flatMap g) := by
  rw [Sources, List.flatMap_assoc]
  exact (Reads.flatMap h).congr (by rw [List.all_eq_true])

theorem docLines (docs : List String) :
    Sources (Member.docLines docs) true (if docs.isEmpty then [] else [⟨8, .text, []⟩]) := by
  rw [Member.docLines]
  split
  · exact nil
  · next hdocs =>
    have hne : docs.map String.toList ≠ [] := by simpa using hdocs
    have hplace : placeLine (Docstring.bodyText docs) =
        Lines.shifted (Lines.clearBlank (Lines.indent (Docstring.encode (docs.map String.toList)))) := by
      rw [placeLine, Docstring.bodyText, String.toList_ofList]
    rw [Sources, List.flatMap_singleton, hplace]
    exact (reads_docstring (isPlainDocstring_indent hne)).congr (by simp)

theorem tidy (h : Sources ss p ls) (hfirst : ss.head? = some s) (hlast : ss.tail.getLast? = some t) (hs : IsCode s)
    (ht : IsCode t) : Reads (textLines [ClassPlan.shifted (Member.tidy (Member.ofLines ss))]) (p = true) ls := by
  obtain ⟨rest, rfl⟩ := List.head?_eq_some_iff.mp hfirst
  obtain ⟨middle, hrest⟩ := List.getLast?_eq_some_iff.mp hlast
  rw [List.tail_cons] at hrest
  subst hrest
  have htext := @textLines_tidy s middle t hs ht
  rw [List.cons_append] at htext
  rw [htext]
  exact h

theorem block (h : Sources (s :: ss) p ls) (hcode : ∀ t ∈ s :: ss, IsCode t) :
    Reads (textLines [ClassPlan.shifted (ClassPlan.block (s :: ss))]) (p = true) ls := by
  rw [textLines_block hcode]
  exact h

end Sources

end DomainModel.Target
