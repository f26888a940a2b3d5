import DomainModel.Proofs.Generation.Characters
import DomainModel.Proofs.Generation.Documentation
import DomainModel.Proofs.Generation.Scope
import DomainModel.Proofs.Generation.Stages
import DomainModel.Proofs.Source.Wording

/-!
# The lines at the margin

A generated module holds more text than it has statements: documentation and bodies stand between them, all of it away
from the left margin. `render_skeleton` says which lines start at the margin, in which order, and that what such a line
names is imported or defined before it.
-/

namespace DomainModel

/-- A line that is not empty and does not start with a space. -/
def isFlush : List Char → Bool
  | [] => false
  | c :: _ => c ≠ ' '

/-! ## Lines -/

/-- A line of a module that stands at the margin, behind the imports. -/
inductive Headline
  | error (owner : String)
  | cls (name : String) (bases : List Contract)
  | variant (sum variant : String)
  /-- The class of a variant gets the name of the variant. -/
  | name (sum variant : String)
  | qualname (sum variant : String)
  /-- The class of a variant becomes an attribute of the sum. -/
  | bind (sum variant : String)
  | synonym (name annotation : String)
  | events (entity sums : String)
deriving Repr, DecidableEq

namespace Headline

def errorName (owner : String) : String := owner ++ "ValidationError"

def className (sum variant : String) : String := "_" ++ sum ++ variant

def text : Headline → String
  | error owner => "class " ++ errorName owner ++ "(ValueValidationError):"
  | cls n bases =>
    "class " ++ n ++ (if bases.isEmpty then "" else "(" ++ ", ".intercalate (bases.map (·.text)) ++ ")") ++ ":"
  | variant s v => "class " ++ className s v ++ "(" ++ s ++ "):"
  | name s v => className s v ++ ".__name__ = \"" ++ v ++ "\""
  | qualname s v => className s v ++ ".__qualname__ = \"" ++ s ++ "." ++ v ++ "\""
  | bind s v => s ++ "." ++ v ++ " = " ++ className s v
  | synonym n annotation => n ++ ": TypeAlias = \"" ++ annotation ++ "\""
  | events entity sums => entity ++ ".events = " ++ sums

/-- The names that a line gives a meaning in the module. -/
def defines : Headline → List String
  | error owner => [errorName owner]
  | cls n _ => [n]
  | variant s v => [className s v]
  | synonym n _ => [n]
  | name _ _ | qualname _ _ | bind _ _ | events _ _ => []

/-- The bases, the classes of variants and the classes assigned to that a line names. -/
def uses : Headline → List String
  | error _ => [Contract.valueValidationError.text]
  | cls _ bases => bases.map (·.text)
  | variant s _ => [s]
  | name s v | qualname s v => [className s v]
  | bind s v => [s, className s v]
  | synonym _ _ => []
  | events entity _ => [entity]

end Headline

/-! ## What declarations have at the margin -/

namespace Declaration

/-- The sums of events that the directives of a declaration name. -/
def published (d : Declaration) : List String :=
  d.directives.filterMap fun x => if x.name = Role.entity.text then x.events? else none

def rejections (d : Declaration) : List Headline := if d.Carries .valueObject then [.error d.name] else []

def variantHeads (sum : String) (v : Variant) : List Headline :=
  [.variant sum v.name, .name sum v.name, .qualname sum v.name, .bind sum v.name]

/-- A class, and the classes of its variants. -/
def heads (d : Declaration) : List Headline :=
  match d.kind with
  | .synonym => []
  | .record | .sum => .cls d.name d.contracts :: d.variants.flatMap (variantHeads d.name)

def synonyms (d : Declaration) : List Headline := d.target.toList.map fun t => .synonym d.name t.annotation

def assignments (d : Declaration) : List Headline := d.published.map (.events d.name)

end Declaration

/-- The lines at the margin of the module that declarations become. -/
def skeleton (ds : List Declaration) : List Headline :=
  ds.flatMap Declaration.rejections ++ ds.flatMap Declaration.heads ++ ds.flatMap Declaration.synonyms
    ++ ds.flatMap Declaration.assignments

/-! ## Texts and their lines at the margin -/

/-- Of texts that stand one below the other, these are the lines at the margin, and nothing but a line feed ends a line.
-/
structure Shows (texts : List String) (heads : List Headline) : Prop where
  flush : (textLines texts).filter isFlush = heads.map (·.text.toList)
  feeds : ∀ s ∈ texts, ∀ c ∈ s.toList, Lines.isBreak c = true → c = '\n'

/-- A text that is one line, or part of one. -/
abbrev IsUnbroken (s : String) : Prop := Consists (fun c => Lines.isBreak c = false) s

section
variable {s t : String} {texts texts' : List String} {hs hs' : List Headline} {l : Headline}

theorem isUnbroken_of_all (h : (s.toList.all fun c => !Lines.isBreak c) = true) : IsUnbroken s :=
  fun c hc => by simpa using List.all_eq_true.mp h c hc

theorem IsUnbroken.feed_not_mem (h : IsUnbroken s) : '\n' ∉ s.toList := fun hc => absurd (h _ hc) (by decide)

theorem IsUnbroken.textLines_eq (h : IsUnbroken s) : textLines [s] = [s.toList] := by
  rw [textLines, List.flatMap_singleton]
  exact Lines.splitFeeds_of_not_mem h.feed_not_mem

theorem isBreak_of_isPart {c : Char} (h : Word.isPart c = true) : Lines.isBreak c = false := by
  refine Bool.eq_false_iff.mpr fun hb => ?_
  simp only [Lines.isBreak, Bool.or_eq_true, decide_eq_true_eq] at hb
  rcases hb with (((((((((rfl | rfl) | rfl) | rfl) | rfl) | rfl) | rfl) | rfl) | rfl) | rfl) <;> exact absurd h (by decide)

theorem IsWord.isUnbroken (h : IsWord s) : IsUnbroken s := fun c hc => isBreak_of_isPart (h.isPart_of_mem c hc)

theorem isFlush_append (h : isFlush s.toList = true) : isFlush (s ++ t).toList = true := by
  rw [String.toList_append]
  cases hs : s.toList with
  | nil =>
    rw [hs] at h
    cases h
  | cons c cs =>
    rw [hs] at h
    exact h

theorem IsWord.isFlush (h : IsWord s) : isFlush s.toList = true := by
  obtain ⟨c, cs, hs, hc, -⟩ := h
  rw [hs]
  refine decide_eq_true fun he => ?_
  rw [he] at hc
  exact absurd hc (by decide)

namespace Shows

theorem nil : Shows [] [] := ⟨rfl, fun _ hs => nomatch hs⟩

theorem append (h : Shows texts hs) (h' : Shows texts' hs') : Shows (texts ++ texts') (hs ++ hs') := by
  refine ⟨?_, fun s hs => ?_⟩
  · rw [textLines_append, List.filter_append, h.flush, h'.flush, List.map_append]
  · exact (List.mem_append.mp hs).elim (h.feeds s) (h'.feeds s)

theorem flatMap {α β : Type} {R : α → β → Prop} {as : List α} {bs : List β} {f : β → List String}
    {g : α → List Headline} (h : List.Forall₂ R as bs) (hR : ∀ a b, R a b → Shows (f b) (g a)) :
    Shows (bs.flatMap f) (as.flatMap g) := by
  induction h with
  | nil => exact .nil
  | cons hab _ ih => exact (hR _ _ hab).append ih

theorem unflush (h : IsUnbroken s) (hs : isFlush s.toList = false) : Shows [s] [] := by
  refine ⟨?_, fun t ht => ?_⟩
  · rw [h.textLines_eq, List.filter_cons, hs]
    rfl
  · rw [List.mem_singleton.mp ht]
    exact fun c hc hb => absurd (h c hc) (by simp [hb])

theorem shifted (s : String) : Shows [ClassPlan.shifted s] [] := by
  have hlines : ∃ ls : List (List Char), ls ≠ [] ∧ (ClassPlan.shifted s).toList = Lines.join ls ∧
      ∀ l ∈ ls, isFlush l = false ∧ ∀ c ∈ l, Lines.isBreak c = false := by
    have hline : ∀ x ∈ Lines.split (s.toList ++ ['\n']), ∀ c ∈ Lines.margin ++ x.1, Lines.isBreak c = false := by
      intro x hx c hc
      rcases List.mem_append.mp hc with hc | hc
      · rw [List.eq_of_mem_replicate hc]
        decide
      · exact Lines.isBreak_of_mem_line x hx c hc
    rw [ClassPlan.shifted, String.toList_ofList, Lines.shift]
    cases hsplit : Lines.split (s.toList ++ ['\n']) with
    | nil => exact absurd hsplit (Lines.split_ne_nil (by simp))
    | cons first rest =>
      rw [hsplit] at hline
      refine ⟨_, List.cons_ne_nil _ _, rfl, fun l hl => ?_⟩
      simp only [List.map_map] at hl
      rcases List.mem_cons.mp hl with rfl | hl
      · exact ⟨rfl, hline first List.mem_cons_self⟩
      · obtain ⟨x, hx, rfl⟩ := List.mem_map.mp hl
        have hx' := hline x (List.mem_cons_of_mem _ hx)
        simp only [Function.comp_apply, Lines.shiftLine]
        split
        · next he => exact ⟨by rw [List.isEmpty_iff.mp he]; rfl, fun c hc => hx' c (List.mem_append_right _ hc)⟩
        · exact ⟨rfl, hx'⟩
  obtain ⟨ls, hne, htext, hls⟩ := hlines
  refine ⟨?_, fun t ht c hc hb => ?_⟩
  · have hsplit : Lines.splitFeeds (ClassPlan.shifted s).toList = ls := by
      rw [htext]
      exact Lines.splitFeeds_join hne fun l hl hfeed => absurd ((hls l hl).2 _ hfeed) (by decide)
    rw [textLines, List.flatMap_singleton, hsplit]
    exact List.filter_eq_nil_iff.mpr fun l hl => by simp [(hls l hl).1]
  · rw [List.mem_singleton.mp ht, htext] at hc
    rcases Lines.mem_of_mem_join hc with hfeed | ⟨l, hl, hc⟩
    · exact hfeed
    · exact absurd hb (by simp [(hls l hl).2 c hc])

theorem map_shifted (ss : List String) : Shows (ss.map ClassPlan.shifted) [] := by
  induction ss with
  | nil => exact .nil
  | cons s ss ih => exact (shifted s).append ih

theorem empty : Shows [""] [] := unflush (isUnbroken_of_all rfl) rfl

theorem docLines (docs : List String) : Shows (ClassPlan.docLines docs) [] := by
  rw [ClassPlan.docLines]
  split
  · exact .nil
  · exact (shifted _).append empty

end Shows

namespace Headline

/-- The names in a line are words, and it has no other end than its own. -/
def IsSound : Headline → Prop
  | error owner => IsWord owner
  | cls n _ => IsWord n
  | variant s v | name s v | qualname s v | bind s v => IsWord s ∧ IsWord v
  | synonym n annotation => IsWord n ∧ IsUnbroken annotation
  | events entity sums => IsWord entity ∧ IsUnbroken sums

theorem isUnbroken (h : l.IsSound) : IsUnbroken l.text := by
  have hlit : ∀ t : String, (t.toList.all fun c => !Lines.isBreak c) = true → IsUnbroken t := fun t => isUnbroken_of_all
  cases l with
  | error owner =>
    have howner := IsWord.isUnbroken h
    simp only [text, errorName, IsUnbroken, consists_append]
    exact ⟨⟨hlit _ (by decide), howner, hlit _ (by decide)⟩, hlit _ (by decide)⟩
  | cls n bases =>
    have hn := IsWord.isUnbroken h
    have hbases : IsUnbroken (", ".intercalate (bases.map (·.text))) := by
      refine consists_intercalate (hlit _ (by decide)) fun t ht => ?_
      obtain ⟨b, -, rfl⟩ := List.mem_map.mp ht
      cases b <;> exact hlit _ (by decide)
    simp only [text, IsUnbroken, consists_append]
    refine ⟨⟨⟨hlit _ (by decide), hn⟩, ?_⟩, hlit _ (by decide)⟩
    split
    · exact hlit _ (by decide)
    · simp only [consists_append]
      exact ⟨⟨hlit _ (by decide), hbases⟩, hlit _ (by decide)⟩
  | variant s v =>
    obtain ⟨hs, hv⟩ := And.imp IsWord.isUnbroken IsWord.isUnbroken h
    simp only [text, className, IsUnbroken, consists_append]
    exact ⟨⟨⟨⟨hlit _ (by decide), ⟨hlit _ (by decide), hs⟩, hv⟩, hlit _ (by decide)⟩, hs⟩, hlit _ (by decide)⟩
  | name s v =>
    obtain ⟨hs, hv⟩ := And.imp IsWord.isUnbroken IsWord.isUnbroken h
    simp only [text, className, IsUnbroken, consists_append]
    exact ⟨⟨⟨⟨⟨hlit _ (by decide), hs⟩, hv⟩, hlit _ (by decide)⟩, hv⟩, hlit _ (by decide)⟩
  | qualname s v =>
    obtain ⟨hs, hv⟩ := And.imp IsWord.isUnbroken IsWord.isUnbroken h
    simp only [text, className, IsUnbroken, consists_append]
    exact ⟨⟨⟨⟨⟨⟨⟨hlit _ (by decide), hs⟩, hv⟩, hlit _ (by decide)⟩, hs⟩, hlit _ (by decide)⟩, hv⟩, hlit _ (by decide)⟩
  | bind s v =>
    obtain ⟨hs, hv⟩ := And.imp IsWord.isUnbroken IsWord.isUnbroken h
    simp only [text, className, IsUnbroken, consists_append]
    exact ⟨⟨⟨⟨hs, hlit _ (by decide)⟩, hv⟩, hlit _ (by decide)⟩, ⟨hlit _ (by decide), hs⟩, hv⟩
  | synonym n annotation =>
    simp only [text, IsUnbroken, consists_append]
    exact ⟨⟨⟨h.1.isUnbroken, hlit _ (by decide)⟩, h.2⟩, hlit _ (by decide)⟩
  | events entity sums =>
    simp only [text, IsUnbroken, consists_append]
    exact ⟨⟨h.1.isUnbroken, hlit _ (by decide)⟩, h.2⟩

theorem isFlush (h : l.IsSound) : isFlush l.text.toList = true := by
  cases l with
  | error owner => simp [text, DomainModel.isFlush]
  | cls n bases => simp [text, DomainModel.isFlush]
  | variant s v => simp [text, DomainModel.isFlush]
  | name s v => simp [text, className, DomainModel.isFlush]
  | qualname s v => simp [text, className, DomainModel.isFlush]
  | bind s v =>
    simp only [text, String.append_assoc]
    exact isFlush_append h.1.isFlush
  | synonym n annotation =>
    simp only [text, String.append_assoc]
    exact isFlush_append h.1.isFlush
  | events entity sums =>
    simp only [text, String.append_assoc]
    exact isFlush_append h.1.isFlush

theorem shows (h : l.IsSound) : Shows [l.text] [l] := by
  refine ⟨?_, fun t ht c hc hb => ?_⟩
  · rw [(isUnbroken h).textLines_eq, List.filter_cons, isFlush h]
    rfl
  · rw [List.mem_singleton.mp ht] at hc
    exact absurd hb (by simp [isUnbroken h c hc])

end Headline

end

/-! ## What a declaration is written with -/

theorem isUnbroken_targetName {n : String} (h : IsQualified n) : IsUnbroken (TypeRef.targetName n) := by
  have hbuiltins : ∀ x ∈ TypeRef.builtins, (x.2.toList.all fun c => !Lines.isBreak c) = true := by decide
  rw [TypeRef.targetName]
  cases hl : TypeRef.builtins.lookup n with
  | none =>
    intro c hc
    rcases h.isPart_of_mem c hc with rfl | hc
    · decide
    · exact isBreak_of_isPart hc
  | some m =>
    obtain ⟨before, behind, he, -⟩ := List.lookup_eq_some_iff.mp hl
    exact isUnbroken_of_all (hbuiltins (n, m) (by rw [he]; simp))

mutual

theorem isUnbroken_annotation (t : TypeRef) (h : t.IsWorded) : IsUnbroken t.annotation := by
  obtain ⟨name, args⟩ := t
  have hname := isUnbroken_targetName h.1
  cases args with
  | nil => exact hname
  | cons t ts =>
    obtain ⟨ht, hts⟩ := h.2
    have hlit : ∀ t : String, (t.toList.all fun c => !Lines.isBreak c) = true → IsUnbroken t := fun t => isUnbroken_of_all
    simp only [TypeRef.annotation, TypeRef.mapNames, TypeRef.mapNamesList, TypeRef.text, IsUnbroken, consists_append]
    exact ⟨⟨⟨⟨hname, hlit _ (by decide)⟩, isUnbroken_annotation t ht⟩, isUnbroken_textTail ts hts⟩, hlit _ (by decide)⟩

theorem isUnbroken_textTail (ts : List TypeRef) (h : TypeRef.AreWorded ts) :
    IsUnbroken (TypeRef.textTail (TypeRef.mapNamesList TypeRef.targetName ts)) := by
  cases ts with
  | nil => exact isUnbroken_of_all rfl
  | cons t ts =>
    simp only [TypeRef.mapNamesList, TypeRef.textTail, IsUnbroken, consists_append]
    exact ⟨⟨isUnbroken_of_all (by decide), isUnbroken_annotation t h.1⟩, isUnbroken_textTail ts h.2⟩

end

theorem isStart_or_isPart_of_mem {s : String} {c : Char} (h : Identifier.isIdentifier s = true) (hc : c ∈ s.toList) :
    Identifier.isStart c = true ∨ Identifier.isPart c = true := by
  rw [Identifier.isIdentifier] at h
  cases hs : s.toList with
  | nil => simp [hs] at hc
  | cons x xs =>
    rw [hs, Bool.and_eq_true, List.all_eq_true] at h
    rw [hs] at hc
    rcases List.mem_cons.mp hc with rfl | hc
    · exact .inl h.1
    · exact .inr (h.2 c hc)

theorem isUnbroken_of_isIdentifier {s : String} (h : Identifier.isIdentifier s = true) : IsUnbroken s := by
  have hpart : ∀ c, Lines.isBreak c = true → Identifier.isStart c = false ∧ Identifier.isPart c = false := by
    intro c hb
    simp only [Lines.isBreak, Bool.or_eq_true, decide_eq_true_eq] at hb
    rcases hb with (((((((((rfl | rfl) | rfl) | rfl) | rfl) | rfl) | rfl) | rfl) | rfl) | rfl) <;> exact by decide +kernel
  intro c hc
  refine Bool.eq_false_iff.mpr fun hb => ?_
  obtain ⟨hstart, hpart⟩ := hpart c hb
  rcases isStart_or_isPart_of_mem h hc with hs | hs
  · rw [hstart] at hs
    cases hs
  · rw [hpart] at hs
    cases hs

/-! ## The parts of a module -/

theorem clearBlank_of_ink {cs : List Char} (hfeed : '\n' ∉ cs) (hink : ∃ c ∈ cs, Lines.isSpace c = false) :
    Lines.clearBlank cs = cs := by
  have hall : cs.all (fun c => c = ' ' || c = '\t') = false := by
    obtain ⟨c, hc, hs⟩ := hink
    refine List.all_eq_false.mpr ⟨c, hc, ?_⟩
    simp only [Lines.isSpace, Bool.or_eq_false_iff, decide_eq_false_iff_not] at hs
    simp [hs]
  rw [Lines.clearBlank, Lines.splitFeeds_of_not_mem hfeed, List.map_singleton, if_neg (by simp [hall]),
    Lines.join_singleton]

theorem tidy_lines {s t : String} {c d : Char} (hs : '\n' ∉ s.toList) (hstart : s.toList.head? = some d)
    (hd : Lines.isSpace d = false) (ht : '\n' ∉ t.toList) (hend : t.toList.getLast? = some c)
    (hc : Lines.isSpace c = false) :
    (Member.tidy (Member.ofLines [s, t])).toList = s.toList ++ '\n' :: t.toList := by
  obtain ⟨cs, hcs⟩ := List.getLast?_eq_some_iff.mp hend
  have hmem : d ∈ s.toList := List.mem_of_head? hstart
  have hcn : c ≠ '\n' := by
    rintro rfl
    exact absurd hc (by decide)
  have hclear : Lines.clearBlank (Member.ofLines [s, t]).toList = s.toList ++ '\n' :: (t.toList ++ ['\n']) := by
    rw [toList_ofLines_cons, toList_ofLines_cons, Lines.clearBlank_append, Lines.clearBlank_append,
      clearBlank_of_ink hs ⟨d, hmem, hd⟩, clearBlank_of_ink ht ⟨c, List.mem_of_getLast? hend, hc⟩]
    rfl
  have hhead : s.toList.head? ≠ some '\n' := fun he => hs (List.mem_of_head? he)
  rw [Member.tidy, String.toList_ofList, hclear,
    Lines.trimFeeds_append hhead (List.ne_nil_of_mem hmem) ⟨c, by simp [hcs], hcn⟩]
  simp [hcs, hcn]

theorem isUnbroken_errorDoc {owner : String} (h : IsWord owner) :
    IsUnbroken ("    \"\"\"Raised when " ++ owner ++ ".validate rejects a value.\"\"\"") := by
  have hlit : ∀ t : String, (t.toList.all fun c => !Lines.isBreak c) = true → IsUnbroken t := fun t => isUnbroken_of_all
  simp only [IsUnbroken, consists_append]
  exact ⟨⟨hlit _ (by decide), h.isUnbroken⟩, hlit _ (by decide)⟩

theorem toList_error {owner : String} (h : IsWord owner) : (Member.tidy (ValueError.ofOwner owner).source).toList =
    (Headline.error owner).text.toList ++ '\n' :: ("    \"\"\"Raised when " ++ owner ++ ".validate rejects a value.\"\"\"").toList := by
  refine tidy_lines (c := '"') (d := 'c') (Headline.isUnbroken (l := .error owner) h).feed_not_mem ?_ (by decide)
    (isUnbroken_errorDoc h).feed_not_mem ?_ (by decide)
  · simp
  · rw [String.toList_append, List.getLast?_append]
    rfl

theorem shows_error {owner : String} (h : IsWord owner) :
    Shows [Member.tidy (ValueError.ofOwner owner).source] [.error owner] := by
  have hhead := Headline.shows (l := .error owner) h
  have hboth := hhead.append (Shows.unflush (isUnbroken_errorDoc h) (by simp [isFlush]))
  refine ⟨?_, fun t ht c hc hb => ?_⟩
  · rw [textLines, List.flatMap_singleton, toList_error h, Lines.splitFeeds_append]
    have hflush := hboth.flush
    rw [textLines, List.flatMap_append, List.flatMap_singleton, List.flatMap_singleton] at hflush
    exact hflush
  · rw [List.mem_singleton.mp ht, toList_error h, List.mem_append, List.mem_cons] at hc
    rcases hc with hc | hc | hc
    · exact hboth.feeds _ (by simp) c hc hb
    · exact hc
    · exact hboth.feeds _ (by simp) c hc hb

theorem shows_variant {sum : String} {v : Variant} (hs : IsWord sum) (hv : IsWord v.name) (hp : v.payload.IsWorded) :
    Shows (ClassPlan.variantLines sum v) (Declaration.variantHeads sum v) := by
  have hparameter : IsUnbroken ("    def __init__(self, payload: " ++ v.payload.annotation ++ ") -> None:") := by
    simp only [IsUnbroken, consists_append]
    exact ⟨⟨isUnbroken_of_all (by decide), isUnbroken_annotation _ hp⟩, isUnbroken_of_all (by decide)⟩
  have hplain : ∀ t : String, (t.toList.all fun c => !Lines.isBreak c) = true → isFlush t.toList = false → Shows [t] [] :=
    fun t ht => Shows.unflush (isUnbroken_of_all ht)
  have hbody : Shows ["    __slots__ = ()", "", "    def __init__(self, payload: " ++ v.payload.annotation ++ ") -> None:",
      "        super().__init__(payload)", "", ""] [] :=
    (hplain _ (by decide) (by decide)).append (Shows.empty.append ((Shows.unflush hparameter (by simp [isFlush])).append
      ((hplain _ (by decide) (by decide)).append (Shows.empty.append Shows.empty))))
  have hhead := Headline.shows (l := .variant sum v.name) ⟨hs, hv⟩
  have hname := Headline.shows (l := .name sum v.name) ⟨hs, hv⟩
  have hqualname := Headline.shows (l := .qualname sum v.name) ⟨hs, hv⟩
  have hbind := Headline.shows (l := .bind sum v.name) ⟨hs, hv⟩
  exact (hhead.append (Shows.docLines v.docs)).append (hbody.append (hname.append (hqualname.append hbind)))

theorem shows_class {p : ClassPlan} (hn : IsWord p.name) (hv : ∀ v ∈ p.variants, IsWord v.name ∧ v.payload.IsWorded) :
    Shows p.lines (.cls p.name p.bases :: p.variants.flatMap (Declaration.variantHeads p.name)) := by
  have hhead := Headline.shows (l := .cls p.name p.bases) hn
  have hvariants : Shows (p.variants.flatMap (ClassPlan.variantLines p.name))
      (p.variants.flatMap (Declaration.variantHeads p.name)) := by
    refine Shows.flatMap (R := fun v v' => v = v' ∧ v ∈ p.variants) ?_ ?_
    · exact List.forall₂_same.mpr fun v hv => ⟨rfl, hv⟩
    · rintro v _ ⟨rfl, hmem⟩
      exact shows_variant hn (hv v hmem).1 (hv v hmem).2
  exact ((hhead.append (Shows.docLines p.docs)).append (Shows.map_shifted p.body)).append hvariants

theorem Outline.events_eq {d : Declaration} {c : Descriptor} {roles : List Applied} {fs : List Fragment} {p : ClassPlan}
    (h : Outline d c roles fs p) : p.events = d.published := by
  rw [h.plan, Declaration.published, ← h.planned.directives, List.filterMap_map]
  refine List.filterMap_congr fun f hf => ?_
  obtain ⟨a, hs, -, -⟩ := h.stem_of_mem hf
  have hname := Role.text_of_ofName? hs.fits.role
  rw [Function.comp_apply, hs.contributes.events, hs.contributes.directive]
  by_cases hr : a.role = .entity
  · rw [if_pos hr, if_pos (by rw [hname, hr])]
  · rw [if_neg hr, if_neg]
    exact fun he => hr (Planned.role_of_name hs.fits he)

theorem isIdentifier_of_published {d : Declaration} {e : String} (h : e ∈ d.published) : Identifier.isIdentifier e = true := by
  obtain ⟨x, -, he⟩ := List.mem_filterMap.mp h
  split at he
  · obtain ⟨v, -, he⟩ := Option.bind_eq_some_iff.mp he
    exact (Role.text_of_identifier? he).2
  · cases he

theorem Shows.map {α : Type} {as : List α} {line : α → Headline} (h : ∀ a ∈ as, (line a).IsSound) :
    Shows (as.map fun a => (line a).text) (as.map line) := by
  induction as with
  | nil => exact .nil
  | cons a as ih =>
    exact (Headline.shows (h a List.mem_cons_self)).append (ih fun b hb => h b (List.mem_cons_of_mem _ hb))

/-- What a declaration becomes shows the lines of the declaration. -/
inductive Lays (d : Declaration) : Module.Part → Prop
  | cls {p : ClassPlan} (herrors : Shows (p.errors.map fun e => Member.tidy e.source) d.rejections)
      (hlines : Shows p.lines d.heads) (hsynonyms : d.synonyms = []) (hevents : Shows p.epilogue d.assignments)
      (hkind : d.kind ≠ .synonym) (hbases : d.contracts.Nodup) : Lays d (.cls p)
  | synonym {s : Synonym} (hkind : d.kind = .synonym) (hplain : d.directives = [])
      (hline : Shows [Module.synonymLine s] d.synonyms) : Lays d (.synonym s)

theorem lays_of_plan {d : Declaration} {p : ClassPlan} (hw : d.IsWorded) (hown : d.HoldsOwnParts)
    (h : ClassPlan.ofDeclaration d = .ok p) : Lays d (.cls p) := by
  obtain ⟨c, roles, fs, ho⟩ := exists_outline h
  have hname : p.name = d.name := by rw [ho.plan]
  obtain ⟨hkind, -, hvariants, -⟩ := ho.layout_eq hown
  have hlines := shows_class (p := p) (by rw [hname]; exact hw.name) (by rw [hvariants]; exact hw.variants)
  rw [hname, hvariants, ho.bases_eq] at hlines
  have hevents : Shows p.epilogue d.assignments := by
    rw [ClassPlan.epilogue, ho.events_eq, hname]
    have hsound : ∀ e ∈ d.published, (Headline.events d.name e).IsSound := fun e he =>
      ⟨hw.name, isUnbroken_of_isIdentifier (isIdentifier_of_published he)⟩
    exact Shows.map hsound
  have herrors : Shows (p.errors.map fun e => Member.tidy e.source) d.rejections := by
    rw [ho.errors_eq, Declaration.rejections]
    split
    · exact shows_error hw.name
    · exact .nil
  have hne : d.kind ≠ .synonym := by
    intro hk
    rw [hk] at hkind
    cases hl : p.layout <;> simp [hl, Layout.kind] at hkind
  have htarget : d.target = none := by
    rw [Declaration.HoldsOwnParts] at hown
    cases hk : d.kind with
    | record => exact (hk ▸ hown).2
    | sum => exact (hk ▸ hown).2
    | synonym => exact absurd hk hne
  have hheads : Shows p.lines d.heads := by
    rw [Declaration.heads]
    cases hk : d.kind with
    | record => exact hlines
    | sum => exact hlines
    | synonym => exact absurd hk hne
  exact .cls herrors hheads (by rw [Declaration.synonyms, htarget]; rfl) hevents hne ho.nodup_contracts

theorem lays_of_part {d : Declaration} {x : Module.Part} (hw : d.IsWorded) (hown : d.HoldsOwnParts)
    (h : Module.part d = .ok x) : Lays d x := by
  cases hk : d.kind with
  | record =>
    rw [Module.part_eq_of_record hk] at h
    obtain ⟨p, hp, rfl⟩ := map_eq_ok_iff.mp h
    exact lays_of_plan hw hown hp
  | sum =>
    rw [Module.part_eq_of_sum hk] at h
    obtain ⟨p, hp, rfl⟩ := map_eq_ok_iff.mp h
    exact lays_of_plan hw hown hp
  | synonym =>
    rw [Module.part, hk, bind_eq_ok_iff] at h
    obtain ⟨roles, hc, h⟩ := h
    cases h
    rw [Declaration.HoldsOwnParts, hk] at hown
    obtain ⟨t, ht⟩ := Option.isSome_iff_exists.mp hown.2.2
    refine .synonym hk (Module.directives_eq_nil_of_synonym hk hc) ?_
    have hline := Headline.shows (l := .synonym d.name t.annotation) ⟨hw.name, isUnbroken_annotation t (hw.target t ht)⟩
    rw [Declaration.synonyms, ht]
    exact hline

/-! ## Names that are defined before they are used -/

/-- What a line uses is known, or defined on a line before it. -/
def Grounded (known : List String) (ls : List Headline) : Prop :=
  ∀ before l behind, ls = before ++ l :: behind → ∀ n ∈ l.uses, n ∈ known ++ before.flatMap Headline.defines

namespace Grounded
variable {known known' : List String} {ls ls' : List Headline}

theorem nil (known : List String) : Grounded known [] := fun before _ _ h => by simp at h

theorem single {l : Headline} (h : ∀ n ∈ l.uses, n ∈ known) : Grounded known [l] := by
  intro before l' behind he n hn
  cases before with
  | nil =>
    rw [List.nil_append, List.cons.injEq] at he
    exact List.mem_append_left _ (h n (he.1 ▸ hn))
  | cons x before => simp at he

theorem mono (h : Grounded known ls) (hk : ∀ n ∈ known, n ∈ known') : Grounded known' ls := by
  intro before l behind he n hn
  rcases List.mem_append.mp (h before l behind he n hn) with hn | hn
  · exact List.mem_append_left _ (hk n hn)
  · exact List.mem_append_right _ hn

theorem append (h : Grounded known ls) (h' : Grounded (known ++ ls.flatMap Headline.defines) ls') :
    Grounded known (ls ++ ls') := by
  intro before l behind he n hn
  rcases List.append_eq_append_iff.mp he with ⟨between, hbefore, hls'⟩ | ⟨between, hls, hrest⟩
  · have := h' between l behind hls' n hn
    rw [hbefore, List.flatMap_append, ← List.append_assoc]
    exact this
  · cases between with
    | nil =>
      rw [List.append_nil] at hls
      have := h' [] l behind (by simpa using hrest.symm) n hn
      rw [hls] at this
      simpa using this
    | cons x between =>
      rw [List.cons_append, List.cons.injEq] at hrest
      exact h before l between (by rw [hls, hrest.1]) n hn

theorem flatMap {α : Type} {as : List α} {f : α → List Headline} (h : ∀ a ∈ as, Grounded known (f a)) :
    Grounded known (as.flatMap f) := by
  induction as with
  | nil => exact nil known
  | cons a as ih =>
    refine (h a List.mem_cons_self).append ((ih fun b hb => h b (List.mem_cons_of_mem _ hb)).mono ?_)
    exact fun n hn => List.mem_append_left _ hn

end Grounded

def contractNames : List String := Contract.imported.map (·.text)

theorem grounded_variant {known : List String} {sum : String} (v : Variant) (h : sum ∈ known) :
    Grounded known (Declaration.variantHeads sum v) := by
  have hown : ∀ l : Headline, (∀ n ∈ l.uses, n = sum ∨ n = Headline.className sum v.name) →
      Grounded (known ++ [Headline.className sum v.name]) [l] := by
    refine fun l hl => .single fun n hn => ?_
    rcases hl n hn with rfl | rfl
    · exact List.mem_append_left _ h
    · exact List.mem_append_right _ (List.mem_singleton.mpr rfl)
  have hrest : Grounded (known ++ [Headline.className sum v.name])
      ([.name sum v.name] ++ ([.qualname sum v.name] ++ [.bind sum v.name])) := by
    refine (hown _ fun n hn => ?_).append (((hown _ fun n hn => ?_).append ((hown _ fun n hn => ?_).mono ?_)).mono ?_)
    · exact .inr (List.mem_singleton.mp hn)
    · exact .inr (List.mem_singleton.mp hn)
    · simpa [Headline.uses] using hn
    · exact fun n hn => List.mem_append_left _ hn
    · exact fun n hn => List.mem_append_left _ hn
  exact (Grounded.single fun n hn => List.mem_singleton.mp hn ▸ h).append hrest

theorem grounded_heads (d : Declaration) : Grounded contractNames d.heads := by
  have hbases : Grounded contractNames [.cls d.name d.contracts] := by
    refine .single fun n hn => ?_
    obtain ⟨b, hb, rfl⟩ := List.mem_map.mp hn
    obtain ⟨x, -, hx⟩ := List.mem_filterMap.mp hb
    obtain ⟨r, -, rfl⟩ := Option.map_eq_some_iff.mp hx
    exact List.mem_map_of_mem (r.base_mem_imported _)
  have hheads : Grounded contractNames (.cls d.name d.contracts :: d.variants.flatMap (Declaration.variantHeads d.name)) :=
    hbases.append (.flatMap fun v _ => grounded_variant v (List.mem_append_right _ (List.mem_singleton.mpr rfl)))
  rw [Declaration.heads]
  cases d.kind with
  | record => exact hheads
  | sum => exact hheads
  | synonym => exact .nil _

theorem mem_defines_heads {d : Declaration} (h : d.kind ≠ .synonym) : d.name ∈ d.heads.flatMap Headline.defines := by
  have hhead : d.name ∈ (Headline.cls d.name d.contracts :: d.variants.flatMap (Declaration.variantHeads d.name)).flatMap
      Headline.defines := List.mem_append_left _ (List.mem_singleton.mpr rfl)
  rw [Declaration.heads]
  cases hk : d.kind with
  | record => exact hhead
  | sum => exact hhead
  | synonym => exact absurd hk h

/-- Classes that are assigned to are defined before; a synonym is assigned nothing. -/
theorem grounded_skeleton {ds : List Declaration} (h : ∀ d ∈ ds, d.kind ≠ .synonym ∨ d.directives = []) :
    Grounded contractNames (skeleton ds) := by
  have hrejections : Grounded contractNames (ds.flatMap Declaration.rejections) := by
    refine .flatMap fun d _ => ?_
    rw [Declaration.rejections]
    split
    · exact .single fun n hn => by rw [List.mem_singleton.mp hn]; decide
    · exact .nil _
  have hsynonyms : Grounded contractNames (ds.flatMap Declaration.synonyms) := by
    refine .flatMap fun d _ => ?_
    rw [Declaration.synonyms]
    cases d.target with
    | none => exact .nil _
    | some t => exact .single fun n hn => (List.not_mem_nil hn).elim
  have hassignments : Grounded (contractNames ++ (ds.flatMap Declaration.rejections ++ ds.flatMap Declaration.heads
      ++ ds.flatMap Declaration.synonyms).flatMap Headline.defines) (ds.flatMap Declaration.assignments) := by
    refine .flatMap fun d hd => ?_
    rw [Declaration.assignments, List.map_eq_flatMap]
    refine .flatMap fun e he => .single fun n hn => ?_
    rw [List.mem_singleton.mp hn]
    have hkind : d.kind ≠ .synonym := by
      refine (h d hd).resolve_right fun hnil => ?_
      rw [Declaration.published, hnil] at he
      cases he
    refine List.mem_append_right _ ?_
    simp only [List.flatMap_append, List.mem_append]
    refine .inl (.inr ?_)
    rw [List.flatMap_assoc]
    exact List.mem_flatMap.mpr ⟨d, hd, mem_defines_heads hkind⟩
  refine ((hrejections.append ?_).append ?_).append hassignments
  · exact (Grounded.flatMap fun d _ => grounded_heads d).mono fun n hn => List.mem_append_left _ hn
  · exact hsynonyms.mono fun n hn => List.mem_append_left _ hn

/-! ## Modules -/

section
variable {ds : List Declaration} {parts : List Module.Part}

theorem shows_plans {f : ClassPlan → List String} {g : Declaration → List Headline} (h : List.Forall₂ Lays ds parts)
    (hcls : ∀ d p, Lays d (.cls p) → Shows (f p) (g d)) (hsynonym : ∀ d s, Lays d (.synonym s) → g d = []) :
    Shows ((parts.filterMap Module.Part.plan?).flatMap f) (ds.flatMap g) := by
  induction h with
  | nil => exact .nil
  | @cons d x ds parts hx _ ih =>
    rw [List.flatMap_cons]
    cases x with
    | cls p => exact (hcls d p hx).append ih
    | synonym s =>
      rw [hsynonym d s hx]
      exact ih

theorem shows_synonyms (h : List.Forall₂ Lays ds parts) :
    Shows ((parts.filterMap Module.Part.synonym?).map Module.synonymLine) (ds.flatMap Declaration.synonyms) := by
  induction h with
  | nil => exact .nil
  | @cons d x ds parts hx _ ih =>
    rw [List.flatMap_cons]
    cases hx with
    | cls _ _ hsynonyms _ _ _ =>
      rw [hsynonyms]
      exact ih
    | synonym _ _ hline => exact hline.append ih

theorem shows_module (contracts : String) (h : List.Forall₂ Lays ds parts) :
    ∃ texts, Module.lines ⟨contracts, parts.filterMap Module.Part.plan?, parts.filterMap Module.Part.synonym?⟩ =
      Module.headLines ⟨contracts, parts.filterMap Module.Part.plan?, parts.filterMap Module.Part.synonym?⟩ ++ texts ∧
      Shows texts (skeleton ds) := by
  have herrors := shows_plans (f := fun p => p.errors.map fun e => Member.tidy e.source) (g := Declaration.rejections) h
    (fun d p hx => by cases hx; assumption) fun d s hx => by
      cases hx with
      | synonym _ hplain _ => rw [Declaration.rejections, if_neg]; rw [Declaration.Carries, hplain]; exact List.not_mem_nil
  have hclasses := shows_plans (f := ClassPlan.lines) (g := Declaration.heads) h
    (fun d p hx => by cases hx; assumption) fun d s hx => by
      cases hx with
      | synonym hkind _ _ => rw [Declaration.heads, hkind]
  have hevents := shows_plans (f := ClassPlan.epilogue) (g := Declaration.assignments) h
    (fun d p hx => by cases hx; assumption) fun d s hx => by
      cases hx with
      | synonym _ hplain _ => rw [Declaration.assignments, Declaration.published, hplain]; rfl
  refine ⟨_, ?_, ((herrors.append hclasses).append (shows_synonyms h)).append hevents⟩
  simp only [Module.lines, List.append_assoc]

end

/-- Whatever the documentation, the lines at the margin behind the imports are the heads of the errors, then the classes
with those of their variants, then the synonyms, then the assignments of events, all in the order of the file; what they
build on and assign to is imported or defined before, and no contract is named twice. -/
theorem render_skeleton {text : String} {file : Option String} {ds : List Declaration} {contracts source : String}
    (h : parse text file = .ok ds) (hr : render ds contracts = .ok source) :
    ∃ m rest, Module.ofDeclarations ds contracts = .ok m ∧
      source.toList = (Member.ofLines m.headLines).toList ++ rest ∧
      (∀ c ∈ rest, Lines.isBreak c = true → c = '\n') ∧
      (Lines.splitFeeds rest).filter isFlush = (skeleton ds).map (·.text.toList) ∧
      (∀ d ∈ ds, d.contracts.Nodup) ∧
      Grounded contractNames (skeleton ds) := by
  have hw := isWorded_of_parse h
  have hown := holdsOwnParts_of_parse h
  obtain ⟨m, hm, hsource⟩ := map_eq_ok_iff.mp hr
  have hparts := hm
  rw [Module.ofDeclarations, bind_eq_ok_iff] at hparts
  obtain ⟨parts, hparts, hmodule⟩ := hparts
  have hall : ∀ d ∈ ds, d.IsWorded ∧ d.HoldsOwnParts := fun d hd => ⟨hw d hd, hown d hd⟩
  have hlays : List.Forall₂ Lays ds parts :=
    ((List.forall₂_and_left _ _).mpr ⟨hall, forall₂_of_mapM_eq_ok hparts⟩).imp
      fun d x hx => lays_of_part hx.1.1 hx.1.2 hx.2
  obtain ⟨texts, hlines, hshows⟩ := shows_module contracts hlays
  rw [Except.ok.inj hmodule] at hlines
  have hfacts : ∀ d ∈ ds, d.contracts.Nodup ∧ (d.kind ≠ .synonym ∨ d.directives = []) := by
    intro d hd
    obtain ⟨x, -, hx⟩ := exists_mem_of_forall₂ hlays d hd
    cases hx with
    | cls _ _ _ _ hkind hbases => exact ⟨hbases, .inl hkind⟩
    | synonym _ hplain _ => exact ⟨by rw [Declaration.contracts, hplain]; exact List.nodup_nil, .inr hplain⟩
  refine ⟨m, (Member.ofLines texts).toList, hm, ?_, fun c hc hb => ?_, ?_, fun d hd => (hfacts d hd).1,
    grounded_skeleton fun d hd => (hfacts d hd).2⟩
  · rw [← hsource, Module.text, hlines, toList_ofLines, toList_ofLines, toList_ofLines, List.flatMap_append]
  · rw [toList_ofLines, List.mem_flatMap] at hc
    obtain ⟨s, hs, hc⟩ := hc
    rcases List.mem_append.mp hc with hc | hc
    · exact hshows.feeds s hs c hc hb
    · exact List.mem_singleton.mp hc
  · rw [splitFeeds_ofLines, List.filter_append, hshows.flush]
    exact List.append_nil _

/-- A text whose documentation is written like a class. -/
theorem render_skeleton_shop :
    ∃ ds source m rest, parse ("#: class X:\n@value_object record N \x7b value: string \x7d alias M = N sum S \x7b V(N) \x7d\n" ++
        "@entity(events=S) record U \x7b id: uuid version: int32 \x7d") none = .ok ds ∧
      render ds defaultContracts = .ok source ∧ Module.ofDeclarations ds defaultContracts = .ok m ∧
      source.toList = (Member.ofLines m.headLines).toList ++ rest ∧
      (∀ c ∈ rest, Lines.isBreak c = true → c = '\n') ∧
      (Lines.splitFeeds rest).filter isFlush =
        [.error "N", .cls "N" [.valueObject], .cls "S" [], .variant "S" "V", .name "S" "V", .qualname "S" "V", .bind "S" "V",
          .cls "U" [.aggregateRoot], .synonym "M" "N", .events "U" "S"].map (fun l : Headline => l.text.toList) ∧
      (∀ d ∈ ds, d.contracts.Nodup) ∧ Grounded contractNames (skeleton ds) := by
  let ds : List Declaration :=
    [{ kind := .record, name := "N", docs := ["class X:"], directives := [⟨"value_object", [], some ⟨2, 2, none⟩⟩]
       fields := [⟨"value", ⟨"string", []⟩, .hidden, [], some ⟨2, 26, none⟩⟩], location := some ⟨2, 22, none⟩ },
     { kind := .synonym, name := "M", target := some ⟨"N", []⟩, location := some ⟨2, 48, none⟩ },
     { kind := .sum, name := "S", variants := [⟨"V", ⟨"N", []⟩, [], some ⟨2, 62, none⟩⟩], location := some ⟨2, 58, none⟩ },
     { kind := .record, name := "U", directives := [⟨"entity", [⟨some "events", .text "S"⟩], some ⟨3, 2, none⟩⟩]
       fields := [⟨"id", ⟨"uuid", []⟩, .hidden, [], some ⟨3, 30, none⟩⟩,
         ⟨"version", ⟨"int32", []⟩, .hidden, [], some ⟨3, 39, none⟩⟩], location := some ⟨3, 26, none⟩ }]
  have hparse : parse ("#: class X:\n@value_object record N \x7b value: string \x7d alias M = N sum S \x7b V(N) \x7d\n" ++
      "@entity(events=S) record U \x7b id: uuid version: int32 \x7d") none = .ok ds := by cbv
  have hskeleton : skeleton ds = [.error "N", .cls "N" [.valueObject], .cls "S" [], .variant "S" "V", .name "S" "V",
      .qualname "S" "V", .bind "S" "V", .cls "U" [.aggregateRoot], .synonym "M" "N", .events "U" "S"] := by decide
  cases hr : render ds defaultContracts with
  | error e => cases hr
  | ok source =>
    obtain ⟨m, rest, hm, htext, hfeeds, hlines, hnodup, hgrounded⟩ := render_skeleton hparse hr
    rw [hskeleton] at hlines
    exact ⟨ds, source, m, rest, hparse, hr, hm, htext, hfeeds, hlines, hnodup, hgrounded⟩

end DomainModel
