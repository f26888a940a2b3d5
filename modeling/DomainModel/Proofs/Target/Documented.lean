import DomainModel.Proofs.Target.Class
import DomainModel.Proofs.Target.Outdent

/-!
# Documentation of accessors

An accessor repeats the documentation of its field: `field_docs_says_iff` finds its literal in the class of the record,
and says when the literal, moved back, stands for the documentation lines of the field.
-/

namespace DomainModel

/-! ## Documentation lines of a file -/

theorem feed_not_mem_docText {lexeme : List Char} (h : '\n' ∉ lexeme) : '\n' ∉ (docText lexeme).toList := by
  have hline : ∀ c ∈ ((lexeme.drop 2).reverse.dropWhile (· = '\r')).reverse, c ∈ lexeme := by
    intro c hc
    rw [List.mem_reverse] at hc
    exact List.mem_of_mem_drop (List.mem_reverse.mp ((List.dropWhile_sublist _).subset hc))
  unfold docText
  rw [String.toList_ofList]
  intro hc
  apply h
  apply hline
  split at hc
  · next he =>
    rw [he]
    exact List.mem_cons_of_mem _ hc
  · exact hc

namespace Grammar
variable {file : Option String} {ts : List Token}

theorem feed_not_mem_docs {docs : List String} (h : Many IsDoc ts docs) (hm : ∀ k ∈ ts, k.IsMatched) :
    ∀ line ∈ docs, '\n' ∉ line.toList := by
  refine h.forall (P := fun line => '\n' ∉ line.toList) fun us line hus hline => ?_
  cases hline with
  | mk hk => exact feed_not_mem_docText (hm _ (hus _ (by simp))).newline_not_mem

theorem IsField.feed_not_mem {f : Field} (h : IsField file ts f) (hm : ∀ k ∈ ts, k.IsMatched) :
    ∀ line ∈ f.docs, '\n' ∉ line.toList := by
  cases h with
  | mk hds => exact feed_not_mem_docs hds fun k hk => hm k (by simp [hk])

theorem IsDeclaration.feed_not_mem {d : Declaration} (h : IsDeclaration file ts d) (hm : ∀ k ∈ ts, k.IsMatched) :
    ∀ f ∈ d.fields, ∀ line ∈ f.docs, '\n' ∉ line.toList := by
  cases h with
  | mk _ _ hb =>
    cases hb with
    | record _ _ _ hf _ => exact hf.forall fun us f hus hx => hx.feed_not_mem fun k hk => hm k (by simp [hus k hk])
    | sum => simp
    | synonym => simp

end Grammar

theorem feed_not_mem_of_parse {text : String} {file : Option String} {ds : List Declaration}
    (h : parse text file = .ok ds) : ∀ d ∈ ds, ∀ f ∈ d.fields, ∀ line ∈ f.docs, '\n' ∉ line.toList := by
  obtain ⟨ts, hs, hf⟩ := isFile_of_parse h
  have hm : ∀ k ∈ ts, k.IsMatched := by
    intro k hk
    obtain ⟨a, b, -, -, hb⟩ := hs.exists_of_mem hk
    exact hb.holds
  exact hf.forall fun us d hus hd => hd.feed_not_mem fun k hk => hm k (hus k hk)

/-! ## Accessors -/

def Member.AccessorOf (n : String) : Member → Prop
  | accessor m _ _ _ | property m _ _ => m = n
  | equality _ _ | hash _ | display _ | clone _ _ | tryFrom _ _ _ _ | dispatch _ _ _ _ => False

/-- The source of an accessor in a class, from its decorator on. -/
def accessorLines (n annotation result : String) (docs : List (List Char)) (behind : List (List Char)) : List (List Char) :=
  "    @property".toList :: ("    def " ++ n ++ "(self) -> " ++ annotation ++ ":").toList ::
    (Docstring.placed docs ++ ("        return " ++ result).toList :: behind)

theorem textLines_accessor {head ret last : String} {more docs : List String} (hhead : IsCode head) (hret : IsCode ret)
    (hlast : (ret :: more).getLast? = some last) (hcode : IsCode last) (hdocs : docs ≠ []) : ∃ behind,
    textLines [ClassPlan.shifted (Member.tidy (Member.ofLines (["@property", head] ++ Member.docLines docs ++ ret :: more)))] =
      (Lines.margin ++ "@property".toList) :: (Lines.margin ++ head.toList) ::
        (Docstring.placed (docs.map String.toList) ++ (Lines.margin ++ ret.toList) :: behind) := by
  obtain ⟨middle, hmore⟩ := List.getLast?_eq_some_iff.mp hlast
  have hproperty : IsCode "@property" := by decide
  have hlines : ["@property", head] ++ Member.docLines docs ++ ret :: more =
      "@property" :: (head :: Docstring.bodyText docs :: middle) ++ [last] := by
    rw [hmore, Member.docLines, if_neg (by simpa using hdocs)]
    simp
  have hplaced : placeLine (Docstring.bodyText docs) = Docstring.placed (docs.map String.toList) := by
    unfold placeLine Docstring.bodyText
    rw [String.toList_ofList]
    rfl
  refine ⟨more.flatMap placeLine, ?_⟩
  rw [hlines, textLines_tidy hproperty hcode, List.cons_append, List.cons_append, List.cons_append, ← hmore]
  simp only [List.flatMap_cons, hproperty.placeLine_eq, hhead.placeLine_eq, hplaced, hret.placeLine_eq]
  rfl

section
variable {n annotation : String} {docs : List String}

theorem isCode_head (hn : IsInline n) (ha : IsInline annotation) : IsCode ("def " ++ n ++ "(self) -> " ++ annotation ++ ":") :=
  ⟨by simp +decide [hn, ha], 'd', by simp, by decide⟩

theorem isCode_return {s : String} (h : IsInline s) : IsCode ("    return " ++ s) :=
  ⟨by simp +decide [h], 'r', by simp, by decide⟩

theorem textLines_of_accessor {r : Reading} (hn : IsInline n) (ha : IsInline annotation) (hr : IsInline r.text)
    (hdocs : docs ≠ []) : ∃ result behind,
    textLines [ClassPlan.shifted (Member.tidy (Member.accessor n annotation r docs).source)] =
      accessorLines n annotation result (docs.map String.toList) behind := by
  obtain ⟨behind, h⟩ := @textLines_accessor _ _ _ [] _ (isCode_head hn ha) (isCode_return hr) rfl (isCode_return hr) hdocs
  refine ⟨r.text, behind, ?_⟩
  refine Eq.trans h ?_
  simp [accessorLines, Lines.margin]

theorem textLines_of_property (hn : IsInline n) (ha : IsInline annotation) (hdocs : docs ≠ []) : ∃ result behind,
    textLines [ClassPlan.shifted (Member.tidy (Member.property n annotation docs).source)] =
      accessorLines n annotation result (docs.map String.toList) behind := by
  have hslot : IsInline (slot n) := by
    unfold slot
    simp +decide [hn]
  have hresult : IsInline ("self." ++ slot n) := by simp +decide [hslot]
  have hstore : IsCode ("    self." ++ slot n ++ " = value") := ⟨by simp +decide [hslot], 's', by simp, by decide⟩
  obtain ⟨behind, h⟩ := @textLines_accessor _ _ _
    ["", "@" ++ n ++ ".setter", "def " ++ n ++ "(self, value: " ++ annotation ++ ") -> None:", "    self." ++ slot n ++ " = value"]
    _ (isCode_head hn ha) (isCode_return hresult) rfl hstore hdocs
  refine ⟨"self." ++ slot n, behind, ?_⟩
  refine Eq.trans h ?_
  simp [accessorLines, Lines.margin]

end

/-! ## The accessor of a field -/

theorem textLines_of_field {d : Declaration} {c : Descriptor} {roles : List Applied} {fs : List Fragment} {p : ClassPlan}
    (h : Outline d c roles fs p) (hown : d.HoldsOwnParts) (hw : d.IsWorded) (hn : (d.fields.map (·.name)).Nodup) {f : Field}
    (hf : f ∈ d.fields) (hdocs : f.docs ≠ []) {m : Member} (hm : m ∈ p.layout.members ++ p.supplied) (ha : m.AccessorOf f.name) :
    ∃ annotation result behind, textLines [ClassPlan.shifted (Member.tidy m.source)] =
      accessorLines f.name annotation result (f.docs.map String.toList) behind := by
  have hfields : c.fields = d.fields := (h.layout_eq hown).2.2.2
  have hsame : ∀ g ∈ c.fields, g.name = f.name → g = f := by
    intro g hg hname
    rw [hfields] at hg
    exact List.inj_on_of_nodup_map hn hg hf hname
  obtain ⟨hword, htype⟩ := hw.fields f hf
  have hname := hword.isInline
  have htext := Target.isInline_typeText (Target.hasWords_of_isWorded _ htype)
  have hslot : IsInline (slot f.name) := by
    unfold slot
    simp +decide [hname]
  cases h.derives m hm with
  | @property g hg =>
    obtain rfl := hsame g hg ha
    exact ⟨_, textLines_of_property hname htext hdocs⟩
  | @accessor g hg =>
    unfold Fragment.contractAccessor at ha ⊢
    by_cases hv : g.name = "version"
    · rw [if_pos hv] at ha ⊢
      obtain rfl := hsame g hg (hv.trans ha)
      rw [← hv]
      exact ⟨_, textLines_of_accessor hname (by decide) (by simp +decide [Reading.text, hslot]) hdocs⟩
    · rw [if_neg hv] at ha ⊢
      obtain rfl := hsame g hg ha
      exact ⟨_, textLines_of_accessor hname htext (by simp +decide [Reading.text, hslot]) hdocs⟩
  | equality => exact ha.elim
  | hash => exact ha.elim
  | display => exact ha.elim
  | clone => exact ha.elim
  | tryFrom => exact ha.elim
  | dispatch => exact ha.elim

/-! ## The accessor in its module -/

/-- The lines of a module around the documentation of an accessor: the class starts with `head`, and what stands in it
before the accessor is moved to the right. -/
def Documents (source head : String) (n : String) (literal : List Char) : Prop :=
  ∃ before inner annotation result behind,
    Lines.splitFeeds source.toList = before ++ head.toList :: (inner ++
      ("    @property".toList :: ("    def " ++ n ++ "(self) -> " ++ annotation ++ ":").toList ::
        (Lines.splitFeeds (List.replicate 8 ' ' ++ literal) ++ ("        return " ++ result).toList :: behind))) ∧
      ∀ l ∈ inner, isFlush l = false

/-- A literal between triple quotes that ends at its end and nowhere before. -/
structure IsLiteral (literal : List Char) : Prop where
  opens : Docstring.quotes <+: literal
  closes : (Quoting.opening 0).read literal = .closed
  only : ∀ n < literal.length, (Quoting.opening 0).read (literal.take n) ≠ .closed

theorem isLiteral_literal {lines : List (List Char)} (h : lines ≠ []) : IsLiteral (Docstring.literal lines) := by
  obtain ⟨l, ls, hplaced, hliteral⟩ := Docstring.exists_placed h
  have hclosed : (Quoting.opening 0).read (List.replicate 8 ' ' ++ Docstring.literal lines) = .closed := by
    have := (isPlainDocstring_indent h).isDocstring.closes
    unfold Docstring.placed at hplaced
    rwa [hplaced, Docstring.join_append_head, Docstring.join_append_head, ← hliteral] at this
  have hblank : (Quoting.opening 0).read (List.replicate 8 ' ') = .opening 0 := rfl
  rw [Quoting.read_append, hblank] at hclosed
  exact ⟨⟨_, hliteral.symm⟩, hclosed, fun n => Quoting.not_closed_before hclosed⟩

section
variable {p : ClassPlan} {m : Member}

theorem textLines_headLine (hp : IsWord p.name) : textLines [p.headLine] = [p.headLine.toList] :=
  (Headline.isUnbroken (l := .cls p.name p.bases) hp).textLines_eq

theorem exists_member (hp : IsWord p.name) (hm : m ∈ p.layout.members ++ p.supplied) : ∃ inner behind,
    textLines p.lines = p.headLine.toList :: (inner ++ (textLines [ClassPlan.shifted (Member.tidy m.source)] ++ behind)) ∧
      ∀ l ∈ inner, isFlush l = false := by
  obtain ⟨before, after, hsplit⟩ := List.append_of_mem hm
  let inner := ClassPlan.docLines p.docs ++ (p.layout.fixed p.name ++ before.map fun m => Member.tidy m.source).map ClassPlan.shifted
  let behind := (after.map fun m => Member.tidy m.source).map ClassPlan.shifted ++ p.variants.flatMap (ClassPlan.variantLines p.name)
  refine ⟨textLines inner, textLines behind, ?_, ?_⟩
  · have hlines : p.lines = [p.headLine] ++ (inner ++ ([ClassPlan.shifted (Member.tidy m.source)] ++ behind)) := by
      rw [ClassPlan.lines, body_eq, hsplit]
      simp [inner, behind]
    rw [hlines, textLines_append, textLines_headLine hp, textLines_append inner, textLines_append [_] behind, List.singleton_append]
  · have hshows : Shows inner [] := (Shows.docLines p.docs).append (.map_shifted _)
    have hnone := hshows.flush
    intro l hl
    simpa using List.filter_eq_nil_iff.mp hnone l hl

theorem exists_class {m : Module} (hp : p ∈ m.classes) : ∃ before behind,
    Lines.splitFeeds m.text.toList = before ++ (textLines p.lines ++ behind) := by
  obtain ⟨as, bs, hsplit⟩ := List.append_of_mem hp
  let before := m.headLines ++ m.classes.flatMap (fun p => p.errors.map fun e => Member.tidy e.source) ++ as.flatMap ClassPlan.lines
  let behind := bs.flatMap ClassPlan.lines ++ m.synonyms.map Module.synonymLine ++ m.classes.flatMap ClassPlan.epilogue
  have hlines : m.lines = before ++ (p.lines ++ behind) := by
    have hclasses : m.classes.flatMap ClassPlan.lines = as.flatMap ClassPlan.lines ++ (p.lines ++ bs.flatMap ClassPlan.lines) := by
      rw [hsplit, List.flatMap_append, List.flatMap_cons]
    rw [Module.lines, hclasses]
    simp only [before, behind, List.append_assoc]
  refine ⟨textLines before, textLines behind ++ [[]], ?_⟩
  rw [Module.text, splitFeeds_ofLines, hlines, textLines_append before, textLines_append p.lines, List.append_assoc, List.append_assoc]

end

/-! ## The documentation of a field -/

section
variable {text contracts source : String} {file : Option String} {ds : List Declaration} {d : Declaration}

/-- A record that is rendered has a class, and the accessors of its fields are documented there. -/
theorem exists_documents (h : parse text file = .ok ds) (hr : render ds contracts = .ok source) (hd : d ∈ ds)
    (hk : d.kind = .record) :
    ∃ p, ClassPlan.ofDeclaration d = .ok p ∧
      ∀ f ∈ d.fields, f.docs ≠ [] → (∃ m ∈ p.layout.members ++ p.supplied, m.AccessorOf f.name) →
        Documents source p.headLine f.name (Docstring.literal (f.docs.map String.toList)) := by
  obtain ⟨m, hm, rfl⟩ := map_eq_ok_iff.mp hr
  rw [Module.ofDeclarations, bind_eq_ok_iff] at hm
  obtain ⟨parts, hparts, hmodule⟩ := hm
  obtain ⟨x, hx, hpart⟩ := exists_mem_of_forall₂ (forall₂_of_mapM_eq_ok hparts) d hd
  rw [Module.part_eq_of_record hk] at hpart
  obtain ⟨p, hp, rfl⟩ := map_eq_ok_iff.mp hpart
  have hclass : p ∈ m.classes := by
    rw [← Except.ok.inj hmodule]
    exact List.mem_filterMap.mpr ⟨_, hx, rfl⟩
  obtain ⟨c, roles, fs, ho⟩ := exists_outline hp
  have hworded := isWorded_of_parse h d hd
  have hname : IsWord p.name := by
    rw [ho.plan]
    exact hworded.name
  refine ⟨p, hp, ?_⟩
  intro f hf hdocs haccessor
  obtain ⟨member, hmember, haccessor⟩ := haccessor
  obtain ⟨written, result, rest, htext⟩ := textLines_of_field ho (holdsOwnParts_of_parse h d hd) hworded
    (wellNamed_of_parse h d hd).distinct_fields hf hdocs hmember haccessor
  obtain ⟨inner, after, hlines, hinner⟩ := exists_member hname hmember
  obtain ⟨before, behind, hsource⟩ := exists_class hclass
  refine ⟨before, inner, written, result, rest ++ (after ++ behind), ?_, hinner⟩
  rw [hsource, hlines, htext, Docstring.splitFeeds_literal (by simpa using hdocs)]
  simp [accessorLines]

/-- The literal of an accessor, moved back, stands for the documentation lines of its field exactly if none of them
ends before its end, and none behind the first is blank without being empty. -/
theorem field_docs_says_iff (h : parse text file = .ok ds) (hr : render ds contracts = .ok source) (hd : d ∈ ds)
    (hk : d.kind = .record) :
    ∃ p, ClassPlan.ofDeclaration d = .ok p ∧
      ∀ f ∈ d.fields, f.docs ≠ [] → (∃ m ∈ p.layout.members ++ p.supplied, m.AccessorOf f.name) →
        ∃ literal, Documents source p.headLine f.name literal ∧ IsLiteral literal ∧
          (Docstring.Says literal (f.docs.map String.toList) ↔ Docstring.IsKept (f.docs.map String.toList)) := by
  obtain ⟨p, hp, hdocuments⟩ := exists_documents h hr hd hk
  refine ⟨p, hp, ?_⟩
  intro f hf hdocs haccessor
  have hlines : f.docs.map String.toList ≠ [] := by simpa using hdocs
  have hfeed : ∀ line ∈ f.docs.map String.toList, '\n' ∉ line := by
    intro line hline
    obtain ⟨s, hs, rfl⟩ := List.mem_map.mp hline
    exact feed_not_mem_of_parse h d hd f hf s hs
  exact ⟨_, hdocuments f hf hdocs haccessor, isLiteral_literal hlines, Docstring.says_iff hlines hfeed⟩

end

theorem field_docs_says_iff_quotes :
    ∃ ds source literal, parse "@entity record A \x7b id: uuid\n#: \\ \"\"\"\n#:\n#:  b\nversion: int8 \x7d" none = .ok ds ∧
      render ds defaultContracts = .ok source ∧ Documents source "class A(Entity):" "version" literal ∧
      Docstring.Says literal ["\\ \"\"\"".toList, [], " b".toList] := by
  let d : Declaration :=
    { kind := .record, name := "A", directives := [⟨"entity", [], some ⟨1, 2, none⟩⟩]
      fields := [⟨"id", ⟨"uuid", []⟩, .hidden, [], some ⟨1, 20, none⟩⟩,
        ⟨"version", ⟨"int8", []⟩, .hidden, ["\\ \"\"\"", "", " b"], some ⟨5, 1, none⟩⟩]
      location := some ⟨1, 16, none⟩ }
  have h : parse "@entity record A \x7b id: uuid\n#: \\ \"\"\"\n#:\n#:  b\nversion: int8 \x7d" none = .ok [d] := by cbv
  cases hr : render [d] defaultContracts with
  | error e => cases hr
  | ok source =>
    have hplan : ClassPlan.ofDeclaration d = .ok
        ⟨"A", [.entity], [], .record d.fields [], [.accessor "id" "UUID" (.stored "id") [],
          .accessor "version" "int" (.count "version") ["\\ \"\"\"", "", " b"], .equality "A" "id", .hash "id"], [], []⟩ := by rfl
    obtain ⟨p, hp, hfields⟩ := field_docs_says_iff h hr List.mem_cons_self rfl
    obtain rfl := Except.ok.inj (hplan.symm.trans hp)
    obtain ⟨literal, hdocuments, -, hsays⟩ :=
      hfields ⟨"version", ⟨"int8", []⟩, .hidden, ["\\ \"\"\"", "", " b"], some ⟨5, 1, none⟩⟩ (by simp [d]) (by simp)
        ⟨.accessor "version" "int" (.count "version") ["\\ \"\"\"", "", " b"], by simp [Layout.members], rfl⟩
    refine ⟨[d], source, literal, h, hr, hdocuments, hsays.mpr ⟨?_, ?_⟩⟩
    · simp [Lines.isBreak]
    · simp [Lines.isSpace, Lines.isBreak]

/-- A line of two blanks is lost on the way. -/
theorem field_docs_says_blank :
    ∃ ds source literal, parse "record A \x7b\n#: a\n#:   \n#: b\npub x: T \x7d" none = .ok ds ∧
      ds.flatMap (·.fields.map (·.docs)) = [["a", "  ", "b"]] ∧ render ds defaultContracts = .ok source ∧
      Documents source "class A:" "x" literal ∧ Docstring.outdent 8 literal = "\"\"\"a\n\nb\n\"\"\"".toList ∧
      ¬Docstring.Says literal (["a", "  ", "b"].map String.toList) := by
  let d : Declaration :=
    { kind := .record, name := "A"
      fields := [⟨"x", ⟨"T", []⟩, .exposed, ["a", "  ", "b"], some ⟨5, 5, none⟩⟩]
      location := some ⟨1, 8, none⟩ }
  have h : parse "record A \x7b\n#: a\n#:   \n#: b\npub x: T \x7d" none = .ok [d] := by cbv
  cases hr : render [d] defaultContracts with
  | error e => cases hr
  | ok source =>
    have hplan : ClassPlan.ofDeclaration d = .ok ⟨"A", [], [], .record d.fields d.fields, [], [], []⟩ := by rfl
    obtain ⟨p, hp, hfields⟩ := exists_documents h hr List.mem_cons_self rfl
    obtain rfl := Except.ok.inj (hplan.symm.trans hp)
    have hdocuments := hfields ⟨"x", ⟨"T", []⟩, .exposed, ["a", "  ", "b"], some ⟨5, 5, none⟩⟩ (by simp [d]) (by simp)
      ⟨.property "x" "T" ["a", "  ", "b"], by simp [Layout.members, d, ClassPlan.fieldProperty]; rfl, rfl⟩
    refine ⟨[d], source, _, h, rfl, hr, hdocuments, by decide, ?_⟩
    rw [Docstring.says_iff (by simp) (by decide)]
    intro hkept
    have hink := hkept.ink "  ".toList (by simp)
    simp [Lines.isSpace, Lines.isBreak] at hink

end DomainModel
