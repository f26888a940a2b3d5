import DomainModel.Proofs.Target.Expression
import DomainModel.Proofs.Target.Reads

/-!
# Lines of generated modules

Each line that a module is made of, without its margin: `Makes` says what line of a module its text makes, and when it
makes none.
-/

namespace DomainModel.Target

open Live.Loading Scanner

variable {L : List Line} {l : Line} {σ : List Symbol} {rest : List Char} {n m : String} {p q : Bool}

/-- A line of text makes a line of a module, in whatever column it starts, exactly if `p` is true. -/
def Makes (cs : List Char) (p : Bool) (f : Form) (ns : List String) : Prop :=
  ∀ k, run ⟨.margin k, [], { column := 0 }, []⟩ (cs ++ ['\n']) = if p then some { lines := [⟨k, f, ns⟩] } else none

theorem Makes.reads {text cs : List Char} {f : Form} {ns : List String} {k : Nat} (h : Makes cs p f ns)
    (htext : text = List.replicate k ' ' ++ cs) : Reads [text] (p = true) [⟨k, f, ns⟩] := by
  have hrun : ({} : Scanner).run (linesText [text]) = if p then some { lines := [⟨k, f, ns⟩] } else none := by
    rw [linesText, List.flatMap_singleton, htext, List.append_assoc, ← h k]
    exact (run_margin 0 k _).trans (by rw [Nat.zero_add])
  exact ⟨fun hp => by rw [hrun, if_pos hp], fun hp => by rw [hrun, if_neg hp]⟩

theorem endsWord_append {a : List Char} (h : a.head?.any (fun c => !Identifier.isPart c && c ≠ '"') = true)
    (rest : List Char) : EndsWord (a ++ rest) := by
  cases a with
  | nil => cases h
  | cons c a =>
    simp only [List.head?_cons, Option.any_some, Bool.and_eq_true, Bool.not_eq_true', decide_eq_true_eq] at h
    exact endsWord_cons _ h.1 h.2

theorem endsWord_feed : EndsWord ['\n'] := endsWord_cons [] (by decide) (by decide)

/-! ## Elements -/

structure IsElement (cs : List Char) : Prop where
  more : ∀ L l σ rest, run ⟨.code, [.round], ⟨l, .elements .closeParen :: σ⟩, L⟩ (cs ++ ',' :: rest) =
    run ⟨.code, [.round], ⟨l, .elements .closeParen :: σ⟩, L⟩ rest
  last : ∀ L l σ rest, run ⟨.code, [.round], ⟨l, .elements .closeParen :: σ⟩, L⟩ (cs ++ ')' :: rest) =
    run ⟨.code, [], ⟨l, σ⟩, L⟩ rest

theorem isElement_name (hn : IsFree n) : IsElement n.toList := by
  refine ⟨fun L l σ rest => ?_, fun L l σ rest => ?_⟩
  · rw [run_free hn (endsWord_cons _ (by decide) (by decide))]
    simp
  · rw [run_free hn (endsWord_cons _ (by decide) (by decide))]
    simp

theorem isElement_quoted (hn : IsWord n) : IsElement ("\"" ++ n ++ "\"").toList := by
  have htext : ("\"" ++ n ++ "\"").toList = '"' :: (n.toList ++ ['"']) := by simp
  refine ⟨fun L l σ rest => ?_, fun L l σ rest => ?_⟩
  · rw [htext, List.cons_append, List.append_assoc, run_cons, step_code, code_quote, if_neg (by simp), resume_some,
      run_opened hn.isInert hn.ne_nil]
    simp
  · rw [htext, List.cons_append, List.append_assoc, run_cons, step_code, code_quote, if_neg (by simp), resume_some,
      run_opened hn.isInert hn.ne_nil]
    simp

theorem run_elements_last {es : List String} (hne : es ≠ []) (h : ∀ e ∈ es, IsElement e.toList) :
    run ⟨.code, [.round], ⟨l, .elements .closeParen :: σ⟩, L⟩ ((", ".intercalate es).toList ++ ')' :: rest) =
      run ⟨.code, [], ⟨l, σ⟩, L⟩ rest := by
  induction es with
  | nil => exact absurd rfl hne
  | cons e es ih =>
    have he := h e List.mem_cons_self
    cases es with
    | nil => simpa using he.last L l σ rest
    | cons e' es =>
      have hmore := ih (List.cons_ne_nil _ _) fun x hx => h x (List.mem_cons_of_mem _ hx)
      rw [String.intercalate_cons_cons, String.toList_append, String.toList_append, List.append_assoc, List.append_assoc]
      exact (he.more L l σ _).trans hmore

theorem run_tuple {ns : List String} (h : ∀ n ∈ ns, IsWord n) :
    run ⟨.code, [], ⟨l, .expr :: σ⟩, L⟩ ((ClassPlan.tuple ns).toList ++ rest) =
      run ⟨.code, [], ⟨l, .trail :: .operators :: σ⟩, L⟩ rest := by
  have hopen : ∀ cs, run ⟨.code, [], ⟨l, .expr :: σ⟩, L⟩ ('(' :: cs) =
      run ⟨.code, [.round], ⟨l, .elements .closeParen :: .trail :: .operators :: σ⟩, L⟩ cs := fun cs => by simp
  have helements : ∀ e ∈ ns.map fun n => "\"" ++ n ++ "\"", IsElement e.toList := by
    intro e he
    obtain ⟨n, hn, rfl⟩ := List.mem_map.mp he
    exact isElement_quoted (h n hn)
  have htext : (ClassPlan.tuple ns).toList ++ rest = '(' :: ((", ".intercalate (ns.map fun n => "\"" ++ n ++ "\"")).toList ++
      ((if ns.length = 1 then "," else "").toList ++ ')' :: rest)) := by
    simp [ClassPlan.tuple]
  rw [htext, hopen]
  match ns, helements with
  | [], _ => simp
  | [n], helements =>
    have hlast := (helements _ (List.mem_singleton.mpr rfl)).more L l (.trail :: .operators :: σ) (')' :: rest)
    simpa using hlast
  | n :: m :: ns, helements =>
    rw [if_neg (by simp)]
    exact run_elements_last (List.cons_ne_nil _ _) helements

/-! ## Heads of classes and functions -/

theorem makes_class {bases : List String} (hn : IsFree n) (hbases : ∀ b ∈ bases, IsFree b) :
    Makes ("class " ++ n ++ (if bases.isEmpty then "" else "(" ++ ", ".intercalate bases ++ ")") ++ ":").toList
      (isBindable n) .cls [n] := by
  intro k
  have hstart : run ⟨.margin k, [], { column := 0 }, []⟩ "class ".toList =
      some ⟨.code, [], ⟨⟨k, .cls, []⟩, [.className, .bases, .exactly .colon]⟩, []⟩ := by rfl
  have hname : ∀ cs, EndsWord cs →
      run ⟨.code, [], ⟨⟨k, .cls, []⟩, [.className, .bases, .exactly .colon]⟩, []⟩ (n.toList ++ cs) =
        if isBindable n then run ⟨.code, [], ⟨⟨k, .cls, [n]⟩, [.bases, .exactly .colon]⟩, []⟩ cs else none := by
    intro cs hcs
    rw [run_free hn hcs]
    cases hb : isBindable n <;> simp [hn.isBindable_eq, hb]
  simp only [String.toList_append, List.append_assoc]
  rw [run_append_of hstart]
  by_cases hnil : bases = []
  · have htext : (if bases.isEmpty then "" else "(" ++ ", ".intercalate bases ++ ")").toList ++ (":".toList ++ ['\n']) =
        [':', '\n'] := by
      simp [hnil]
    rw [htext, hname _ (endsWord_cons _ (by decide) (by decide))]
    simp
  · have hopen : ∀ cs, run ⟨.code, [], ⟨⟨k, .cls, [n]⟩, [.bases, .exactly .colon]⟩, []⟩ ('(' :: cs) =
        run ⟨.code, [.round], ⟨⟨k, .cls, [n]⟩, [.elements .closeParen, .exactly .colon]⟩, []⟩ cs := fun cs => by simp
    have htext : (if bases.isEmpty then "" else "(" ++ ", ".intercalate bases ++ ")").toList ++ (":".toList ++ ['\n']) =
        '(' :: ((", ".intercalate bases).toList ++ ')' :: ':' :: ['\n']) := by
      simp [hnil]
    rw [htext, hname _ (endsWord_cons _ (by decide) (by decide)), hopen,
      run_elements_last hnil fun b hb => isElement_name (hbases b hb)]
    simp

theorem makes_function {ps e : List Char} {ns : List String} (hn : IsFree n) (hps : IsParameters ps p ns)
    (he : IsExpression e q) :
    Makes ("def ".toList ++ (n.toList ++ '(' :: (ps ++ ')' :: (" -> ".toList ++ (e ++ [':'])))))
      (isBindable n && (p && q)) .function ns := by
  intro k
  have hstart : run ⟨.margin k, [], { column := 0 }, []⟩ "def ".toList =
      some ⟨.code, [], ⟨⟨k, .function, []⟩,
        [.functionName, .exactly .openParen, .parameters false, .exactly .arrow, .expr, .exactly .colon]⟩, []⟩ := by rfl
  have hopen : ∀ cs, run ⟨.code, [], ⟨⟨k, .function, []⟩,
        [.exactly .openParen, .parameters false, .exactly .arrow, .expr, .exactly .colon]⟩, []⟩ ('(' :: cs) =
      run ⟨.code, [.round], ⟨⟨k, .function, []⟩, [.parameters false, .exactly .arrow, .expr, .exactly .colon]⟩, []⟩ cs :=
    fun cs => by simp
  have harrow : run ⟨.code, [], ⟨⟨k, .function, [] ++ ns⟩, [.exactly .arrow, .expr, .exactly .colon]⟩, []⟩ " -> ".toList =
      some ⟨.code, [], ⟨⟨k, .function, ns⟩, [.expr, .exactly .colon]⟩, []⟩ := by rfl
  have hend := he [] [] ⟨k, .function, ns⟩ [.exactly .colon] [':', '\n'] (.inl ⟨':', ['\n'], rfl, by decide⟩)
  simp only [List.append_assoc, List.cons_append]
  rw [run_append_of hstart, run_bound hn (endsWord_cons _ (by decide) (by decide)) _ (.inr rfl), hopen, hps,
    run_append_of harrow]
  simp only [List.nil_append, hend]
  cases isBindable n <;> cases p <;> cases q <;> rfl

/-! ## Statements of functions -/

section
variable {bs : List Bracket}

theorem run_argument_attribute (hn : IsFree n) (hrest : EndsWord rest) :
    run ⟨.dots 1, bs, ⟨l, .argument m :: σ⟩, L⟩ (n.toList ++ rest) =
      run ⟨.code, bs, ⟨l, .trail :: .operators :: .moreArguments :: σ⟩, L⟩ rest := by
  have hdot : emit ⟨.dots 1, bs, ⟨l, .argument m :: σ⟩, L⟩ .dot =
      some ⟨.code, bs, ⟨l, .selection :: .trail :: .operators :: .moreArguments :: σ⟩, L⟩ := by rfl
  rw [run_dots_identifier hn.word.isIdentifier, hdot, resume_some, run_free hn hrest]
  simp

theorem run_argument (hn : IsFree n) (hm : IsFree m) (hrest : EndsWord rest) :
    run ⟨.code, bs, ⟨l, .arguments :: σ⟩, L⟩ (n.toList ++ '=' :: (m.toList ++ rest)) =
      if isBindable n then run ⟨.code, bs, ⟨l, .trail :: .operators :: .exactly .closeParen :: σ⟩, L⟩ rest else none := by
  rw [run_free hn (endsWord_cons _ (by decide) (by decide))]
  have hequals : resume (emit ⟨.code, bs, ⟨l, .arguments :: σ⟩, L⟩ (.name n)) ('=' :: (m.toList ++ rest)) =
      run ⟨.equals, bs, ⟨l, .argument n :: σ⟩, L⟩ (m.toList ++ rest) := by simp
  rw [hequals, run_equals_identifier hm.word.isIdentifier]
  cases hb : isBindable n with
  | false => simp [hn.isBindable_eq, hb]
  | true =>
    have hvalue : emit ⟨.equals, bs, ⟨l, .argument n :: σ⟩, L⟩ .equals =
        some ⟨.code, bs, ⟨l, .expr :: .exactly .closeParen :: σ⟩, L⟩ := by simp [hn.isBindable_eq, hb]
    rw [hvalue, resume_some, run_variable hm hrest, if_pos rfl]

end

theorem makes_return_call (hm : IsFree m) (hn : IsFree n) :
    Makes ("return " ++ m ++ "(self." ++ slot n ++ ")").toList true .result [] := by
  intro k
  have hstart : run ⟨.margin k, [], { column := 0 }, []⟩ "return ".toList =
      some ⟨.code, [], ⟨⟨k, .result, []⟩, [.expr]⟩, []⟩ := by rfl
  have hself : run ⟨.code, [], ⟨⟨k, .result, []⟩, [.trail, .operators]⟩, []⟩ "(self.".toList =
      some ⟨.dots 1, [.round], ⟨⟨k, .result, []⟩, [.argument "self", .trail, .operators]⟩, []⟩ := by rfl
  simp only [String.toList_append, List.append_assoc]
  rw [run_append_of hstart, run_variable hm (endsWord_append (by decide) _), run_append_of hself,
    run_argument_attribute hn.slot (endsWord_append (by decide) _)]
  simp

theorem makes_return_slot (hn : IsFree n) : Makes ("return self." ++ slot n).toList true .result [] := by
  intro k
  have hstart : run ⟨.margin k, [], { column := 0 }, []⟩ "return self.".toList =
      some ⟨.dots 1, [], ⟨⟨k, .result, []⟩, [.trail, .operators]⟩, []⟩ := by rfl
  rw [String.toList_append, List.append_assoc, run_append_of hstart, run_attribute hn.slot endsWord_feed]
  simp

theorem makes_return_equal (hn : IsFree n) :
    Makes ("return self." ++ slot n ++ " == other." ++ slot n).toList true .result [] := by
  intro k
  have hstart : run ⟨.margin k, [], { column := 0 }, []⟩ "return self.".toList =
      some ⟨.dots 1, [], ⟨⟨k, .result, []⟩, [.trail, .operators]⟩, []⟩ := by rfl
  have hother : run ⟨.code, [], ⟨⟨k, .result, []⟩, [.trail, .operators]⟩, []⟩ " == other.".toList =
      some ⟨.dots 1, [], ⟨⟨k, .result, []⟩, [.trail, .operators]⟩, []⟩ := by rfl
  simp only [String.toList_append, List.append_assoc]
  rw [run_append_of hstart, run_attribute hn.slot (endsWord_append (by decide) _), run_append_of hother,
    run_attribute hn.slot endsWord_feed]
  simp

theorem makes_return_payload (hn : IsFree n) : Makes ("return payload." ++ n).toList true .result [] := by
  intro k
  have hstart : run ⟨.margin k, [], { column := 0 }, []⟩ "return payload.".toList =
      some ⟨.dots 1, [], ⟨⟨k, .result, []⟩, [.trail, .operators]⟩, []⟩ := by rfl
  rw [String.toList_append, List.append_assoc, run_append_of hstart, run_attribute hn endsWord_feed]
  simp

theorem makes_return_copy (hn : IsFree n) :
    Makes ("return type(self)(" ++ n ++ "=_copy.copy(self." ++ slot n ++ "))").toList (isBindable n) .result [] := by
  intro k
  have hstart : run ⟨.margin k, [], { column := 0 }, []⟩ "return type(self)(".toList =
      some ⟨.code, [.round], ⟨⟨k, .result, []⟩, [.arguments, .trail, .operators]⟩, []⟩ := by rfl
  have hcopy : run ⟨.code, [.round], ⟨⟨k, .result, []⟩, [.trail, .operators, .exactly .closeParen, .trail, .operators]⟩, []⟩
      ".copy(self.".toList = some ⟨.dots 1, [.round, .round], ⟨⟨k, .result, []⟩,
        [.argument "self", .trail, .operators, .exactly .closeParen, .trail, .operators]⟩, []⟩ := by rfl
  have hmodule : IsFree "_copy" := by decide
  have htext : "=_copy.copy(self.".toList = '=' :: ("_copy".toList ++ ".copy(self.".toList) := by rfl
  simp only [String.toList_append, List.append_assoc, htext, List.cons_append]
  rw [run_append_of hstart, run_argument hn hmodule (endsWord_append (by decide) _), run_append_of hcopy,
    run_argument_attribute hn.slot (endsWord_append (by decide) _)]
  simp

theorem makes_return_new (hn : IsFree n) :
    Makes ("return cls(" ++ n ++ "=" ++ n ++ ")").toList (isBindable n) .result [] := by
  intro k
  have hstart : run ⟨.margin k, [], { column := 0 }, []⟩ "return cls(".toList =
      some ⟨.code, [.round], ⟨⟨k, .result, []⟩, [.arguments, .trail, .operators]⟩, []⟩ := by rfl
  have htext : "=".toList = ['='] := by rfl
  simp only [String.toList_append, List.append_assoc, htext, List.cons_append, List.nil_append]
  rw [run_append_of hstart, run_argument hn hn (endsWord_append (by decide) _)]
  simp

theorem makes_raise (hm : IsFree m) (hn : IsFree n) : Makes ("raise " ++ m ++ "(" ++ n ++ ")").toList true .plain [] := by
  intro k
  have hstart : run ⟨.margin k, [], { column := 0 }, []⟩ "raise ".toList =
      some ⟨.code, [], ⟨⟨k, .plain, []⟩, [.expr]⟩, []⟩ := by rfl
  have hopen : run ⟨.code, [], ⟨⟨k, .plain, []⟩, [.trail, .operators]⟩, []⟩ "(".toList =
      some ⟨.code, [.round], ⟨⟨k, .plain, []⟩, [.arguments, .trail, .operators]⟩, []⟩ := by rfl
  simp only [String.toList_append, List.append_assoc]
  rw [run_append_of hstart, run_variable hm (endsWord_append (by decide) _), run_append_of hopen,
    run_free hn (endsWord_append (by decide) _)]
  simp

theorem makes_raise_text {s : String} (hs : IsInert s.toList) (hne : s.toList ≠ []) :
    Makes ("raise TypeError(\"" ++ s ++ "\")").toList true .plain [] := by
  intro k
  have hstart : run ⟨.margin k, [], { column := 0 }, []⟩ "raise TypeError(\"".toList =
      some ⟨.opened, [.round], ⟨⟨k, .plain, []⟩, [.arguments, .trail, .operators]⟩, []⟩ := by rfl
  simp only [String.toList_append, List.append_assoc]
  rw [run_append_of hstart, run_opened hs hne]
  simp

theorem makes_if_instance (hn : IsFree n) :
    Makes ("if not isinstance(other, " ++ n ++ "):").toList true .branch [] := by
  intro k
  have hstart : run ⟨.margin k, [], { column := 0 }, []⟩ "if not isinstance(other, ".toList =
      some ⟨.code, [.round], ⟨⟨k, .branch, []⟩, [.arguments, .trail, .operators, .exactly .colon]⟩, []⟩ := by rfl
  simp only [String.toList_append, List.append_assoc]
  rw [run_append_of hstart, run_free hn (endsWord_append (by decide) _)]
  simp

theorem makes_if_invalid (hn : IsFree n) : Makes ("if not cls.validate(" ++ n ++ "):").toList true .branch [] := by
  intro k
  have hstart : run ⟨.margin k, [], { column := 0 }, []⟩ "if not cls.validate(".toList =
      some ⟨.code, [.round], ⟨⟨k, .branch, []⟩, [.arguments, .trail, .operators, .exactly .colon]⟩, []⟩ := by rfl
  simp only [String.toList_append, List.append_assoc]
  rw [run_append_of hstart, run_free hn (endsWord_append (by decide) _)]
  simp

theorem makes_if_type (hn : IsFree n) : Makes ("if type(self) is " ++ n ++ ":").toList true .branch [] := by
  intro k
  have hstart : run ⟨.margin k, [], { column := 0 }, []⟩ "if type(self) is ".toList =
      some ⟨.code, [], ⟨⟨k, .branch, []⟩, [.isOperand, .exactly .colon]⟩, []⟩ := by rfl
  simp only [String.toList_append, List.append_assoc]
  rw [run_append_of hstart, run_free hn (endsWord_append (by decide) _)]
  simp

/-- A lone underscore matches everything, and has no variants. -/
theorem makes_case (hm : IsFree m) (hn : IsFree n) :
    Makes ("case " ++ m ++ "." ++ n ++ "(payload):").toList (decide (m ≠ "_")) .alternative [] := by
  intro k
  have hstart : run ⟨.margin k, [], { column := 0 }, []⟩ "case ".toList =
      some ⟨.code, [], ⟨⟨k, .plain, []⟩, [.target "case"]⟩, []⟩ := by rfl
  have hdot : ∀ cs, resume (emit ⟨.code, [], ⟨⟨k, .plain, []⟩, [.target "case"]⟩, []⟩ (.name m))
      (".".toList ++ (n.toList ++ cs)) =
        if m ≠ "_" then run ⟨.dots 1, [], ⟨⟨k, .alternative, []⟩, [.pattern, .exactly .colon]⟩, []⟩ (n.toList ++ cs)
        else none := by
    intro cs
    by_cases hm : m = "_" <;> simp [hm]
  have hpattern : emit ⟨.dots 1, [], ⟨⟨k, .alternative, []⟩, [.pattern, .exactly .colon]⟩, []⟩ .dot =
      some ⟨.code, [], ⟨⟨k, .alternative, []⟩, [.patternName, .exactly .colon]⟩, []⟩ := by rfl
  simp only [String.toList_append, List.append_assoc]
  rw [run_append_of hstart, run_free hm (endsWord_append (by decide) _), hdot,
    run_dots_identifier hn.word.isIdentifier, hpattern, resume_some, run_free hn (endsWord_append (by decide) _)]
  by_cases h : m = "_"
  · simp [h]
  · simp [h]
    rfl

/-! ## Records as texts -/

def shownField (f : Field) : String := f.name ++ "=\x7bself." ++ slot f.name ++ "!r\x7d"

theorem isInert_of_all {cs : List Char}
    (h : (cs.all fun c => c ≠ '"' && !isForbidden c && c ≠ '\x7b' && c ≠ '\x7d') = true) :
    IsInert cs := by
  intro c hc
  have := List.all_eq_true.mp h c hc
  simp only [Bool.and_eq_true, decide_eq_true_eq, Bool.not_eq_true'] at this
  exact ⟨this.1.1.1, this.1.1.2, this.1.2, this.2⟩

theorem Scanner.IsInert.append {a b : List Char} (ha : IsInert a) (hb : IsInert b) : IsInert (a ++ b) :=
  fun c hc => (List.mem_append.mp hc).elim (ha c) (hb c)

theorem run_shownField {f : Field} (hf : IsFree f.name) :
    run ⟨.formatted false, [], ⟨l, .format :: σ⟩, L⟩ ((shownField f).toList ++ rest) =
      run ⟨.formatted false, [], ⟨l, .format :: σ⟩, L⟩ rest := by
  have hself : run ⟨.formatted false, [], ⟨l, .format :: σ⟩, L⟩ "\x7bself.".toList =
      some ⟨.dots 1, [.field], ⟨l, .trail :: .operators :: .exactly .closeField :: .format :: σ⟩, L⟩ := by rfl
  have hequals : IsInert (f.name ++ "=").toList := by
    rw [String.toList_append]
    exact hf.word.isInert.append (isInert_of_all (by decide))
  have htext : (shownField f).toList ++ rest =
      (f.name ++ "=").toList ++ ("\x7bself.".toList ++ ((slot f.name).toList ++ ("!r\x7d".toList ++ rest))) := by
    simp [shownField]
  rw [htext, run_formatted hequals (by simp), run_append_of hself, run_attribute hf.slot (endsWord_append (by decide) _)]
  simp

theorem run_shownFields {fs : List Field} (h : ∀ f ∈ fs, IsFree f.name) :
    run ⟨.formatted false, [], ⟨l, .format :: σ⟩, L⟩ ((", ".intercalate (fs.map shownField)).toList ++ rest) =
      run ⟨.formatted false, [], ⟨l, .format :: σ⟩, L⟩ rest := by
  induction fs with
  | nil => rfl
  | cons f fs ih =>
    have hf := h f List.mem_cons_self
    cases fs with
    | nil => simpa using run_shownField hf
    | cons g gs =>
      have hmore := ih fun x hx => h x (List.mem_cons_of_mem _ hx)
      rw [List.map_cons, List.map_cons, String.intercalate_cons_cons, String.toList_append, String.toList_append,
        List.append_assoc, List.append_assoc, run_shownField hf, run_formatted (isInert_of_all (by decide)) (by decide)]
      exact hmore

theorem makes_return_shown {fs : List Field} (hn : IsFree n) (h : ∀ f ∈ fs, IsFree f.name) :
    Makes ("return f\"" ++ n ++ "(" ++ ", ".intercalate (fs.map shownField) ++ ")\"").toList true .result [] := by
  intro k
  have hstart : run ⟨.margin k, [], { column := 0 }, []⟩ "return f\"".toList =
      some ⟨.formatted true, [], ⟨⟨k, .result, []⟩, [.format, .texts, .trail, .operators]⟩, []⟩ := by rfl
  have hopen : IsInert (n ++ "(").toList := by
    rw [String.toList_append]
    exact hn.word.isInert.append (isInert_of_all (by decide))
  have htext : ("return f\"" ++ n ++ "(" ++ ", ".intercalate (fs.map shownField) ++ ")\"").toList ++ ['\n'] =
      "return f\"".toList ++ ((n ++ "(").toList ++
        ((", ".intercalate (fs.map shownField)).toList ++ (")\"".toList ++ ['\n']))) := by
    simp
  rw [htext, run_append_of hstart, run_formatted hopen (by simp), run_shownFields h]
  rfl

/-! ## Statements of classes and modules -/

theorem makes_setter (hn : IsFree n) : Makes ("@" ++ n ++ ".setter").toList true .decorator [] := by
  intro k
  have hstart : run ⟨.margin k, [], { column := 0 }, []⟩ "@".toList =
      some ⟨.code, [], ⟨⟨k, .decorator, []⟩, [.expr]⟩, []⟩ := by rfl
  simp only [String.toList_append, List.append_assoc]
  rw [run_append_of hstart, run_variable hn (endsWord_append (by decide) _)]
  rfl

theorem makes_slots {ns : List String} (h : ∀ n ∈ ns, IsWord n) : Makes (ClassPlan.slotsLine ns).toList true .plain [] := by
  intro k
  have hstart : run ⟨.margin k, [], { column := 0 }, []⟩ "__slots__ = ".toList =
      some ⟨.code, [], ⟨⟨k, .plain, []⟩, [.expr]⟩, []⟩ := by rfl
  rw [ClassPlan.slotsLine, String.toList_append, List.append_assoc, run_append_of hstart, run_tuple h]
  rfl

theorem makes_variants {ns : List String} (h : ∀ n ∈ ns, IsWord n) :
    Makes ("variants: ClassVar[tuple[str, ...]] = " ++ ClassPlan.tuple ns).toList true .plain [] := by
  intro k
  have hstart : run ⟨.margin k, [], { column := 0 }, []⟩ "variants: ClassVar[tuple[str, ...]] = ".toList =
      some ⟨.code, [], ⟨⟨k, .plain, []⟩, [.expr]⟩, []⟩ := by rfl
  rw [String.toList_append, List.append_assoc, run_append_of hstart, run_tuple h]
  rfl

theorem run_target (hn : IsFree n) (k : Nat) (hrest : EndsWord rest) :
    run ⟨.margin k, [], { column := 0 }, []⟩ (n.toList ++ rest) =
      run ⟨.code, [], ⟨⟨k, .plain, []⟩, [.target n]⟩, []⟩ rest := by
  rw [run_margin_identifier hn.word.isIdentifier, run_free hn hrest]
  simp

theorem run_annotated (hn : IsFree n) (k : Nat) (cs : List Char) :
    run ⟨.margin k, [], { column := 0 }, []⟩ (n.toList ++ (": ".toList ++ cs)) =
      if isBindable n then run ⟨.code, [], ⟨⟨k, .plain, []⟩, [.expr, .value]⟩, []⟩ cs else none := by
  rw [run_target hn k (endsWord_append (by decide) _)]
  cases hb : isBindable n <;> simp [hn.isBindable_eq, hb]

theorem makes_variant (hm : IsFree m) (hn : IsFree n) :
    Makes (m ++ ": ClassVar[type[" ++ n ++ "]]").toList (isBindable m) .plain [] := by
  intro k
  have htext : ": ClassVar[type[".toList = ": ".toList ++ "ClassVar[type[".toList := by rfl
  have htype : run ⟨.code, [], ⟨⟨k, .plain, []⟩, [.expr, .value]⟩, []⟩ "ClassVar[type[".toList =
      some ⟨.code, [.square, .square], ⟨⟨k, .plain, []⟩, [.expr, .moreElements .closeBracket, .trail, .operators,
        .moreElements .closeBracket, .trail, .operators, .value]⟩, []⟩ := by rfl
  simp only [String.toList_append, List.append_assoc, htext]
  rw [run_annotated hm, run_append_of htype, run_variable hn (endsWord_append (by decide) _)]
  simp

theorem makes_synonym {s : String} (hn : IsFree n) (hs : IsInert s.toList) (hne : s.toList ≠ []) :
    Makes (n ++ ": TypeAlias = \"" ++ s ++ "\"").toList (isBindable n) .plain [] := by
  intro k
  have htext : ": TypeAlias = \"".toList = ": ".toList ++ "TypeAlias = \"".toList := by rfl
  have htype : run ⟨.code, [], ⟨⟨k, .plain, []⟩, [.expr, .value]⟩, []⟩ "TypeAlias = \"".toList =
      some ⟨.opened, [], ⟨⟨k, .plain, []⟩, [.expr]⟩, []⟩ := by rfl
  simp only [String.toList_append, List.append_assoc, htext]
  rw [run_annotated hn, run_append_of htype, run_opened hs hne]
  simp

theorem run_assigned (hn : IsFree n) (hm : IsFree m) (k : Nat) (cs : List Char) :
    run ⟨.margin k, [], { column := 0 }, []⟩ (n.toList ++ (".".toList ++ (m.toList ++ (" = ".toList ++ cs)))) =
      if isBindable m then run ⟨.code, [], ⟨⟨k, .plain, []⟩, [.expr]⟩, []⟩ cs else none := by
  have hdot : ∀ cs, run ⟨.code, [], ⟨⟨k, .plain, []⟩, [.target n]⟩, []⟩ (".".toList ++ cs) =
      run ⟨.dots 1, [], ⟨⟨k, .plain, []⟩, [.target n]⟩, []⟩ cs := fun cs => by simp
  have hmember : emit ⟨.dots 1, [], ⟨⟨k, .plain, []⟩, [.target n]⟩, []⟩ .dot =
      some ⟨.code, [], ⟨⟨k, .plain, []⟩, [.member]⟩, []⟩ := by rfl
  rw [run_target hn k (endsWord_append (by decide) _), hdot, run_dots_identifier hm.word.isIdentifier, hmember,
    resume_some, run_free hm (endsWord_append (by decide) _)]
  cases hb : isBindable m <;> simp [hm.isBindable_eq, hb, codeAfter]

theorem makes_assign (hn : IsFree n) (hm : IsFree m) {e : String} (he : IsFree e) :
    Makes (n ++ "." ++ m ++ " = " ++ e).toList (isBindable m) .plain [] := by
  intro k
  simp only [String.toList_append, List.append_assoc]
  rw [run_assigned hn hm, run_variable he endsWord_feed]
  simp

theorem makes_assign_text (hn : IsFree n) (hm : IsFree m) {s : String} (hs : IsInert s.toList) (hne : s.toList ≠ []) :
    Makes (n ++ "." ++ m ++ " = \"" ++ s ++ "\"").toList (isBindable m) .plain [] := by
  intro k
  have htext : " = \"".toList = " = ".toList ++ ['"'] := by rfl
  have hquote : ∀ cs, run ⟨.code, [], ⟨⟨k, .plain, []⟩, [.expr]⟩, []⟩ (['"'] ++ cs) =
      run ⟨.opened, [], ⟨⟨k, .plain, []⟩, [.expr]⟩, []⟩ cs := fun cs => by simp
  simp only [String.toList_append, List.append_assoc, htext]
  rw [run_assigned hn hm, hquote, run_opened hs hne]
  simp

theorem dot_not_mem_of_isIdentifier {w : String} (h : Identifier.isIdentifier w = true) : '.' ∉ w.toList := by
  obtain ⟨c, cs, hw, hc, hcs⟩ := exists_cons_of_isIdentifier h
  rw [hw]
  intro hdot
  rcases List.mem_cons.mp hdot with rfl | hdot
  · exact absurd hc (by decide)
  · exact absurd (hcs _ hdot) (by decide)

/-- The sum of events that is assigned need not be a word of the file. -/
theorem makes_events {e : String} (hn : IsFree n) (he : Identifier.isIdentifier e = true) :
    Makes (Fragment.eventsLine n e).toList (isReadableName e) .plain [] := by
  intro k
  have hevents : IsFree "events" := by decide
  have htext : (Fragment.eventsLine n e).toList ++ ['\n'] =
      n.toList ++ (".".toList ++ ("events".toList ++ (" = ".toList ++ (e.toList ++ ['\n'])))) := by
    simp [Fragment.eventsLine]
  have hname : isReadableName e = (!Keyword.isReserved e || e ∈ constantWords) := by
    rw [isReadableName, nameParts_of_not_mem (dot_not_mem_of_isIdentifier he)]
    simp
  have htake := take_opening (l := ⟨k, .plain, []⟩) (σ := []) e true
  rw [opening, if_pos rfl] at htake
  rw [htext, run_assigned hn hevents, if_pos (by decide), run_identifier he (by decide) (by decide), emit, htake, hname]
  cases (!Keyword.isReserved e || e ∈ constantWords : Bool) with
  | true => simp
  | false => by_cases hnot : e = denialWord <;> simp [hnot]

end DomainModel.Target
