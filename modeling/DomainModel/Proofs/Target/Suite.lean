import DomainModel.Proofs.Target.Block

/-!
# Statements and their lines

A statement takes one line, or more than one if it has a block of statements. `Goes` says of lines when they are read
within a block, which goes on behind them; the lines of statements are read exactly if the statements fit what is around
the block (`goes_all`).
-/

namespace DomainModel.Target

inductive Header
  | cls (name : String)
  | function (isDecorated : Bool) (names : List String)
  | branch
  | choice
  | alternative
deriving Repr, DecidableEq

inductive Statement
  | text
  | plain
  | result
  | block (h : Header) (first : Statement) (rest : List Statement)
deriving Repr

namespace Header

def form : Header → Form
  | cls _ => .cls
  | function _ _ => .function
  | branch => .branch
  | choice => .choice
  | alternative => .alternative

def names : Header → List String
  | cls n => [n]
  | function _ ns => ns
  | branch | choice | alternative => []

def isDecorated : Header → Bool
  | function d _ => d
  | cls _ | branch | choice | alternative => false

def lines (k : Nat) (h : Header) : List Line :=
  (if h.isDecorated then [⟨k, .decorator, []⟩] else []) ++ [⟨k, h.form, h.names⟩]

/-- Only a choice has alternatives, and nothing else; the parameters of a function have different names. -/
def fits (c : Context) (inChoice : Bool) : Header → Bool
  | function _ ns => !inChoice && decide (ns.map (Block.Context.spell c)).Nodup
  | alternative => inChoice
  | cls _ | branch | choice => !inChoice

/-- What is around the block of a statement, and whether that is a choice. -/
def inside (c : Context) : Header → Context × Bool
  | cls n => ({ owner := some n }, false)
  | function _ _ => ({ c with inFunction := true }, false)
  | branch | alternative => (c, false)
  | choice => (c, true)

end Header

mutual

def Statement.lines (k : Nat) : Statement → List Line
  | .text => [⟨k, .text, []⟩]
  | .plain => [⟨k, .plain, []⟩]
  | .result => [⟨k, .result, []⟩]
  | .block h first rest => h.lines k ++ (first.lines (k + 4) ++ Statement.allLines (k + 4) rest)

def Statement.allLines (k : Nat) : List Statement → List Line
  | [] => []
  | s :: ss => s.lines k ++ Statement.allLines k ss

end

mutual

def Statement.fits (c : Context) (inChoice : Bool) : Statement → Bool
  | .text | .plain => !inChoice
  | .result => !inChoice && c.inFunction
  | .block h first rest =>
    h.fits c inChoice && (first.fits (h.inside c).1 (h.inside c).2 &&
      Statement.allFit (h.inside c).1 (h.inside c).2 rest)

def Statement.allFit (c : Context) (inChoice : Bool) : List Statement → Bool
  | [] => true
  | s :: ss => s.fits c inChoice && Statement.allFit c inChoice ss

end

theorem Statement.exists_line (k : Nat) (s : Statement) : ∃ l ls, s.lines k = l :: ls ∧ l.column = k := by
  cases s with
  | text => exact ⟨_, [], by rw [lines], rfl⟩
  | plain => exact ⟨_, [], by rw [lines], rfl⟩
  | result => exact ⟨_, [], by rw [lines], rfl⟩
  | block h first rest =>
    rw [lines, Header.lines]
    cases h.isDecorated with
    | true => exact ⟨_, _, rfl, rfl⟩
    | false => exact ⟨_, _, rfl, rfl⟩

theorem Statement.allLines_eq (k : Nat) (ss : List Statement) : allLines k ss = ss.flatMap (lines k) := by
  induction ss with
  | nil => rfl
  | cons s ss ih => rw [allLines, ih, List.flatMap_cons]

theorem Statement.allLines_append (k : Nat) (ss ts : List Statement) :
    allLines k (ss ++ ts) = allLines k ss ++ allLines k ts := by
  simp only [allLines_eq, List.flatMap_append]

theorem Statement.allFit_eq (c : Context) (inChoice : Bool) (ss : List Statement) :
    allFit c inChoice ss = ss.all (fits c inChoice) := by
  induction ss with
  | nil => rfl
  | cons s ss ih => rw [allFit, ih, List.all_cons]

/-! ## Blocks that go on -/

namespace Blocks

variable {s s' : Blocks} {b b' : Block} {bs : List Block} {ls ls' : List Line} {p q : Bool} {c : Context}

/-- A line in the column of a block belongs to the block, and no block waits for a line. -/
structure Rests (s : Blocks) (b : Block) (bs : List Block) : Prop where
  opens : s.open? = none
  closes : close b.column s.blocks = some (b :: bs)
  calm : ∀ x ∈ s.blocks, x.need = .nothing

theorem step_rested (bs : List Block) (l : Line) : step ⟨none, bs⟩ l = (close l.column bs).bind (put l) := by rfl

theorem step_opened (o : Context × Bool) (b : Block) (bs : List Block) (l : Line) : step ⟨some o, b :: bs⟩ l =
    if b.column < l.column then put l ({ column := l.column, context := o.1, isChoice := o.2 } :: b :: bs) else none := by rfl

theorem close_suffix {k : Nat} {xs ys : List Block} (h : close k xs = some ys) : ys <:+ xs := by
  induction xs with
  | nil => cases h
  | cons x xs ih =>
    rw [close] at h
    split at h
    · obtain rfl := Option.some.inj h
      exact List.suffix_refl (x :: xs)
    · split at h
      · exact (ih h).trans (List.suffix_cons x xs)
      · cases h

theorem close_outer {k : Nat} {xs : List Block} (h : close b.column xs = some (b :: bs)) (hn : b.need = .nothing)
    (hk : k < b.column) : close k xs = close k bs := by
  have hb : close k (b :: bs) = close k bs := by
    rw [close, if_neg (by omega), if_pos ⟨hk, hn⟩]
  induction xs with
  | nil => cases h
  | cons x xs ih =>
    rw [close] at h
    split at h
    · rw [Option.some.inj h, hb]
    · split at h
      · next hx =>
        rw [close, if_neg (by omega), if_pos ⟨by omega, hx.2⟩, ih h]
      · cases h

theorem Rests.need (h : s.Rests b bs) : b.need = .nothing :=
  h.calm b ((close_suffix h.closes).subset List.mem_cons_self)

theorem Rests.of_top (hcalm : ∀ x ∈ b :: bs, x.need = .nothing) : Rests ⟨none, b :: bs⟩ b bs :=
  ⟨rfl, by rw [close, if_pos rfl], hcalm⟩

theorem Rests.calm_top (h : s.Rests b bs) : ∀ x ∈ b :: bs, x.need = .nothing :=
  fun x hx => h.calm x ((close_suffix h.closes).subset hx)

/-- When a block is at its end the one around it goes on. -/
theorem Rests.outer (h : s.Rests b' (b :: bs)) (hk : b.column < b'.column) : s.Rests b bs := by
  refine ⟨h.opens, ?_, h.calm⟩
  rw [close_outer h.closes h.need hk, close, if_pos rfl]

theorem Rests.isClosed (h : s.Rests b bs) : s.IsClosed := ⟨h.opens, h.calm⟩

theorem Rests.step_eq (h : s.Rests b bs) {l : Line} (hl : l.column = b.column) : s.step l = put l (b :: bs) := by
  obtain ⟨open?, blocks⟩ := s
  obtain rfl : open? = none := h.opens
  have hcloses : close b.column blocks = some (b :: bs) := h.closes
  rw [step_rested, hl, hcloses, Option.bind_some]

theorem run_append (s : Blocks) (ls ls' : List Line) : s.run (ls ++ ls') = (s.run ls).bind (·.run ls') := List.foldlM_append

theorem run_singleton (s : Blocks) (l : Line) : s.run [l] = s.step l := by
  rw [run, List.foldlM_cons]
  cases s.step l <;> rfl

/-- Lines are read in a block, behind which it goes on, exactly if `p` is true. -/
structure Goes (ls : List Line) (p : Bool) (b : Block) (bs : List Block) : Prop where
  runs : p = true → ∀ s : Blocks, s.Rests b bs → ∃ s', s.run ls = some s' ∧ s'.Rests b bs
  fails : p = false → ∀ s : Blocks, s.Rests b bs → s.run ls = none

namespace Goes

theorem nil : Goes [] true b bs := ⟨fun _ s hs => ⟨s, rfl, hs⟩, fun hp => by cases hp⟩

theorem append (h : Goes ls p b bs) (h' : Goes ls' q b bs) : Goes (ls ++ ls') (p && q) b bs := by
  refine ⟨fun hpq s hs => ?_, fun hpq s hs => ?_⟩
  · rw [Bool.and_eq_true] at hpq
    obtain ⟨s', hs', hrests⟩ := h.runs hpq.1 s hs
    rw [run_append, hs', Option.bind_some]
    exact h'.runs hpq.2 s' hrests
  · cases hp : p with
    | true =>
      obtain ⟨s', hs', hrests⟩ := h.runs hp s hs
      rw [hp, Bool.true_and] at hpq
      rw [run_append, hs', Option.bind_some]
      exact h'.fails hpq s' hrests
    | false => rw [run_append, h.fails hp s hs, Option.bind_none]

theorem single {l : Line} (hcolumn : l.column = b.column) (hopens : Block.opens? b.context l = none)
    (hneed : Block.needAfter l.form = .nothing) (hp : b.need = .nothing → b.admits l = p) : Goes [l] p b bs := by
  have hput : ∀ {s : Blocks}, s.Rests b bs → s.run [l] = if p then some ⟨none, b :: bs⟩ else none := by
    intro s hs
    have hb : { b with need := .nothing } = b := by
      rw [← hs.need]
    rw [run_singleton, hs.step_eq hcolumn, put, hp hs.need, hopens, hneed, hb]
  refine ⟨fun hp s hs => ⟨⟨none, b :: bs⟩, ?_, .of_top hs.calm_top⟩, fun hp s hs => ?_⟩
  · rw [hput hs, hp, if_pos rfl]
  · rw [hput hs, hp, if_neg Bool.false_ne_true]

end Goes

/-- How a statement starts is read if it fits, and opens its block. -/
theorem run_header (h : Header) (hs : s.Rests b bs) :
    s.run (h.lines b.column) =
      if h.fits b.context b.isChoice then some ⟨some (h.inside b.context), b :: bs⟩ else none := by
  have hneed := hs.need
  obtain ⟨k, context, isChoice, need⟩ := b
  obtain rfl : need = .nothing := hneed
  have hstep : ∀ l : Line, l.column = k → s.step l = put l (⟨k, context, isChoice, .nothing⟩ :: bs) :=
    fun l hl => hs.step_eq hl
  cases h with
  | cls n =>
    rw [Header.lines, Header.isDecorated, if_neg Bool.false_ne_true, List.nil_append, run_singleton, hstep _ rfl]
    cases isChoice <;> rfl
  | branch =>
    rw [Header.lines, Header.isDecorated, if_neg Bool.false_ne_true, List.nil_append, run_singleton, hstep _ rfl]
    cases isChoice <;> rfl
  | choice =>
    rw [Header.lines, Header.isDecorated, if_neg Bool.false_ne_true, List.nil_append, run_singleton, hstep _ rfl]
    cases isChoice <;> rfl
  | alternative =>
    rw [Header.lines, Header.isDecorated, if_neg Bool.false_ne_true, List.nil_append, run_singleton, hstep _ rfl]
    cases isChoice <;> rfl
  | function d ns =>
    have hput : ∀ need, need = .nothing ∨ need = .definition →
        put ⟨k, .function, ns⟩ (⟨k, context, isChoice, need⟩ :: bs) =
          if (Header.function d ns).fits context isChoice
          then some ⟨some ((Header.function d ns).inside context), ⟨k, context, isChoice, .nothing⟩ :: bs⟩ else none := by
      intro need hneed
      rw [put, Header.fits]
      rcases hneed with rfl | rfl <;> cases isChoice <;> simp [Block.admits, Block.opens?, Block.needAfter, Header.inside]
    cases d with
    | false =>
      rw [Header.lines, Header.isDecorated, if_neg Bool.false_ne_true, List.nil_append, run_singleton]
      exact (hstep _ rfl).trans (hput .nothing (.inl rfl))
    | true =>
      -- the line of the decorator makes the block wait for a definition
      have hdecorator : put ⟨k, .decorator, []⟩ (⟨k, context, isChoice, .nothing⟩ :: bs) =
          if isChoice then none else some ⟨none, ⟨k, context, isChoice, .definition⟩ :: bs⟩ := by
        cases isChoice <;> rfl
      rw [Header.lines, Header.isDecorated, if_pos rfl, run_append, run_singleton, hstep _ rfl, hdecorator]
      cases isChoice with
      | true => rfl
      | false =>
        rw [if_neg Bool.false_ne_true, Option.bind_some, run_singleton, step_rested, close, if_pos rfl, Option.bind_some]
        exact hput .definition (.inr rfl)

theorem Goes.inside {h : Header} {first : Statement} {rest : List Line} {k : Nat} (hk : b.column < k)
    (hbody : Goes (first.lines k ++ rest) p
      { column := k, context := (h.inside b.context).1, isChoice := (h.inside b.context).2 } (b :: bs)) :
    Goes (h.lines b.column ++ (first.lines k ++ rest)) (h.fits b.context b.isChoice && p) b bs := by
  let inner : Block := { column := k, context := (h.inside b.context).1, isChoice := (h.inside b.context).2 }
  -- the first line finds the block that the start has opened
  have hopened : ∀ s : Blocks, s.Rests b bs → Rests ⟨none, inner :: b :: bs⟩ inner (b :: bs) := by
    refine fun s hs => .of_top fun x hx => ?_
    rcases List.mem_cons.mp hx with rfl | hx
    · rfl
    · exact hs.calm_top x hx
  have hfirst : run ⟨some (h.inside b.context), b :: bs⟩ (first.lines k ++ rest) =
      run ⟨none, inner :: b :: bs⟩ (first.lines k ++ rest) := by
    obtain ⟨l, ls, hl, hcolumn⟩ := first.exists_line k
    rw [hl, List.cons_append, run, List.foldlM_cons, run, List.foldlM_cons]
    have hstep : step ⟨some (h.inside b.context), b :: bs⟩ l = step ⟨none, inner :: b :: bs⟩ l := by
      rw [step_opened, if_pos (by omega), step_rested, hcolumn, close, if_pos rfl, Option.bind_some]
    rw [hstep]
  refine ⟨fun hpq s hs => ?_, fun hpq s hs => ?_⟩
  · rw [Bool.and_eq_true] at hpq
    obtain ⟨s', hs', hrests⟩ := hbody.runs hpq.2 _ (hopened s hs)
    refine ⟨s', ?_, hrests.outer hk⟩
    rw [run_append, run_header h hs, if_pos hpq.1, Option.bind_some, hfirst, hs']
  · rw [run_append, run_header h hs]
    split
    · next hfits =>
      rw [hfits, Bool.true_and] at hpq
      rw [Option.bind_some, hfirst, hbody.fails hpq _ (hopened s hs)]
    · rfl

mutual

theorem goes_lines (s : Statement) (b : Block) (bs : List Block) :
    Goes (s.lines b.column) (s.fits b.context b.isChoice) b bs := by
  match s with
  | .text =>
    rw [Statement.lines, Statement.fits]
    refine .single rfl rfl rfl fun hn => ?_
    cases hc : b.isChoice <;> simp [Block.admits, hn, hc]
  | .plain =>
    rw [Statement.lines, Statement.fits]
    refine .single rfl rfl rfl fun hn => ?_
    cases hc : b.isChoice <;> simp [Block.admits, hn, hc]
  | .result =>
    rw [Statement.lines, Statement.fits]
    refine .single rfl rfl rfl fun hn => ?_
    cases hc : b.isChoice <;> simp [Block.admits, hn, hc]
  | .block h first rest =>
    rw [Statement.lines, Statement.fits]
    let inner : Block := ⟨b.column + 4, (h.inside b.context).1, (h.inside b.context).2, .nothing⟩
    exact .inside (by omega) ((goes_lines first inner (b :: bs)).append (goes_allLines rest inner (b :: bs)))

/-- The lines of statements below each other are read exactly if all of them fit. -/
theorem goes_allLines (ss : List Statement) (b : Block) (bs : List Block) :
    Goes (Statement.allLines b.column ss) (Statement.allFit b.context b.isChoice ss) b bs := by
  match ss with
  | [] => exact .nil
  | s :: ss =>
    rw [Statement.allLines, Statement.allFit]
    exact (goes_lines s b bs).append (goes_allLines ss b bs)

end

end Blocks

end DomainModel.Target
