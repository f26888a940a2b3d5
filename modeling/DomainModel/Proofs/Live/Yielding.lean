import DomainModel.Proofs.Live.Accessing

/-!
# What runs yield

What a value is shown as, what it says, what it is hashed by and what it equals may be found by long chains of requests.
A run yields something in a world if it does so wherever the world has grown to, and lets it do nothing but grow: such runs
can be put together.
-/

namespace DomainModel.Live

open Run Loading

variable {α β : Type}

/-- Wherever a world has grown to, a run ends with something of a kind, and the world does nothing but grow. -/
def World.Yields (w : World) (r : Run α) (P : α → World → Prop) : Prop :=
  ∀ w', w.Grows w' → ∃ a w'', r w' = (.ok a, w'') ∧ w'.Grows w'' ∧ P a w''

namespace World.Yields

variable {w w' : World} {r : Run α} {k : α → Run β} {P : α → World → Prop} {Q : β → World → Prop} {a : α}

theorem grows (h : w.Yields r P) (hg : w.Grows w') : w'.Yields r P := fun _ hg' => h _ (hg.trans hg')

theorem run (h : w.Yields r P) (ho : w.Orderly) (hl : w.Labelled) : ∃ a w', r w = (.ok a, w') ∧ w.Grows w' ∧ P a w' :=
  h w (.refl ho hl)

theorem mono {P' : α → World → Prop} (h : w.Yields r P) (hP : ∀ a w', w.Grows w' → P a w' → P' a w') : w.Yields r P' := by
  intro w' hg
  obtain ⟨a, w'', hr, hg', ha⟩ := h w' hg
  exact ⟨a, w'', hr, hg', hP a w'' (hg.trans hg') ha⟩

theorem congr {r' : Run α} (h : w.Yields r P) (he : ∀ w', w.Grows w' → r' w' = r w') : w.Yields r' P := by
  intro w' hg
  rw [he w' hg]
  exact h w' hg

theorem of_eq (h : ∀ w', w.Grows w' → r w' = (.ok a, w')) : w.Yields r fun b _ => b = a := by
  intro w' hg
  exact ⟨a, w', h w' hg, .refl hg.orderly hg.labelled, rfl⟩

theorem pure (h : ∀ w', w.Grows w' → P a w') : w.Yields (pure a) P := by
  intro w' hg
  exact ⟨a, w', rfl, .refl hg.orderly hg.labelled, h w' hg⟩

theorem bind (h : w.Yields r P) (hk : ∀ a w', w.Grows w' → P a w' → w'.Yields (k a) Q) : w.Yields (r >>= k) Q := by
  intro w' hg
  obtain ⟨a, w₁, hr, hg₁, ha⟩ := h w' hg
  obtain ⟨b, w₂, hk, hg₂, hb⟩ := hk a w₁ (hg.trans hg₁) ha w₁ (.refl hg₁.orderly hg₁.labelled)
  refine ⟨b, w₂, ?_, hg₁.trans hg₂, hb⟩
  rw [bind_of_ok hr, hk]

theorem bind_eq (h : ∀ w', w.Grows w' → r w' = (.ok a, w')) (hk : w.Yields (k a) Q) : w.Yields (r >>= k) Q :=
  hk.congr fun w' hg => bind_of_ok (h w' hg)

theorem world {k : World → Run β} (h : ∀ w', w.Grows w' → w'.Yields (k w') Q) : w.Yields (Run.world >>= k) Q := by
  intro w' hg
  obtain ⟨b, w'', hk, hg', hb⟩ := h w' hg w' (.refl hg.orderly hg.labelled)
  exact ⟨b, w'', (world_bind k w').trans hk, hg', hb⟩

theorem mapM_forall₂ {γ : Type} {f : γ → Run α} {xs : List γ} {as : List α}
    (h : List.Forall₂ (fun x a => w.Yields (f x) fun b _ => b = a) xs as) : w.Yields (xs.mapM f) fun bs _ => bs = as := by
  induction h with
  | nil => exact .of_eq fun _ _ => rfl
  | cons hx _ ih =>
    rw [List.mapM_cons]
    refine hx.bind fun a w₁ hg ha => ?_
    refine (ih.grows hg).bind fun as w₂ _ has => ?_
    exact .pure fun _ _ => by rw [ha, has]

theorem mapM {γ : Type} {f : γ → Run α} {g : γ → α} {xs : List γ} (h : ∀ x ∈ xs, w.Yields (f x) fun a _ => a = g x) :
    w.Yields (xs.mapM f) fun as _ => as = xs.map g :=
  .mapM_forall₂ (List.forall₂_map_right_iff.mpr (List.forall₂_same.mpr h))

theorem allocate (c : Cell) : w.Yields (allocate c) fun v w' => w'.cell? v = some c := by
  intro w' hg
  exact ⟨_, _, rfl, .append hg.orderly hg.labelled [c], World.cell?_allocated w' c⟩

theorem text (s : String) : w.Yields (Run.text s) fun t _ => t.text? = some s := by
  intro w' hg
  obtain ⟨k, w'', ht, hg'⟩ := Request.text_spec hg.orderly hg.labelled s
  exact ⟨_, w'', ht, hg', rfl⟩

end World.Yields

/-! ## What is asked of values -/

def World.Shows (w : World) (limit : Nat) (x : Value) (s : String) : Prop :=
  ∀ fuel ≥ limit, w.Yields (Request.answerWithin fuel (.repr x)) fun t _ => t.text? = some s

def World.Says (w : World) (limit : Nat) (x : Value) (s : String) : Prop :=
  ∀ fuel ≥ limit, w.Yields (Request.answerWithin fuel (.text x)) fun t _ => t.text? = some s

def World.Hashes (w : World) (limit : Nat) (x : Value) (key : HashKey) : Prop :=
  ∀ fuel ≥ limit, w.Yields (Request.answerWithin fuel (.hash x)) fun t w' => Comparison.keyOf? w' t = some key

def HashKey.settled : HashKey → HashKey
  | .number n => .number (Comparison.hashNumber n)
  | key => key

def World.Equates (w : World) (limit : Nat) (x y : Value) (b : Bool) : Prop :=
  ∀ fuel ≥ limit, w.Yields (Request.answerWithin fuel (.equal x y)) fun t _ => t = .truth b

section
variable {w w' : World} {limit limit' fuel : Nat} {x y v : Value} {s : String} {key : HashKey} {b : Bool}

theorem World.Hashes.grows (h : w.Hashes limit x key) (hg : w.Grows w') : w'.Hashes limit x key :=
  fun fuel hf => (h fuel hf).grows hg

theorem World.Equates.grows (h : w.Equates limit x y b) (hg : w.Grows w') : w'.Equates limit x y b :=
  fun fuel hf => (h fuel hf).grows hg

theorem World.Equates.mono (h : w.Equates limit x y b) (hl : limit ≤ limit') : w.Equates limit' x y b :=
  fun fuel hf => h fuel (hl.trans hf)

theorem World.Hashes.mono (h : w.Hashes limit x key) (hl : limit ≤ limit') : w.Hashes limit' x key :=
  fun fuel hf => h fuel (hl.trans hf)

/-- Whether two values are equal is decided in one way only. -/
theorem World.Equates.unique {b' : Bool} (ho : w.Orderly) (hl : w.Labelled) (h : w.Equates limit x y b)
    (h' : w.Equates limit' x y b') : b = b' := by
  obtain ⟨t, w₁, ht, -, rfl⟩ := (h _ (Nat.le_max_left limit limit')).run ho hl
  obtain ⟨t', w₂, ht', -, rfl⟩ := (h' _ (Nat.le_max_right limit limit')).run ho hl
  rw [ht] at ht'
  injection ht' with hresult
  injection hresult with htruth
  injection htruth

theorem World.Shows.shown (h : w.Shows limit x s) (hf : limit ≤ fuel) :
    w.Yields ((Request.answerWithin fuel).shown x) fun t _ => t = s := by
  refine (h fuel hf).bind fun t w' _ ht => ?_
  rw [ht]
  exact .pure fun _ _ => rfl

end

/-! ## Methods -/

variable {w : World} {fuel : Nat} {v x : Value} {k : ClassRef} {n : String} {f : Function} {given : List Value}
  {slots : List ((ClassRef × String) × Value)} {attributes : Option Nat} {P : Value → World → Prop}

theorem World.bound?_classOf {cell : Cell} (hv : w.cell? v = some cell) (hn : w.bound? (World.classOfCell cell) n = some x) :
    w.bound? (w.classOf v) n = some x := by rwa [World.classOf_of_cell? hv]

theorem yields_special? (ask : Answering) (hv : w.cell? v = some (.object k slots attributes)) (hn : n ∉ noteNames)
    (hf : w.bound? k n = some (.function f)) : w.Yields (Attribute.special? ask v n) fun m w' =>
      ∃ a, m = some (.cell a) ∧ w'.cell? (.cell a) = some (.method v (.function f)) := by
  refine .world fun w₁ hg => ?_
  have hb : w₁.bound? (w₁.classOf v) n = some (.function f) :=
    World.bound?_classOf (hg.cell? hv) ((hg.bound? k hn).trans hf)
  rw [hb]
  refine (World.Yields.congr (.allocate (.method v (.function f))) fun _ _ => rfl : w₁.Yields (Attribute.bind ask v _ _) _).bind ?_
  intro m w₂ _ hm
  refine .pure fun w₃ hg₃ => ?_
  cases m with
  | cell a => exact ⟨a, rfl, hg₃.cell? hm⟩
  | _ => cases hm

theorem yields_method {a : Nat} (hm : w.cell? (.cell a) = some (.method v (.function f)))
    (hgiven : f.arguments? (v :: given) [] = some (v :: given))
    (h : w.Yields (f.run (Request.answerWithin fuel) (v :: given)) P) :
    w.Yields (Request.answerWithin (fuel + 2) (.call (.cell a) given [])) P := by
  refine h.congr fun w' hg => ?_
  rw [Request.call_method (hg.cell? hm), Request.call_function hgiven]

/-! ## Showing, saying, hashing and comparing instances -/

section
variable {s : String} {key : HashKey}

theorem hasOwn_of_bound? (h : w.bound? k n = some (.function f)) : Attribute.hasOwn w k n = true := by
  rw [Attribute.hasOwn, h]

theorem yields_repr (hv : w.cell? v = some (.object k slots attributes)) (hf : w.bound? k "__repr__" = some (.function f))
    (hgiven : f.arguments? [v] [] = some [v])
    (h : w.Yields (f.run (Request.answerWithin fuel) [v]) fun t _ => t.text? = some s) :
    w.Yields (Request.answerWithin (fuel + 3) (.repr v)) fun t _ => t.text? = some s := by
  have hobject : w.Yields (Display.object (Request.answerWithin (fuel + 2)) v k) fun t _ => t = s := by
    refine .world fun w₁ hg => ?_
    rw [(hg.bound? k (by decide)).trans hf]
    have hspecial := yields_special? (Request.answerWithin (fuel + 2)) (hg.cell? hv) (by decide)
      ((hg.bound? k (by decide)).trans hf)
    have hattempt : w₁.Yields (Run.attempt (Attribute.special? (Request.answerWithin (fuel + 2)) v "__repr__")) fun m w' =>
        ∃ a, m = .ok (some (.cell a)) ∧ w'.cell? (.cell a) = some (.method v (.function f)) := by
      intro w₂ hg₂
      obtain ⟨m, w₃, hm, hg₃, a, rfl, ha⟩ := hspecial w₂ hg₂
      exact ⟨_, w₃, attempt_of_ok hm, hg₃, a, rfl, ha⟩
    refine hattempt.bind fun m w₂ hg₂ hm => ?_
    obtain ⟨a, rfl, ha⟩ := hm
    refine (yields_method ha hgiven (h.grows (hg.trans hg₂))).bind fun t w₃ _ ht => ?_
    rw [ht]
    exact .pure fun _ _ => rfl
  have hrepr : w.Yields (Display.repr (Request.answerWithin (fuel + 2)) v) fun t _ => t = s := by
    refine hobject.congr fun w₁ hg => ?_
    have hcell := hg.cell? hv
    cases v with
    | cell a =>
      have hcells : w₁.cells[a]? = some (.object k slots attributes) := hcell
      rw [Display.repr, world_bind]
      simp only [hcells]
      rfl
    | _ => cases hv
  refine World.Yields.congr (hrepr.bind fun t w₁ _ ht => ?_) fun _ _ => rfl
  rw [ht]
  exact .text s

theorem yields_text (hv : w.cell? v = some (.object k slots attributes)) (hf : w.bound? k "__str__" = some (.function f))
    (hgiven : f.arguments? [v] [] = some [v])
    (h : w.Yields (f.run (Request.answerWithin fuel) [v]) fun t _ => t.text? = some s) :
    w.Yields (Request.answerWithin (fuel + 3) (.text v)) fun t _ => t.text? = some s := by
  intro w₁ hg
  have hcell := hg.cell? hv
  have hb := (hg.bound? k (by decide)).trans hf
  obtain ⟨m, w₂, hm, hg₂, a, rfl, ha⟩ := yields_special? (Request.answerWithin (fuel + 2)) hv (by decide) hf w₁ hg
  have hmethod : w₂.Yields (Display.byMethod (Request.answerWithin (fuel + 2)) (.cell a)) fun t _ => t = s := by
    refine (yields_method ha hgiven (h.grows (hg.trans hg₂))).bind fun t w₃ _ ht => ?_
    rw [ht]
    exact .pure fun _ _ => rfl
  have htext : w₂.Yields (Display.byMethod (Request.answerWithin (fuel + 2)) (.cell a) >>= Run.text) fun t _ => t.text? = some s :=
    hmethod.bind fun t w₃ _ ht => ht ▸ .text t
  obtain ⟨t, w₃, ht, hg₃, hs⟩ := htext.run hg₂.orderly hg₂.labelled
  refine ⟨t, w₃, ?_, hg₂.trans hg₃, hs⟩
  change Display.text (Request.answerWithin (fuel + 2)) v w₁ = _
  rw [Display.text, world_bind]
  cases v with
  | cell c =>
    simp only [hcell, hb]
    rw [bind_of_ok hm]
    exact ht
  | _ => cases hv

theorem yields_ofKey (w : World) (key : HashKey) :
    w.Yields (Comparison.ofKey key) fun t w' => Comparison.keyOf? w' t = some key.settled := by
  intro w₁ hg
  cases key with
  | number n =>
    obtain ⟨k, w₂, ht, hg₂⟩ := Request.integer_spec hg.orderly hg.labelled n
    exact ⟨_, w₂, ht, hg₂, rfl⟩
  | _ =>
    refine ⟨_, _, rfl, .append hg.orderly hg.labelled [_], ?_⟩
    simp only [Comparison.keyOf?, Value.number?, World.cell?_allocated]
    rfl

theorem keyOf?_grows {w' : World} {t : Value} (hg : w.Grows w') (h : Comparison.keyOf? w t = some key) :
    Comparison.keyOf? w' t = some key := by
  unfold Comparison.keyOf? at h ⊢
  cases hn : t.number? with
  | some n => simpa only [hn] using h
  | none =>
    simp only [hn] at h ⊢
    cases hc : w.cell? t with
    | none =>
      rw [hc] at h
      cases h
    | some c =>
      rw [hc] at h
      rw [hg.cell? hc]
      exact h

theorem hashes_text (w : World) (hx : x.text? = some s) : w.Hashes 1 x (Comparison.textKey s).settled := by
  intro fuel hf
  obtain ⟨e, rfl⟩ := Nat.exists_eq_add_of_le' hf
  cases x with
  | text t copy =>
    obtain rfl := Option.some.inj hx
    exact (yields_ofKey w _).congr fun _ _ => rfl
  | _ => cases hx

theorem hashes_tuple {limit : Nat} {items : List Value} {keys : List HashKey} (hv : w.cell? v = some (.tuple items))
    (h : List.Forall₂ (w.Hashes limit) items keys) : w.Hashes (limit + 1) v (keys.foldr .pair .empty) := by
  intro fuel hf
  obtain ⟨e, rfl⟩ := Nat.exists_eq_add_of_le' hf
  have hsettled : (keys.foldr HashKey.pair .empty).settled = keys.foldr .pair .empty := by cases keys <;> rfl
  have hkey : w.Yields (Comparison.hashKey (Request.answerWithin (e + limit)) v) fun k _ => k = keys.foldr .pair .empty := by
    refine .world fun w₁ hg => ?_
    have hcell := hg.cell? hv
    cases v with
    | cell a =>
      simp only [hcell, Value.number?]
      refine (World.Yields.mapM_forall₂ (h.imp fun x key hx => ?_)).bind fun ks w₂ _ hks => ?_
      · refine ((hx.grows hg) (e + limit) (Nat.le_add_left _ _)).bind fun t w₂ _ ht => .world fun w₃ hg₃ => ?_
        rw [keyOf?_grows hg₃ ht]
        exact .pure fun _ _ => rfl
      · rw [hks]
        exact .pure fun _ _ => rfl
    | _ => cases hv
  refine World.Yields.congr (hkey.bind fun k w₁ _ hk => ?_) fun _ _ => rfl
  have hyields := yields_ofKey w₁ (keys.foldr .pair .empty)
  rw [hsettled] at hyields
  rwa [hk]

theorem yields_hash (hv : w.cell? v = some (.object k slots attributes)) (hf : w.bound? k "__hash__" = some (.function f))
    (hgiven : f.arguments? [v] [] = some [v])
    (h : w.Yields (f.run (Request.answerWithin fuel) [v]) fun t w' => Comparison.keyOf? w' t = some key) :
    w.Yields (Request.answerWithin (fuel + 3) (.hash v)) fun t w' => Comparison.keyOf? w' t = some key.settled := by
  have hkey : w.Yields (Comparison.hashKey (Request.answerWithin (fuel + 2)) v) fun t _ => t = key := by
    intro w₁ hg
    have hcell := hg.cell? hv
    have hb := (hg.bound? k (by decide)).trans hf
    obtain ⟨m, w₂, hm, hg₂, a, rfl, ha⟩ := yields_special? (Request.answerWithin (fuel + 2)) hv (by decide) hf w₁ hg
    obtain ⟨t, w₃, ht, hg₃, hkey⟩ := (yields_method ha hgiven (h.grows (hg.trans hg₂))).run hg₂.orderly hg₂.labelled
    refine ⟨key, w₃, ?_, hg₂.trans hg₃, rfl⟩
    rw [Comparison.hashKey, world_bind]
    cases v with
    | cell c =>
      simp only [hcell, hb, Value.number?]
      rw [bind_of_ok (attempt_of_ok hm)]
      dsimp only
      rw [Answering.call, bind_of_ok ht, world_bind, hkey]
      rfl
    | _ => cases hv
  refine World.Yields.congr (hkey.bind fun t w₁ _ ht => ?_) fun _ _ => rfl
  rw [ht]
  exact yields_ofKey w₁ key

theorem yields_half (hv : w.cell? v = some (.object k slots attributes)) (hf : w.bound? k "__eq__" = some (.function f))
    (hgiven : f.arguments? [v, x] [] = some [v, x]) (h : w.Yields (f.run (Request.answerWithin fuel) [v, x]) P) :
    w.Yields (Comparison.half (Request.answerWithin (fuel + 2)) v x) P := by
  intro w₁ hg
  have hcell := hg.cell? hv
  have hb := (hg.bound? k (by decide)).trans hf
  have hclass : w₁.classOf v = k := World.classOf_of_cell? hcell
  obtain ⟨m, w₂, hm, hg₂, a, rfl, ha⟩ := yields_special? (Request.answerWithin (fuel + 2)) hv (by decide) hf w₁ hg
  obtain ⟨t, w₃, ht, hg₃, hP⟩ := (yields_method ha hgiven (h.grows (hg.trans hg₂))).run hg₂.orderly hg₂.labelled
  refine ⟨t, w₃, ?_, hg₂.trans hg₃, hP⟩
  rw [Comparison.half, world_bind]
  cases v with
  | cell c =>
    simp only [hcell, Value.number?]
    rw [Comparison.byMethod, world_bind, hclass, hasOwn_of_bound? hb, if_pos rfl, bind_of_ok (attempt_of_ok hm)]
    exact ht
  | _ => cases hv

end

/-! ## Equality -/

/-- The class of the second value builds on that of the first, and is asked before it. -/
def World.Backward (w : World) (x y : Value) : Prop :=
  w.classOf x ≠ w.classOf y ∧ w.isSubclass (w.classOf y) (w.classOf x) = true

section
variable {ask : Answering} {y : Value} {b : Bool}

theorem World.Grows.backward {w' : World} (hg : w.Grows w') (hx : w.Holds x) (hy : w.Holds y) :
    w'.Backward x y ↔ w.Backward x y := by
  rw [Backward, Backward, World.isSubclass, World.isSubclass, hg.classOf hx, hg.classOf hy, hg.linearize]

/-- If the value that is asked first decides, the other one is not asked. -/
theorem yields_equal_of_first (hx : w.Holds x) (hy : w.Holds y)
    (h : ¬w.Backward x y → w.Yields (Comparison.half ask x y) fun t _ => t = .truth b)
    (hback : w.Backward x y → w.Yields (Comparison.half ask y x) fun t _ => t = .truth b) :
    w.Yields (Comparison.equal ask x y) fun t _ => t = .truth b := by
  have hdecided : ∀ {first second : Run Value}, w.Yields first (fun t _ => t = .truth b) →
      w.Yields (first >>= fun answer => if answer = .undecided then second else pure answer) fun t _ => t = .truth b := by
    intro first second hfirst
    refine hfirst.bind fun t w₁ _ ht => ?_
    rw [ht]
    exact .pure fun _ _ => rfl
  have heither : w.Yields (Comparison.either x y (Comparison.half ask x y) (Comparison.half ask y x)) fun t _ => t = .truth b := by
    refine .world fun w₁ hg => ?_
    have hcondition : (w₁.classOf x ≠ w₁.classOf y && w₁.isSubclass (w₁.classOf y) (w₁.classOf x)) = true ↔ w.Backward x y := by
      rw [← hg.backward hx hy, World.Backward, Bool.and_eq_true, decide_eq_true_eq]
    by_cases hb : w.Backward x y
    · simp only [hcondition.mpr hb]
      exact (hdecided (hback hb)).grows hg
    · simp only [Bool.eq_false_iff.mpr fun ht => hb (hcondition.mp ht)]
      exact (hdecided (h hb)).grows hg
  refine heither.bind fun t w₁ _ ht => ?_
  rw [ht]
  exact .pure fun _ _ => rfl

/-- If neither value decides, a value equals only itself. -/
theorem yields_equal_of_undecided (h : w.Yields (Comparison.half ask x y) fun t _ => t = .undecided)
    (h' : w.Yields (Comparison.half ask y x) fun t _ => t = .undecided) :
    w.Yields (Comparison.equal ask x y) fun t _ => t = .truth (Value.identical x y) := by
  have hopen : ∀ {first second : Run Value}, w.Yields first (fun t _ => t = .undecided) →
      w.Yields second (fun t _ => t = .undecided) →
      w.Yields (first >>= fun answer => if answer = .undecided then second else pure answer) fun t _ => t = .undecided := by
    intro first second hfirst hsecond
    refine hfirst.bind fun t w₁ hg ht => ?_
    rw [ht]
    exact hsecond.grows hg
  have heither : w.Yields (Comparison.either x y (Comparison.half ask x y) (Comparison.half ask y x)) fun t _ => t = .undecided := by
    refine .world fun w₁ hg => ?_
    cases hb : (w₁.classOf x ≠ w₁.classOf y && w₁.isSubclass (w₁.classOf y) (w₁.classOf x)) with
    | true =>
      simp only [hb]
      exact (hopen h' h).grows hg
    | false =>
      simp only [hb]
      exact (hopen h h').grows hg
  refine heither.bind fun t w₁ _ ht => ?_
  rw [ht]
  exact .pure fun _ _ => rfl

end

end DomainModel.Live
