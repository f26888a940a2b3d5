import DomainModel.Proofs.Live.Identity

/-!
# Coherence

Equality of instances of entities and of sums is an equivalence that hashes respect, if it is one of the identifiers and payloads in
them, however deep they are nested.
-/

namespace DomainModel.Live

open Run Loading Request

section
variable {ds : List Declaration} {m : Module} {w : World} {d d' : Declaration} {v v' : Variant} {x y i j q r : Value}

/-! ## Sets of instances -/

/-- Equality on a set of values is decided, is an equivalence, and is respected by hashes. -/
structure World.Coherent (w : World) (limit : Nat) (S : Value → Prop) : Prop where
  decided : ∀ x y, S x → S y → ∃ b, w.Equates limit x y b
  refl : ∀ x, S x → w.Equates limit x x true
  symm : ∀ x y, S x → S y → w.Equates limit x y true → w.Equates limit y x true
  trans : ∀ x y z, S x → S y → S z → w.Equates limit x y true → w.Equates limit y z true → w.Equates limit x z true
  hashes : ∀ x y, S x → S y → w.Equates limit x y true → ∃ key, w.Hashes limit x key ∧ w.Hashes limit y key

/-- A value is an instance of an entity or of a sum, with an identifier or a payload of a set. -/
def World.Over (w : World) (ds : List Declaration) (S : Value → Prop) (x : Value) : Prop :=
  (∃ d i, w.Identified ds d x i ∧ S i) ∨ ∃ d v q, w.Wrapped ds d v x q ∧ S q

/-- A value of a set, or an instance over such values that is nested to a depth at most. -/
def World.Nested (w : World) (ds : List Declaration) (S : Value → Prop) : Nat → Value → Prop
  | 0 => S
  | n + 1 => fun x => S x ∨ w.Over ds (w.Nested ds S n) x

namespace World.Coherent

variable {S T : Value → Prop} {limit limit' : Nat} {b : Bool}

theorem mono (h : w.Coherent limit S) (ho : w.Orderly) (hl : w.Labelled) (hle : limit ≤ limit') : w.Coherent limit' S := by
  have hback : ∀ x y, S x → S y → w.Equates limit' x y true → w.Equates limit x y true := by
    intro x y hx hy he
    obtain ⟨b, hb⟩ := h.decided x y hx hy
    rwa [he.unique ho hl hb]
  refine ⟨fun x y hx hy => (h.decided x y hx hy).imp fun b hb => hb.mono hle, fun x hx => (h.refl x hx).mono hle,
    fun x y hx hy he => (h.symm x y hx hy (hback x y hx hy he)).mono hle, fun x y z hx hy hz hxy hyz => ?_, fun x y hx hy he => ?_⟩
  · exact (h.trans x y z hx hy hz (hback x y hx hy hxy) (hback y z hy hz hyz)).mono hle
  · obtain ⟨key, hkx, hky⟩ := h.hashes x y hx hy (hback x y hx hy he)
    exact ⟨key, hkx.mono hle, hky.mono hle⟩

/-- In a coherent set, it does not matter which of two values is asked. -/
theorem swap (h : w.Coherent limit S) (ho : w.Orderly) (hl : w.Labelled) (hx : S x) (hy : S y) (he : w.Equates limit x y b) :
    w.Equates limit y x b := by
  obtain ⟨b', hb'⟩ := h.decided y x hy hx
  cases b with
  | true => exact h.symm x y hx hy he
  | false =>
    cases b' with
    | false => exact hb'
    | true => cases he.unique ho hl (h.symm y x hy hx hb')

/-- Two sets are coherent together if no value of the first one equals one that is only in the second one. -/
theorem union (hS : w.Coherent limit S) (hT : w.Coherent limit T) (ho : w.Orderly) (hl : w.Labelled)
    (hapart : ∀ x y, S x → T y → ¬S y → w.Equates limit x y false ∧ w.Equates limit y x false) :
    w.Coherent limit fun x => S x ∨ T x := by
  have hsides : ∀ x y, S x ∨ T x → S y ∨ T y → w.Equates limit x y true → (S x ∧ S y) ∨ (¬S x ∧ ¬S y ∧ T x ∧ T y) := by
    intro x y hx hy he
    by_cases hSx : S x <;> by_cases hSy : S y
    · exact .inl ⟨hSx, hSy⟩
    · cases he.unique ho hl (hapart x y hSx (hy.resolve_left hSy) hSy).1
    · cases he.unique ho hl (hapart y x hSy (hx.resolve_left hSx) hSx).2
    · exact .inr ⟨hSx, hSy, hx.resolve_left hSx, hy.resolve_left hSy⟩
  refine ⟨fun x y hx hy => ?_, fun x hx => hx.elim (hS.refl x) (hT.refl x), fun x y hx hy he => ?_,
    fun x y z hx hy hz hxy hyz => ?_, fun x y hx hy he => ?_⟩
  · by_cases hSx : S x <;> by_cases hSy : S y
    · exact hS.decided x y hSx hSy
    · exact ⟨_, (hapart x y hSx (hy.resolve_left hSy) hSy).1⟩
    · exact ⟨_, (hapart y x hSy (hx.resolve_left hSx) hSx).2⟩
    · exact hT.decided x y (hx.resolve_left hSx) (hy.resolve_left hSy)
  · rcases hsides x y hx hy he with ⟨hx, hy⟩ | ⟨-, -, hx, hy⟩
    · exact hS.symm x y hx hy he
    · exact hT.symm x y hx hy he
  · rcases hsides x y hx hy hxy with ⟨hx, hy⟩ | ⟨-, hnot, hx, hy⟩
    · rcases hsides y z (.inl hy) hz hyz with ⟨-, hz⟩ | ⟨hnot, -⟩
      · exact hS.trans x y z hx hy hz hxy hyz
      · exact absurd hy hnot
    · rcases hsides y z (.inr hy) hz hyz with ⟨hy, -⟩ | ⟨-, -, -, hz⟩
      · exact absurd hy hnot
      · exact hT.trans x y z hx hy hz hxy hyz
  · rcases hsides x y hx hy he with ⟨hx, hy⟩ | ⟨-, -, hx, hy⟩
    · exact hS.hashes x y hx hy he
    · exact hT.hashes x y hx hy he

section
variable (h : w.Coherent limit S) (hs : w.Serves ds m)
include h hs

theorem identified_of_equates (hx : w.Identified ds d x i) (hi : S i) (hy : w.Identified ds d' y j) (hj : S j)
    (he : w.Equates (limit + w.depth + 7) x y true) : d = d' ∧ w.Equates limit i j true := by
  by_cases hd : d = d'
  · subst hd
    obtain ⟨b, hb⟩ := h.decided i j hi hj
    have hequates := hs.equates_identified hx hy (fun _ => hb) fun _ => h.swap hs.orderly hs.labelled hi hj hb
    obtain rfl := he.unique hs.orderly hs.labelled hequates
    exact ⟨rfl, hb⟩
  · cases he.unique hs.orderly hs.labelled (hs.equates_identified_of_ne hx hy hd)

theorem wrapped_of_equates (hx : w.Wrapped ds d v x q) (hq : S q) (hy : w.Wrapped ds d' v' y r) (hr : S r)
    (he : w.Equates (limit + w.depth + 7) x y true) : (d = d' ∧ v = v') ∧ w.Equates limit q r true := by
  by_cases hd : d = d' ∧ v = v'
  · obtain ⟨rfl, rfl⟩ := hd
    obtain ⟨b, hb⟩ := h.decided q r hq hr
    obtain rfl := he.unique hs.orderly hs.labelled (hs.equates_wrapped hx hy hb)
    exact ⟨⟨rfl, rfl⟩, hb⟩
  · cases he.unique hs.orderly hs.labelled (hs.equates_wrapped_of_ne hx hy hd)

theorem identified_of_equates_over (hx : w.Identified ds d x i) (hi : S i) (hy : w.Over ds S y)
    (he : w.Equates (limit + w.depth + 7) x y true) : ∃ j, w.Identified ds d y j ∧ S j ∧ w.Equates limit i j true := by
  rcases hy with ⟨d', j, hy, hj⟩ | ⟨d', v, q, hy, hq⟩
  · obtain ⟨rfl, hij⟩ := h.identified_of_equates hs hx hi hy hj he
    exact ⟨j, hy, hj, hij⟩
  · cases he.unique hs.orderly hs.labelled (hs.equates_apart hx hy).1

theorem wrapped_of_equates_over (hx : w.Wrapped ds d v x q) (hq : S q) (hy : w.Over ds S y)
    (he : w.Equates (limit + w.depth + 7) x y true) : ∃ r, w.Wrapped ds d v y r ∧ S r ∧ w.Equates limit q r true := by
  rcases hy with ⟨d', j, hy, hj⟩ | ⟨d', v', r, hy, hr⟩
  · cases he.unique hs.orderly hs.labelled (hs.equates_apart hy hx).2
  · obtain ⟨⟨rfl, rfl⟩, hqr⟩ := h.wrapped_of_equates hs hx hq hy hr he
    exact ⟨r, hy, hr, hqr⟩

theorem decided_instances (hx : w.Over ds S x) (hy : w.Over ds S y) : ∃ b, w.Equates (limit + w.depth + 7) x y b := by
  rcases hx with ⟨d, i, hx, hi⟩ | ⟨d, v, q, hx, hq⟩ <;> rcases hy with ⟨d', j, hy, hj⟩ | ⟨d', v', r, hy, hr⟩
  · by_cases hd : d = d'
    · subst hd
      obtain ⟨b, hb⟩ := h.decided i j hi hj
      exact ⟨b, hs.equates_identified hx hy (fun _ => hb) fun _ => h.swap hs.orderly hs.labelled hi hj hb⟩
    · exact ⟨_, (hs.equates_identified_of_ne hx hy hd).mono (by omega)⟩
  · exact ⟨_, (hs.equates_apart hx hy).1.mono (by omega)⟩
  · exact ⟨_, (hs.equates_apart hy hx).2.mono (by omega)⟩
  · by_cases hd : d = d' ∧ v = v'
    · obtain ⟨rfl, rfl⟩ := hd
      obtain ⟨b, hb⟩ := h.decided q r hq hr
      exact ⟨b, (hs.equates_wrapped hx hy hb).mono (by omega)⟩
    · exact ⟨_, (hs.equates_wrapped_of_ne hx hy hd).mono (by omega)⟩

/-- Instances with identifiers and payloads of a coherent set are coherent. -/
theorem instances : w.Coherent (limit + w.depth + 7) (w.Over ds S) := by
  constructor
  case decided => exact fun x y hx hy => h.decided_instances hs hx hy
  case refl =>
    rintro x (⟨d, i, hx, hi⟩ | ⟨d, v, q, hx, hq⟩)
    · exact hs.equates_identified hx hx (fun _ => h.refl i hi) fun _ => h.refl i hi
    · exact (hs.equates_wrapped hx hx (h.refl q hq)).mono (by omega)
  case symm =>
    rintro x y (⟨d, i, hx, hi⟩ | ⟨d, v, q, hx, hq⟩) hy he
    · obtain ⟨j, hy, hj, hij⟩ := h.identified_of_equates_over hs hx hi hy he
      exact hs.equates_identified hy hx (fun _ => h.symm i j hi hj hij) fun _ => hij
    · obtain ⟨r, hy, hr, hqr⟩ := h.wrapped_of_equates_over hs hx hq hy he
      exact (hs.equates_wrapped hy hx (h.symm q r hq hr hqr)).mono (by omega)
  case trans =>
    rintro x y z (⟨d, i, hx, hi⟩ | ⟨d, v, q, hx, hq⟩) hy hz hxy hyz
    · obtain ⟨j, hy, hj, hij⟩ := h.identified_of_equates_over hs hx hi hy hxy
      obtain ⟨k, hz, hk, hjk⟩ := h.identified_of_equates_over hs hy hj hz hyz
      have hik := h.trans i j k hi hj hk hij hjk
      exact hs.equates_identified hx hz (fun _ => hik) fun _ => h.symm i k hi hk hik
    · obtain ⟨r, hy, hr, hqr⟩ := h.wrapped_of_equates_over hs hx hq hy hxy
      obtain ⟨t, hz, ht, hrt⟩ := h.wrapped_of_equates_over hs hy hr hz hyz
      exact (hs.equates_wrapped hx hz (h.trans q r t hq hr ht hqr hrt)).mono (by omega)
  case hashes =>
    rintro x y (⟨d, i, hx, hi⟩ | ⟨d, v, q, hx, hq⟩) hy he
    · obtain ⟨j, hy, hj, hij⟩ := h.identified_of_equates_over hs hx hi hy he
      obtain ⟨key, hki, hkj⟩ := h.hashes i j hi hj hij
      exact ⟨_, (hs.hashes_identified hx hki).mono (by omega), (hs.hashes_identified hy hkj).mono (by omega)⟩
    · obtain ⟨r, hy, hr, hqr⟩ := h.wrapped_of_equates_over hs hx hq hy he
      obtain ⟨key, hkq, hkr⟩ := h.hashes q r hq hr hqr
      exact ⟨_, (hs.hashes_wrapped hx hkq).mono (by omega), (hs.hashes_wrapped hy hkr).mono (by omega)⟩

/-- So are instances that are nested, if the values of the set equal no instances but those of the set. -/
theorem nested (n : Nat) (hapart : ∀ k < n, ∀ x y, S x → w.Over ds (w.Nested ds S k) y → ¬S y →
    w.Equates limit x y false ∧ w.Equates limit y x false) :
    w.Coherent (limit + n * (w.depth + 7)) (w.Nested ds S n) := by
  induction n with
  | zero => exact h.mono hs.orderly hs.labelled (by omega)
  | succ n ih =>
    have hover := (ih fun k hk => hapart k (Nat.lt_succ_of_lt hk)).instances hs
    rw [show limit + n * (w.depth + 7) + w.depth + 7 = limit + (n + 1) * (w.depth + 7) by rw [Nat.succ_mul]; omega] at hover
    have hle : limit ≤ limit + (n + 1) * (w.depth + 7) := Nat.le_add_right _ _
    refine (h.mono hs.orderly hs.labelled hle).union hover hs.orderly hs.labelled fun x y hx hy hnot => ?_
    obtain ⟨hxy, hyx⟩ := hapart n (Nat.lt_succ_self n) x y hx hy hnot
    exact ⟨hxy.mono hle, hyx.mono hle⟩

end

end World.Coherent

end

/-! ## A file with an entity -/

namespace Accounts

def text : String := "@entity record Account \x7b id: uuid version: int8 \x7d"

def account : Declaration :=
  { kind := .record, name := "Account", directives := [⟨"entity", [], some ⟨1, 2, none⟩⟩], location := some ⟨1, 16, none⟩
    fields := [⟨"id", ⟨"uuid", []⟩, .hidden, [], some ⟨1, 26, none⟩⟩, ⟨"version", ⟨"int8", []⟩, .hidden, [], some ⟨1, 35, none⟩⟩] }

def plan : Module :=
  { contracts := defaultContracts, synonyms := []
    classes :=
      [{ name := "Account", bases := [.entity], docs := [], layout := .record account.fields [], errors := [], events := []
         supplied := [.accessor "id" "UUID" (.stored "id") [], .accessor "version" "int" (.count "version") [],
           .equality "Account" "id", .hash "id"] }] }

def made (c : ClassRef) (version : String) : Cell :=
  .object c [((c, slot "id"), .constant "a"), ((c, slot "version"), .constant version)] none

end Accounts

/-! ## Equality -/

variable {text : String} {file : Option String} {ds : List Declaration} {contracts : String} {m : Module} {w₀ : World}

end DomainModel.Live
