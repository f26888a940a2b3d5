import DomainModel.Proofs.Live.Body
import DomainModel.Proofs.Live.Order
import DomainModel.Proofs.Live.Change

/-!
# Classes as they are made

What a class is that has been made of its bases and of what its body binds.
-/

namespace DomainModel.Live

open Run

namespace Making
variable {w w' : World} {own c : ClassRef} {name n k : String} {bases : List ClassRef} {v : Value}
  {members ms : List (String × Value)} {i : ClassInfo}

/-! ## Members -/

theorem lookup_bindNew : (bindNew n v ms).lookup k = (ms.lookup k).or (if k = n then some v else none) := by
  unfold bindNew
  split
  · next h =>
    split
    · next hk =>
      subst hk
      obtain ⟨x, hx⟩ := Option.isSome_iff_exists.mp h
      rw [hx]
      rfl
    · rw [Option.or_none]
  · rw [Loading.lookup_append, List.lookup_cons]
    split
    · next hk => rw [if_pos (beq_iff_eq.mp hk)]
    · next hk => rw [if_neg fun he => by simp [he] at hk]; rfl

theorem lookup_bindNew_of_ne (h : k ≠ n) : (bindNew n v ms).lookup k = ms.lookup k := by
  rw [lookup_bindNew, if_neg h, Option.or_none]

theorem lookup_bindNewIf_of_ne {b : Bool} (h : k ≠ n) : (if b = true then bindNew n v ms else ms).lookup k = ms.lookup k := by
  split
  · exact lookup_bindNew_of_ne h
  · rfl

theorem lookup_foldl_bindNew (f : String → Value) (ns : List String) :
    (ns.foldl (fun ms n => bindNew n (f n) ms) ms).lookup k =
      (ms.lookup k).or (if k ∈ ns then some (f k) else none) := by
  induction ns generalizing ms with
  | nil => rw [List.foldl_nil, if_neg List.not_mem_nil, Option.or_none]
  | cons n ns ih =>
    rw [List.foldl_cons, ih, lookup_bindNew, Option.or_assoc]
    congr 1
    by_cases hk : k = n
    · subst hk
      rw [if_pos rfl, if_pos List.mem_cons_self]
      rfl
    · rw [if_neg hk, Option.none_or]
      simp only [List.mem_cons, hk, false_or]

theorem lookup_filter_of_ne (h : k ≠ n) : (ms.filter (·.1 ≠ n)).lookup k = ms.lookup k := by
  induction ms with
  | nil => rfl
  | cons m ms ih =>
    rw [List.filter_cons]
    split
    · rw [List.lookup_cons, List.lookup_cons, ih]
    · next hm =>
      have hmn : m.1 = n := by simpa using hm
      rw [ih, List.lookup_cons, beq_false_of_ne (hmn ▸ h)]

/-- The names that every class binds, whatever its body says. -/
def commonNames : List String := ["__qualname__", "__dict__", "__weakref__", "__doc__", "__hash__"]

/-- Besides what its body binds, a class binds the places of its stored fields, and a few names of every class. -/
theorem lookup_complete {p : Places} (hk : k ∉ commonNames) : (complete own p ms).lookup k =
    (ms.lookup k).or (if k ∈ p.names then some (.slot own k) else none) := by
  simp only [commonNames, List.mem_cons, List.not_mem_nil, or_false, not_or] at hk
  obtain ⟨hqualname, hdict, hweakref, hdoc, hhash⟩ := hk
  unfold complete
  simp only [lookup_bindNewIf_of_ne hhash, lookup_bindNew_of_ne hdoc, lookup_bindNewIf_of_ne hweakref,
    lookup_bindNewIf_of_ne hdict, lookup_foldl_bindNew, lookup_filter_of_ne hqualname]

/-- A class that does not say when its instances are equal does not say how they are hashed. -/
theorem lookup_hash_complete {p : Places} (heq : ms.lookup "__eq__" = none) (hhash : ms.lookup "__hash__" = none)
    (hp : p.names = []) : (complete own p ms).lookup "__hash__" = none := by
  unfold complete
  simp (disch := decide) only [hp, List.foldl_nil, lookup_bindNew_of_ne, lookup_bindNewIf_of_ne, lookup_filter_of_ne, heq,
    Option.isSome_none, Bool.false_eq_true, if_false, hhash]

theorem lookup_complete_of_some {p : Places} (hk : k ≠ "__qualname__") (hv : ms.lookup k = some v) :
    (complete own p ms).lookup k = some v := by
  have hskip {ms : List (String × Value)} {n : String} {x : Value} (h : ms.lookup k = some v) :
      (bindNew n x ms).lookup k = some v := by
    rw [lookup_bindNew, h]
    rfl
  have hskipIf {ms : List (String × Value)} {n : String} {x : Value} {b : Bool} (h : ms.lookup k = some v) :
      (if b = true then bindNew n x ms else ms).lookup k = some v := by
    split
    · exact hskip h
    · exact h
  unfold complete
  refine hskipIf (hskip (hskipIf (hskipIf ?_)))
  rw [lookup_foldl_bindNew, lookup_filter_of_ne hk, hv]
  rfl

/-! ## Classes -/

/-- The names by which an abstract class is known as one. -/
def abstractNames : List String := ["__abstractmethods__", Standard.registryName]

/-- What a class is made of: the places `p` that it adds, the classes behind it, and the names that it leaves to be
supplied. -/
structure MadeOf (w : World) (own : ClassRef) (name : String) (bases : List ClassRef) (members : List (String × Value))
    (i : ClassInfo) (p : Places) (line : List ClassRef) (missing : List String) : Prop where
  name_eq : i.name = name
  qualname : ((members.lookup "__qualname__").getD (.constant name)).text? = some i.qualname
  bases_eq : i.bases = bases
  places : ∃ inherited, inherited.holdsAttributes = bases.any (fun b => (w.info b).holdsAttributes) ∧
    places name members inherited = .ok p
  line_eq : Bases.linearize? w bases = some line
  linearization : i.linearization = own :: line
  isAbstractKind : i.isAbstractKind = bases.any fun b => (w.info b).isAbstractKind
  required : i.isAbstractKind = true → required w bases line members = .ok missing
  isIncomplete : i.isIncomplete = (i.isAbstractKind && !missing.isEmpty)
  holdsAttributes : i.holdsAttributes = (bases.any (fun b => (w.info b).holdsAttributes) || p.attributes)
  member : ∀ k, (i.isAbstractKind = true → k ∉ abstractNames) → i.member? k = (complete own p members).lookup k
  abstract : i.isAbstractKind = true → i.member? "__abstractmethods__" = some (.nameSet missing) ∧
    i.member? Standard.registryName = some Standard.registry

theorem member?_bind_self (i : ClassInfo) (n : String) (v : Value) : (i.bind n v).member? n = some v :=
  lookup_bindMember_self n v i.members

theorem member?_bind_of_ne (i : ClassInfo) (h : k ≠ n) (v : Value) : (i.bind n v).member? k = i.member? k :=
  lookup_bindMember_of_ne h v i.members

theorem madeOf_of_info (h : info w own name bases members = .ok i) :
    ∃ p line missing, MadeOf w own name bases members i p line missing := by
  -- the refusals, in the order they are met
  unfold info at h
  cases hlead : Bases.lead? w bases with
  | none =>
    rw [hlead] at h
    cases h
  | some lead =>
    simp only [hlead, bind, Except.bind] at h
    split at h
    · cases h
    next p hp =>
    have hnul : '\x00' ∉ name.toList := fun hnul => by
      rw [if_pos hnul] at h
      cases h
    rw [if_neg hnul] at h
    split at h
    case h_2 => cases h
    next qualname hqualname =>
    have hcell : (members.lookup "__classcell__").isSome ≠ true := fun hcell => by
      rw [if_pos hcell] at h
      cases h
    rw [if_neg hcell] at h
    split at h
    case h_2 => cases h
    next line hline =>
    -- only an abstract class is asked what it leaves to be supplied
    by_cases habstract : (bases.any fun b => (w.info b).isAbstractKind) = true
    · rw [if_pos habstract] at h
      split at h
      · cases h
      next missing hmissing =>
      rw [if_pos habstract] at h
      cases h
      refine ⟨p, line, missing, rfl, hqualname, rfl, ⟨_, rfl, hp⟩, hline, rfl, rfl, fun _ => hmissing, ?_, rfl,
        fun k hk => ?_, fun _ => ⟨?_, ?_⟩⟩
      · change (!missing.isEmpty) = ((bases.any fun b => (w.info b).isAbstractKind) && !missing.isEmpty)
        rw [habstract, Bool.true_and]
      · have hk := hk habstract
        simp only [abstractNames, List.mem_cons, List.not_mem_nil, or_false, not_or] at hk
        exact (member?_bind_of_ne _ hk.2 _).trans (member?_bind_of_ne _ hk.1 _)
      · exact (member?_bind_of_ne _ (by decide) _).trans (member?_bind_self _ _ _)
      · exact member?_bind_self _ _ _
    · rw [if_neg habstract] at h
      simp only [pure, Except.pure] at h
      rw [if_neg habstract] at h
      cases h
      refine ⟨p, line, [], rfl, hqualname, rfl, ⟨_, rfl, hp⟩, hline, rfl, rfl, fun h => absurd h habstract, ?_, rfl,
        fun k hk => rfl, fun h => absurd h habstract⟩
      exact (Bool.and_false _).symm

end Making

/-! ## The world with one more class -/

namespace World.Orderly
variable {w w' : World} {own : ClassRef} {name : String} {bases line : List ClassRef} {members : List (String × Value)}
  {i i' : ClassInfo} {p : Making.Places} {missing : List String}

theorem not_mem_classes (h : w.Orderly) : ClassRef.made w.classes.length ∉ w.classes.map (·.1) := by
  intro hmem
  obtain ⟨e, he, hi⟩ := List.mem_map.mp hmem
  exact Nat.lt_irrefl _ (h.fresh e he _ hi)

theorem isFixed_next (h : w.Orderly) : w.isFixed (.made w.classes.length) = true := by
  rcases w.exists_entry_or_isFixed (.made w.classes.length) with ⟨e, he, hi, -⟩ | hf
  · exact absurd (hi ▸ List.mem_map_of_mem he) h.not_mem_classes
  · exact hf

theorem linearize_object (h : w.Orderly) : w.linearize .object = [.object] := by
  change w.linearize (.builtin "object") = _
  rw [(h.ground_builtin "object").linearize]
  rfl

theorem mem_linearize_self (h : w.Orderly) {c : ClassRef} (hc : w.isFixed c = false ∨ c = .object) : c ∈ w.linearize c := by
  rcases hc with hc | rfl
  · rcases w.exists_entry_or_isFixed c with ⟨e, he, rfl, hi, -⟩ | hf
    · obtain ⟨rest, hrest⟩ := h.own e he
      rw [linearize, hi, hrest]
      exact List.mem_cons_self
    · rw [hf] at hc
      cases hc
  · rw [h.linearize_object]
    exact List.mem_cons_self

theorem mem_of_mem_linearize (h : w.Orderly) {c k x : ClassRef} (hc : w.isFixed c = false ∨ c = .object)
    (hk : k ∈ w.linearize c) (hx : x ∈ w.linearize k) : x ∈ w.linearize c := by
  rcases hc with hc | rfl
  · rcases w.exists_entry_or_isFixed c with ⟨e, he, -, hi, -⟩ | hf
    · rw [linearize, hi] at hk ⊢
      exact h.closed e he k hk x hx
    · rw [hf] at hc
      cases hc
  · rw [h.linearize_object] at hk
    rwa [List.mem_singleton.mp hk] at hx

theorem knows_of_mem_linearize (h : w.Orderly) {c k : ClassRef} (hc : w.isFixed c = false ∨ c = .object)
    (hk : k ∈ w.linearize c) : w.Knows k := by
  rcases hc with hc | rfl
  · rcases w.exists_entry_or_isFixed c with ⟨e, he, -, hi, -⟩ | hf
    · rw [linearize, hi] at hk
      exact h.known e he k hk
    · rw [hf] at hc
      cases hc
  · rw [h.linearize_object] at hk
    rw [List.mem_singleton.mp hk]
    exact fun _ _ he => by cases he

theorem next_not_mem (h : w.Orderly) {c : ClassRef} (hc : w.isFixed c = false ∨ c = .object) :
    ClassRef.made w.classes.length ∉ w.linearize c :=
  fun hmem => h.knows_of_mem_linearize hc hmem h.isFixed_next _ rfl

/-- Behind the bases of a new class stand only classes that are there, each with all that stands behind it. -/
theorem line_spec (h : w.Orderly) (hline : Bases.linearize? w bases = some line)
    (hknown : ∀ b ∈ bases, w.isFixed b = false ∨ b = .object) :
    ∀ k ∈ line, k ≠ .made w.classes.length ∧ w.Knows k ∧ ∀ x ∈ w.linearize k, x ∈ line := by
  intro k hk
  obtain ⟨hsub, honly⟩ := Bases.linearize?_spec hline
  obtain ⟨b, hb, hkb⟩ : ∃ b ∈ bases, k ∈ w.linearize b := by
    rcases honly k hk with hb | hb
    · exact ⟨k, hb, h.mem_linearize_self (hknown k hb)⟩
    · exact hb
  refine ⟨?_, h.knows_of_mem_linearize (hknown b hb) hkb,
    fun x hx => (hsub b hb).subset (h.mem_of_mem_linearize (hknown b hb) hkb hx)⟩
  rintro rfl
  exact h.next_not_mem (hknown b hb) hkb

theorem keys_append (h : w.Orderly) (hw : w'.classes = w.classes ++ [(.made w.classes.length, i')]) :
    (w'.classes.map (·.1)).Nodup := by
  rw [hw, List.map_append, List.nodup_append]
  refine ⟨h.keys, by simp, fun c hc c' hc' he => ?_⟩
  rw [he, List.mem_singleton.mp hc'] at hc
  exact h.not_mem_classes hc

theorem hook_eq_none (hm : Making.MadeOf w own name bases members i p line missing) (hkeeps : i.Keeps i')
    (hfree : ∀ n ∈ "__init_subclass__" :: hookNames, (Making.complete own p members).lookup n = none) :
    ∀ n ∈ "__init_subclass__" :: hookNames, i'.member? n = none := by
  intro n hn
  have hnames : n ∉ noteNames ∧ n ∉ Making.abstractNames := by
    revert hn
    revert n
    decide
  rw [hkeeps.member? n hnames.1, hm.member n fun _ => hnames.2, hfree n hn]

/-- A world with a class more that has been made of classes of the world is orderly again. -/
theorem append (h : w.Orderly) (hm : Making.MadeOf w own name bases members i p line missing) (hkeeps : i.Keeps i')
    (hown : own = .made w.classes.length) (hbases : bases ≠ []) (hknown : ∀ b ∈ bases, w.isFixed b = false ∨ b = .object)
    (hfree : ∀ n ∈ "__init_subclass__" :: hookNames, (Making.complete own p members).lookup n = none)
    (hw : w'.classes = w.classes ++ [(own, i')]) (hregistered : w'.registered = w.registered) : w'.Orderly := by
  subst hown
  have hagrees : ∀ {c}, c ≠ .made w.classes.length → w.Agrees w' c := fun hc => agrees_of_append hw hc
  have hstays := hkeeps.stays
  have hmem : ∀ e ∈ w'.classes, e ∈ w.classes ∨ e = (.made w.classes.length, i') := by
    intro e he
    rw [hw] at he
    exact (List.mem_append.mp he).imp id List.mem_singleton.mp
  have hnot : ∀ e ∈ w.classes, ∀ k ∈ e.2.linearization, k ≠ .made w.classes.length := by
    rintro e he k hk rfl
    exact h.known e he _ hk h.isFixed_next _ rfl
  have hkeys := h.keys_append hw
  have hlookup : w'.classes.lookup (.made w.classes.length) = some i' :=
    lookup_of_mem hkeys (e := (.made w.classes.length, i')) (by rw [hw]; simp)
  have hlinear : i'.linearization = .made w.classes.length :: line := hstays.linearization.trans hm.linearization
  have hself : w'.linearize (.made w.classes.length) = .made w.classes.length :: line := by
    rw [linearize, info_of_lookup hlookup, hlinear]
  have hsub := (Bases.linearize?_spec hm.line_eq).1
  have hline := h.line_spec hm.line_eq hknown
  have hhook := hook_eq_none hm hkeeps hfree
  -- the classes that were there are as they were, so that each property is left for the new one
  refine {
    keys := hkeys, own := ?own, root := ?root, closed := ?closed, bases := ?bases, registries := ?registries,
    hooks := ?hooks, quiet := ?quiet, known := ?known, fresh := ?fresh,
    ground := fun c hc => (h.ground c hc).trans (hagrees (hc _)),
    registered := hregistered.trans h.registered }
  case own =>
    intro e he
    rcases hmem e he with he | rfl
    · exact h.own e he
    · exact ⟨line, hlinear⟩
  case root =>
    intro e he
    rcases hmem e he with he | rfl
    · exact h.root e he
    · obtain ⟨b, hb⟩ := List.exists_mem_of_ne_nil bases hbases
      rw [hlinear]
      exact List.mem_cons_of_mem _ ((hsub b hb).subset (h.object_mem_linearize b))
  case closed =>
    intro e he k hk x hx
    rcases hmem e he with he | rfl
    · rw [(hagrees (hnot e he k hk)).linearize] at hx
      exact h.closed e he k hk x hx
    · rw [hlinear] at hk ⊢
      rcases List.mem_cons.mp hk with rfl | hk
      · rwa [hself] at hx
      · obtain ⟨hne, -, hclosed⟩ := hline k hk
        rw [(hagrees hne).linearize] at hx
        exact List.mem_cons_of_mem _ (hclosed x hx)
  case bases =>
    intro e he b hb
    rcases hmem e he with he | rfl
    · have hbase := h.bases e he b hb
      rw [(hagrees (hnot e he b hbase.1)).linearize]
      exact hbase
    · rw [hstays.bases, hm.bases_eq] at hb
      have hin := (hsub b hb).subset (h.mem_linearize_self (hknown b hb))
      rw [hlinear, (hagrees (hline b hin).1).linearize]
      exact ⟨List.mem_cons_of_mem _ hin, Nat.lt_succ_of_le (hsub b hb).length_le⟩
  case registries =>
    intro e he habstract
    rcases hmem e he with he | rfl
    · exact h.registries e he habstract
    · rw [hkeeps.member? _ (by decide)]
      exact (hm.abstract (hstays.isAbstractKind ▸ habstract)).2
  case hooks =>
    intro e he n hn
    rcases hmem e he with he | rfl
    · exact h.hooks e he n hn
    · exact hhook n (List.mem_cons_of_mem _ hn)
  case quiet =>
    intro e he hgeneric
    rcases hmem e he with he | rfl
    · exact h.quiet e he hgeneric
    · exact hhook _ List.mem_cons_self
  case known =>
    intro e he k hk hfixed
    rcases hmem e he with he | rfl
    · rw [(hagrees (hnot e he k hk)).isFixed] at hfixed
      exact h.known e he k hk hfixed
    · rw [hlinear] at hk
      rcases List.mem_cons.mp hk with rfl | hk
      · rw [isFixed, hlookup] at hfixed
        cases hfixed
      · obtain ⟨hne, hknows, -⟩ := hline k hk
        rw [(hagrees hne).isFixed] at hfixed
        exact hknows hfixed
  case fresh =>
    intro e he index hi
    rw [hw, List.length_append]
    rcases hmem e he with he | rfl
    · exact Nat.lt_succ_of_lt (h.fresh e he index hi)
    · cases hi
      exact Nat.lt_succ_self _

end World.Orderly

end DomainModel.Live
