import DomainModel.Proofs.Live.Running

/-!
# Bodies of classes

What the body of a class binds, as a list of names and values: run where the names that decorate its functions have
their built-in meaning, a body adds to what it starts with exactly these bindings.
-/

namespace DomainModel.Live

open Run

namespace Loading

/-! ## What members bind -/

def readingBody : Reading → Body
  | .stored field => .stored field
  | .count field => .count field

def memberBindings (owner : String) : Member → List (String × Value)
  | .accessor name annotation reading docs =>
    [(name, .property (function owner name (readingBody reading) [] annotation (memberDoc docs)) none)]
  | .property name annotation docs =>
    [(name, .property (function owner name (.stored name) [] annotation (memberDoc docs))
      (some (function owner name (.store name) [("value", annotation)] "None")))]
  | .equality cls field =>
    [("__eq__", .function (function owner "__eq__" (.fieldEquality cls field) [("other", "object")] "bool"))]
  | .hash field => [("__hash__", .function (function owner "__hash__" (.fieldHash field) [] "int"))]
  | .display field => [("__str__", .function (function owner "__str__" (.fieldText field) [] "str"))]
  | .clone cls field =>
    [("clone", .function (function owner "clone" (.clone field) [] cls)),
     ("__copy__", .function (function owner "clone" (.clone field) [] cls))]
  | .tryFrom cls field annotation error =>
    [("try_from", .classMethod (function owner "try_from" (.tryFrom field error) [(field, annotation)] cls
      (some (tryFromDoc cls field error))))]
  | .dispatch cls variants name annotation =>
    [(name, .property (function owner name (.dispatch cls variants name) [] annotation) none)]

def docBindings (docs : List String) : List (String × Value) :=
  (classDoc docs).toList.map fun d => ("__doc__", .constant d)

/-- What the layout of a class binds; `noted` holds the annotations of a sum. -/
def layoutBindings (name : String) (noted : Value) : Layout → List (String × Value)
  | .record fields assignable =>
    let names := fields.map (·.name)
    let annotations := fields.map fun f => (f.name, f.type.annotation)
    [("__slots__", .names (names.map slot)),
     ("__init__", .function (function name "__init__" (.recordInit names) annotations "None")),
     ("__repr__", .function (function name "__repr__" (.recordRepr name names) [] "str"))]
      ++ (assignable.map ClassPlan.fieldProperty).flatMap (memberBindings name)
  | .sum variants payload =>
    let annotation := ClassPlan.payloadUnion variants
    [(annotationsName, noted), ("__slots__", .names [slot "payload"]), ("__match_args__", .names ["payload"]),
     ("variants", .names (variants.map (·.name))),
     ("__init__", .function (function name "__init__" (.sumInit name payload) [("payload", annotation)] "None")),
     ("payload", .property (function name "payload" (.stored "payload") [] annotation) none),
     ("__repr__", .function (function name "__repr__" .sumRepr [] "str")),
     ("__eq__", .function (function name "__eq__" .payloadEquality [("other", "object")] "bool")),
     ("__hash__", .function (function name "__hash__" .payloadHash [] "int"))]

def variantBindings (own : ClassRef) (name : String) (v : Variant) : List (String × Value) :=
  docBindings v.docs ++ [("__slots__", .names []), ("__init__", .function
    (function name "__init__" (.variantInit own) [("payload", v.payload.annotation)] "None"))]

/-! ## Running a body -/

section
variable {ask : Answering} {owner n : String} {v v' : Value} {ms bs bs' : List (String × Value)} {items items' : List Item}
variable {ts : List String} {w w' w'' : World}

theorem bindMember_of_none (h : ms.lookup n = none) : bindMember n v ms = ms ++ [(n, v)] := by
  induction ms with
  | nil => rfl
  | cons m ms ih =>
    rw [List.lookup_cons] at h
    split at h
    · cases h
    · next hn =>
      rw [bindMember, if_neg fun he => by simp [he] at hn, ih h]
      rfl

theorem bindMember_append_self (h : ms.lookup n = none) : bindMember n v' (ms ++ [(n, v)]) = ms ++ [(n, v')] := by
  induction ms with
  | nil => simp [bindMember]
  | cons m ms ih =>
    rw [List.lookup_cons] at h
    split at h
    · cases h
    · next hn =>
      rw [List.cons_append, bindMember, if_neg fun he => by simp [he] at hn, ih h]
      rfl

theorem lookup_append : (ms ++ bs).lookup n = (ms.lookup n).or (bs.lookup n) := by
  induction ms with
  | nil => rfl
  | cons m ms ih =>
    rw [List.cons_append, List.lookup_cons, List.lookup_cons]
    split
    · rfl
    · exact ih

theorem lookup_eq_none_of_not_mem (h : n ∉ ms.map (·.1)) : ms.lookup n = none := by
  induction ms with
  | nil => rfl
  | cons m ms ih =>
    rw [List.map_cons, List.mem_cons, not_or] at h
    rw [List.lookup_cons, beq_false_of_ne h.1]
    exact ih h.2

/-- The names of some tools have their built-in meaning in the body of a class. -/
def HasTools (owner : String) (ts : List String) (w : World) : Prop :=
  ∀ t ∈ ts, Run.globalIn owner t w = (.ok (.cls (.builtin t)), w)

/-- Whatever the body of a class has bound before, some parts of it add these bindings, and change the world so. -/
def Adds (ask : Answering) (ts : List String) (items : List Item) (bs : List (String × Value)) (w w' : World) : Prop :=
  ∀ ms : List (String × Value), (∀ n ∈ bs.map (·.1), ms.lookup n = none) → (∀ t ∈ ts, ms.lookup t = none) →
    items.foldlM (runItem ask) ms w = (.ok (ms ++ bs), w')

theorem Adds.nil (w : World) : Adds ask ts [] [] w w := by
  intro ms _ _
  rw [List.append_nil]
  rfl

theorem Adds.append (h : Adds ask ts items bs w w') (h' : Adds ask ts items' bs' w' w'')
    (hn : ((bs ++ bs').map (·.1)).Nodup) (ht : ∀ t ∈ ts, t ∉ bs.map (·.1)) :
    Adds ask ts (items ++ items') (bs ++ bs') w w'' := by
  intro ms hms htools
  rw [List.map_append] at hms hn
  rw [List.foldlM_append, bind_of_ok (h ms (fun n hn => hms n (List.mem_append_left _ hn)) htools), ← List.append_assoc]
  refine h' (ms ++ bs) (fun n hn' => ?_) fun t ht' => ?_
  · rw [lookup_append, hms n (List.mem_append_right _ hn'), Option.none_or]
    exact lookup_eq_none_of_not_mem fun hmem => (List.nodup_append.mp hn).2.2 n hmem n hn' rfl
  · rw [lookup_append, htools t ht', Option.none_or]
    exact lookup_eq_none_of_not_mem (ht t ht')

theorem Adds.single {item : Item} (h : ∀ ms : List (String × Value), (∀ t ∈ ts, ms.lookup t = none) →
    runItem ask ms item w = (.ok (bindMember n v ms), w')) : Adds ask ts [item] [(n, v)] w w' := by
  intro ms hms htools
  rw [List.foldlM_cons, bind_of_ok (h ms htools), bindMember_of_none (hms n List.mem_cons_self)]
  rfl

theorem Adds.cons {item : Item} (h : Adds ask ts [item] [(n, v)] w w') (h' : Adds ask ts items bs w' w'')
    (hn : (((n, v) :: bs).map (·.1)).Nodup) (ht : ∀ t ∈ ts, t ∉ ((n, v) :: bs).map (·.1)) :
    Adds ask ts (item :: items) ((n, v) :: bs) w w'' := by
  refine Adds.append h h' hn fun t ht' hmem => ht t ht' ?_
  rw [List.mem_singleton.mp hmem]
  exact List.mem_cons_self

theorem tools_of_cons (h : ∀ t ∈ ts, t ∉ ((n, v) :: bs).map (·.1)) : ∀ t ∈ ts, t ∉ bs.map (·.1) :=
  fun t ht hmem => h t ht (List.mem_cons_of_mem _ hmem)

theorem spell_function (owner n : String) (h : PrivateName.isPrivate n = false) {body : Body}
    {parameters : List (String × String)} {result : String} {doc : Option String} :
    (function owner n body parameters result doc).spell (function owner n body parameters result doc).name = n :=
  PrivateName.spell_of_not_isPrivate h

theorem adds_constant (n : String) (v : Value) (w : World) : Adds ask ts [.constant n v] [(n, v)] w w :=
  Adds.single fun _ _ => rfl

theorem nameIn_of_lookup (h : ms.lookup n = some v) : nameIn owner ms n w = (.ok v, w) := by
  rw [nameIn, h]
  rfl

theorem nameIn_tool (hw : HasTools owner ts w) {t : String} (ht : t ∈ ts) (hms : ms.lookup t = none) :
    nameIn owner ms t w = (.ok (.cls (.builtin t)), w) := by
  rw [nameIn, hms]
  exact hw t ht

theorem adds_method {f : Function} (hn : f.spell f.name = n) (w : World) : Adds ask ts [.method f] [(n, .function f)] w w :=
  Adds.single fun ms _ => by rw [runItem, hn]; rfl

theorem adds_accessor {f : Function} (hn : f.spell f.name = n) (ht : "property" ∈ ts) (hw : HasTools f.owner ts w) :
    Adds ask ts [.accessor f] [(n, .property f none)] w w := by
  refine Adds.single fun ms htools => ?_
  rw [runItem, bind_of_ok (nameIn_tool hw ht (htools _ ht)), if_pos rfl, pure_bind_apply, hn]
  rfl

theorem adds_classMethod {f : Function} (hn : f.spell f.name = n) (ht : "classmethod" ∈ ts) (hw : HasTools f.owner ts w) :
    Adds ask ts [.classMethod f] [(n, .classMethod f)] w w := by
  refine Adds.single fun ms htools => ?_
  rw [runItem, bind_of_ok (nameIn_tool hw ht (htools _ ht)), if_pos rfl, pure_bind_apply, hn]
  rfl

/-- A setter makes the accessor before it assignable. -/
theorem adds_setter {f g : Function} (hf : f.spell f.name = n) (hg : g.spell g.name = n) (ht : "property" ∈ ts)
    (hw : HasTools f.owner ts w) :
    Adds ask ts [.accessor f, .setter g] [(n, .property f (some g))] w w := by
  intro ms hms htools
  have hnone := hms n List.mem_cons_self
  have hadds : Adds ask ts [.accessor f] [(n, .property f none)] w w := adds_accessor hf ht hw
  have haccessor := hadds ms (by simpa using hnone) htools
  have hlookup : (ms ++ [(n, Value.property f none)]).lookup n = some (.property f none) := by
    rw [lookup_append, hnone, Option.none_or]
    exact List.lookup_cons_self
  have hsetter : runItem ask (ms ++ [(n, Value.property f none)]) (.setter g) w =
      (.ok (ms ++ [(n, .property f (some g))]), w) := by
    rw [runItem, hg, bind_of_ok (nameIn_of_lookup hlookup)]
    dsimp only
    rw [pure_bind_apply, bindMember_append_self hnone]
    rfl
  rw [show [Item.accessor f, .setter g] = [.accessor f] ++ [.setter g] from rfl, List.foldlM_append,
    bind_of_ok haccessor, List.foldlM_cons, bind_of_ok hsetter]
  rfl

/-- A method is bound once more, under another name. -/
theorem adds_again {f : Function} {copy : String} (hf : f.spell f.name = n) (hn : copy ≠ n) (w : World) :
    Adds ask ts [.method f, .same owner copy n] [(n, .function f), (copy, .function f)] w w := by
  intro ms hms htools
  have hnone := hms n List.mem_cons_self
  have hmethod : Adds ask ts [.method f] [(n, .function f)] w w := adds_method hf w
  have hbound := hmethod ms (by simpa using hnone) htools
  have hlookup : (ms ++ [(n, Value.function f)]).lookup n = some (.function f) := by
    rw [lookup_append, hnone, Option.none_or]
    exact List.lookup_cons_self
  have hcopy : (ms ++ [(n, Value.function f)]).lookup copy = none := by
    rw [lookup_append, hms copy (by simp), List.lookup_cons, beq_eq_false_iff_ne.mpr hn]
    rfl
  have hsame : runItem ask (ms ++ [(n, Value.function f)]) (.same owner copy n) w =
      (.ok (ms ++ [(n, .function f), (copy, .function f)]), w) := by
    rw [runItem, bind_of_ok (nameIn_of_lookup hlookup), bindMember_of_none hcopy, List.append_assoc]
    rfl
  rw [show [Item.method f, .same owner copy n] = [.method f] ++ [.same owner copy n] from rfl, List.foldlM_append,
    bind_of_ok hbound, List.foldlM_cons]
  exact bind_of_ok hsame

/-! ## Running members -/

def memberTools : Member → List String
  | .accessor _ _ _ _ | .property _ _ _ | .dispatch _ _ _ _ => ["property"]
  | .tryFrom _ _ _ _ => ["classmethod"]
  | .equality _ _ | .hash _ | .display _ | .clone _ _ => []

theorem adds_member {m : Member} (hname : PrivateName.spell owner m.name = m.name) (ht : ∀ t ∈ memberTools m, t ∈ ts)
    (hw : HasTools owner ts w) : Adds ask ts (ofMember owner m) (memberBindings owner m) w w := by
  cases m with
  | accessor name annotation reading docs =>
    have hf (body : Body) : Adds ask ts [.accessor (function owner name body [] annotation (memberDoc docs))]
        [(name, .property (function owner name body [] annotation (memberDoc docs)) none)] w w :=
      adds_accessor hname (ht _ List.mem_cons_self) hw
    cases reading with
    | stored field => exact hf (.stored field)
    | count field => exact hf (.count field)
  | property name annotation docs =>
    exact adds_setter (f := function owner name (.stored name) [] annotation (memberDoc docs))
      (g := function owner name (.store name) [("value", annotation)] "None") hname hname (ht _ List.mem_cons_self) hw
  | equality cls field =>
    exact adds_method (f := function owner "__eq__" (.fieldEquality cls field) [("other", "object")] "bool") hname w
  | hash field => exact adds_method (f := function owner "__hash__" (.fieldHash field) [] "int") hname w
  | display field => exact adds_method (f := function owner "__str__" (.fieldText field) [] "str") hname w
  | tryFrom cls field annotation error =>
    exact adds_classMethod (f := function owner "try_from" (.tryFrom field error) [(field, annotation)] cls
      (some (tryFromDoc cls field error))) hname (ht _ List.mem_cons_self) hw
  | dispatch cls variants name annotation =>
    exact adds_accessor (f := function owner name (.dispatch cls variants name) [] annotation) hname
      (ht _ List.mem_cons_self) hw
  | clone cls field => exact adds_again (n := "clone") (f := function owner "clone" (.clone field) [] cls) hname (by decide) w

theorem adds_members {members : List Member} (hname : ∀ m ∈ members, PrivateName.spell owner m.name = m.name)
    (ht : ∀ m ∈ members, ∀ t ∈ memberTools m, t ∈ ts) (hw : HasTools owner ts w)
    (hn : ((members.flatMap (memberBindings owner)).map (·.1)).Nodup)
    (hfree : ∀ t ∈ ts, t ∉ (members.flatMap (memberBindings owner)).map (·.1)) :
    Adds ask ts (members.flatMap (ofMember owner)) (members.flatMap (memberBindings owner)) w w := by
  induction members with
  | nil => exact Adds.nil w
  | cons m members ih =>
    rw [List.flatMap_cons] at hn hfree
    rw [List.flatMap_cons, List.flatMap_cons]
    refine (adds_member (hname m List.mem_cons_self) (ht m List.mem_cons_self) hw).append (ih ?_ ?_ ?_ ?_) hn ?_
    · exact fun m hm => hname m (List.mem_cons_of_mem _ hm)
    · exact fun m hm => ht m (List.mem_cons_of_mem _ hm)
    · rw [List.map_append] at hn
      exact (List.nodup_append.mp hn).2.1
    · exact fun t ht hmem => hfree t ht (by rw [List.map_append]; exact List.mem_append_right _ hmem)
    · exact fun t ht hmem => hfree t ht (by rw [List.map_append]; exact List.mem_append_left _ hmem)

/-! ## Running whole bodies -/

theorem adds_docs (docs : List String) (w : World) : Adds ask ts (docItems docs) (docBindings docs) w w := by
  unfold docItems docBindings
  cases classDoc docs with
  | none => exact Adds.nil w
  | some d => exact adds_constant _ _ w

def layoutMembers : Layout → List Member
  | .record _ assignable => assignable.map ClassPlan.fieldProperty
  | .sum _ _ => []

def layoutTools : Layout → List String
  | .record _ assignable => (assignable.map ClassPlan.fieldProperty).flatMap memberTools
  | .sum _ _ => ["property"]

theorem adds_record {fields assignable : List Field}
    (hname : ∀ m ∈ assignable.map ClassPlan.fieldProperty, PrivateName.spell owner m.name = m.name)
    (ht : ∀ t ∈ layoutTools (.record fields assignable), t ∈ ts) (hw : HasTools owner ts w)
    (hn : ((layoutBindings owner v (.record fields assignable)).map (·.1)).Nodup)
    (hfree : ∀ t ∈ ts, t ∉ (layoutBindings owner v (.record fields assignable)).map (·.1)) :
    Adds ask ts (layoutItems owner (.record fields assignable)) (layoutBindings owner v (.record fields assignable)) w w := by
  simp only [layoutBindings, List.cons_append, List.nil_append] at hn hfree ⊢
  simp only [layoutItems, ← List.flatMap_map, List.cons_append, List.nil_append]
  refine (adds_constant _ _ w).cons ?_ hn hfree
  refine (adds_method (spell_function owner "__init__" (by decide)) w).cons ?_ hn.of_cons (tools_of_cons hfree)
  refine (adds_method (spell_function owner "__repr__" (by decide)) w).cons ?_ hn.of_cons.of_cons
    (tools_of_cons (tools_of_cons hfree))
  refine adds_members hname ?_ hw hn.of_cons.of_cons.of_cons (tools_of_cons (tools_of_cons (tools_of_cons hfree)))
  exact fun m hm t htm => ht t (List.mem_flatMap.mpr ⟨m, hm, htm⟩)

/-- The annotations of a sum are a dictionary, the only cell that a body makes. -/
theorem adds_sum {variants : List Variant} {payload : Option Contract} (ht : "property" ∈ ts)
    (hw : ∀ cells, HasTools owner ts { w with cells })
    (hn : ((layoutBindings owner (.cell w.cells.length) (.sum variants payload)).map (·.1)).Nodup)
    (hfree : ∀ t ∈ ts, t ∉ (layoutBindings owner (.cell w.cells.length) (.sum variants payload)).map (·.1)) :
    ∃ c, Adds ask ts (layoutItems owner (.sum variants payload))
      (layoutBindings owner (.cell w.cells.length) (.sum variants payload)) w { w with cells := w.cells ++ [c] } := by
  let noted : List (String × String) := ("variants", "ClassVar[tuple[str, ...]]")
    :: variants.map fun v => (PrivateName.spell owner v.name, "ClassVar[type[" ++ owner ++ "]]")
  let entries : List (String × Value) := noted.foldl (fun es e => bindMember e.1 (.constant e.2) es) []
  have hnoted : Adds ask ts [.annotations noted] [(annotationsName, .cell w.cells.length)] w
      { w with cells := w.cells ++ [.dict (entries.map fun e => (.constant e.1, e.2))] } :=
    Adds.single fun ms _ => rfl
  refine ⟨.dict (entries.map fun e => (.constant e.1, e.2)), hnoted.cons ?_ hn hfree⟩
  have hfree := tools_of_cons hfree
  refine (adds_constant _ _ _).cons ?_ hn.of_cons hfree
  refine (adds_constant _ _ _).cons ?_ hn.of_cons.of_cons (tools_of_cons hfree)
  have hfree := tools_of_cons (tools_of_cons hfree)
  have hn := hn.of_cons.of_cons.of_cons
  refine (adds_constant _ _ _).cons ?_ hn hfree
  refine (adds_method (spell_function owner "__init__" (by decide)) _).cons ?_ hn.of_cons (tools_of_cons hfree)
  have hfree := tools_of_cons (tools_of_cons hfree)
  have hn := hn.of_cons.of_cons
  refine (adds_accessor (spell_function owner "payload" (by decide)) ht (hw _)).cons ?_ hn hfree
  refine (adds_method (spell_function owner "__repr__" (by decide)) _).cons ?_ hn.of_cons (tools_of_cons hfree)
  have hfree := tools_of_cons (tools_of_cons hfree)
  have hn := hn.of_cons.of_cons
  refine (adds_method (spell_function owner "__eq__" (by decide)) _).cons ?_ hn hfree
  exact adds_method (spell_function owner "__hash__" (by decide)) _

theorem adds_layout {l : Layout} (hname : ∀ m ∈ layoutMembers l, PrivateName.spell owner m.name = m.name)
    (ht : ∀ t ∈ layoutTools l, t ∈ ts) (hw : ∀ cells, HasTools owner ts { w with cells })
    (hn : ((layoutBindings owner (.cell w.cells.length) l).map (·.1)).Nodup)
    (hfree : ∀ t ∈ ts, t ∉ (layoutBindings owner (.cell w.cells.length) l).map (·.1)) :
    ∃ cells, Adds ask ts (layoutItems owner l) (layoutBindings owner (.cell w.cells.length) l) w
      { w with cells := w.cells ++ cells } := by
  cases l with
  | record fields assignable =>
    refine ⟨[], ?_⟩
    rw [List.append_nil]
    exact adds_record hname ht (hw w.cells) hn hfree
  | sum variants payload =>
    obtain ⟨c, hc⟩ : ∃ c, Adds ask ts (layoutItems owner (.sum variants payload))
        (layoutBindings owner (.cell w.cells.length) (.sum variants payload)) w { w with cells := w.cells ++ [c] } :=
      adds_sum (ht _ List.mem_cons_self) hw hn hfree
    exact ⟨[c], hc⟩

theorem adds_variant {own : ClassRef} {variant : Variant}
    (hn : ((variantBindings own owner variant).map (·.1)).Nodup) (w : World) :
    Adds ask [] (variantItems own owner variant) (variantBindings own owner variant) w w := by
  unfold variantBindings at hn ⊢
  unfold variantItems
  refine (adds_docs variant.docs w).append ?_ hn nofun
  rw [List.map_append] at hn
  refine (adds_constant _ _ w).cons ?_ (List.nodup_append.mp hn).2.1 nofun
  exact adds_method (spell_function owner "__init__" (by decide)) w

def bodyBindings (p : ClassPlan) (noted : Value) : List (String × Value) :=
  docBindings p.docs ++ layoutBindings p.name noted p.layout ++ p.supplied.flatMap (memberBindings p.name)

def bodyItems (p : ClassPlan) : List Item :=
  docItems p.docs ++ layoutItems p.name p.layout ++ p.supplied.flatMap (ofMember p.name)

def bodyTools (p : ClassPlan) : List String := layoutTools p.layout ++ p.supplied.flatMap memberTools

theorem map_fst_bodyBindings (p : ClassPlan) (v v' : Value) :
    (bodyBindings p v).map (·.1) = (bodyBindings p v').map (·.1) := by
  simp only [bodyBindings, List.map_append]
  cases p.layout <;> rfl

/-- The body of a planned class adds what it binds, and at most one cell. -/
theorem adds_body {p : ClassPlan}
    (hname : ∀ m ∈ layoutMembers p.layout ++ p.supplied, PrivateName.spell p.name m.name = m.name)
    (hw : ∀ cells, HasTools p.name (bodyTools p) { w with cells })
    (hn : ((bodyBindings p .nothing).map (·.1)).Nodup)
    (hfree : ∀ t ∈ bodyTools p, t ∉ (bodyBindings p .nothing).map (·.1)) :
    ∃ cells, Adds ask (bodyTools p) (bodyItems p) (bodyBindings p (.cell w.cells.length)) w
      { w with cells := w.cells ++ cells } := by
  rw [map_fst_bodyBindings p .nothing (.cell w.cells.length)] at hn hfree
  have hparts := hn
  simp only [bodyBindings, List.map_append] at hparts
  simp only [bodyBindings, List.map_append, List.mem_append, not_or] at hfree
  obtain ⟨hhead, hsupplied, -⟩ := List.nodup_append.mp hparts
  obtain ⟨cells, hlayout⟩ : ∃ cells, Adds ask (bodyTools p) (layoutItems p.name p.layout)
      (layoutBindings p.name (.cell w.cells.length) p.layout) w { w with cells := w.cells ++ cells } :=
    adds_layout (fun m hm => hname m (List.mem_append_left _ hm)) (fun t ht => List.mem_append_left _ ht) hw
      (List.nodup_append.mp hhead).2.1 fun t ht => (hfree t ht).1.2
  have hdocs : Adds ask (bodyTools p) (docItems p.docs) (docBindings p.docs) w w := adds_docs p.docs w
  refine ⟨cells, (hdocs.append hlayout ?_ fun t ht => (hfree t ht).1.1).append (adds_members ?_ ?_ (hw _) hsupplied
    fun t ht => (hfree t ht).2) hn fun t ht => ?_⟩
  · rw [List.map_append]
    exact hhead
  · exact fun m hm => hname m (List.mem_append_right _ hm)
  · exact fun m hm t ht => List.mem_append_right _ (List.mem_flatMap.mpr ⟨m, hm, ht⟩)
  · rw [List.map_append, List.mem_append, not_or]
    exact (hfree t ht).1

end

end Loading

end DomainModel.Live
