import Mathlib.Data.List.Basic
import DomainModel.Module
import DomainModel.Proofs.Source.Independence

/-!
# Plans without documentation

Planning does not look at documentation or at places: what is planned for declarations without them is the plan
for the declarations, without its documentation, and an error is the same elsewhere (`ofDeclarations_erased`).
-/

namespace DomainModel

/-! ## Leaving out -/

def Diagnostic.unlocated (e : Diagnostic) : Diagnostic := { e with location := none }

/-- An outcome without places, and without what `g` leaves out. -/
def erase {α β : Type} (g : α → β) (x : Except Diagnostic α) : Except Diagnostic β :=
  (x.map g).mapError Diagnostic.unlocated

def Shape.erased : Shape → Shape
  | record fields => record (fields.map (Field.erased false))
  | sum variants => sum (variants.map (Variant.erased false))

def Descriptor.erased (c : Descriptor) : Descriptor := { c with docs := [], location := none, shape := c.shape.erased }

def Applied.erased (a : Applied) : Applied :=
  { a with directive := a.directive.unlocated, descriptor := a.descriptor.erased }

def Member.erased : Member → Member
  | accessor name annotation reading _ => accessor name annotation reading []
  | property name annotation _ => property name annotation []
  | m => m

def Fragment.erased (f : Fragment) : Fragment :=
  { f with directive := f.directive.unlocated, members := f.members.map Member.erased }

def Layout.erased : Layout → Layout
  | record fields assignable => record (fields.map (Field.erased false)) (assignable.map (Field.erased false))
  | sum variants payload => sum (variants.map (Variant.erased false)) payload

def ClassPlan.Supplied.erased (s : ClassPlan.Supplied) : ClassPlan.Supplied := ⟨s.member.erased, s.directive.unlocated⟩

def ClassPlan.erased (p : ClassPlan) : ClassPlan :=
  { p with docs := [], layout := p.layout.erased, supplied := p.supplied.map Member.erased }

def Module.Part.erased : Module.Part → Module.Part
  | cls p => cls p.erased
  | synonym s => synonym s

def Module.erased (m : Module) : Module := { m with classes := m.classes.map ClassPlan.erased }

/-! ## Outcomes -/

section
variable {α β γ δ : Type}

theorem erase_bind {g : α → β} {h : γ → δ} {x : Except Diagnostic α} {x' : Except Diagnostic β}
    {k : α → Except Diagnostic γ} {k' : β → Except Diagnostic δ} (hx : x' = erase g x)
    (hk : ∀ a, k' (g a) = erase h (k a)) : x' >>= k' = erase h (x >>= k) := by
  rw [hx]
  cases x with
  | error e => rfl
  | ok a => exact hk a

theorem erase_mapM {g : α → β} {h : γ → δ} {f : α → Except Diagnostic γ} {f' : β → Except Diagnostic δ}
    (hf : ∀ a, f' (g a) = erase h (f a)) (xs : List α) : (xs.map g).mapM f' = erase (List.map h) (xs.mapM f) := by
  induction xs with
  | nil => rfl
  | cons x xs ih =>
    rw [List.map_cons, List.mapM_cons, List.mapM_cons]
    refine erase_bind (hf x) fun c => erase_bind ih fun cs => rfl

theorem report_erased (d : Declaration) (x : Option Directive) (v : Violation) :
    Diagnostic.report (d.erased false) (x.map Directive.unlocated) v = (Diagnostic.report d x v).unlocated := by
  cases x <;> rfl

theorem erase_report {g : α → β} (d : Declaration) (x : Option Directive) (r : Except Violation α) :
    (r.map g).mapError (.report (d.erased false) (x.map Directive.unlocated)) = erase g (r.mapError (.report d x)) := by
  cases r with
  | error v => exact congrArg Except.error (report_erased d x v)
  | ok a => rfl

end

/-! ## Checking -/

theorem Descriptor.fields_erased (c : Descriptor) : c.erased.fields = c.fields.map (Field.erased false) := by
  cases hs : c.shape <;> simp [erased, fields, Shape.erased, hs]

theorem Descriptor.field?_erased (c : Descriptor) (n : String) :
    c.erased.field? n = (c.field? n).map (Field.erased false) := by
  rw [field?, fields_erased, List.find?_map]
  rfl

theorem Descriptor.isRecord_erased (c : Descriptor) : c.erased.isRecord = c.isRecord := by
  cases hs : c.shape <;> simp [erased, isRecord, Shape.erased, hs]

theorem Condition.fault?_erased (q : Condition) (c : Descriptor) : q.fault? c.erased = q.fault? c := by
  cases q with
  | isRecord => rw [fault?, fault?, c.isRecord_erased]
  | isSum => rw [fault?, fault?, c.isRecord_erased]
  | hasField n r =>
    rw [fault?, fault?, c.field?_erased]
    cases c.field? n <;> rfl
  | noExposedField =>
    rw [fault?, fault?, c.fields_erased, List.find?_map, Option.map_map]
    rfl
  | singleValue =>
    rw [fault?, fault?, c.fields_erased]
    match c.fields with
    | [] => rfl
    | [f] => rfl
    | f :: g :: fs => rfl

theorem Role.fault?_erased (r : Role) (c : Descriptor) : r.fault? c.erased = r.fault? c := by
  simp only [Role.fault?, Condition.fault?_erased]

theorem describe_erased (d : Declaration) : (d.erased false).describe = d.describe.map Descriptor.erased := by
  cases hk : d.kind <;> simp [Declaration.describe, Declaration.erased, hk, Except.map, Descriptor.erased, Shape.erased, keptDocs]

theorem Directive.name_unlocated (x : Directive) : x.unlocated.name = x.name := rfl

theorem Directive.arguments_unlocated (x : Directive) : x.unlocated.arguments = x.arguments := rfl

theorem apply_erased (x : Directive) (d : Declaration) :
    x.unlocated.apply (d.erased false) = (x.apply d).map Applied.erased := by
  rw [Directive.apply, Directive.apply, describe_erased, x.name_unlocated, x.arguments_unlocated]
  cases Role.ofName? x.name with
  | none => rfl
  | some r =>
    dsimp only
    cases r.argumentsFault? x.arguments with
    | some v => rfl
    | none =>
      cases d.describe with
      | error v => rfl
      | ok c =>
        simp only [Except.map, Role.fault?_erased]
        cases r.fault? c <;> rfl

theorem names_unlocated_directives (xs : List Directive) :
    (xs.map Directive.unlocated).map (·.name) = xs.map (·.name) := by
  rw [List.map_map]
  rfl

theorem applyAfter_erased (d : Declaration) (before : List Directive) (x : Directive) :
    (d.erased false).applyAfter (before.map Directive.unlocated) x.unlocated =
      erase Applied.erased (d.applyAfter before x) := by
  rw [Declaration.applyAfter, Declaration.applyAfter, names_unlocated_directives, x.name_unlocated]
  split
  · rfl
  · rw [apply_erased]
    exact erase_report d (some x) _

theorem checkFrom_erased (d : Declaration) (before xs : List Directive) :
    (d.erased false).checkFrom (before.map Directive.unlocated) (xs.map Directive.unlocated) =
      erase (List.map Applied.erased) (d.checkFrom before xs) := by
  induction xs generalizing before with
  | nil => rfl
  | cons x xs ih =>
    have hbefore : before.map Directive.unlocated ++ [x.unlocated] = (before ++ [x]).map Directive.unlocated := by
      rw [List.map_append]
      rfl
    rw [List.map_cons, Declaration.checkFrom, Declaration.checkFrom, hbefore]
    exact erase_bind (applyAfter_erased d before x) fun a => erase_bind (ih (before ++ [x])) fun as => rfl

theorem check_erased (d : Declaration) : (d.erased false).check = erase (List.map Applied.erased) d.check :=
  checkFrom_erased d [] d.directives

/-! ## Fragments -/

theorem Member.name_erased (m : Member) : m.erased.name = m.name := by
  cases m <;> rfl

theorem Member.put_erased (m : Member) (ms : List Member) :
    m.erased.put (ms.map Member.erased) = (m.put ms).map Member.erased := by
  induction ms with
  | nil => rfl
  | cons x ms ih =>
    rw [List.map_cons, put, put, name_erased, name_erased, ih]
    split <;> rfl

theorem Member.foldl_put_erased (xs ms : List Member) :
    (xs.map Member.erased).foldl (fun ms m => m.put ms) (ms.map Member.erased) =
      (xs.foldl (fun ms m => m.put ms) ms).map Member.erased := by
  induction xs generalizing ms with
  | nil => rfl
  | cons x xs ih => rw [List.map_cons, List.foldl_cons, List.foldl_cons, put_erased, ih]

theorem Field.name_erased (f : Field) : (f.erased false).name = f.name := rfl

theorem contractAccessor_erased (f : Field) :
    Fragment.contractAccessor (f.erased false) = (Fragment.contractAccessor f).erased := by
  rw [Fragment.contractAccessor, Fragment.contractAccessor, f.name_erased]
  split <;> rfl

theorem map_contractAccessor_erased (fs : List Field) :
    (fs.map (Field.erased false)).map Fragment.contractAccessor = (fs.map Fragment.contractAccessor).map Member.erased := by
  rw [List.map_map, List.map_map]
  exact List.map_congr_left fun f _ => contractAccessor_erased f

theorem map_bind {α β γ δ ε : Type} {g : α → β} {h : γ → δ} {x : Except ε α} {x' : Except ε β}
    {k : α → Except ε γ} {k' : β → Except ε δ} (hx : x' = x.map g) (hk : ∀ a, k' (g a) = (k a).map h) :
    x' >>= k' = (x >>= k).map h := by
  rw [hx]
  cases x with
  | error e => rfl
  | ok a => exact hk a

theorem lookUp_erased (c : Descriptor) (n : String) (q : Requirement) :
    Fragment.lookUp c.erased n q = (Fragment.lookUp c n q).map (Field.erased false) := by
  rw [Fragment.lookUp, Fragment.lookUp, Descriptor.field?_erased]
  cases c.field? n <;> rfl

theorem ofEntity_erased (a : Applied) : Fragment.ofEntity a.erased = (Fragment.ofEntity a).map Fragment.erased := by
  refine map_bind (lookUp_erased a.descriptor "id" .identifier) fun id =>
    map_bind (lookUp_erased a.descriptor "version" .integer) fun version => congrArg Except.ok ?_
  have hothers : (a.erased.descriptor.fields.filter fun f => f.name ≠ "id" ∧ f.name ≠ "version") =
      (a.descriptor.fields.filter fun f => f.name ≠ "id" ∧ f.name ≠ "version").map (Field.erased false) := by
    rw [Applied.erased, Descriptor.fields_erased, List.filter_map]
    rfl
  have hfixed : [Fragment.contractAccessor (id.erased false), Fragment.contractAccessor (version.erased false),
      .equality a.descriptor.name "id", .hash "id"] =
      [Fragment.contractAccessor id, Fragment.contractAccessor version, .equality a.descriptor.name "id",
        .hash "id"].map Member.erased := by
    rw [contractAccessor_erased, contractAccessor_erased]
    rfl
  rw [Fragment.erased]
  dsimp only
  rw [hothers, map_contractAccessor_erased, ← Member.foldl_put_erased, ← hfixed]
  rfl

theorem ofValueObject_erased (a : Applied) :
    Fragment.ofValueObject a.erased = (Fragment.ofValueObject a).map Fragment.erased := by
  rw [Fragment.ofValueObject, Fragment.ofValueObject, Applied.erased, Descriptor.fields_erased]
  dsimp only
  cases a.descriptor.fields with
  | nil => rfl
  | cons value rest => rfl

theorem ofDomainEvent_erased (a : Applied) :
    Fragment.ofDomainEvent a.erased = (Fragment.ofDomainEvent a).map Fragment.erased := by
  refine map_bind (lookUp_erased a.descriptor "occurred" .timestamp) fun occurred =>
    map_bind (lookUp_erased a.descriptor "id" .identifier) fun id =>
    map_bind (lookUp_erased a.descriptor "aggregate_id" .identifier) fun aggregate =>
    map_bind (lookUp_erased a.descriptor "version" .integer) fun version => congrArg Except.ok ?_
  rw [Fragment.erased]
  dsimp only
  rw [← map_contractAccessor_erased]
  rfl

theorem Descriptor.names_variants_erased (c : Descriptor) :
    c.erased.variants.map (·.name) = c.variants.map (·.name) := by
  cases hs : c.shape <;> simp [erased, variants, Shape.erased, hs, Variant.erased]

theorem ofDomainEvents_erased (a : Applied) :
    Fragment.ofDomainEvents a.erased = (Fragment.ofDomainEvents a).erased := by
  rw [Fragment.ofDomainEvents, Fragment.ofDomainEvents, Fragment.erased, Applied.erased]
  dsimp only
  rw [Descriptor.names_variants_erased, List.map_map]
  rfl

theorem fragment_erased (a : Applied) : a.erased.fragment = a.fragment.map Fragment.erased := by
  rw [Applied.fragment, Applied.fragment, show a.erased.role = a.role from rfl]
  cases a.role with
  | entity => exact ofEntity_erased a
  | valueObject => exact ofValueObject_erased a
  | domainEvent => exact ofDomainEvent_erased a
  | domainEvents => exact congrArg Except.ok (ofDomainEvents_erased a)
  | command => rfl
  | query => rfl

/-! ## Plans -/

namespace ClassPlan
variable (d : Declaration)

theorem fragments_erased : fragments (d.erased false) = erase (List.map Fragment.erased) (fragments d) := by
  refine erase_bind (check_erased d) fun roles => erase_mapM (fun a => ?_) roles
  rw [fragment_erased]
  exact erase_report d (some a.directive) _

theorem Supplied.name_erased (s : Supplied) : s.erased.name = s.name := s.member.name_erased

theorem Supplied.names_erased (xs : List Supplied) : (xs.map Supplied.erased).map Supplied.name = xs.map Supplied.name := by
  rw [List.map_map]
  exact List.map_congr_left fun s _ => s.name_erased

theorem addMember_erased (taken : List Supplied) (s : Supplied) :
    addMember (d.erased false) (taken.map Supplied.erased) s.erased = erase (List.map Supplied.erased) (addMember d taken s) := by
  rw [addMember, addMember, Supplied.names_erased, s.name_erased]
  split
  · rfl
  · refine congrArg Except.ok ?_
    rw [List.map_append]
    rfl

theorem foldlM_addMember_erased (xs taken : List Supplied) :
    (xs.map Supplied.erased).foldlM (addMember (d.erased false)) (taken.map Supplied.erased) =
      erase (List.map Supplied.erased) (xs.foldlM (addMember d) taken) := by
  induction xs generalizing taken with
  | nil => rfl
  | cons x xs ih =>
    rw [List.map_cons, List.foldlM_cons, List.foldlM_cons]
    exact erase_bind (addMember_erased d taken x) ih

theorem merge_erased (fs : List Fragment) :
    merge (d.erased false) (fs.map Fragment.erased) = erase (List.map Supplied.erased) (merge d fs) := by
  have hmembers : ((fs.map Fragment.erased).flatMap fun f => f.members.map fun m => (⟨m, f.directive⟩ : Supplied)) =
      (fs.flatMap fun f => f.members.map fun m => (⟨m, f.directive⟩ : Supplied)).map Supplied.erased := by
    rw [List.flatMap_map, List.map_flatMap]
    refine List.flatMap_congr fun f _ => ?_
    rw [Fragment.erased, List.map_map, List.map_map]
    rfl
  rw [merge, merge, hmembers]
  exact foldlM_addMember_erased d _ []

theorem find?_name_erased (members : List Supplied) (n : String) :
    (((members.map Supplied.erased).find? (·.name = n)).map (·.directive)) =
      ((members.find? (·.name = n)).map (·.directive)).map Directive.unlocated := by
  rw [List.find?_map, Option.map_map, Option.map_map]
  have hname : ((fun s : Supplied => decide (s.name = n)) ∘ Supplied.erased) = fun s => decide (s.name = n) :=
    funext fun s => by rw [Function.comp, s.name_erased]
  rw [hname]
  rfl

theorem checkAssigned_erased (members : List Supplied) (taken : List String)
    (assigned : List (String × Option Directive)) :
    checkAssigned (d.erased false) (members.map Supplied.erased) taken
        (assigned.map fun x => (x.1, x.2.map Directive.unlocated)) =
      erase id (checkAssigned d members taken assigned) := by
  have hfind : (assigned.map fun x => (x.1, x.2.map Directive.unlocated)).find? (fun x => x.1 ∈ taken) =
      (assigned.find? fun x => x.1 ∈ taken).map fun x => (x.1, x.2.map Directive.unlocated) := List.find?_map
  rw [checkAssigned, checkAssigned, hfind]
  cases assigned.find? fun x => x.1 ∈ taken with
  | none => rfl
  | some x =>
    refine congrArg Except.error ?_
    rw [find?_name_erased, ← Option.map_or, report_erased]

theorem takenNames_erased (s : Shape) (members : List Supplied) :
    takenNames s.erased (members.map Supplied.erased) = takenNames s members := by
  cases s with
  | record fields =>
    simp only [takenNames, Shape.erased, Supplied.names_erased, List.filter_map]
    rw [List.map_map]
    rfl
  | sum variants => simp only [takenNames, Shape.erased, Supplied.names_erased]

theorem assignedNames_erased (s : Shape) (fs : List Fragment) :
    assignedNames s.erased (fs.map Fragment.erased) =
      (assignedNames s fs).map fun x => (x.1, x.2.map Directive.unlocated) := by
  have hfragments : ((fs.map Fragment.erased).flatMap fun f => f.assigned.map (·, some f.directive)) =
      (fs.flatMap fun f => f.assigned.map (·, some f.directive)).map fun x => (x.1, x.2.map Directive.unlocated) := by
    rw [List.flatMap_map, List.map_flatMap]
    refine List.flatMap_congr fun f _ => ?_
    rw [List.map_map]
    rfl
  cases s with
  | record fields =>
    simp only [assignedNames, Shape.erased, List.map_append, hfragments]
    rfl
  | sum variants =>
    simp only [assignedNames, Shape.erased, List.map_append, hfragments]
    rw [List.map_map, List.map_map]
    rfl

theorem layOut_erased (s : Shape) (claimed : List String) (payload : Option Contract) :
    layOut s.erased claimed payload = (layOut s claimed payload).erased := by
  cases s with
  | record fields =>
    rw [Shape.erased, layOut, layOut, Layout.erased, List.filter_map]
    rfl
  | sum variants => rfl

theorem ofDeclaration_erased : ofDeclaration (d.erased false) = erase ClassPlan.erased (ofDeclaration d) := by
  refine erase_bind (g := Descriptor.erased) ?_ fun c => erase_bind (fragments_erased d) fun fs =>
    erase_bind (merge_erased d fs) fun members => erase_bind (g := id) ?_ fun _ => congrArg Except.ok ?_
  · rw [describe_erased]
    exact erase_report d none _
  · rw [← checkAssigned_erased, ← assignedNames_erased]
    exact congrArg (checkAssigned _ _ · _) (takenNames_erased c.shape members)
  · have hmembers : (members.map Supplied.erased).map (·.member) = (members.map (·.member)).map Member.erased := by
      rw [List.map_map, List.map_map]
      rfl
    rw [ClassPlan.erased]
    dsimp only
    rw [← layOut_erased, Supplied.names_erased, hmembers, List.map_map, List.flatMap_map, List.findSome?_map,
      List.filterMap_map, List.filterMap_map]
    rfl

end ClassPlan

/-! ## Modules -/

theorem part_erased (d : Declaration) : Module.part (d.erased false) = erase Module.Part.erased (Module.part d) := by
  rw [Module.part, Module.part, show (d.erased false).kind = d.kind from rfl]
  cases d.kind with
  | synonym => exact erase_bind (check_erased d) fun _ => rfl
  | record => exact erase_bind (ClassPlan.ofDeclaration_erased d) fun _ => rfl
  | sum => exact erase_bind (ClassPlan.ofDeclaration_erased d) fun _ => rfl

theorem ofDeclarations_erased (ds : List Declaration) (contracts : String) :
    Module.ofDeclarations (ds.map (Declaration.erased false)) contracts =
      erase Module.erased (Module.ofDeclarations ds contracts) := by
  refine erase_bind (erase_mapM part_erased ds) fun parts => congrArg Except.ok ?_
  have hplans : (parts.map Module.Part.erased).filterMap Module.Part.plan? =
      (parts.filterMap Module.Part.plan?).map ClassPlan.erased := by
    rw [List.filterMap_map, List.map_filterMap]
    exact List.filterMap_congr fun x _ => by cases x <;> rfl
  have hsynonyms : (parts.map Module.Part.erased).filterMap Module.Part.synonym? = parts.filterMap Module.Part.synonym? := by
    rw [List.filterMap_map]
    exact List.filterMap_congr fun x _ => by cases x <;> rfl
  rw [Module.erased]
  dsimp only
  rw [hplans, hsynonyms]

end DomainModel
