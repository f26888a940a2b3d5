import DomainModel.Diagnostic
import DomainModel.TypeClass

/-!
# Descriptors

What the directives see of a declaration: a record with its fields or a sum with its variants, and
nothing that its kind has no use for. A synonym has no shape.
-/

namespace DomainModel

inductive Shape
  | record (fields : List Field)
  | sum (variants : List Variant)
deriving Repr, DecidableEq

structure Descriptor where
  name : String
  docs : List String
  location : Option Location
  shape : Shape
deriving Repr, DecidableEq

/-- The class of a field's type; its type arguments do not matter. -/
def Field.typeClass (f : Field) : TypeClass := .ofName f.type.name

namespace Descriptor

def isRecord (d : Descriptor) : Bool :=
  match d.shape with
  | .record _ => true
  | .sum _ => false

def fields (d : Descriptor) : List Field :=
  match d.shape with
  | .record fields => fields
  | .sum _ => []

def variants (d : Descriptor) : List Variant :=
  match d.shape with
  | .record _ => []
  | .sum variants => variants

def field? (d : Descriptor) (name : String) : Option Field := d.fields.find? (·.name = name)

end Descriptor

/-- Describes a record or a sum, in the order in which it was declared. -/
def Declaration.describe (d : Declaration) : Except Violation Descriptor :=
  match d.kind with
  | .record => .ok ⟨d.name, d.docs, d.location, .record d.fields⟩
  | .sum => .ok ⟨d.name, d.docs, d.location, .sum d.variants⟩
  | .synonym => .error (.indescribable d.kind d.name)

end DomainModel
