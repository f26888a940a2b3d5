import DomainModel.Datum
import DomainModel.Descriptor

/-!
# Reports on declarations

What is known of a declaration as data: its types in full, and for each field the class of its type.
-/

namespace DomainModel

def Location.datum (l : Location) : Datum :=
  .record [("line", .integer l.line), ("column", .integer l.column),
    ("file", .optional .text l.file)]

mutual

def TypeRef.datum : TypeRef → Datum
  | ⟨name, args⟩ => .record [("name", .text name), ("args", .list (TypeRef.dataList args))]

def TypeRef.dataList : List TypeRef → List Datum
  | [] => []
  | t :: ts => t.datum :: TypeRef.dataList ts

end

def Field.datum (f : Field) : Datum :=
  .record [("name", .text f.name), ("type_name", .text f.type.text),
    ("classification", .text f.typeClass.text), ("visibility", .text f.visibility.text),
    ("doc_lines", .texts f.docs), ("type_ref", f.type.datum)]

def Variant.datum (v : Variant) : Datum :=
  .record [("name", .text v.name), ("payload_type_name", .text v.payload.text),
    ("doc_lines", .texts v.docs), ("payload_type_ref", v.payload.datum)]

def Descriptor.datum (d : Descriptor) : Datum :=
  .record [("kind", .text (if d.isRecord then "record" else "sum")), ("name", .text d.name),
    ("fields", .list (d.fields.map Field.datum)),
    ("variants", .list (d.variants.map Variant.datum)),
    ("doc_lines", .texts d.docs), ("location", .optional Location.datum d.location)]

end DomainModel
