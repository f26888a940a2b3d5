import DomainModel.Report

/-!
# Overviews of declarations

What is told of the declarations of a file: all of it as data, or a table with a row for each.
-/

namespace DomainModel

namespace Declaration

def directiveNames (d : Declaration) : List String := d.directives.map (·.name)

/-- A record or a sum is described in full, a synonym by the type it stands for. -/
def overview (d : Declaration) : Datum :=
  let shape := match d.describe with
    | .ok descriptor => ("descriptor", descriptor.datum)
    | .error _ => ("target", .text ((d.target.map TypeRef.text).getD ""))
  .record [("kind", .text d.kind.text), ("directives", .texts d.directiveNames), shape]

def fieldCell (f : Field) : String :=
  let mark := match f.visibility with
    | .exposed => "pub "
    | .hidden => ""
  s!"{mark}{f.name}: {f.type.text} ({f.typeClass.text})"

def variantCell (v : Variant) : String := s!"{v.name}({v.payload.text})"

def membersCell (d : Declaration) : String :=
  match d.kind with
  | .record => ", ".intercalate (d.fields.map fieldCell)
  | .sum => ", ".intercalate (d.variants.map variantCell)
  | .synonym => "= " ++ (d.target.map TypeRef.text).getD ""

def row (d : Declaration) : List String :=
  [d.name, d.kind.text, " ".intercalate (d.directiveNames.map ("@" ++ ·)), d.membersCell]

end Declaration

namespace Overview

def data (declarations : List Declaration) : String :=
  (Datum.record (declarations.map fun d => (d.name, d.overview))).pretty ++ "\n"

def header : List String := ["Name", "Kind", "Directives", "Members"]

/-- A cell of a column, with two spaces behind the column. -/
def padded (width : Nat) (cell : String) : String :=
  cell ++ String.ofList (List.replicate (width + 2 - cell.length) ' ')

/-- The widths of the columns: each is as wide as its widest cell. -/
def widths (rows : List (List String)) : List Nat :=
  rows.foldr (fun row widths => List.zipWith max (row.map String.length) widths)
    (header.map fun _ => 0)

def table (declarations : List Declaration) : String :=
  let rows := header :: declarations.map Declaration.row
  let line (row : List String) : String :=
    String.join (List.zipWith padded (widths rows) row) ++ "\n"
  "Declarations\n" ++ String.join (rows.map line)

end Overview

end DomainModel
