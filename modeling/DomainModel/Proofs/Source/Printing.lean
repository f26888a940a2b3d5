import DomainModel.Proofs.Source.Grammar
import DomainModel.Proofs.Source.Lexeme

/-!
# The written form of declarations

`print` writes a list of declarations as a file, one field or variant to a line, each line of
documentation before what it belongs to. `IsWritable` says which elements have a written form.
-/

namespace DomainModel

/-! ## Writing -/

/-- A text or an integer; the grammar has no words for other values. -/
def Literal.written : Literal → String
  | .text s => "\"" ++ s ++ "\""
  | .integer n => toString n
  | .float _ | .truth _ | .absent => ""

def Argument.written (a : Argument) : String :=
  match a.name with
  | some n => n ++ "=" ++ a.value.written
  | none => a.value.written

def Directive.written (d : Directive) : String :=
  match d.arguments with
  | [] => "@" ++ d.name ++ "\n"
  | a :: as => "@" ++ d.name ++ "(" ++ ", ".intercalate ((a :: as).map Argument.written) ++ ")\n"

def Visibility.written : Visibility → String
  | .exposed => "pub "
  | .hidden => ""

def margin (indent : Nat) : String := String.ofList (List.replicate indent ' ')

def docLine (indent : Nat) (line : String) : String := margin indent ++ ("#: " ++ line) ++ "\n"

def docLines (indent : Nat) (docs : List String) : String := String.join (docs.map (docLine indent))

def Field.written (indent : Nat) (f : Field) : String :=
  docLines indent f.docs ++ margin indent ++ f.visibility.written ++ f.name ++ ": " ++ f.type.text ++ "\n"

def Variant.written (indent : Nat) (v : Variant) : String :=
  docLines indent v.docs ++ margin indent ++ v.name ++ "(" ++ v.payload.text ++ ")\n"

def Declaration.writtenBody (indent : Nat) (d : Declaration) : String :=
  match d.kind with
  | .record => "record " ++ d.name ++ " \x7b\n" ++ String.join (d.fields.map (·.written indent)) ++ "\x7d\n"
  | .sum => "sum " ++ d.name ++ " \x7b\n" ++ String.join (d.variants.map (·.written indent)) ++ "\x7d\n"
  | .synonym => "alias " ++ d.name ++ " = " ++ (d.target.map TypeRef.text).getD "" ++ "\n"

def Declaration.written (indent : Nat) (d : Declaration) : String :=
  docLines 0 d.docs ++ String.join (d.directives.map Directive.written) ++ d.writtenBody indent

def print (indent : Nat) (ds : List Declaration) : String := String.join (ds.map (·.written indent))

/-! ## What can be written -/

def IsName (s : String) : Prop :=
  Terminal.name.Matches s.toList ∧ s ∉ ["pub", "record", "sum", "alias"]

instance (w : List Char) : Decidable (Terminal.name.Matches w) :=
  match w with
  | [] => isFalse fun ⟨_, _, h, _⟩ => nomatch h
  | c :: cs => decidable_of_iff (Word.isStart c = true ∧ cs.all Word.isPart = true)
      ⟨fun ⟨hc, hcs⟩ => ⟨c, cs, rfl, hc, List.all_eq_true.mp hcs⟩,
        fun ⟨_, _, h, hc, hcs⟩ => by cases h; exact ⟨hc, List.all_eq_true.mpr hcs⟩⟩

instance (s : String) : Decidable (IsName s) := inferInstanceAs (Decidable (_ ∧ _))

def IsDotted (s : String) : Prop :=
  ∃ parts : List String, parts ≠ [] ∧ (∀ part ∈ parts, IsName part) ∧ s = ".".intercalate parts

mutual

def TypeRef.IsWritable : TypeRef → Prop
  | ⟨name, args⟩ => IsDotted name ∧ TypeRef.AreWritable args

def TypeRef.AreWritable : List TypeRef → Prop
  | [] => True
  | t :: ts => t.IsWritable ∧ TypeRef.AreWritable ts

end

/-- A text that is one string in quotes, or an integer that is not too long. -/
inductive Literal.IsWritable : Literal → Prop
  | text {s : String} : Terminal.string.Matches ("\"" ++ s ++ "\"").toList → IsWritable (.text s)
  | integer {n : Int} : (Nat.toDigits 10 n.natAbs).length ≤ Numeral.maxIntegerDigits →
      IsWritable (.integer n)

structure Argument.IsWritable (a : Argument) : Prop where
  name : ∀ n ∈ a.name, IsName n
  value : a.value.IsWritable

structure Directive.IsWritable (d : Directive) : Prop where
  name : IsName d.name
  arguments : ∀ a ∈ d.arguments, a.IsWritable

def IsDocLine (s : String) : Prop := '\n' ∉ s.toList ∧ s.toList.getLast? ≠ some '\r'

instance (s : String) : Decidable (IsDocLine s) := inferInstanceAs (Decidable (_ ∧ _))

structure Field.IsWritable (f : Field) : Prop where
  name : IsName f.name
  type : f.type.IsWritable
  docs : ∀ line ∈ f.docs, IsDocLine line

structure Variant.IsWritable (v : Variant) : Prop where
  name : IsName v.name
  payload : v.payload.IsWritable
  docs : ∀ line ∈ v.docs, IsDocLine line

structure Declaration.IsWritable (d : Declaration) : Prop where
  name : IsName d.name
  directives : ∀ x ∈ d.directives, x.IsWritable
  docs : ∀ line ∈ d.docs, IsDocLine line
  fields : ∀ f ∈ d.fields, f.IsWritable
  variants : ∀ v ∈ d.variants, v.IsWritable
  target : ∀ t ∈ d.target, t.IsWritable
  parts : d.HoldsOwnParts

/-! ## Declarations without their places -/

def Directive.unlocated (d : Directive) : Directive := { d with location := none }

def Field.unlocated (f : Field) : Field := { f with location := none }

def Variant.unlocated (v : Variant) : Variant := { v with location := none }

def Declaration.unlocated (d : Declaration) : Declaration :=
  { d with
    directives := d.directives.map Directive.unlocated
    fields := d.fields.map Field.unlocated
    variants := d.variants.map Variant.unlocated
    location := none }

end DomainModel
