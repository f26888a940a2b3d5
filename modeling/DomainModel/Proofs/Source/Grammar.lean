import DomainModel.Source.Reader

/-!
# The grammar of declaration files

One relation for each rule of the grammar: `IsField file ts f` says that the tokens `ts` are a
sentence of the rule for fields, and that the field they denote is `f`. The file is the one that the
locations of names refer to.
-/

namespace DomainModel

/-- A declaration has the parts of its kind and no others. -/
def Declaration.HoldsOwnParts (d : Declaration) : Prop :=
  match d.kind with
  | .record => d.variants = [] ∧ d.target = none
  | .sum => d.fields = [] ∧ d.target = none
  | .synonym => d.fields = [] ∧ d.variants = [] ∧ d.target.isSome

namespace Grammar

/-- `rule*` -/
inductive Many {α : Type} (rule : List Token → α → Prop) : List Token → List α → Prop
  | nil : Many rule [] []
  | snoc {ts us : List Token} {xs : List α} {x : α} : Many rule ts xs → rule us x →
      Many rule (ts ++ us) (xs ++ [x])

/-- `rule ("," rule)*` -/
inductive Separated {α : Type} (rule : List Token → α → Prop) : List Token → List α → Prop
  | one {ts : List Token} {x : α} : rule ts x → Separated rule ts [x]
  | more {ts us : List Token} {c : Token} {xs : List α} {x : α} : Separated rule ts xs →
      c.terminal = .comma → rule us x → Separated rule (ts ++ c :: us) (xs ++ [x])

def nameAt (file : Option String) (k : Token) : Named := ⟨k.lexeme, .ofPosition file k.position⟩

/-- `doc: DOC` -/
inductive IsDoc : List Token → String → Prop
  | mk {k : Token} : k.terminal = .doc → IsDoc [k] (docText k.lexeme.toList)

/-! ## Types -/

/-- `dotted_name: NAME ("." NAME)*` -/
inductive IsDottedName : List Token → String → Prop
  | name {k : Token} : k.terminal = .name → IsDottedName [k] k.lexeme
  | dot {ts : List Token} {n : String} {d k : Token} : IsDottedName ts n → d.terminal = .dot →
      k.terminal = .name → IsDottedName (ts ++ [d, k]) (n ++ "." ++ k.lexeme)

mutual

/-- `type: dotted_name type_args?` and `type_args: "[" type ("," type)* "]"` -/
inductive IsType : List Token → TypeRef → Prop
  | plain {ts : List Token} {n : String} : IsDottedName ts n → IsType ts ⟨n, []⟩
  | applied {ts us : List Token} {n : String} {args : List TypeRef} {o c : Token} :
      IsDottedName ts n → o.terminal = .openBracket → IsTypes us args →
      c.terminal = .closeBracket → IsType (ts ++ o :: (us ++ [c])) ⟨n, args⟩

/-- `type ("," type)*` -/
inductive IsTypes : List Token → List TypeRef → Prop
  | one {ts : List Token} {t : TypeRef} : IsType ts t → IsTypes ts [t]
  | more {ts us : List Token} {c : Token} {args : List TypeRef} {t : TypeRef} : IsTypes ts args →
      c.terminal = .comma → IsType us t → IsTypes (ts ++ c :: us) (args ++ [t])

end

/-! ## Directives -/

/-- `_arg_value: ident_value | number_value | string_value` -/
inductive IsValue : Token → Literal → Prop
  | word {k : Token} : k.terminal = .name → IsValue k (.text k.lexeme)
  | number {k : Token} : k.terminal = .number → IsValue k (.ofNumeral (.ofLexeme k.lexeme.toList))
  | string {k : Token} : k.terminal = .string →
      IsValue k (.text (String.ofList (k.lexeme.toList.drop 1).dropLast))

/-- `directive_arg: name "=" _arg_value | _arg_value` -/
inductive IsArgument : List Token → Argument → Prop
  | named {n e k : Token} {v : Literal} : n.terminal = .name → e.terminal = .equals → IsValue k v →
      IsArgument [n, e, k] ⟨some n.lexeme, v⟩
  | positional {k : Token} {v : Literal} : IsValue k v → IsArgument [k] ⟨none, v⟩

section
variable (file : Option String)

/-- `directive: "@" name directive_args?` and
`directive_args: "(" [directive_arg ("," directive_arg)*] ")"` -/
inductive IsDirective : List Token → Directive → Prop
  | bare {s n : Token} : s.terminal = .atSign → n.terminal = .name →
      IsDirective [s, n] ⟨n.lexeme, [], some (nameAt file n).location⟩
  | empty {s n o c : Token} : s.terminal = .atSign → n.terminal = .name → o.terminal = .openParen →
      c.terminal = .closeParen → IsDirective [s, n, o, c] ⟨n.lexeme, [], some (nameAt file n).location⟩
  | applied {s n o c : Token} {ts : List Token} {args : List Argument} : s.terminal = .atSign →
      n.terminal = .name → o.terminal = .openParen → Separated IsArgument ts args →
      c.terminal = .closeParen →
      IsDirective (s :: n :: o :: (ts ++ [c])) ⟨n.lexeme, args, some (nameAt file n).location⟩

/-! ## Declarations -/

/-- `VISIBILITY?` -/
inductive IsVisibility : List Token → Visibility → Prop
  | hidden : IsVisibility [] .hidden
  | exposed {k : Token} : k.terminal = .pub → IsVisibility [k] .exposed

/-- `field: doc* VISIBILITY? name ":" type` -/
inductive IsField : List Token → Field → Prop
  | mk {ds vs ts : List Token} {n c : Token} {docs : List String} {v : Visibility} {t : TypeRef} :
      Many IsDoc ds docs → IsVisibility vs v → n.terminal = .name → c.terminal = .colon →
      IsType ts t →
      IsField (ds ++ (vs ++ n :: c :: ts)) ⟨n.lexeme, t, v, docs, some (nameAt file n).location⟩

/-- `variant: doc* name "(" type ")"` -/
inductive IsVariant : List Token → Variant → Prop
  | mk {ds ts : List Token} {n o c : Token} {docs : List String} {t : TypeRef} :
      Many IsDoc ds docs → n.terminal = .name → o.terminal = .openParen → IsType ts t →
      c.terminal = .closeParen →
      IsVariant (ds ++ n :: o :: (ts ++ [c])) ⟨n.lexeme, t, docs, some (nameAt file n).location⟩

/-- `_body: record | sum | alias`: the part of a declaration behind its directives. -/
inductive IsBody (docs : List String) (directives : List Directive) :
    List Token → Declaration → Prop
  | record {k n o c : Token} {ts : List Token} {fields : List Field} : k.terminal = .record →
      n.terminal = .name → o.terminal = .openBrace → Many (IsField file) ts fields →
      c.terminal = .closeBrace →
      IsBody docs directives (k :: n :: o :: (ts ++ [c]))
        { kind := .record, name := n.lexeme, directives, docs, fields
          location := some (nameAt file n).location }
  | sum {k n o c : Token} {ts : List Token} {variants : List Variant} : k.terminal = .sum →
      n.terminal = .name → o.terminal = .openBrace → Many (IsVariant file) ts variants →
      c.terminal = .closeBrace →
      IsBody docs directives (k :: n :: o :: (ts ++ [c]))
        { kind := .sum, name := n.lexeme, directives, docs, variants
          location := some (nameAt file n).location }
  | synonym {k n e : Token} {ts : List Token} {t : TypeRef} : k.terminal = .synonym →
      n.terminal = .name → e.terminal = .equals → IsType ts t →
      IsBody docs directives (k :: n :: e :: ts)
        { kind := .synonym, name := n.lexeme, directives, docs, target := some t
          location := some (nameAt file n).location }

/-- `declaration: doc* directive* _body` -/
inductive IsDeclaration : List Token → Declaration → Prop
  | mk {ds us bs : List Token} {docs : List String} {directives : List Directive}
      {d : Declaration} : Many IsDoc ds docs → Many (IsDirective file) us directives →
      IsBody file docs directives bs d → IsDeclaration (ds ++ (us ++ bs)) d

/-- `start: declaration*` -/
def IsFile : List Token → List Declaration → Prop := Many (IsDeclaration file)

end

theorem IsDeclaration.holdsOwnParts {file : Option String} {ts : List Token} {d : Declaration}
    (h : IsDeclaration file ts d) : d.HoldsOwnParts := by
  cases h with
  | mk _ _ hb =>
    cases hb with
    | record => exact ⟨rfl, rfl⟩
    | sum => exact ⟨rfl, rfl⟩
    | synonym => exact ⟨rfl, rfl, rfl⟩

theorem IsFile.holdsOwnParts {file : Option String} {ts : List Token} {ds : List Declaration}
    (h : IsFile file ts ds) : ∀ d ∈ ds, d.HoldsOwnParts := by
  induction h with
  | nil => intro d hd; cases hd
  | snoc _ hx ih =>
    intro d hd
    rcases List.mem_append.mp hd with hd | hd
    · exact ih d hd
    · obtain rfl := List.mem_singleton.mp hd
      exact hx.holdsOwnParts

end Grammar

end DomainModel
