import Mathlib
import DomainModel.Naming
import DomainModel.Proofs.Source.Acceptance

/-!
# Soundness of the parser

`parse_sound`: a text without a syntax error splits into tokens and gaps, the tokens are a sentence of
the grammar, and the declarations that `parse` checks and gives are the ones that the sentence
denotes.
-/

namespace DomainModel

/-! ## Texts without a syntax error -/

/-- A text that the parser finds no syntax error in; the names may still break a rule. -/
def Readable (text : String) (file : Option String) : Prop :=
  ∀ e, parse text file = .error e → e.category ≠ .syntactic

theorem Naming.firstFault?_category {α : Type} {rule : List α → α → Option NamingFault}
    {location : α → Option Location} {before xs : List α} {e : Diagnostic}
    (h : firstFault? rule location before xs = some e) : e.category = .declaration := by
  induction xs generalizing before with
  | nil => cases h
  | cons x xs ih =>
    rw [firstFault?] at h
    split at h
    · cases h
      rfl
    · exact ih h

theorem Naming.fault?_category {before : List Declaration} {d : Declaration} {e : Diagnostic}
    (h : fault? before d = some e) : e.category = .declaration := by
  rw [fault?] at h
  split at h
  · cases h
    rfl
  · rcases Option.or_eq_some_iff.mp h with h | ⟨-, h⟩
    · exact firstFault?_category h
    · exact firstFault?_category h

theorem Naming.check_category {ds : List Declaration} {e : Diagnostic} (h : Naming.check ds = .error e) :
    e.category = .declaration := by
  have from_category : ∀ (ds before : List Declaration), firstFaultFrom? before ds = some e →
      e.category = .declaration := by
    intro ds
    induction ds with
    | nil => intro before h; cases h
    | cons d ds ih =>
      intro before h
      rcases Option.or_eq_some_iff.mp h with h | ⟨-, h⟩
      · exact fault?_category h
      · exact ih _ h
  rw [check] at h
  split at h
  · next he =>
    cases h
    exact from_category ds [] he
  · cases h

theorem parse_of_read {text : String} {file : Option String} {ds : List Declaration}
    (h : readDeclarations text file = .ok ds) :
    parse text file = (Naming.check ds).map fun _ => ds := by
  rw [parse, h]

theorem readable_iff {text : String} {file : Option String} :
    Readable text file ↔ ∃ ds, readDeclarations text file = .ok ds := by
  constructor
  · intro h
    cases hr : readDeclarations text file with
    | ok ds => exact ⟨ds, rfl⟩
    | error e => exact absurd rfl (h _ (by rw [parse, hr]))
  · rintro ⟨ds, hr⟩ e he
    rw [parse_of_read hr] at he
    cases hc : Naming.check ds with
    | ok => rw [hc] at he; cases he
    | error e' =>
      rw [hc] at he
      cases he
      rw [Naming.check_category hc]
      decide

/-! ## The split of a text -/

/-- A text is made up of tokens and of gaps between them. A token stands where its position says, and
its lexeme is the longest one of its terminal there. -/
inductive Splits : Position → List Char → List Token → Prop
  | done {p : Position} : Splits p [] []
  | gap {p : Position} {u cs : List Char} {ts : List Token} : Gap cs u → Splits (p.after u) cs ts →
      Splits p (u ++ cs) ts
  | token {p : Position} {t : Terminal} {u cs : List Char} {ts : List Token} :
      Terminal.Heads t.Matches (u ++ cs) u → Splits (p.after u) cs ts →
      Splits p (u ++ cs) (⟨t, String.ofList u, p⟩ :: ts)

theorem Scans.splits {k k' : Cursor} {cs : List Char} {ts : List Token} (h : Scans [] k cs ts k') :
    Splits k.position cs ts := by
  induction h with
  | done => exact .done
  | skip hg _ ih =>
    rw [List.append_nil] at hg
    exact .gap hg ih
  | take _ hl _ _ ih =>
    rw [List.append_nil] at hl
    exact .token (Terminal.heads_of_lex? hl) ih

/-! ## Soundness -/

theorem parse_sound {text : String} {file : Option String} (h : Readable text file) :
    ∃ ts ds, Splits .start text.toList ts ∧ Grammar.IsFile file ts ds ∧
      (∀ ds', Grammar.IsFile file ts ds' → ds' = ds) ∧ (∀ d ∈ ds, d.HoldsOwnParts) ∧
      readDeclarations text file = .ok ds ∧ parse text file = (Naming.check ds).map fun _ => ds := by
  obtain ⟨ds, hr⟩ := readable_iff.mp h
  obtain ⟨ts, k, hs, hf⟩ := (Cursor.run_eq_ok_iff (k := .start file)).mp hr
  have hfile : Grammar.IsFile file ts ds := Grammar.isFile_of_steps hs.steps_eq hf
  exact ⟨ts, ds, hs.splits, hfile, fun ds' h' => h'.unique hfile, hfile.holdsOwnParts, hr, parse_of_read hr⟩

/-- A keyword where only a name may stand. -/
theorem parse_sound_keyword_field :
    Readable "#: A\nrecord A \x7b pub record: list[A] \x7d # end" none ∧
      ∃ ts, Splits .start "#: A\nrecord A \x7b pub record: list[A] \x7d # end".toList ts ∧
        Grammar.IsFile none ts
          [{ kind := .record, name := "A", docs := ["A"]
             fields := [⟨"record", ⟨"list", [⟨"A", []⟩]⟩, .exposed, [], some ⟨2, 16, none⟩⟩]
             location := some ⟨2, 8, none⟩ }] := by
  have hr : readDeclarations "#: A\nrecord A \x7b pub record: list[A] \x7d # end" none = .ok
      [{ kind := .record, name := "A", docs := ["A"]
         fields := [⟨"record", ⟨"list", [⟨"A", []⟩]⟩, .exposed, [], some ⟨2, 16, none⟩⟩]
         location := some ⟨2, 8, none⟩ }] := by cbv
  have h := readable_iff.mpr ⟨_, hr⟩
  obtain ⟨ts, ds, hs, hf, -, -, hr', -⟩ := parse_sound h
  obtain rfl := Except.ok.inj (hr'.symm.trans hr)
  exact ⟨h, ts, hs, hf⟩

end DomainModel
