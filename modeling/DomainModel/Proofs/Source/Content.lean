import DomainModel.Naming
import DomainModel.Proofs.Naming.Names
import DomainModel.Proofs.Source.Place

/-!
# What a file holds

The declarations that a text is read as hold only what their kinds have, and their names keep the rules.
-/

namespace DomainModel

variable {text : String} {file : Option String} {ds : List Declaration}

theorem isFile_of_parse (h : parse text file = .ok ds) :
    ∃ ts, Splits .start text.toList ts ∧ Grammar.IsFile file ts ds := by
  obtain ⟨ts, k, hs, hf⟩ := (Cursor.run_eq_ok_iff (k := .start file)).mp (readDeclarations_of_parse h).1
  exact ⟨ts, hs.splits, Grammar.isFile_of_steps hs.steps_eq hf⟩

theorem holdsOwnParts_of_parse (h : parse text file = .ok ds) : ∀ d ∈ ds, d.HoldsOwnParts := by
  obtain ⟨ts, -, hf⟩ := isFile_of_parse h
  exact hf.holdsOwnParts

theorem wellNamed_of_parse (h : parse text file = .ok ds) : ∀ d ∈ ds, Naming.WellNamed d :=
  (Naming.check_eq_ok_iff.mp (readDeclarations_of_parse h).2).1

theorem nodup_of_parse (h : parse text file = .ok ds) : (ds.map (·.name)).Nodup :=
  (Naming.check_eq_ok_iff.mp (readDeclarations_of_parse h).2).2

end DomainModel
