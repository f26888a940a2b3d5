import DomainModel.Main
import DomainModel.Live.Session
import DomainModel.Decimal.Shortest
import DomainModel.Proofs.Source.Documenting
import DomainModel.Proofs.Source.ErrorPosition
import DomainModel.Proofs.Generation.Agreement
import DomainModel.Proofs.Generation.Outline
import DomainModel.Proofs.Generation.Binding
import DomainModel.Proofs.Generation.Scope
import DomainModel.Proofs.Text.Literal
import DomainModel.Proofs.Generation.Undocumented
import DomainModel.Proofs.Generation.Documentation
import DomainModel.Proofs.Target.Scanner
import DomainModel.Proofs.Target.Block
import DomainModel.Proofs.Target.Reading
import DomainModel.Proofs.Target.TypeExpression
import DomainModel.Proofs.Target.Reads
import DomainModel.Proofs.Target.Suite
import DomainModel.Proofs.Target.Expression
import DomainModel.Proofs.Target.Line
import DomainModel.Proofs.Target.Placed
import DomainModel.Proofs.Target.Member
import DomainModel.Proofs.Target.Layout
import DomainModel.Proofs.Target.Class
import DomainModel.Proofs.Target.Module
import DomainModel.Proofs.Target.Rendering
import DomainModel.Proofs.Live.Events
import DomainModel.Proofs.Live.Histories
import DomainModel.Proofs.Live.Coherence
import DomainModel.Proofs.CommandLine.Generating
import DomainModel.Proofs.Text.Docstring
import DomainModel.Proofs.Generation.Skeleton
import DomainModel.Proofs.Generation.Reordering
import DomainModel.Proofs.Live.Copies
import DomainModel.Proofs.Live.Deriving
import DomainModel.Proofs.Live.ValueObjects
import DomainModel.Proofs.Naming.Faults
import DomainModel.Proofs.Generation.Conditions
import DomainModel.Proofs.Generation.Stages
import DomainModel.Proofs.Generation.Synthesis
import DomainModel.Proofs.Generation.Arguments
import DomainModel.Proofs.Source.Keywords
import DomainModel.Proofs.Source.CarriageReturns
import DomainModel.Proofs.Live.Publishing
import DomainModel.Proofs.Target.Annotation
import DomainModel.Proofs.Source.Numbers
import DomainModel.Proofs.Target.Documented
import DomainModel.Proofs.CommandLine.Reporting
