import ColumnTypes.ColumnType.Collection
import ColumnTypes.Comparison
import ColumnTypes.Diagnostic.Json
import ColumnTypes.Proofs.Components
import ColumnTypes.Proofs.Denotation
import ColumnTypes.Proofs.Display
import ColumnTypes.Registry.Handles
import ColumnTypes.Spelling.RoundTrip
import ColumnTypes.Text.RoundTrip
import ColumnTypes.Scalar
import ColumnTypes.TypeError
import ColumnTypes.Proofs.Loading
import ColumnTypes.Proofs.RegistryLog
import ColumnTypes.Proofs.Faults
import ColumnTypes.Proofs.Canonical
import ColumnTypes.Proofs.ClassPaths
import ColumnTypes.Proofs.ExternalClasses
import ColumnTypes.Proofs.SharedRegistries
import ColumnTypes.Proofs.NameTexts
import ColumnTypes.Proofs.TypeEquality
import ColumnTypes.Proofs.Spacing
import ColumnTypes.Proofs.TooDeep
import ColumnTypes.Proofs.UniqueSpelling
import ColumnTypes.Proofs.Views
import ColumnTypes.Proofs.ViewTexts
import ColumnTypes.Proofs.Rebuilding
import ColumnTypes.Proofs.Lookups
import ColumnTypes.Proofs.CaseFolding
import ColumnTypes.ColumnType.Construction
import ColumnTypes.Proofs.DiagnosticForms
import ColumnTypes.Proofs.Copies
import ColumnTypes.Proofs.DirectReading
