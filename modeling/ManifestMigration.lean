import ManifestMigration.Main
import ManifestMigration.Proofs.Version.Preorder
import ManifestMigration.Proofs.Version.Range
import ManifestMigration.Proofs.Version.Text
import ManifestMigration.Proofs.Version.Successor
import ManifestMigration.Proofs.Version.SortKey
import ManifestMigration.Proofs.Constraint.Operations
import ManifestMigration.Proofs.Constraint.Bounds
import ManifestMigration.Proofs.Constraint.Reading
import ManifestMigration.Proofs.Constraint.Specifier
import ManifestMigration.Proofs.Constraint.Lossless
import ManifestMigration.Proofs.Constraint.Algebra
import ManifestMigration.Proofs.Constraint.Display
import ManifestMigration.Proofs.Constraint.Grammar
import ManifestMigration.Proofs.Constraint.Composition
import ManifestMigration.Proofs.Constraint.Caret
import ManifestMigration.Proofs.Constraint.Series
import ManifestMigration.Proofs.Constraint.Tilde
import ManifestMigration.Proofs.Constraint.Interpreter
import ManifestMigration.Proofs.Restoration
import ManifestMigration.Proofs.Migration.Undo
import ManifestMigration.Proofs.Migration.Refusal
import ManifestMigration.Proofs.Migration.Effect
import ManifestMigration.Proofs.Backup.History
import ManifestMigration.Proofs.Migration.Repetition
import ManifestMigration.Proofs.Manifest.Settings
import ManifestMigration.Proofs.Manifest.Declarations
import ManifestMigration.Proofs.Manifest.People
import ManifestMigration.Proofs.Manifest.Publication
import ManifestMigration.Proofs.Manifest.BuildBackend
import ManifestMigration.Proofs.Manifest.Writing
import ManifestMigration.Proofs.Manifest.Interpreter
import ManifestMigration.Proofs.Manifest.Rereading
import ManifestMigration.Proofs.Manifest.Conditions
import ManifestMigration.Proofs.Marker.Quotes
import ManifestMigration.Proofs.Dependency.Shapes
import ManifestMigration.Proofs.Dependency.Rendering
import ManifestMigration.Proofs.Filesystem.Faithful
import ManifestMigration.Proofs.Layout
import ManifestMigration.Proofs.Name.NormalForm
import ManifestMigration.Proofs.Manifest.Mentions
import ManifestMigration.Proofs.Version.Ascent
import ManifestMigration.Proofs.Backup.Reading
