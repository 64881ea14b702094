import SchemaScribe.CommandLine.Run
import SchemaScribe.Database.Description
import SchemaScribe.Generation.Timing
import SchemaScribe.Listing.Description
import SchemaScribe.Main
import SchemaScribe.Model.Reading
import SchemaScribe.Model.Writing
import SchemaScribe.Proofs.Keys
import SchemaScribe.Proofs.Model.Built
import SchemaScribe.Proofs.Model.Pairing
import SchemaScribe.Proofs.Model.WellNamed
import SchemaScribe.Proofs.Model.Drafts
import SchemaScribe.Proofs.Model.Ends
import SchemaScribe.Proofs.Model.Failures
import SchemaScribe.Proofs.Model.Order
import SchemaScribe.Proofs.Model.Precedence
import SchemaScribe.Proofs.Naming.Names
import SchemaScribe.Proofs.Outcome
import SchemaScribe.Proofs.Render.Paths
import SchemaScribe.Proofs.Text.Identifier
import SchemaScribe.Proofs.Text.Content
import SchemaScribe.Proofs.Text.Escapes
import SchemaScribe.Proofs.Text.Parts
import SchemaScribe.Proofs.Text.Runs
import SchemaScribe.Proofs.Catalog.Check
import SchemaScribe.Proofs.Catalog.WellFormed
import SchemaScribe.Proofs.Model.Closure
import SchemaScribe.Proofs.Render.Constraints
import SchemaScribe.Proofs.Output.Region
import SchemaScribe.Proofs.Output.Merging
import SchemaScribe.Proofs.Render.Flat
import SchemaScribe.Proofs.Render.Units
import SchemaScribe.Proofs.Render.Texts
import SchemaScribe.Proofs.Files.Tree
import SchemaScribe.Proofs.Output.Writer
import SchemaScribe.Proofs.Output.Records
import SchemaScribe.Proofs.Generation.Run
import SchemaScribe.Proofs.Generation.Survival
import SchemaScribe.Proofs.Generation.Idempotence
import SchemaScribe.Proofs.Model.Accounts
import SchemaScribe.Proofs.Model.Representation
import SchemaScribe.Proofs.Render.Docstrings
import SchemaScribe.Proofs.Text.Reading
import SchemaScribe.Proofs.Render.Pieces
import SchemaScribe.Proofs.Render.Imports
import SchemaScribe.Proofs.Render.Coverage
import SchemaScribe.Proofs.Render.Isolation
import SchemaScribe.Proofs.Generation.Failure
import SchemaScribe.Proofs.Files.Ways
import SchemaScribe.Proofs.Files.Growth
import SchemaScribe.Proofs.Files.Writing
import SchemaScribe.Proofs.Output.Isolation
import SchemaScribe.Proofs.Output.DryRun
import SchemaScribe.Proofs.Generation.Foresight
import SchemaScribe.Proofs.Database.Release
import SchemaScribe.Proofs.Render.Nullability
import SchemaScribe.Proofs.Naming.Bounds
import SchemaScribe.Proofs.Model.Untyped
import SchemaScribe.Proofs.Model.Bounds
import SchemaScribe.Proofs.Model.Crowding
import SchemaScribe.Proofs.Model.ConstraintKeys
import SchemaScribe.Proofs.Model.Dropped
import SchemaScribe.Proofs.Render.Columns
import SchemaScribe.Proofs.Render.JoinTables
import SchemaScribe.Proofs.Render.InputFields
import SchemaScribe.Proofs.Render.OptionalRelations
import SchemaScribe.Proofs.Database.Reordering
import SchemaScribe.Proofs.Database.Escapes
import SchemaScribe.Proofs.Text.Lowercase
import SchemaScribe.Proofs.Text.Inflection
import SchemaScribe.Proofs.Updates
import SchemaScribe.Proofs.Config.Reading
import SchemaScribe.Proofs.CommandLine.TypeOverrides
import SchemaScribe.Proofs.Text.LegalName
import SchemaScribe.Proofs.Render.JoinConditions
import SchemaScribe.Proofs.Document.Yaml
import SchemaScribe.Proofs.Document.Settings
import SchemaScribe.Proofs.Connection.Descriptor
import SchemaScribe.Proofs.Project.Skeleton
import SchemaScribe.Proofs.Text.Styles
import SchemaScribe.Proofs.Naming.TypeKeys
import SchemaScribe.Proofs.Output.CanonicalText
