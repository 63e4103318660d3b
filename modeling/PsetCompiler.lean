import PsetCompiler.Applicability.Resolve
import PsetCompiler.Catalog
import PsetCompiler.Checked
import PsetCompiler.CommandLine.Command
import PsetCompiler.CommandLine.Drawing
import PsetCompiler.CommandLine.Execute
import PsetCompiler.CommandLine.Layout
import PsetCompiler.CommandLine.Session
import PsetCompiler.Definition.Folder
import PsetCompiler.Definition.Header
import PsetCompiler.Definition.KnownClasses
import PsetCompiler.Definition.Predefined
import PsetCompiler.Definition.Property
import PsetCompiler.Definition.Set
import PsetCompiler.Diagnostic
import PsetCompiler.Digest.Sha1
import PsetCompiler.Entity.Declaration
import PsetCompiler.Entity.Document
import PsetCompiler.Entity.Forest
import PsetCompiler.Entity.Offered
import PsetCompiler.Entity.Query
import PsetCompiler.Entity.Registry
import PsetCompiler.Entity.SchemaFile
import PsetCompiler.Enumeration.Block
import PsetCompiler.Enumeration.Collect
import PsetCompiler.Enumeration.Source
import PsetCompiler.Failure
import PsetCompiler.Files.Path
import PsetCompiler.Files.Tree
import PsetCompiler.Guid
import PsetCompiler.Initializer.Entry
import PsetCompiler.Initializer.Source
import PsetCompiler.Json
import PsetCompiler.Json.Limit
import PsetCompiler.Json.Parser
import PsetCompiler.Json.Printer
import PsetCompiler.Json.Rounded
import PsetCompiler.Main
import PsetCompiler.Markup.ContentModel
import PsetCompiler.Markup.Doctype
import PsetCompiler.Markup.Document
import PsetCompiler.Markup.Element
import PsetCompiler.Markup.Expansion
import PsetCompiler.Markup.Name
import PsetCompiler.Markup.Notice
import PsetCompiler.Markup.Reader
import PsetCompiler.Markup.Scope
import PsetCompiler.Markup.SpaceName
import PsetCompiler.Markup.Subset
import PsetCompiler.Markup.Token
import PsetCompiler.Markup.Tree
import PsetCompiler.Parameter
import PsetCompiler.Parameter.Classify
import PsetCompiler.Parameter.File
import PsetCompiler.Parameter.Inference
import PsetCompiler.Parameter.Merge
import PsetCompiler.Parameter.Row
import PsetCompiler.Pipeline.Config
import PsetCompiler.Pipeline.Run
import PsetCompiler.Property
import PsetCompiler.PropertySet
import PsetCompiler.Report
import PsetCompiler.Settings.Applicability
import PsetCompiler.Settings.Definitions
import PsetCompiler.Settings.Enumerations
import PsetCompiler.Settings.Field
import PsetCompiler.Settings.Initializer
import PsetCompiler.Settings.Parameters
import PsetCompiler.Settings.Schemas
import PsetCompiler.Source.Name
import PsetCompiler.Stage
import PsetCompiler.Stage.Applicability
import PsetCompiler.Stage.Course
import PsetCompiler.Stage.Definitions
import PsetCompiler.Stage.Enumerations
import PsetCompiler.Stage.Initializer
import PsetCompiler.Stage.Job
import PsetCompiler.Stage.Parameters
import PsetCompiler.Stage.Schemas
import PsetCompiler.Text.Blank
import PsetCompiler.Text.Digit
import PsetCompiler.Text.Encoding
import PsetCompiler.Text.Letter
import PsetCompiler.Text.Letter.Fold
import PsetCompiler.Text.Letter.Run
import PsetCompiler.Text.Letter.Upper
import PsetCompiler.Text.Order
import PsetCompiler.Text.Printable
import PsetCompiler.Text.Quoted
import PsetCompiler.Text.Spelled
import PsetCompiler.Text.Split
import PsetCompiler.Text.Utf16
import PsetCompiler.Text.Utf8
import PsetCompiler.Text.Width
import PsetCompiler.Workspace
import PsetCompiler.Proofs.Entity.Walk
import PsetCompiler.Proofs.Entity.Declared
import PsetCompiler.Proofs.Outcome
import PsetCompiler.Proofs.Parameter.Merge
import PsetCompiler.Proofs.Text.Blank
import PsetCompiler.Proofs.Text.Split
import PsetCompiler.Proofs.Text.Digit
import PsetCompiler.Proofs.Text.Lines
import PsetCompiler.Proofs.Text.Utf8
import PsetCompiler.Proofs.Guid
import PsetCompiler.Proofs.Guid.Spelling
import PsetCompiler.Proofs.Parameter.Row
import PsetCompiler.Proofs.Text.Order
import PsetCompiler.Proofs.Files.Tree
import PsetCompiler.Proofs.Files.Stored
import PsetCompiler.Proofs.Parameter.File
import PsetCompiler.Proofs.Parameter.Ledger
import PsetCompiler.Proofs.Stage.Parameters
import PsetCompiler.Proofs.Stage.Regeneration
import PsetCompiler.Proofs.Entity.Inheritance
import PsetCompiler.Proofs.Entity.Query
import PsetCompiler.Proofs.Applicability.Resolve
import PsetCompiler.Proofs.Applicability.Pair
import PsetCompiler.Proofs.Definition.Property
import PsetCompiler.Proofs.Definition.Set
import PsetCompiler.Proofs.Initializer.Entry
import PsetCompiler.Proofs.Parameter.Identified
import PsetCompiler.Proofs.Definition.Accepted
import PsetCompiler.Proofs.Enumeration.Collected
import PsetCompiler.Proofs.Initializer.Reference
import PsetCompiler.Proofs.Parameter.Mirror
import PsetCompiler.Proofs.Parameter.RoundTrip
import PsetCompiler.Proofs.Json.Depth
import PsetCompiler.Proofs.Checked
import PsetCompiler.Proofs.Catalog.Property
import PsetCompiler.Proofs.Catalog.RoundTrip
import PsetCompiler.Proofs.Entity.Alike
import PsetCompiler.Proofs.Entity.Document
import PsetCompiler.Proofs.Entity.Restored
import PsetCompiler.Proofs.Entity.Registry
import PsetCompiler.Proofs.Definition.Leaves
import PsetCompiler.Proofs.Parameter.Distinct
import PsetCompiler.Proofs.Entity.Order
import PsetCompiler.Proofs.Entity.Edge
import PsetCompiler.Proofs.Markup.Space
import PsetCompiler.Proofs.Markup.Readers
import PsetCompiler.Proofs.Markup.Without
import PsetCompiler.Proofs.Definition.Header
import PsetCompiler.Proofs.Definition.Parts
import PsetCompiler.Proofs.Definition.Shape
import PsetCompiler.Proofs.Initializer.Qualified
import PsetCompiler.Proofs.Parameter.Cut
import PsetCompiler.Proofs.Parameter.Lost
import PsetCompiler.Proofs.Entries
import PsetCompiler.Proofs.Files.Proper
import PsetCompiler.Proofs.Files.Without
import PsetCompiler.Proofs.Definition.Folder
import PsetCompiler.Proofs.Logs
import PsetCompiler.Proofs.Definition.Reports
import PsetCompiler.Proofs.Stage.Definitions
import PsetCompiler.Proofs.Stage.AllOrNothing
import PsetCompiler.Proofs.Source.Name
import PsetCompiler.Proofs.Enumeration.Named
import PsetCompiler.Proofs.Initializer.Built
import PsetCompiler.Proofs.Initializer.Declared
import PsetCompiler.Proofs.Source.Literal
import PsetCompiler.Proofs.Initializer.Quoted
import PsetCompiler.Proofs.Initializer.Literals
import PsetCompiler.Proofs.Parameter.Failing
import PsetCompiler.Proofs.Firsts
import PsetCompiler.Proofs.Enumeration.Gathered
import PsetCompiler.Proofs.Enumeration.Members
import PsetCompiler.Proofs.Parameter.Seeded
import PsetCompiler.Proofs.Parameter.Damaged
import PsetCompiler.Proofs.Text.Letter
import PsetCompiler.Proofs.Catalog.Order
import PsetCompiler.Proofs.Entity.Preorder
import PsetCompiler.Proofs.Entity.Outline
import PsetCompiler.Proofs.Entity.Supertypes
import PsetCompiler.Proofs.Initializer.Lossless
import PsetCompiler.Proofs.Enumeration.ReadBack
import PsetCompiler.Proofs.Source.Mark
import PsetCompiler.Proofs.Enumeration.Classes
import PsetCompiler.Proofs.Stage.Predefined
import PsetCompiler.Proofs.Definition.Members
import PsetCompiler.Proofs.Definition.Identifier
import PsetCompiler.Proofs.Definition.Applicable
import PsetCompiler.Proofs.Markup.Names
import PsetCompiler.Proofs.Definition.Enumerated
import PsetCompiler.Proofs.Parameter.Guesses
import PsetCompiler.Proofs.Pipeline.Inputs
import PsetCompiler.Proofs.Enumeration.Identifiers
import PsetCompiler.Proofs.Entity.Offered
import PsetCompiler.Proofs.Applicability.Version
import PsetCompiler.Proofs.Entity.PredefinedTypes
