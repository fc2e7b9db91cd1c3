import StackSynth.Backend
import StackSynth.Build
import StackSynth.Catalog
import StackSynth.CommandLine.Arguments
import StackSynth.CommandLine.FileTree
import StackSynth.CommandLine.Run
import StackSynth.Configuration.Basic
import StackSynth.Configuration.Error
import StackSynth.Configuration.Load
import StackSynth.Configuration.Outline
import StackSynth.Configuration.Parse
import StackSynth.Decimal.Basic
import StackSynth.Decimal.Layout
import StackSynth.Decimal.Reading
import StackSynth.Decimal.Shortest
import StackSynth.Diagnostics
import StackSynth.Document.Basic
import StackSynth.Document.ToValue
import StackSynth.Entries
import StackSynth.Hcl.Body
import StackSynth.Hcl.Expression
import StackSynth.Hcl.Template
import StackSynth.Json
import StackSynth.Main
import StackSynth.Marker
import StackSynth.Naming
import StackSynth.Registry
import StackSynth.Resolution
import StackSynth.ResourceType
import StackSynth.Stack.Basic
import StackSynth.Stack.Render
import StackSynth.Text.Blank
import StackSynth.Text.Hex
import StackSynth.Text.Identifier
import StackSynth.Text.Identifier.Table
import StackSynth.Text.Lowercase
import StackSynth.Text.Lowercase.Table
import StackSynth.Text.Path
import StackSynth.Text.Quoted
import StackSynth.Text.Quoted.Table
import StackSynth.Text.Ranges
import StackSynth.Text.Split
import StackSynth.Value.Basic
import StackSynth.Value.Strings
import StackSynth.Yaml.Cursor
import StackSynth.Yaml.Node.Basic
import StackSynth.Yaml.Node.Parse
import StackSynth.Yaml.Reading
import StackSynth.Yaml.Scalar
import StackSynth.Yaml.Style
import StackSynth.Yaml.Token.Basic
import StackSynth.Yaml.Token.Property
import StackSynth.Yaml.Token.Scalar
import StackSynth.Yaml.Token.Scan
import StackSynth.Yaml.Writer
import StackSynth.Proofs.Build.Attempt
import StackSynth.Proofs.Build.Course
import StackSynth.Proofs.Resolution.Leaves
import StackSynth.Proofs.Build.Calls
import StackSynth.Proofs.Stack.Insertion
import StackSynth.Proofs.Stack.Reachable
import StackSynth.Proofs.Stack.Calls
import StackSynth.Proofs.Stack.Tokens
import StackSynth.Proofs.Build.OnStack
import StackSynth.Proofs.Build.Recording
import StackSynth.Proofs.Resolution.Places
import StackSynth.Proofs.Build.Survivors
import StackSynth.Proofs.Build.Reordering
import StackSynth.Proofs.Build.Settlement
import StackSynth.Proofs.Build.References
import StackSynth.Proofs.Build.Outputs
import StackSynth.Proofs.Hcl.Interpolation
import StackSynth.Proofs.Hcl.TemplateReading
import StackSynth.Proofs.Build.Standing
import StackSynth.Proofs.Build.Recall
import StackSynth.Proofs.Build.Journal
import StackSynth.Proofs.Json.Unambiguous
import StackSynth.Proofs.Stack.Sections
import StackSynth.Proofs.Build.Rendering
import StackSynth.Proofs.Configuration.Arrangement
import StackSynth.Proofs.Resolution.Substitution
import StackSynth.Proofs.Resolution.Footprint
import StackSynth.Proofs.Resolution.Literals
import StackSynth.Proofs.Build.Requests
import StackSynth.Proofs.Configuration.Tags
import StackSynth.Proofs.CommandLine.Options
import StackSynth.Proofs.CommandLine.Synthesis
import StackSynth.Proofs.Build.Explanations
import StackSynth.Proofs.Stack.Bodies
import StackSynth.Proofs.Document.Conversion
import StackSynth.Proofs.Configuration.Shape
import StackSynth.Proofs.Configuration.Decision
import StackSynth.Proofs.Stack.HclDocument
import StackSynth.Proofs.Hcl.Scan
import StackSynth.Proofs.Text.Trimming
import StackSynth.Proofs.Text.Lowercase
import StackSynth.Proofs.Configuration.Names
import StackSynth.Proofs.Build.Retagging
