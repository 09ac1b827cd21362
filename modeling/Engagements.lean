import Engagements.Catalog
import Engagements.Codec
import Engagements.CommandLine
import Engagements.CommandLine.Arguments
import Engagements.CommandLine.Help
import Engagements.Date
import Engagements.Decimal
import Engagements.Double
import Engagements.Engagement
import Engagements.Error
import Engagements.Filter
import Engagements.Json.Printer
import Engagements.Json.Reader
import Engagements.Main
import Engagements.Pattern
import Engagements.Pipeline
import Engagements.Pipeline.Expr
import Engagements.Pipeline.Projection
import Engagements.Pipeline.Rendering
import Engagements.Pipeline.Run
import Engagements.Planner
import Engagements.Predicate
import Engagements.Predicate.Rendering
import Engagements.Proofs.Catalog.Answers
import Engagements.Proofs.Catalog.Complement
import Engagements.Proofs.Catalog.GroupValues
import Engagements.Proofs.Catalog.Groups
import Engagements.Proofs.Catalog.Included
import Engagements.Proofs.Catalog.Pages
import Engagements.Proofs.Catalog.Partition
import Engagements.Proofs.Codec
import Engagements.Proofs.Codec.Rewriting
import Engagements.Proofs.Codec.RoundTrip
import Engagements.Proofs.Date
import Engagements.Proofs.Decimal
import Engagements.Proofs.Decimal.Text
import Engagements.Proofs.Double
import Engagements.Proofs.Engagement
import Engagements.Proofs.Engagement.Rewriting
import Engagements.Proofs.Engagement.RoundTrip
import Engagements.Proofs.Fields
import Engagements.Proofs.Json
import Engagements.Proofs.Json.Compact
import Engagements.Proofs.Path
import Engagements.Proofs.Path.Containment
import Engagements.Proofs.Path.Parting
import Engagements.Proofs.Path.Writing
import Engagements.Proofs.Pipeline
import Engagements.Proofs.Pipeline.Equality
import Engagements.Proofs.Pipeline.Groups
import Engagements.Proofs.Pipeline.Sorting
import Engagements.Proofs.Pipeline.Unwinding
import Engagements.Proofs.Planner
import Engagements.Proofs.Planner.Answers
import Engagements.Proofs.Planner.Flattening
import Engagements.Proofs.Planner.Grouping
import Engagements.Proofs.Planner.Naming
import Engagements.Proofs.Planner.Unwinding
import Engagements.Proofs.Predicate
import Engagements.Proofs.Predicate.Rendering
import Engagements.Proofs.Predicate.Scalar
import Engagements.Proofs.Predicate.Scoping
import Engagements.Proofs.Projection
import Engagements.Proofs.Projection.Alignment
import Engagements.Proofs.Projection.Exclusion
import Engagements.Proofs.Projection.Exposure
import Engagements.Proofs.Projection.Inclusion
import Engagements.Proofs.Projection.Merging
import Engagements.Proofs.Projection.Parts
import Engagements.Proofs.Projection.Picking
import Engagements.Proofs.Projection.Retention
import Engagements.Proofs.Regex
import Engagements.Proofs.Regex.Literal
import Engagements.Proofs.Regex.Room
import Engagements.Proofs.Registry
import Engagements.Proofs.Registry.Conflict
import Engagements.Proofs.Registry.Failure
import Engagements.Proofs.Registry.Identity
import Engagements.Proofs.Registry.Lookup
import Engagements.Proofs.Registry.Names
import Engagements.Proofs.Registry.Participants
import Engagements.Proofs.Registry.ServerFields
import Engagements.Proofs.Registry.SubDomains
import Engagements.Proofs.Registry.Suggestions
import Engagements.Proofs.Registry.WriteBack
import Engagements.Proofs.Revision
import Engagements.Proofs.Revision.History
import Engagements.Proofs.Search.Calendar
import Engagements.Proofs.Search.Component
import Engagements.Proofs.Search.Equality
import Engagements.Proofs.Search.Fragment
import Engagements.Proofs.Search.Independence
import Engagements.Proofs.Search.Integers
import Engagements.Proofs.Search.Likeness
import Engagements.Proofs.Search.Pieces
import Engagements.Proofs.Search.Reading
import Engagements.Proofs.Search.States
import Engagements.Proofs.Store
import Engagements.Proofs.Store.Update
import Engagements.Proofs.Text
import Engagements.Proofs.Text.Sets
import Engagements.Proofs.Value
import Engagements.Proofs.Value.Equality
import Engagements.Proofs.Value.Order
import Engagements.Proofs.Version
import Engagements.Proofs.Version.Issuing
import Engagements.Regex
import Engagements.Regex.Escape
import Engagements.Regex.Layout
import Engagements.Regex.Reader
import Engagements.Regex.Room
import Engagements.Regex.Token
import Engagements.Registry
import Engagements.Revision
import Engagements.Search.Component
import Engagements.Search.Expression
import Engagements.Search.Field
import Engagements.Search.State
import Engagements.Settings
import Engagements.Settings.File
import Engagements.Settings.Ini
import Engagements.Settings.JsonFive
import Engagements.Settings.Layer
import Engagements.Settings.Placing
import Engagements.Settings.Ron
import Engagements.Settings.Scalar
import Engagements.Settings.Setting
import Engagements.Settings.Toml.Reader
import Engagements.Settings.Toml.Scalar
import Engagements.Settings.Variables
import Engagements.Settings.Yaml.Reader
import Engagements.Settings.Yaml.Scalar
import Engagements.Settings.Yaml.Scanner
import Engagements.Store
import Engagements.Text
import Engagements.Text.Quoted
import Engagements.Unicode.Age
import Engagements.Unicode.Casing
import Engagements.Unicode.Category
import Engagements.Unicode.CharSet
import Engagements.Unicode.Current
import Engagements.Unicode.Encoding
import Engagements.Unicode.Folding
import Engagements.Unicode.Property
import Engagements.Unicode.PropertyName
import Engagements.Unicode.Script
import Engagements.Unicode.Segmentation
import Engagements.Value
import Engagements.Value.Order
import Engagements.Value.Path
import Engagements.Version
import Engagements.Width
