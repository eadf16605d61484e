import AssetFlow.Asset
import AssetFlow.Asset.Codec
import AssetFlow.Calendar
import AssetFlow.Check.Query
import AssetFlow.Check.Run
import AssetFlow.CommandLine.Arguments
import AssetFlow.CommandLine.Command
import AssetFlow.CommandLine.Configure
import AssetFlow.CommandLine.Error
import AssetFlow.CommandLine.Report
import AssetFlow.CommandLine.Session
import AssetFlow.Digest
import AssetFlow.Document.Binary64
import AssetFlow.Document.Decimal
import AssetFlow.Document.Decode
import AssetFlow.Document.Describe
import AssetFlow.Document.Json
import AssetFlow.Document.Value
import AssetFlow.Document.Yaml.Parser
import AssetFlow.Document.Yaml.Scalar
import AssetFlow.Document.Yaml.Scanner
import AssetFlow.Document.Yaml.Token
import AssetFlow.Files.Path
import AssetFlow.Files.Tree
import AssetFlow.Graph
import AssetFlow.Graph.Assets
import AssetFlow.Lineage.Infer
import AssetFlow.Lineage.Merge
import AssetFlow.Lineage.Resolve
import AssetFlow.Main
import AssetFlow.Pipeline
import AssetFlow.Pipeline.Load
import AssetFlow.Proofs.Calendar
import AssetFlow.Proofs.Calendar.Order
import AssetFlow.Proofs.Check.Blocking
import AssetFlow.Proofs.Check.Query
import AssetFlow.Proofs.CommandLine.ReadOrder
import AssetFlow.Proofs.Document.Decode
import AssetFlow.Proofs.Document.Json
import AssetFlow.Proofs.Files.Folder
import AssetFlow.Proofs.Files.Path
import AssetFlow.Proofs.Files.Tree
import AssetFlow.Proofs.Graph.Acyclic
import AssetFlow.Proofs.Graph.Ancestry
import AssetFlow.Proofs.Graph.Order
import AssetFlow.Proofs.Graph.Reach
import AssetFlow.Proofs.Graph.Relatives
import AssetFlow.Proofs.Graph.ShortestCycle
import AssetFlow.Proofs.Lineage.Analysis
import AssetFlow.Proofs.Lineage.Cycle
import AssetFlow.Proofs.Lineage.Growth
import AssetFlow.Proofs.Lineage.Idempotence
import AssetFlow.Proofs.Lineage.Infer
import AssetFlow.Proofs.Lineage.Inferred
import AssetFlow.Proofs.Lineage.Known
import AssetFlow.Proofs.Lineage.LoadOrder
import AssetFlow.Proofs.Lineage.Lookup
import AssetFlow.Proofs.Lineage.Merge
import AssetFlow.Proofs.Lineage.Passthrough
import AssetFlow.Proofs.Lineage.Resolve
import AssetFlow.Proofs.Lineage.Retyping
import AssetFlow.Proofs.Lineage.SelfReference
import AssetFlow.Proofs.Pipeline.Fingerprint
import AssetFlow.Proofs.Run.Account
import AssetFlow.Proofs.Run.Bookkeeping
import AssetFlow.Proofs.Run.Chain
import AssetFlow.Proofs.Run.Completion
import AssetFlow.Proofs.Run.Contention
import AssetFlow.Proofs.Run.Execution
import AssetFlow.Proofs.Run.LifeCycle
import AssetFlow.Proofs.Run.Newest
import AssetFlow.Proofs.Run.Ordering
import AssetFlow.Proofs.Run.Plan
import AssetFlow.Proofs.Run.Process
import AssetFlow.Proofs.Run.Progress
import AssetFlow.Proofs.Run.Record
import AssetFlow.Proofs.Run.Rerun
import AssetFlow.Proofs.Run.Resume
import AssetFlow.Proofs.Run.RootCause
import AssetFlow.Proofs.Run.RoundTrip
import AssetFlow.Proofs.Run.Saved
import AssetFlow.Proofs.Run.Schedule
import AssetFlow.Proofs.Run.Selection
import AssetFlow.Proofs.Run.Simulation
import AssetFlow.Proofs.Run.State
import AssetFlow.Proofs.Run.Statement
import AssetFlow.Proofs.Run.Status
import AssetFlow.Proofs.Run.Store
import AssetFlow.Proofs.Run.Strict
import AssetFlow.Proofs.Run.Task
import AssetFlow.Proofs.Run.TaskGraph
import AssetFlow.Proofs.Run.Window
import AssetFlow.Proofs.Sql.Absent
import AssetFlow.Proofs.Sql.AliasColumns
import AssetFlow.Proofs.Sql.Correlation
import AssetFlow.Proofs.Sql.Counterpart
import AssetFlow.Proofs.Sql.Dependence
import AssetFlow.Proofs.Sql.Inline
import AssetFlow.Proofs.Sql.KnownTables
import AssetFlow.Proofs.Sql.Matching
import AssetFlow.Proofs.Sql.Origin
import AssetFlow.Proofs.Sql.PlainName
import AssetFlow.Proofs.Sql.Quoted
import AssetFlow.Proofs.Sql.ReadTables
import AssetFlow.Proofs.Sql.References
import AssetFlow.Proofs.Sql.SetOperation
import AssetFlow.Proofs.Sql.StarQuery
import AssetFlow.Proofs.Sql.TableSpelling
import AssetFlow.Proofs.Sql.TokenRow
import AssetFlow.Proofs.Sql.UnqualifiedColumn
import AssetFlow.Proofs.Sql.UsingJoin
import AssetFlow.Proofs.Template.Plain
import AssetFlow.Proofs.Text.Case
import AssetFlow.Proofs.Text.Split
import AssetFlow.Proofs.Warehouse.Lock
import AssetFlow.Proofs.Warehouse.Name
import AssetFlow.Run.Config
import AssetFlow.Run.Contention
import AssetFlow.Run.Execution
import AssetFlow.Run.Plan
import AssetFlow.Run.Process
import AssetFlow.Run.Recorder
import AssetFlow.Run.Runner
import AssetFlow.Run.Scheduler
import AssetFlow.Run.Simulation
import AssetFlow.Run.State
import AssetFlow.Run.Store
import AssetFlow.Run.Strict
import AssetFlow.Run.Task
import AssetFlow.Sql.Dialect
import AssetFlow.Sql.Dialect.Grammar
import AssetFlow.Sql.Grammar.Alter
import AssetFlow.Sql.Grammar.Basic
import AssetFlow.Sql.Grammar.Change
import AssetFlow.Sql.Grammar.Column
import AssetFlow.Sql.Grammar.Create
import AssetFlow.Sql.Grammar.Function
import AssetFlow.Sql.Grammar.Name
import AssetFlow.Sql.Grammar.Operand
import AssetFlow.Sql.Grammar.Operator
import AssetFlow.Sql.Grammar.Operator.Strength
import AssetFlow.Sql.Grammar.Pipe
import AssetFlow.Sql.Grammar.Query
import AssetFlow.Sql.Grammar.Relation
import AssetFlow.Sql.Grammar.Reserved
import AssetFlow.Sql.Grammar.Select
import AssetFlow.Sql.Grammar.Session
import AssetFlow.Sql.Grammar.Special
import AssetFlow.Sql.Grammar.Statement
import AssetFlow.Sql.Grammar.Transaction
import AssetFlow.Sql.Grammar.Type
import AssetFlow.Sql.Grammar.Value
import AssetFlow.Sql.Grammar.Wildcard
import AssetFlow.Sql.Keyword
import AssetFlow.Sql.Lineage
import AssetFlow.Sql.Quoted
import AssetFlow.Sql.Render
import AssetFlow.Sql.Schema
import AssetFlow.Sql.Syntax
import AssetFlow.Sql.Tables
import AssetFlow.Sql.Token
import AssetFlow.Sql.Token.Lexer
import AssetFlow.Sql.Token.Literal
import AssetFlow.Template.Filter
import AssetFlow.Template.Operator
import AssetFlow.Template.Parser
import AssetFlow.Template.Render
import AssetFlow.Template.Syntax
import AssetFlow.Template.Token
import AssetFlow.Template.Value
import AssetFlow.Template.Window
import AssetFlow.Text.Blank
import AssetFlow.Text.Case
import AssetFlow.Text.Letter
import AssetFlow.Text.Quote
import AssetFlow.Warehouse
import AssetFlow.Warehouse.Lock
import AssetFlow.Warehouse.Name
import AssetFlow.Work
