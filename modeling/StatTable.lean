import StatTable.Binary64.Basic
import StatTable.Binary64.Layout
import StatTable.Binary64.Rounding
import StatTable.Binary64.Shortest
import StatTable.Catalog.Basic
import StatTable.Catalog.Column
import StatTable.Catalog.Defaults
import StatTable.Catalog.Fantasy
import StatTable.Catalog.Games
import StatTable.Catalog.Markets
import StatTable.Catalog.Players
import StatTable.Catalog.Plays
import StatTable.Catalog.Rate
import StatTable.Catalog.Relation
import StatTable.Catalog.Split
import StatTable.CommandLine.Arguments
import StatTable.CommandLine.Basic
import StatTable.CommandLine.Help
import StatTable.CommandLine.Surroundings
import StatTable.Digest.Sha256
import StatTable.Duration
import StatTable.FileTree
import StatTable.Json.Basic
import StatTable.Json.Number
import StatTable.Json.Printer
import StatTable.Json.Reader
import StatTable.Json.Token
import StatTable.Param.Basic
import StatTable.Param.Key
import StatTable.Param.Value
import StatTable.Plan.Basic
import StatTable.Plan.Binding
import StatTable.Plan.Compile
import StatTable.Plan.Condition
import StatTable.Plan.Group
import StatTable.Plan.GroupKey
import StatTable.Plan.JoinOrder
import StatTable.Plan.Problem
import StatTable.Plan.Query
import StatTable.Plan.Request
import StatTable.Plan.Resolution
import StatTable.Plan.SplitChain
import StatTable.Plan.Stage
import StatTable.Scalar
import StatTable.Settings.Basic
import StatTable.Settings.Reading
import StatTable.Settings.Template
import StatTable.Sql.Dialect
import StatTable.Sql.Expr
import StatTable.Sql.Query
import StatTable.Sql.Token
import StatTable.Statement
import StatTable.Store.Basic
import StatTable.Store.Rows
import StatTable.Store.Session
import StatTable.TableState.Basic
import StatTable.TableState.Operator
import StatTable.TableState.Path
import StatTable.TableState.Problem
import StatTable.TableState.Reading
import StatTable.Text.Alphanumeric
import StatTable.Text.Blank
import StatTable.Text.Decimal
import StatTable.Text.Quoted
import StatTable.Text.Uppercase
import StatTable.Toml.Basic
import StatTable.Toml.DateTime
import StatTable.Toml.Lexeme
import StatTable.Toml.Reader
import StatTable.Word
import StatTable.Proofs.Splits.Correlation
import StatTable.Proofs.Splits.OneRow
import StatTable.Proofs.Documents.Acceptance
import StatTable.Proofs.Documents.Independence
import StatTable.Proofs.Documents.RoundTrip
import StatTable.Proofs.Filters.DeferredRows
import StatTable.Proofs.Filters.Decisions
import StatTable.Proofs.Filters.JoinKinds
import StatTable.Proofs.Groups.Keys
import StatTable.Proofs.Groups.KeyText
import StatTable.Proofs.Groups.Permuted
import StatTable.Proofs.Groups.Service
import StatTable.Proofs.Joins.Appearance
import StatTable.Proofs.Joins.Direct
import StatTable.Proofs.Joins.Matching
import StatTable.Proofs.Joins.Rates
import StatTable.Proofs.Joins.Reordering
import StatTable.Proofs.Joins.Shared
import StatTable.Proofs.Outputs.Cells
import StatTable.Proofs.Params.Offsets
import StatTable.Proofs.Params.Resolution
import StatTable.Proofs.Params.Restriction
import StatTable.Proofs.Params.Spelling
import StatTable.Proofs.Players.Answers
import StatTable.Proofs.Scalars.Values
import StatTable.Proofs.Scoping.WellScoped
import StatTable.Proofs.Sql.Dialects
import StatTable.Proofs.Sql.Plain
import StatTable.Proofs.Statements.Alone
import StatTable.Proofs.Statements.Paging
import StatTable.Proofs.Statements.Transparency
import StatTable.Proofs.Statements.Trees
import StatTable.Proofs.Groups.Anchors
import StatTable.Proofs.Scoping.Grouped
import StatTable.Proofs.Settings.Expansion
import StatTable.Proofs.Settings.RowCap
import StatTable.Main
