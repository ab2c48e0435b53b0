import SchemaDiagram.Batch
import SchemaDiagram.CommandLine.Inputs
import SchemaDiagram.CommandLine.Options
import SchemaDiagram.CommandLine.Run
import SchemaDiagram.Diagram.Basic
import SchemaDiagram.Diagram.Label
import SchemaDiagram.Diagram.Link
import SchemaDiagram.Diagram.Relation
import SchemaDiagram.Dialect
import SchemaDiagram.Document.Basic
import SchemaDiagram.Document.Grammar
import SchemaDiagram.Document.Model
import SchemaDiagram.Engine
import SchemaDiagram.Fault
import SchemaDiagram.Files.Path
import SchemaDiagram.Files.Pattern
import SchemaDiagram.Files.Tree
import SchemaDiagram.Main
import SchemaDiagram.Postgres.AlterTable
import SchemaDiagram.Postgres.CreateTable
import SchemaDiagram.Postgres.Element
import SchemaDiagram.Postgres.Expression
import SchemaDiagram.Postgres.Expression.Reading
import SchemaDiagram.Postgres.Reading
import SchemaDiagram.Postgres.Script
import SchemaDiagram.Postgres.Statement
import SchemaDiagram.Postgres.Target
import SchemaDiagram.Postgres.Token
import SchemaDiagram.Postgres.TypeName
import SchemaDiagram.Schema.Basic
import SchemaDiagram.Schema.Column
import SchemaDiagram.Schema.Key
import SchemaDiagram.Schema.Table
import SchemaDiagram.Settings
import SchemaDiagram.Sql.AlterTable
import SchemaDiagram.Sql.ColumnDefinition
import SchemaDiagram.Sql.ColumnList
import SchemaDiagram.Sql.ColumnType
import SchemaDiagram.Sql.Comment
import SchemaDiagram.Sql.CreateTable
import SchemaDiagram.Sql.Lexeme
import SchemaDiagram.Sql.Name
import SchemaDiagram.Sql.Scan
import SchemaDiagram.Sql.Script
import SchemaDiagram.Sql.Statement
import SchemaDiagram.Sql.Target
import SchemaDiagram.Text.Basic
import SchemaDiagram.Text.Blank
import SchemaDiagram.Text.Case
import SchemaDiagram.Text.CaseRuns
import SchemaDiagram.Text.Integer
import SchemaDiagram.Text.Keyword
import SchemaDiagram.Text.Line
import SchemaDiagram.Text.Quoted
import SchemaDiagram.Text.Ranges
import SchemaDiagram.Text.Unprintable
import SchemaDiagram.Text.Utf8
import SchemaDiagram.Text.Word
import SchemaDiagram.Web.Service
import SchemaDiagram.Proofs.Schema.Building
import SchemaDiagram.Proofs.Schema.Consistency
import SchemaDiagram.Proofs.Schema.Resolution
import SchemaDiagram.Proofs.Sql.Body
import SchemaDiagram.Proofs.Sql.Constraints
import SchemaDiagram.Proofs.Sql.Definition
import SchemaDiagram.Proofs.Sql.RoundTrip
import SchemaDiagram.Proofs.Schema.Composition
import SchemaDiagram.Proofs.Schema.Growth
import SchemaDiagram.Proofs.Schema.Isolation
import SchemaDiagram.Proofs.Sql.Quoting
import SchemaDiagram.Proofs.Sql.Altering
import SchemaDiagram.Proofs.Sql.Actions
import SchemaDiagram.Proofs.Sql.Agreement
import SchemaDiagram.Proofs.Schema.Repetition
import SchemaDiagram.Proofs.Sql.Clauses
import SchemaDiagram.Proofs.Sql.Lines
import SchemaDiagram.Proofs.Sql.Moving
import SchemaDiagram.Proofs.Sql.Placement
import SchemaDiagram.Proofs.Sql.Borders
import SchemaDiagram.Proofs.Sql.Recovery
import SchemaDiagram.Proofs.Postgres.Agreement
import SchemaDiagram.Proofs.Text.Words
import SchemaDiagram.Proofs.Diagram.Contents
import SchemaDiagram.Proofs.Postgres.Types
import SchemaDiagram.Proofs.Postgres.Remarks.Tokens
import SchemaDiagram.Proofs.Postgres.Remarks.Expressions
import SchemaDiagram.Proofs.Postgres.Remarks.Statements
import SchemaDiagram.Proofs.Postgres.Remarks.Pieces
import SchemaDiagram.Proofs.Diagram.Layout
import SchemaDiagram.Proofs.Schema.Related
import SchemaDiagram.Proofs.Postgres.Remarks.Declarations
import SchemaDiagram.Proofs.Text.Marks
import SchemaDiagram.Proofs.Postgres.Remarks.Readers
import SchemaDiagram.Proofs.Postgres.Remarks.Places
import SchemaDiagram.Proofs.Sql.Remarks.Cleaning
import SchemaDiagram.Proofs.Sql.Remarks.Readers
import SchemaDiagram.Proofs.Sql.Remarks.Lexemes
import SchemaDiagram.Proofs.Schema.Remarks
import SchemaDiagram.Proofs.Diagram.Extension
import SchemaDiagram.Proofs.Sql.Separators
import SchemaDiagram.Proofs.Sql.Literals
import SchemaDiagram.Proofs.Sql.Tails
import SchemaDiagram.Proofs.Sql.Interleaving
import SchemaDiagram.Proofs.CommandLine.Delivery
import SchemaDiagram.Proofs.Text.Searching
import SchemaDiagram.Proofs.Sql.Contents
import SchemaDiagram.Proofs.Sql.Renaming
import SchemaDiagram.Proofs.Sql.Defaults
import SchemaDiagram.Proofs.Sql.KeyLines
import SchemaDiagram.Proofs.Diagram.Labels
import SchemaDiagram.Proofs.Sql.Spellings
import SchemaDiagram.Proofs.Sql.Enumerations
import SchemaDiagram.Proofs.Sql.IndexLines
import SchemaDiagram.Proofs.Schema.Commutation
import SchemaDiagram.Proofs.Text.Lines
import SchemaDiagram.Proofs.Diagram.Stated
import SchemaDiagram.Proofs.Text.LowerCase
import SchemaDiagram.Proofs.Diagram.Endpoints
import SchemaDiagram.Proofs.Sql.ScriptLiterals
import SchemaDiagram.Proofs.Files.Ordering
import SchemaDiagram.Proofs.Files.Selection
import SchemaDiagram.Proofs.Files.Relisting
import SchemaDiagram.Proofs.CommandLine.Collection
