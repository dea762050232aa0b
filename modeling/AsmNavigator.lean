import AsmNavigator.CommandLine.Arguments
import AsmNavigator.CommandLine.Page
import AsmNavigator.CommandLine.Run
import AsmNavigator.CommandLine.Snapshot
import AsmNavigator.CommandLine.Table
import AsmNavigator.Config.Load
import AsmNavigator.Config.Types
import AsmNavigator.Config.Validate
import AsmNavigator.Config.Values
import AsmNavigator.Config.Variables
import AsmNavigator.Data.Display
import AsmNavigator.Data.Json.Reader
import AsmNavigator.Data.Json.Writer
import AsmNavigator.Data.Merge
import AsmNavigator.Data.Scalar
import AsmNavigator.Data.Stamp
import AsmNavigator.Data.Value
import AsmNavigator.Data.Yaml.Cursor
import AsmNavigator.Data.Yaml.Fault
import AsmNavigator.Data.Yaml.Node
import AsmNavigator.Data.Yaml.Object
import AsmNavigator.Data.Yaml.Reader
import AsmNavigator.Data.Yaml.Scalar
import AsmNavigator.Data.Yaml.Stamp
import AsmNavigator.Data.Yaml.Stream
import AsmNavigator.Data.Yaml.Tag
import AsmNavigator.Data.Yaml.Text
import AsmNavigator.Data.Yaml.Token
import AsmNavigator.Fault
import AsmNavigator.Files.Change
import AsmNavigator.Files.Path
import AsmNavigator.Files.Tree
import AsmNavigator.Files.World
import AsmNavigator.Log.Delivery
import AsmNavigator.Log.Event
import AsmNavigator.Log.Line
import AsmNavigator.Main
import AsmNavigator.Markup.Render
import AsmNavigator.Markup.Style
import AsmNavigator.Number.Double
import AsmNavigator.Number.Numeral
import AsmNavigator.Number.Shortest
import AsmNavigator.OrderedMap
import AsmNavigator.Proofs.Config.Precedence
import AsmNavigator.Proofs.Config.Revalidation
import AsmNavigator.Proofs.Config.Settings
import AsmNavigator.Proofs.Config.Sources
import AsmNavigator.Proofs.Config.Unreported
import AsmNavigator.Proofs.Config.ValidationFaults
import AsmNavigator.Proofs.Config.Variables
import AsmNavigator.Proofs.Data.Document
import AsmNavigator.Proofs.Data.Encoding
import AsmNavigator.Proofs.Data.Keys
import AsmNavigator.Proofs.Data.MergeLaws
import AsmNavigator.Proofs.Data.OrderedMap
import AsmNavigator.Proofs.Data.Outcome
import AsmNavigator.Proofs.Files.Edit
import AsmNavigator.Proofs.Files.Home
import AsmNavigator.Proofs.Files.Join
import AsmNavigator.Proofs.Files.Naming
import AsmNavigator.Proofs.Files.Outline
import AsmNavigator.Proofs.Files.Refusal
import AsmNavigator.Proofs.Files.Sound
import AsmNavigator.Proofs.Files.Subtree
import AsmNavigator.Proofs.Registry.KeyOrder
import AsmNavigator.Proofs.Registry.LongerNames
import AsmNavigator.Proofs.Registry.NameKeys
import AsmNavigator.Proofs.Registry.NewestVersion
import AsmNavigator.Proofs.Registry.Search
import AsmNavigator.Proofs.Registry.VersionNames
import AsmNavigator.Proofs.Registry.Versions
import AsmNavigator.Proofs.Schema.Acceptance
import AsmNavigator.Proofs.Schema.Compositional
import AsmNavigator.Proofs.Schema.Decision
import AsmNavigator.Proofs.Schema.ReadBack
import AsmNavigator.Proofs.Serve.Conversation
import AsmNavigator.Proofs.Serve.Handling
import AsmNavigator.Proofs.Serve.Rejection
import AsmNavigator.Proofs.Serve.ResponseIds
import AsmNavigator.Proofs.Serve.Writable
import AsmNavigator.Proofs.Session.AbsolutePaths
import AsmNavigator.Proofs.Session.Agreement
import AsmNavigator.Proofs.Session.AnyState
import AsmNavigator.Proofs.Session.CachedResolver
import AsmNavigator.Proofs.Session.Candidates
import AsmNavigator.Proofs.Session.Confinement
import AsmNavigator.Proofs.Session.DefinitionColumn
import AsmNavigator.Proofs.Session.DefinitionSound
import AsmNavigator.Proofs.Session.Dependence
import AsmNavigator.Proofs.Session.Faults
import AsmNavigator.Proofs.Session.FindSource
import AsmNavigator.Proofs.Session.Guarded
import AsmNavigator.Proofs.Session.HoverTarget
import AsmNavigator.Proofs.Session.ImportNavigation
import AsmNavigator.Proofs.Session.Invalidation
import AsmNavigator.Proofs.Session.LocalCall
import AsmNavigator.Proofs.Session.NamespacePrecedence
import AsmNavigator.Proofs.Session.Navigation
import AsmNavigator.Proofs.Session.Oblivious
import AsmNavigator.Proofs.Session.OutlineOnly
import AsmNavigator.Proofs.Session.OwnDefinition
import AsmNavigator.Proofs.Session.ReexportWalk
import AsmNavigator.Proofs.Session.RegistryOnly
import AsmNavigator.Proofs.Session.ResolvedFile
import AsmNavigator.Proofs.Session.Retention
import AsmNavigator.Proofs.Session.ScanAndSummary
import AsmNavigator.Proofs.Session.Settled
import AsmNavigator.Proofs.Session.Transparency
import AsmNavigator.Proofs.Session.UpwardWalks
import AsmNavigator.Proofs.Source.CommentBlock
import AsmNavigator.Proofs.Source.DefinedName
import AsmNavigator.Proofs.Source.DefinitionLine
import AsmNavigator.Proofs.Source.DocumentLines
import AsmNavigator.Proofs.Source.Expression
import AsmNavigator.Proofs.Source.ImportParts
import AsmNavigator.Proofs.Source.ImportShape
import AsmNavigator.Proofs.Source.LastDeclaration
import AsmNavigator.Proofs.Source.Recognisers
import AsmNavigator.Proofs.Source.ReexportCount
import AsmNavigator.Proofs.Source.WordSpans
import AsmNavigator.Proofs.Source.Words
import AsmNavigator.Proofs.Source.WrittenDeclarations
import AsmNavigator.Proofs.Workspace.Listing
import AsmNavigator.Proofs.Workspace.ScriptBindings
import AsmNavigator.Proofs.Workspace.ScriptTables
import AsmNavigator.Proofs.Workspace.TableEntries
import AsmNavigator.Proofs.Workspace.UpwardSearch
import AsmNavigator.Proofs.Workspace.WrittenConstants
import AsmNavigator.Registry.Locate
import AsmNavigator.Registry.VersionOrder
import AsmNavigator.Report
import AsmNavigator.Schema.Check
import AsmNavigator.Schema.Integer
import AsmNavigator.Schema.Issue
import AsmNavigator.Serve.Loop
import AsmNavigator.Serve.Request
import AsmNavigator.Serve.Response
import AsmNavigator.Session.Navigate
import AsmNavigator.Session.Query
import AsmNavigator.Session.Resolve
import AsmNavigator.Session.Symbols
import AsmNavigator.Source.Call
import AsmNavigator.Source.Cursor
import AsmNavigator.Source.Declaration
import AsmNavigator.Source.Definition
import AsmNavigator.Source.DocComment
import AsmNavigator.Source.Identifier
import AsmNavigator.Source.Read
import AsmNavigator.Source.Summary
import AsmNavigator.Text.Base64
import AsmNavigator.Text.Blank
import AsmNavigator.Text.CellWidth
import AsmNavigator.Text.CodePoints
import AsmNavigator.Text.Digit
import AsmNavigator.Text.Lines
import AsmNavigator.Text.LowerCase
import AsmNavigator.Text.Picture
import AsmNavigator.Text.PictureNames
import AsmNavigator.Text.Printable
import AsmNavigator.Text.Quoted
import AsmNavigator.Text.Scan
import AsmNavigator.Text.Similarity
import AsmNavigator.Text.Split
import AsmNavigator.Text.Surrogate
import AsmNavigator.Text.Utf8
import AsmNavigator.Text.WordChar
import AsmNavigator.Text.Words
import AsmNavigator.Workspace.BuildScript
import AsmNavigator.Workspace.Module
import AsmNavigator.Workspace.Namespaces
import AsmNavigator.Workspace.Roots
