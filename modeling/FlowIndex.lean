import FlowIndex.Command.Arguments
import FlowIndex.Command.Shell
import FlowIndex.Console.Literal
import FlowIndex.Console.Literal.Escape
import FlowIndex.Console.Literal.Expression
import FlowIndex.Console.Literal.Fault
import FlowIndex.Console.Literal.Format
import FlowIndex.Console.Literal.Node
import FlowIndex.Console.Literal.Parser
import FlowIndex.Console.Literal.Token
import FlowIndex.Console.Markup
import FlowIndex.Console.Picture
import FlowIndex.Console.PictureTable
import FlowIndex.Console.Report
import FlowIndex.Console.Style
import FlowIndex.Console.Table
import FlowIndex.Console.Width
import FlowIndex.Diagnostics
import FlowIndex.Document
import FlowIndex.Double
import FlowIndex.Field
import FlowIndex.Flow.Block
import FlowIndex.Flow.Cursor
import FlowIndex.Flow.Document
import FlowIndex.Flow.Entry
import FlowIndex.Flow.Keyword
import FlowIndex.Flow.Printer
import FlowIndex.Flow.Token
import FlowIndex.Host.Automaton
import FlowIndex.Host.Grammar
import FlowIndex.Host.Parameters
import FlowIndex.Host.Parser
import FlowIndex.Host.SourceLines
import FlowIndex.Host.Reading
import FlowIndex.Host.Struct
import FlowIndex.Host.Token
import FlowIndex.Host.Tree
import FlowIndex.Index.Scan
import FlowIndex.Index.Snapshot
import FlowIndex.LineIndex
import FlowIndex.Main
import FlowIndex.Path
import FlowIndex.Position
import FlowIndex.Resolution
import FlowIndex.Session.Event
import FlowIndex.Session.Files
import FlowIndex.Session.Rank
import FlowIndex.Session.Request
import FlowIndex.Session.Run
import FlowIndex.Session.Schedule
import FlowIndex.Session.Step
import FlowIndex.Session.Work
import FlowIndex.Session.Workspace
import FlowIndex.Settings
import FlowIndex.SortedList
import FlowIndex.Store.Basic
import FlowIndex.Store.FileTree
import FlowIndex.Store.Files
import FlowIndex.Store.Memory
import FlowIndex.Text.Blank
import FlowIndex.Text.Case
import FlowIndex.Text.CharacterName
import FlowIndex.Text.Comment
import FlowIndex.Text.Cut
import FlowIndex.Text.Digit
import FlowIndex.Text.Identifier
import FlowIndex.Text.Infix
import FlowIndex.Text.Letter
import FlowIndex.Text.Lines
import FlowIndex.Text.Lower
import FlowIndex.Text.Printable
import FlowIndex.Text.Quoted
import FlowIndex.Text.Range
import FlowIndex.Text.Real
import FlowIndex.Text.Utf8
import FlowIndex.Tool.Client
import FlowIndex.Tool.Symbols
import FlowIndex.Uri
import FlowIndex.Uri.Address
import FlowIndex.Uri.Authority
import FlowIndex.Watcher
import FlowIndex.Proofs.Flow.RoundTrip
import FlowIndex.Proofs.Session.History
import FlowIndex.Proofs.Session.Exclusion
import FlowIndex.Proofs.Session.Trailing
import FlowIndex.Proofs.Index.Fold
import FlowIndex.Proofs.Session.Rebuild
import FlowIndex.Proofs.Flow.Calls
import FlowIndex.Proofs.LineIndex
import FlowIndex.Proofs.Flow.Cursor
import FlowIndex.Proofs.Index.Lookup
import FlowIndex.Proofs.Flow.Operators
import FlowIndex.Proofs.Diagnostics
import FlowIndex.Proofs.Session.Issues
import FlowIndex.Proofs.Session.Closing
import FlowIndex.Proofs.Session.Recency
import FlowIndex.Proofs.Session.Agreement
import FlowIndex.Proofs.Session.Stopping
import FlowIndex.Proofs.Flow.Pointing
import FlowIndex.Proofs.Flow.Wording
import FlowIndex.Proofs.Session.LiveSearch
import FlowIndex.Proofs.Session.Staleness
import FlowIndex.Proofs.Naming
import FlowIndex.Proofs.Store.Files
import FlowIndex.Proofs.Session.Spelling
import FlowIndex.Proofs.Session.Rechecking
import FlowIndex.Proofs.Flow.Nesting
import FlowIndex.Proofs.Flow.Entries
import FlowIndex.Proofs.Flow.Appending
import FlowIndex.Proofs.Session.Alarms
import FlowIndex.Proofs.Flow.Rendering
import FlowIndex.Proofs.Flow.Slices
import FlowIndex.Proofs.Flow.Spoiling
import FlowIndex.Proofs.Host.Structs
import FlowIndex.Proofs.Flow.Gaps
import FlowIndex.Proofs.Host.SourceLines
import FlowIndex.Proofs.Tool.Listing
import FlowIndex.Proofs.Session.Tiers
import FlowIndex.Proofs.LineIndex.Places
