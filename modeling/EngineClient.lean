import EngineClient.Answer.History
import EngineClient.Answer.Problem
import EngineClient.Answer.Proposal
import EngineClient.Answer.Resource
import EngineClient.Buffers
import EngineClient.Command
import EngineClient.CommandLine.Arguments
import EngineClient.CommandLine.Run
import EngineClient.Config.Layers
import EngineClient.Config.Options
import EngineClient.Config.Setting
import EngineClient.Disk.Basic
import EngineClient.Disk.Change
import EngineClient.Disk.Lookup
import EngineClient.Disk.Resolve
import EngineClient.Dispatch
import EngineClient.Engine
import EngineClient.Fault
import EngineClient.Fault.Arguments
import EngineClient.Fault.Named
import EngineClient.Fault.Os
import EngineClient.Gzip.Code
import EngineClient.Gzip.Inflate
import EngineClient.Gzip.Reader
import EngineClient.History
import EngineClient.Host.Address
import EngineClient.Host.Composition
import EngineClient.Host.Composition.Table
import EngineClient.Host.Folding
import EngineClient.Host.Folding.Table
import EngineClient.Host.Label
import EngineClient.Host.Label.Table
import EngineClient.Host.Punycode
import EngineClient.Http.Body
import EngineClient.Http.Head
import EngineClient.Json.Read
import EngineClient.Json.Render
import EngineClient.Log.Level
import EngineClient.Log.Record
import EngineClient.Main
import EngineClient.Number.Binary64
import EngineClient.Number.Decimal
import EngineClient.Number.Literal
import EngineClient.Number.Shortest
import EngineClient.Operations
import EngineClient.Output
import EngineClient.Path
import EngineClient.Proofs.CommandLine.Shutdown
import EngineClient.Proofs.Act
import EngineClient.Proofs.Disk.Root
import EngineClient.Proofs.Dispatch.Accounting
import EngineClient.Proofs.Dispatch.Resend
import EngineClient.Proofs.Dispatch.Steps
import EngineClient.Proofs.History.Freshness
import EngineClient.Proofs.Reconcile
import EngineClient.Proofs.Run.Basic
import EngineClient.Proofs.Run.Calm
import EngineClient.Proofs.Run.Numbers
import EngineClient.Proofs.Run.OneEngine
import EngineClient.Proofs.Run.Onward
import EngineClient.Proofs.Run.Outside
import EngineClient.Proofs.Session.FailedOpen
import EngineClient.Proofs.Session.Opening
import EngineClient.Proofs.Session.Running
import EngineClient.Proofs.Session.Watch
import EngineClient.Proofs.Transport.Exchange
import EngineClient.Reconcile
import EngineClient.Session.Basic
import EngineClient.Session.Lifecycle
import EngineClient.Session.Ready
import EngineClient.Shell.Command
import EngineClient.Shell.Loop
import EngineClient.Shell.Words
import EngineClient.Text.Ansi
import EngineClient.Text.Blank
import EngineClient.Text.Digit
import EngineClient.Text.Line
import EngineClient.Text.Listing
import EngineClient.Text.Preview
import EngineClient.Text.Printable
import EngineClient.Text.Quoted
import EngineClient.Text.Upper
import EngineClient.Text.Utf8
import EngineClient.Toml.Document
import EngineClient.Toml.Lexical
import EngineClient.Toml.Moment
import EngineClient.Toml.Nest
import EngineClient.Toml.Number
import EngineClient.Toml.Quoted
import EngineClient.Toml.Value
import EngineClient.Transport.Call
import EngineClient.Transport.Exchange
import EngineClient.Transport.Outcome
import EngineClient.Value.Basic
import EngineClient.Value.Display
import EngineClient.Value.Key
import EngineClient.Wire.Base64
import EngineClient.Wire.Decoder
import EngineClient.Wire.Message
import EngineClient.Wire.Response
import EngineClient.Wire.Target
import EngineClient.World
import EngineClient.Xml.Basic
import EngineClient.Xml.Block
import EngineClient.Xml.CodePage
import EngineClient.Xml.CodePage.Table
import EngineClient.Xml.Content
import EngineClient.Xml.Declaration
import EngineClient.Xml.Document
import EngineClient.Xml.Encoding
import EngineClient.Xml.Entity
import EngineClient.Xml.Glyph
import EngineClient.Xml.Name
import EngineClient.Xml.Prolog.Grammar
import EngineClient.Xml.Prolog.Literal
import EngineClient.Xml.Prolog.Token
import EngineClient.Xml.Reader
import EngineClient.Xml.Scan
import EngineClient.Xml.Tag
import EngineClient.Proofs.History.Agreement
import EngineClient.Proofs.Editor.Buffers
import EngineClient.Proofs.Editor.Unsaved
import EngineClient.Proofs.Shell.Causes
import EngineClient.Proofs.Shell.Commands
import EngineClient.Proofs.Shell.Lines
import EngineClient.Proofs.Config.Layering
import EngineClient.Proofs.Transport.Classes
import EngineClient.Proofs.Transport.Lossless
import EngineClient.Proofs.Editor.Keys
import EngineClient.Proofs.Json.Scalars
import EngineClient.Proofs.Json.Values
import EngineClient.Proofs.Shell.Results
import EngineClient.Proofs.Disk.Names
import EngineClient.Proofs.Disk.Links
import EngineClient.Proofs.Json.Strings
import EngineClient.Proofs.Disk.Unresolved
import EngineClient.Proofs.Editor.Following
import EngineClient.Proofs.Editor.Renaming
import EngineClient.Proofs.Editor.Rereading
import EngineClient.Proofs.Session.Readiness
import EngineClient.Proofs.Session.Closing
import EngineClient.Proofs.Disk.Resolving
import EngineClient.Proofs.Answer.Reading
import EngineClient.Proofs.Answer.Spellings
import EngineClient.Proofs.Run.Directories
import EngineClient.Proofs.Run.Queries
import EngineClient.Proofs.Run.Refusals
import EngineClient.Proofs.Shell.Quoting
import EngineClient.Proofs.Shell.Requests
import EngineClient.Proofs.Config.Tolerance
import EngineClient.Proofs.Config.Accepted
import EngineClient.Proofs.Editor.Alike
import EngineClient.Proofs.Run.Proposals
import EngineClient.Proofs.Value.Summaries
import EngineClient.Proofs.Disk.Entries
import EngineClient.Proofs.Path.Renaming
