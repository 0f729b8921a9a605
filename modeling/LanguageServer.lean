import LanguageServer.Double
import LanguageServer.Editor.Convert
import LanguageServer.Editor.Host
import LanguageServer.Editor.Message
import LanguageServer.Editor.Method
import LanguageServer.Editor.Notice
import LanguageServer.Editor.Params
import LanguageServer.Editor.Server
import LanguageServer.Editor.Shape
import LanguageServer.Editor.Shape.Basic
import LanguageServer.Editor.Shape.Capabilities
import LanguageServer.Editor.Shape.Notifications
import LanguageServer.Editor.Shape.Requests
import LanguageServer.Editor.Surroundings
import LanguageServer.Editor.Transport
import LanguageServer.Files.Discovery
import LanguageServer.Files.Glob
import LanguageServer.Files.Glob.Expression
import LanguageServer.Files.Glob.Matching
import LanguageServer.Files.Ignore
import LanguageServer.Files.Path
import LanguageServer.Files.Tree
import LanguageServer.Json
import LanguageServer.Json.Parser
import LanguageServer.Json.Printer
import LanguageServer.Main
import LanguageServer.Rehearsal.Desk
import LanguageServer.Rehearsal.Script
import LanguageServer.Rehearsal.Stage
import LanguageServer.Session.EditQueue
import LanguageServer.Session.Event
import LanguageServer.Session.Failure
import LanguageServer.Session.Pipeline
import LanguageServer.Session.Plan
import LanguageServer.Session.Problems
import LanguageServer.Session.Processes
import LanguageServer.Session.Supervisor
import LanguageServer.Session.Waiting
import LanguageServer.Session.Watchdog
import LanguageServer.Settings.Basic
import LanguageServer.Settings.Environment
import LanguageServer.Settings.File
import LanguageServer.Settings.Toml.Basic
import LanguageServer.Settings.Toml.Document
import LanguageServer.Settings.Toml.Parser
import LanguageServer.Settings.Toml.Scalar
import LanguageServer.Source.Answer
import LanguageServer.Source.Diagnostic
import LanguageServer.Source.Document
import LanguageServer.Source.Position
import LanguageServer.Table
import LanguageServer.Text.Blank
import LanguageServer.Text.CharClass
import LanguageServer.Text.Composed
import LanguageServer.Text.Elapsed
import LanguageServer.Text.Numeral
import LanguageServer.Text.Pieces
import LanguageServer.Text.Quoted
import LanguageServer.Text.Utf8
import LanguageServer.Url.Basic
import LanguageServer.Url.Domain
import LanguageServer.Url.Domain.Direction
import LanguageServer.Url.Domain.Folding
import LanguageServer.Url.Domain.Joining
import LanguageServer.Url.Fault
import LanguageServer.Url.FilePath
import LanguageServer.Url.Host
import LanguageServer.Url.Parser
import LanguageServer.Url.Percent
import LanguageServer.Url.Punycode
import LanguageServer.Wire.Command
import LanguageServer.Wire.Frame
import LanguageServer.Wire.Payload
import LanguageServer.Wire.Receiver
import LanguageServer.Wire.Request
import LanguageServer.Wire.ResponseFile
import LanguageServer.Proofs.Operations
import LanguageServer.Proofs.Tables
import LanguageServer.Proofs.Requests
import LanguageServer.Proofs.Pairing
import LanguageServer.Proofs.Problems
import LanguageServer.Proofs.Diagnostics
import LanguageServer.Proofs.Frames
import LanguageServer.Proofs.Texts
import LanguageServer.Proofs.Safekeeping
import LanguageServer.Proofs.Contact
import LanguageServer.Proofs.World
import LanguageServer.Proofs.Coupling
import LanguageServer.Proofs.Edits
import LanguageServer.Proofs.Transmission
import LanguageServer.Proofs.Decoding
import LanguageServer.Proofs.Fleet
import LanguageServer.Proofs.Stages
import LanguageServer.Proofs.Turns
import LanguageServer.Proofs.Watchfulness
import LanguageServer.Proofs.Crashes
import LanguageServer.Proofs.Attachment
import LanguageServer.Proofs.Chunks
import LanguageServer.Proofs.Occasions
import LanguageServer.Proofs.QuietPeriod
import LanguageServer.Proofs.Startup
import LanguageServer.Proofs.Idleness
import LanguageServer.Proofs.Precedence
import LanguageServer.Proofs.Display
import LanguageServer.Proofs.Inheritance
import LanguageServer.Proofs.Succession
import LanguageServer.Proofs.Aborts
import LanguageServer.Proofs.Lives
import LanguageServer.Proofs.Payloads
import LanguageServer.Proofs.Keys
import LanguageServer.Proofs.Framing
import LanguageServer.Proofs.QueueHistory
import LanguageServer.Proofs.Provenance
import LanguageServer.Proofs.Freshness
import LanguageServer.Proofs.ProblemHistory
import LanguageServer.Proofs.ResponseFiles
import LanguageServer.Proofs.Spellings
import LanguageServer.Proofs.SymbolListing
import LanguageServer.Proofs.Replacements
import LanguageServer.Proofs.Coordinates
import LanguageServer.Proofs.Expansion
import LanguageServer.Proofs.Paths
import LanguageServer.Proofs.FileUrls
import LanguageServer.Proofs.MalformedText
import LanguageServer.Proofs.Confinement
import LanguageServer.Proofs.Walks
import LanguageServer.Proofs.Sources
