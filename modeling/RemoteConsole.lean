import RemoteConsole.CommandLine.Argument
import RemoteConsole.CommandLine.Help
import RemoteConsole.CommandLine.Invocation
import RemoteConsole.CommandLine.Reading
import RemoteConsole.CommandLine.UsageError
import RemoteConsole.Console.Loop
import RemoteConsole.Console.Prompts
import RemoteConsole.Console.Terminal
import RemoteConsole.Console.Typing
import RemoteConsole.Decimal.Layout
import RemoteConsole.Decimal.Shortest
import RemoteConsole.Files.Path
import RemoteConsole.Files.Tree
import RemoteConsole.Json.Decoder
import RemoteConsole.Json.Fault
import RemoteConsole.Json.Number
import RemoteConsole.Json.Primitive
import RemoteConsole.Json.Record
import RemoteConsole.Json.Skip
import RemoteConsole.Json.Text
import RemoteConsole.Json.Value
import RemoteConsole.Main
import RemoteConsole.Mismatch
import RemoteConsole.Name.Ascii
import RemoteConsole.Name.Direction
import RemoteConsole.Name.Joining
import RemoteConsole.Name.Label
import RemoteConsole.Name.Mapping
import RemoteConsole.Name.Punycode
import RemoteConsole.Process.Descriptor
import RemoteConsole.Process.Registry
import RemoteConsole.Program.Failure
import RemoteConsole.Program.Preparation
import RemoteConsole.Program.Run
import RemoteConsole.Program.Work
import RemoteConsole.Service.Client
import RemoteConsole.Service.Exchange
import RemoteConsole.Service.Host
import RemoteConsole.Service.Journey
import RemoteConsole.Service.Message
import RemoteConsole.Service.Server
import RemoteConsole.Service.Url
import RemoteConsole.Session.Credentials
import RemoteConsole.Session.Id
import RemoteConsole.Session.Listing
import RemoteConsole.Session.Route
import RemoteConsole.Session.Scheme
import RemoteConsole.Session.Table
import RemoteConsole.Settings.Basic
import RemoteConsole.Settings.Document
import RemoteConsole.Settings.Environment
import RemoteConsole.Settings.Validity
import RemoteConsole.Statement.Blocks
import RemoteConsole.Statement.Buffer
import RemoteConsole.Statement.Keyword
import RemoteConsole.Statement.Lexeme
import RemoteConsole.Statement.Literal
import RemoteConsole.Statement.Scanner
import RemoteConsole.Statement.SyntaxError
import RemoteConsole.Statement.Verdict
import RemoteConsole.Text.Base64
import RemoteConsole.Text.Blank
import RemoteConsole.Text.CodePoints
import RemoteConsole.Text.Composition
import RemoteConsole.Text.ControlSequence
import RemoteConsole.Text.Hex
import RemoteConsole.Text.Letters
import RemoteConsole.Text.Lines
import RemoteConsole.Text.Quoted
import RemoteConsole.Text.Separated
import RemoteConsole.Text.Utf8
import RemoteConsole.Text.Visible
import RemoteConsole.Toml.Decoder
import RemoteConsole.Toml.Document
import RemoteConsole.Toml.Node
import RemoteConsole.Toml.Number
import RemoteConsole.Toml.Reader
import RemoteConsole.Toml.Text
import RemoteConsole.Proofs.Console.Sitting
import RemoteConsole.Proofs.Console.Coherence
import RemoteConsole.Proofs.Console.Founded
import RemoteConsole.Proofs.Console.Passage
import RemoteConsole.Proofs.Console.Renewal
import RemoteConsole.Proofs.Console.Closing
import RemoteConsole.Proofs.Statement.PhysicalLine
import RemoteConsole.Proofs.Statement.Finality
import RemoteConsole.Proofs.Statement.Reading
import RemoteConsole.Proofs.Statement.Agreement
import RemoteConsole.Proofs.Statement.LogicalLine
import RemoteConsole.Proofs.Statement.BlockStructure
import RemoteConsole.Proofs.Statement.Outline
import RemoteConsole.Proofs.Statement.Continuation
import RemoteConsole.Proofs.Statement.Modes
import RemoteConsole.Proofs.Statement.Completion
import RemoteConsole.Proofs.Statement.Renumbering
import RemoteConsole.Proofs.Statement.Sequence
import RemoteConsole.Proofs.Service.Protocol
import RemoteConsole.Proofs.Statement.SingleStatement
import RemoteConsole.Proofs.Text.Utf8
import RemoteConsole.Proofs.Json.Grammar
import RemoteConsole.Proofs.Json.Decoding
import RemoteConsole.Proofs.Json.Strings
import RemoteConsole.Proofs.Json.Numbers
import RemoteConsole.Proofs.Json.Skipping
import RemoteConsole.Proofs.Json.Records
import RemoteConsole.Proofs.Json.Printing
import RemoteConsole.Proofs.Json.Unambiguity
import RemoteConsole.Proofs.Session.Id
import RemoteConsole.Proofs.Session.Listing
import RemoteConsole.Proofs.Statement.Insertion
import RemoteConsole.Proofs.Statement.Comment
import RemoteConsole.Proofs.Statement.Transparency
import RemoteConsole.Proofs.Statement.ImportStatement
import RemoteConsole.Proofs.Statement.LineEnds
import RemoteConsole.Proofs.Text.Separated
import RemoteConsole.Proofs.Service.Address
import RemoteConsole.Proofs.Console.Evaluation
import RemoteConsole.Proofs.Service.Journey
import RemoteConsole.Proofs.Program.Exchanges
import RemoteConsole.Proofs.Program.Affinity
import RemoteConsole.Proofs.Console.Room
import RemoteConsole.Proofs.Console.Notices
import RemoteConsole.Proofs.Json.Fields
import RemoteConsole.Proofs.Process.Declarations
import RemoteConsole.Proofs.Process.Descriptor
import RemoteConsole.Proofs.Process.Registry
import RemoteConsole.Proofs.Text.Base64
import RemoteConsole.Proofs.Session.Credentials
import RemoteConsole.Proofs.Statement.ReportedLines
import RemoteConsole.Proofs.Statement.LiteralEnd
import RemoteConsole.Proofs.Statement.Representation
import RemoteConsole.Proofs.Session.Table
import RemoteConsole.Proofs.Toml.Records
import RemoteConsole.Proofs.Settings.Precedence
