import ColumnWire.Block
import ColumnWire.Block.Lines
import ColumnWire.Bytes
import ColumnWire.Bytes.Encode
import ColumnWire.Bytes.Varint
import ColumnWire.Calendar
import ColumnWire.Client
import ColumnWire.Client.Database
import ColumnWire.Client.Described
import ColumnWire.Column.Data
import ColumnWire.Column.Type
import ColumnWire.Column.Value
import ColumnWire.CommandLine
import ColumnWire.CommandLine.Failure
import ColumnWire.CommandLine.Run
import ColumnWire.Config
import ColumnWire.Config.Address
import ColumnWire.Config.Endpoint
import ColumnWire.Config.File
import ColumnWire.Config.Json
import ColumnWire.Connection
import ColumnWire.Decimal.Ieee
import ColumnWire.Decimal.Shortest
import ColumnWire.Directory
import ColumnWire.Duration
import ColumnWire.Error
import ColumnWire.Exception
import ColumnWire.Frame
import ColumnWire.Frame.CityHash
import ColumnWire.Frame.Lz4
import ColumnWire.Json
import ColumnWire.Json.Reader
import ColumnWire.Main
import ColumnWire.Migration
import ColumnWire.Migration.Create
import ColumnWire.Migration.Fault
import ColumnWire.Migration.Migrator
import ColumnWire.Migration.Plan
import ColumnWire.Migration.Registry
import ColumnWire.Migration.Statement
import ColumnWire.Packet
import ColumnWire.Packet.Exception
import ColumnWire.Packet.Info
import ColumnWire.Pool
import ColumnWire.Pool.Task
import ColumnWire.Reply
import ColumnWire.Request
import ColumnWire.RowStream
import ColumnWire.Settings
import ColumnWire.Stream.Builder
import ColumnWire.Stream.Feed
import ColumnWire.Stream.Primitive
import ColumnWire.Stream.Reader
import ColumnWire.Stream.Source
import ColumnWire.Stream.Spending
import ColumnWire.Stream.Writer
import ColumnWire.Text.Blank
import ColumnWire.Text.CodeTable
import ColumnWire.Text.Composed
import ColumnWire.Text.Composed.Table
import ColumnWire.Text.Described
import ColumnWire.Text.Digits
import ColumnWire.Text.Direction
import ColumnWire.Text.Invisible
import ColumnWire.Text.Joining
import ColumnWire.Text.Mark
import ColumnWire.Text.Punycode
import ColumnWire.Text.Quoted
import ColumnWire.Text.Utf8
import ColumnWire.Toml
import ColumnWire.Toml.Moment
import ColumnWire.Toml.Number
import ColumnWire.Toml.Table
import ColumnWire.Toml.Text
import ColumnWire.Toml.Value
import ColumnWire.Url
import ColumnWire.Url.DomainName
import ColumnWire.Url.DomainName.Table
import ColumnWire.Url.Fault
import ColumnWire.Url.Host
import ColumnWire.Url.Percent
import ColumnWire.Proofs.Block.Actions
import ColumnWire.Proofs.Block.Anew
import ColumnWire.Proofs.Client.Agreement
import ColumnWire.Proofs.Client.Visits
import ColumnWire.Proofs.Frame.Cut
import ColumnWire.Proofs.Pool.Capacity
import ColumnWire.Proofs.Pool.Closing
import ColumnWire.Proofs.Block.RoundTrip
import ColumnWire.Proofs.Client.History
import ColumnWire.Proofs.Client.Reuse
import ColumnWire.Proofs.Packet.Exception
import ColumnWire.Proofs.Packet.Info
import ColumnWire.Proofs.Reply.Message
import ColumnWire.Proofs.Reply.Run
import ColumnWire.Proofs.Reply.Table
import ColumnWire.Proofs.Stream.Transparency
import ColumnWire.Proofs.Migration.Crew
import ColumnWire.Proofs.Client.Insertion
import ColumnWire.Proofs.Client.Lending
import ColumnWire.Proofs.Migration.Success
import ColumnWire.Proofs.Migration.Undo
import ColumnWire.Proofs.Settings.Built
import ColumnWire.Proofs.Settings.Order
import ColumnWire.Proofs.Settings.Receiver
import ColumnWire.Proofs.Packet.Chain
import ColumnWire.Proofs.Migration.Course
import ColumnWire.Proofs.Migration.LastGroup
import ColumnWire.Proofs.Migration.Prefix
import ColumnWire.Proofs.Reply.Failure
import ColumnWire.Proofs.Bytes.Varint
import ColumnWire.Proofs.Stream.Varint
import ColumnWire.Proofs.Stream.Frame
import ColumnWire.Proofs.Migration.Statements
import ColumnWire.Proofs.Request.Receiver
import ColumnWire.Proofs.Migration.Discovery
import ColumnWire.Proofs.Migration.Repeats
import ColumnWire.Proofs.Json.Text
import ColumnWire.Proofs.Config.Json
import ColumnWire.Proofs.Url.Spelled
import ColumnWire.Proofs.Config.Address
import ColumnWire.Proofs.Text.Span
import ColumnWire.Proofs.Log
import ColumnWire.Proofs.Packet.Tidy
import ColumnWire.Proofs.Reply.Tally
import ColumnWire.Proofs.Reply.Ending
import ColumnWire.Proofs.Migration.Views
import ColumnWire.Proofs.Pool.Recency
import ColumnWire.Proofs.Stream.Refinement
import ColumnWire.Proofs.Json.Printed
import ColumnWire.Proofs.Decimal.Text
import ColumnWire.Proofs.Block.Lines
