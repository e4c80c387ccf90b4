import Pagewise.Binary64.Basic
import Pagewise.Binary64.Layout
import Pagewise.Binary64.Shortest
import Pagewise.Bits
import Pagewise.Connection
import Pagewise.Cursor.Basic
import Pagewise.Cursor.Decoder
import Pagewise.Cursor.Describe
import Pagewise.Cursor.Operations
import Pagewise.Cursor.Reader
import Pagewise.Decimal
import Pagewise.Error
import Pagewise.Exchange.Page
import Pagewise.Exchange.Request
import Pagewise.Exchange.Wire
import Pagewise.Json.Basic
import Pagewise.Json.Node
import Pagewise.Json.Numeral
import Pagewise.Json.Printer
import Pagewise.Json.Record
import Pagewise.Json.Token
import Pagewise.Keyed
import Pagewise.Options
import Pagewise.Query.Basic
import Pagewise.Query.Edit
import Pagewise.Query.Equality
import Pagewise.Query.Error
import Pagewise.Query.Render
import Pagewise.Settings.Basic
import Pagewise.Settings.Decode
import Pagewise.Settings.Files
import Pagewise.Text.Hex
import Pagewise.Text.Percent
import Pagewise.Text.Quoted
import Pagewise.Text.Unprintable
import Pagewise.Toml.Assembly
import Pagewise.Toml.Basic
import Pagewise.Toml.Document
import Pagewise.Toml.Scalar
import Pagewise.Toml.Text
import Pagewise.Proofs.Cursor.Event
import Pagewise.Proofs.Cursor.Invariant
import Pagewise.Proofs.Cursor.Journal
import Pagewise.Proofs.Cursor.Delivery
import Pagewise.Proofs.Cursor.Terminal
import Pagewise.Proofs.Cursor.Protocol
import Pagewise.Proofs.Cursor.Refinement
import Pagewise.Proofs.Cursor.Inspection
import Pagewise.Proofs.Cursor.Cleanup
import Pagewise.Proofs.Cursor.Release
import Pagewise.Proofs.Cursor.Memory
import Pagewise.Proofs.Query.History
import Pagewise.Proofs.Query.Freezing
import Pagewise.Proofs.Query.Clauses
import Pagewise.Proofs.Query.Sites
import Pagewise.Proofs.Query.Handoff
import Pagewise.Proofs.Cursor.FirstRow
import Pagewise.Proofs.Cursor.Pulling
import Pagewise.Proofs.Query.Swapping
import Pagewise.Proofs.Json.Tokens
import Pagewise.Proofs.Json.Reading
import Pagewise.Proofs.Exchange.Creation
import Pagewise.Proofs.Cursor.Closing
import Pagewise.Proofs.Cursor.Recording
import Pagewise.Proofs.Cursor.Streaming
import Pagewise.Proofs.Json.Records
import Pagewise.Proofs.Exchange.Bodies
import Pagewise.Proofs.Cursor.Faults
import Pagewise.Proofs.Cursor.Classification
import Pagewise.Proofs.Query.Arguments
import Pagewise.Proofs.Query.Retouching
import Pagewise.Proofs.Query.Binding
import Pagewise.Proofs.Query.Nesting
import Pagewise.Proofs.Query.Quoting
import Pagewise.Proofs.Query.Comparing
import Pagewise.Proofs.Query.Entries
import Pagewise.Proofs.Text.Balance
import Pagewise.Proofs.Query.Balance
import Pagewise.Proofs.Query.Variables
import Pagewise.Proofs.Settings.Overlay
import Pagewise.Proofs.Text.Percent
import Pagewise.Proofs.Cursor.Address
import Pagewise.Proofs.Settings.Endpoint
import Pagewise.Proofs.Query.Collecting
import Pagewise.Proofs.Connection.Handles
