import Keyspace.Assignment
import Keyspace.Binary64
import Keyspace.Catalogue
import Keyspace.Decimal.Fixed
import Keyspace.Decimal.Reading
import Keyspace.Decimal.Rounding
import Keyspace.Decimal.Shortest
import Keyspace.Digest.Md5
import Keyspace.Distribution
import Keyspace.Error
import Keyspace.Field
import Keyspace.HashKey
import Keyspace.HashKeyRange
import Keyspace.Journal
import Keyspace.Json.Basic
import Keyspace.Json.Encoding
import Keyspace.Json.Parser
import Keyspace.Json.Printer
import Keyspace.KeyList
import Keyspace.Main
import Keyspace.Operation
import Keyspace.PartitionCount
import Keyspace.Pattern.Basic
import Keyspace.Pattern.Grammar
import Keyspace.Pattern.Language
import Keyspace.Pattern.Parser
import Keyspace.Pattern.Printer
import Keyspace.Preset
import Keyspace.Results
import Keyspace.Sampling
import Keyspace.Sampling.Feed
import Keyspace.Service.Reply
import Keyspace.Service.Request
import Keyspace.Service.Serve
import Keyspace.Service.Target
import Keyspace.Session
import Keyspace.Settings.Basic
import Keyspace.Settings.Dotenv
import Keyspace.Settings.Loading
import Keyspace.Showcase
import Keyspace.Text.Basic
import Keyspace.Text.Blank
import Keyspace.Text.Hexadecimal
import Keyspace.Text.Printable
import Keyspace.Text.Quoted
import Keyspace.Text.Uppercase
import Keyspace.Text.Utf8
import Keyspace.Text.Wide
import Keyspace.Value
import Keyspace.Proofs.RangeTable
import Keyspace.Proofs.Pattern.Atom
import Keyspace.Proofs.Pattern.Quantifier
import Keyspace.Proofs.Pattern.Reading
import Keyspace.Proofs.Generation
import Keyspace.Proofs.Batch
import Keyspace.Proofs.Questions
import Keyspace.Proofs.Replay
import Keyspace.Proofs.ClosedLoop
import Keyspace.Proofs.Pattern.Concatenation
import Keyspace.Proofs.Pattern.Printing
import Keyspace.Proofs.Accounting
import Keyspace.Proofs.Resharding
import Keyspace.Proofs.Binary64.Nearest
import Keyspace.Proofs.Binary64.Rounding
import Keyspace.Proofs.Binary64.Arithmetic
import Keyspace.Proofs.Binary64.Quotients
import Keyspace.Proofs.Figures
import Keyspace.Proofs.Text.Encodable
import Keyspace.Proofs.Pattern.Encodable
import Keyspace.Proofs.Pattern.Faults
import Keyspace.Proofs.Pattern.Positions
import Keyspace.Proofs.Draws
import Keyspace.Proofs.Service.Run
import Keyspace.Proofs.Service.Sendable
import Keyspace.Proofs.Service.Health
import Keyspace.Proofs.Service.Demands
import Keyspace.Proofs.Service.Independence
import Keyspace.Proofs.Service.Composition
import Keyspace.Proofs.Service.Classification
import Keyspace.Proofs.KeySeries
import Keyspace.Proofs.WholeBatch
import Keyspace.Proofs.Binary64.Order
import Keyspace.Proofs.CountGate
import Keyspace.Proofs.Text.Hexadecimal
import Keyspace.Proofs.Summary
import Keyspace.Proofs.KeyList
import Keyspace.Proofs.Evenness
import Keyspace.Proofs.Pattern.ExactNumbers
import Keyspace.Proofs.Binary64.Products
import Keyspace.Proofs.LoadOrder
import Keyspace.Proofs.Spread
import Keyspace.Proofs.Pattern.Extension
import Keyspace.Proofs.Transcript
import Keyspace.Proofs.Pattern.Walker
import Keyspace.Proofs.Pattern.Walk
