import TxGateway.Connector
import TxGateway.Connector.Error
import TxGateway.Digits
import TxGateway.Duration
import TxGateway.Endpoint
import TxGateway.GasPrice
import TxGateway.Hex
import TxGateway.Http.Listener
import TxGateway.Http.Message
import TxGateway.Http.Service
import TxGateway.Json.Basic
import TxGateway.Json.Double
import TxGateway.Json.Fault
import TxGateway.Json.Mismatch
import TxGateway.Json.Numeral
import TxGateway.Json.Outline
import TxGateway.Json.Printer
import TxGateway.Json.Reader
import TxGateway.Json.Record
import TxGateway.Json.Scanner
import TxGateway.Json.Word
import TxGateway.Node
import TxGateway.Quantity
import TxGateway.Reason
import TxGateway.Request
import TxGateway.Response
import TxGateway.Rpc.Envelope
import TxGateway.Rpc.Params
import TxGateway.Rpc.Reply
import TxGateway.Rpc.Service
import TxGateway.Session
import TxGateway.Settings
import TxGateway.SocketAddress
import TxGateway.Submission
import TxGateway.Text.Blank
import TxGateway.Text.LetterCase
import TxGateway.Text.Printable
import TxGateway.Text.Quoted
import TxGateway.Text.Ranges
import TxGateway.Text.SmallLetter
import TxGateway.Transaction
import TxGateway.Main
import TxGateway.Proofs.Fallible
import TxGateway.Proofs.HexText
import TxGateway.Proofs.QuantityText
import TxGateway.Proofs.Preparation
import TxGateway.Proofs.Submission
import TxGateway.Proofs.Json.Grammar
import TxGateway.Proofs.Json.Depth
import TxGateway.Proofs.Json.Integer
import TxGateway.Proofs.Json.Spelling
import TxGateway.Proofs.PreSigned
import TxGateway.Proofs.Precedence
import TxGateway.Proofs.Json.Members
import TxGateway.Proofs.GasPrice
import TxGateway.Proofs.Json.Readback
import TxGateway.Proofs.Json.Fields
import TxGateway.Proofs.Json.Strict
import TxGateway.Proofs.SentTransaction
import TxGateway.Proofs.Restatement
import TxGateway.Proofs.Rpc.Params
import TxGateway.Proofs.Rpc.Calls
import TxGateway.Proofs.Rpc.Replies
import TxGateway.Proofs.Draft
import TxGateway.Proofs.PriceSpelling
import TxGateway.Proofs.Respelling
import TxGateway.Proofs.Operation
import TxGateway.Proofs.World
import TxGateway.Proofs.Independence
import TxGateway.Proofs.KeywordSearch
import TxGateway.Proofs.QuantityGrammar
import TxGateway.Proofs.TroubleText
import TxGateway.Proofs.Json.NameOrder
import TxGateway.Proofs.GasPriceDecision
import TxGateway.Proofs.HexGrammar
import TxGateway.Proofs.FirstFault
import TxGateway.Proofs.ReportedHash
import TxGateway.Proofs.LegacyOffer
import TxGateway.Proofs.Rpc.Readiness
import TxGateway.Proofs.Json.Scanned
import TxGateway.Proofs.Json.MemberOrder
import TxGateway.Proofs.Json.NormalLiteral
import TxGateway.Proofs.Rearrangement
import TxGateway.Proofs.Json.FreeForm
import TxGateway.Proofs.NumericField
import TxGateway.Proofs.Serialization
import TxGateway.Proofs.PositionalRequest
import TxGateway.Proofs.CanonicalForm
