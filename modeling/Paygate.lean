import Paygate.Bytes.Base32
import Paygate.Bytes.Base64
import Paygate.Bytes.Basic
import Paygate.Bytes.Hex
import Paygate.Charset.Basic
import Paygate.Charset.Big5
import Paygate.Charset.Chinese
import Paygate.Charset.CodeTable
import Paygate.Charset.Dos
import Paygate.Charset.Ebcdic
import Paygate.Charset.Escape
import Paygate.Charset.Gb2312
import Paygate.Charset.Gbk
import Paygate.Charset.Hkscs
import Paygate.Charset.Iso2022
import Paygate.Charset.Iso8859
import Paygate.Charset.Japanese
import Paygate.Charset.Jis0208
import Paygate.Charset.Jis0212
import Paygate.Charset.Jis0213
import Paygate.Charset.Jis932
import Paygate.Charset.Koi8
import Paygate.Charset.Korean
import Paygate.Charset.KsX1001
import Paygate.Charset.Macintosh
import Paygate.Charset.Name
import Paygate.Charset.Piece
import Paygate.Charset.Utf7
import Paygate.Charset.Windows
import Paygate.Compression.Bits
import Paygate.Compression.Checksum
import Paygate.Compression.Container
import Paygate.Compression.Error
import Paygate.Compression.Huffman
import Paygate.Compression.Inflate
import Paygate.Crypto.Crc16
import Paygate.Crypto.Ed25519
import Paygate.Crypto.Sha256
import Paygate.Crypto.Sha512
import Paygate.Entries
import Paygate.Federation.Address
import Paygate.Federation.Error
import Paygate.Federation.Record
import Paygate.Federation.Resolver
import Paygate.Horizon.Client
import Paygate.Http.Coding
import Paygate.Http.Fault
import Paygate.Http.Headers
import Paygate.Http.Message
import Paygate.Http.Network
import Paygate.Http.Parameters
import Paygate.Http.Redirect
import Paygate.Json.Basic
import Paygate.Json.Reader
import Paygate.Json.Writer
import Paygate.Ledger.Builder
import Paygate.Ledger.Transaction
import Paygate.Ledger.Xdr
import Paygate.Log.Draft
import Paygate.Log.Line
import Paygate.Log.Record
import Paygate.Log.Setup
import Paygate.Log.Shown
import Paygate.Log.Template
import Paygate.Number.Binary64
import Paygate.Number.Numeral
import Paygate.Number.Places
import Paygate.Payment.Amount
import Paygate.Payment.Asset
import Paygate.Payment.Error
import Paygate.Payment.Field
import Paygate.Payment.Memo
import Paygate.Payment.Operation
import Paygate.Payment.Request
import Paygate.Pipeline.Execute
import Paygate.Pipeline.Session
import Paygate.Pipeline.World
import Paygate.Proofs.Bytes.Base32
import Paygate.Proofs.Bytes.Base64
import Paygate.Proofs.Bytes.Bits
import Paygate.Proofs.Bytes.Hex
import Paygate.Proofs.Check
import Paygate.Proofs.Crypto.Crc16
import Paygate.Proofs.Except
import Paygate.Proofs.Federation.Division
import Paygate.Proofs.Federation.Faults
import Paygate.Proofs.Federation.Record
import Paygate.Proofs.Federation.Resolver
import Paygate.Proofs.Federation.Resource
import Paygate.Proofs.Federation.Silence
import Paygate.Proofs.Horizon.Answers
import Paygate.Proofs.Horizon.Client
import Paygate.Proofs.Horizon.Silence
import Paygate.Proofs.Http.Exchanges
import Paygate.Proofs.Http.Scheme
import Paygate.Proofs.Json.Without
import Paygate.Proofs.Ledger.Acceptance
import Paygate.Proofs.Ledger.Amounts
import Paygate.Proofs.Ledger.Content
import Paygate.Proofs.Ledger.Reads
import Paygate.Proofs.Ledger.Verdict
import Paygate.Proofs.Ledger.Wire
import Paygate.Proofs.Log.Line
import Paygate.Proofs.Payment.Amount
import Paygate.Proofs.Payment.Checks
import Paygate.Proofs.Payment.Keys
import Paygate.Proofs.Payment.Making
import Paygate.Proofs.Payment.Memo
import Paygate.Proofs.Payment.Path
import Paygate.Proofs.Payment.PathNames
import Paygate.Proofs.Payment.PathPayment
import Paygate.Proofs.Payment.Reading
import Paygate.Proofs.Payment.Rendering
import Paygate.Proofs.Payment.Typos
import Paygate.Proofs.Pipeline.Course
import Paygate.Proofs.Pipeline.Failures
import Paygate.Proofs.Pipeline.Keys
import Paygate.Proofs.Pipeline.Memo
import Paygate.Proofs.Pipeline.Order
import Paygate.Proofs.Pipeline.Precedence
import Paygate.Proofs.Pipeline.Records
import Paygate.Proofs.Pipeline.Run
import Paygate.Proofs.Pipeline.Seeds
import Paygate.Proofs.Pipeline.Sequence
import Paygate.Proofs.Pipeline.Silence
import Paygate.Proofs.Service.Creation
import Paygate.Proofs.Service.Form
import Paygate.Proofs.Service.Keys
import Paygate.Proofs.Service.Making
import Paygate.Proofs.Service.Records
import Paygate.Proofs.Service.Replies
import Paygate.Proofs.Service.Silence
import Paygate.Proofs.Service.Success
import Paygate.Proofs.Service.Upstream
import Paygate.Proofs.Settings.Fee
import Paygate.Proofs.StrKey
import Paygate.Proofs.Text.Ascii
import Paygate.Proofs.Text.Utf8
import Paygate.Proofs.Url.FormEncoding
import Paygate.Service.Form
import Paygate.Service.Gateway
import Paygate.Service.Multipart
import Paygate.Service.Route
import Paygate.Service.Startup
import Paygate.Settings.Basic
import Paygate.Settings.EnvFile
import Paygate.Settings.Numeral
import Paygate.StrKey
import Paygate.Text.Blank
import Paygate.Text.CharClass
import Paygate.Text.CharacterName
import Paygate.Text.Combining
import Paygate.Text.Digit
import Paygate.Text.Direction
import Paygate.Text.Encoding
import Paygate.Text.Integer
import Paygate.Text.Joining
import Paygate.Text.LowerCase
import Paygate.Text.NameTable
import Paygate.Text.Printable
import Paygate.Text.Quoted
import Paygate.Text.Utf8
import Paygate.Toml.Reader
import Paygate.Toml.Scalar
import Paygate.Toml.Table
import Paygate.Url.Basic
import Paygate.Url.Error
import Paygate.Url.HostLetter
import Paygate.Url.Idna
import Paygate.Url.IpAddress
import Paygate.Url.Percent
import Paygate.Url.Punycode
