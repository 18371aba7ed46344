import CompactHttp.Base64
import CompactHttp.Buffer
import CompactHttp.Bytes
import CompactHttp.Checked
import CompactHttp.Client
import CompactHttp.Client.Error
import CompactHttp.Client.Response
import CompactHttp.CommandLine
import CompactHttp.CommandLine.Arguments
import CompactHttp.CommandLine.Failure
import CompactHttp.CommandLine.Input
import CompactHttp.CommandLine.Usage
import CompactHttp.Compression
import CompactHttp.Compression.Bits
import CompactHttp.Compression.Brotli
import CompactHttp.Compression.Checksum
import CompactHttp.Compression.Deflate
import CompactHttp.Compression.Encoding
import CompactHttp.Compression.Gzip
import CompactHttp.Compression.PrefixCode
import CompactHttp.Compression.Production
import CompactHttp.Compression.Repeats
import CompactHttp.Compression.ValueTable
import CompactHttp.Compression.Zstd
import CompactHttp.Config
import CompactHttp.Config.Document
import CompactHttp.Config.Validation
import CompactHttp.ContentType
import CompactHttp.Crash
import CompactHttp.Demo
import CompactHttp.Dump
import CompactHttp.Dump.Sheet
import CompactHttp.FormatError
import CompactHttp.Framing
import CompactHttp.Headers
import CompactHttp.Headers.Block
import CompactHttp.Headers.Table
import CompactHttp.Main
import CompactHttp.Message
import CompactHttp.Method
import CompactHttp.Net.Address
import CompactHttp.Net.KeyRecord
import CompactHttp.Net.LocalNetwork
import CompactHttp.Net.Resolver
import CompactHttp.Net.Transport
import CompactHttp.Proofs.HeaderMaps
import CompactHttp.Proofs.Lowercase
import CompactHttp.Proofs.Parts
import CompactHttp.Proofs.Varint
import CompactHttp.Redirect
import CompactHttp.Server
import CompactHttp.Server.Router
import CompactHttp.Server.Serving
import CompactHttp.Simulation
import CompactHttp.Status
import CompactHttp.Text.Blank
import CompactHttp.Text.CaseTable
import CompactHttp.Text.CharRanges
import CompactHttp.Text.Detail
import CompactHttp.Text.Lowercase
import CompactHttp.Text.Number
import CompactHttp.Text.PrintTable
import CompactHttp.Text.Quoted
import CompactHttp.Text.Utf8
import CompactHttp.Toml
import CompactHttp.Toml.Scalar
import CompactHttp.Toml.Text
import CompactHttp.Toml.Value
import CompactHttp.Url
import CompactHttp.Url.DomainName
import CompactHttp.Url.Host
import CompactHttp.Url.Percent
import CompactHttp.Url.Punycode
import CompactHttp.Varint
import CompactHttp.Varint.Word
import CompactHttp.Proofs.ClientActions
import CompactHttp.Proofs.Recording
import CompactHttp.Proofs.Redirection
import CompactHttp.Proofs.Receiving
import CompactHttp.Proofs.SmallNames
import CompactHttp.Proofs.EncodedSize
import CompactHttp.Proofs.Relaying
import CompactHttp.Proofs.Unpacking
import CompactHttp.Proofs.Packing
import CompactHttp.Proofs.HeaderBlocks
import CompactHttp.Proofs.FirstByte
import CompactHttp.Proofs.Messages
import CompactHttp.Proofs.MessageLength
import CompactHttp.Proofs.Reading
import CompactHttp.Proofs.Agreement
import CompactHttp.Proofs.RoundTrip
import CompactHttp.Proofs.Reassembly
import CompactHttp.Proofs.ServiceSteps
import CompactHttp.Proofs.ServiceLog
import CompactHttp.Proofs.Serving
import CompactHttp.Proofs.Pipelining
import CompactHttp.Proofs.Deeds
import CompactHttp.Proofs.OneRequest
import CompactHttp.Proofs.Exchange
import CompactHttp.Proofs.Ownership
import CompactHttp.Proofs.Traffic
import CompactHttp.Proofs.Progress
import CompactHttp.Proofs.Ceiling
import CompactHttp.Proofs.CheckedReading
import CompactHttp.History
import CompactHttp.Proofs.Registry
import CompactHttp.Proofs.Carrying
import CompactHttp.Proofs.UrlHosts
import CompactHttp.Proofs.RelativeRedirects
import CompactHttp.Proofs.KeyDiscovery
import CompactHttp.Proofs.LinkLedger
import CompactHttp.Errands
import CompactHttp.Proofs.ConnectionState
import CompactHttp.Proofs.Errands
import CompactHttp.Proofs.StreamNumbers
import CompactHttp.Proofs.HeaderGrammar
import CompactHttp.Proofs.ShortestHeaders
import CompactHttp.Proofs.Decimals
import CompactHttp.Proofs.Answering
import CompactHttp.Proofs.TextParts
import CompactHttp.Proofs.Negotiation
import CompactHttp.Proofs.Threshold
import CompactHttp.Proofs.Base64
import CompactHttp.Proofs.KeyRecords
import CompactHttp.Proofs.CrossHost
import CompactHttp.Proofs.BodyRules
import CompactHttp.Proofs.GivenLength
import CompactHttp.Proofs.HeaderLookup
import CompactHttp.Proofs.DumpItems
import CompactHttp.Proofs.DumpRows
import CompactHttp.Proofs.DumpText
import CompactHttp.Proofs.HexInput
import CompactHttp.Proofs.NumberOutcomes
import CompactHttp.Proofs.ShortestNumbers
