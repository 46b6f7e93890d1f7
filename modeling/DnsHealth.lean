import DnsHealth.Address
import DnsHealth.Bytes
import DnsHealth.CommandLine
import DnsHealth.Config
import DnsHealth.Crypto.Ecdsa
import DnsHealth.Crypto.Ed25519
import DnsHealth.Crypto.Rsa
import DnsHealth.Crypto.Sha1
import DnsHealth.Crypto.Sha2
import DnsHealth.Dnssec.Algorithm
import DnsHealth.Dnssec.Digest
import DnsHealth.Dnssec.Error
import DnsHealth.Dnssec.KeyMaterial
import DnsHealth.Dnssec.KeyTag
import DnsHealth.Dnssec.SignedData
import DnsHealth.Dnssec.Verification
import DnsHealth.Duration
import DnsHealth.Duration.Span
import DnsHealth.Duration.Written
import DnsHealth.FormatError
import DnsHealth.HostName
import DnsHealth.Idna
import DnsHealth.Idna.Label
import DnsHealth.Idna.Punycode
import DnsHealth.Main
import DnsHealth.Message
import DnsHealth.Message.Edns
import DnsHealth.Message.Header
import DnsHealth.Message.Record
import DnsHealth.Metrics
import DnsHealth.Metrics.Json
import DnsHealth.Name
import DnsHealth.Network
import DnsHealth.Probe.Assessment
import DnsHealth.Probe.Report
import DnsHealth.Probe.Session
import DnsHealth.Probe.Transcript
import DnsHealth.Rdata
import DnsHealth.Rdata.Decoder
import DnsHealth.Rdata.Presentation
import DnsHealth.RecordType
import DnsHealth.Settings
import DnsHealth.Settings.Decoding
import DnsHealth.Settings.Error
import DnsHealth.Text.Octets
import DnsHealth.Text.Characters
import DnsHealth.Text.Calendar
import DnsHealth.Unicode.Printable
import DnsHealth.Toml.Blank
import DnsHealth.Toml.Document
import DnsHealth.Toml.Table
import DnsHealth.Toml.Moment
import DnsHealth.Toml.Number
import DnsHealth.Toml.Quoted
import DnsHealth.Transport.Client
import DnsHealth.Transport.Datagram
import DnsHealth.Transport.Error
import DnsHealth.Transport.Protocol
import DnsHealth.Transport.Stream
import DnsHealth.Unicode.BidiClass
import DnsHealth.Unicode.CanonicalData
import DnsHealth.Unicode.HostMapping
import DnsHealth.Unicode.JoiningType
import DnsHealth.Unicode.Normalization
import DnsHealth.Unicode.RangeTable
import DnsHealth.Wire.CompressedName
import DnsHealth.Wire.Decoder
import DnsHealth.Proofs.Wire.Names
import DnsHealth.Proofs.Rdata
import DnsHealth.Proofs.Message.Edns
import DnsHealth.Proofs.Message.Header
import DnsHealth.Proofs.Message.Record
import DnsHealth.Proofs.Message.RoundTrip
import DnsHealth.Proofs.Name
import DnsHealth.Proofs.Dnssec.SignedData
import DnsHealth.Proofs.Dnssec.Verification
import DnsHealth.Proofs.Dnssec.KeyMaterial
import DnsHealth.Proofs.Probe.Sweep
import DnsHealth.Proofs.Probe.Flags
import DnsHealth.Proofs.Wire.PartialDecoder
import DnsHealth.Proofs.Message.PartialDecoder
import DnsHealth.Proofs.Message.Cursor
import DnsHealth.Proofs.Probe.Verdict
import DnsHealth.Proofs.HostName
import DnsHealth.Proofs.Probe.DelegationOwner
import DnsHealth.Proofs.Probe.Queries
import DnsHealth.Proofs.Probe.Answers
import DnsHealth.Proofs.Probe.KeyFlags
import DnsHealth.Proofs.Probe.Independence
import DnsHealth.Proofs.Dnssec.SignatureOwner
import DnsHealth.Proofs.Wire.Tail
import DnsHealth.Proofs.Message.Tail
import DnsHealth.Proofs.Transport.Framing
import DnsHealth.Proofs.Transport.Selection
import DnsHealth.Proofs.Transport.Truncation
import DnsHealth.Proofs.Wire.NameGrammar
import DnsHealth.Proofs.Message.Counts
import DnsHealth.Proofs.Name.Reverse
import DnsHealth.Proofs.Message.Query
import DnsHealth.Proofs.Probe.Sending
import DnsHealth.Proofs.Settings.Plugin
import DnsHealth.Proofs.Wire.NameWalk
import DnsHealth.Proofs.Name.Case
import DnsHealth.Proofs.Dnssec.Presentation
import DnsHealth.Proofs.Dnssec.CanonicalForm
import DnsHealth.Proofs.Dnssec.Wildcard
import DnsHealth.Proofs.Rdata.Canonical
import DnsHealth.Proofs.Dnssec.Delegation
import DnsHealth.Proofs.Text.CharacterString
import DnsHealth.Proofs.Name.Parse
import DnsHealth.Proofs.Name.Split
import DnsHealth.Proofs.Rdata.Payload
import DnsHealth.Proofs.Dnssec.KeyTag
import DnsHealth.Proofs.Crypto.Rsa
import DnsHealth.Proofs.Text.Digits
import DnsHealth.Proofs.Name.ReverseAddress
import DnsHealth.Proofs.Name.PrefixCode
import DnsHealth.Proofs.Wire.BitField
import DnsHealth.Proofs.Message.Layout
