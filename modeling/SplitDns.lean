import SplitDns.Text.Blank
import SplitDns.Text.Number
import SplitDns.Dns.RecordType
import SplitDns.Dns.Class
import SplitDns.Net.Ip
import SplitDns.Dns.Answer
import SplitDns.Net.Address
import SplitDns.Error
import SplitDns.Net.Span
import SplitDns.Net.Cidr
import SplitDns.Domestic
import SplitDns.Domestic.Builtin
import SplitDns.Text.Punycode
import SplitDns.Unicode.Runs
import SplitDns.Unicode.CategoryData
import SplitDns.Unicode.Category
import SplitDns.Unicode.BidiData
import SplitDns.Unicode.Bidi
import SplitDns.Unicode.JoiningData
import SplitDns.Unicode.Joining
import SplitDns.Unicode.IdnaData
import SplitDns.Unicode.IdnaMapping
import SplitDns.Unicode.NormalizationData
import SplitDns.Unicode.Normalization
import SplitDns.Text.Idna
import SplitDns.Text.Utf8
import SplitDns.Wire.Name
import SplitDns.Wire.Decode
import SplitDns.Wire.Encode
import SplitDns.Wire.ServiceParams
import SplitDns.Wire.TypeBitmap
import SplitDns.Net.Url
import SplitDns.Wire.Caa
import SplitDns.Wire.Rdata
import SplitDns.Wire.Message
import SplitDns.Exchange
import SplitDns.Text.Binary64
import SplitDns.Cache
import SplitDns.Arbiter
import SplitDns.Scripted
import SplitDns.Forwarder
import SplitDns.Server
import SplitDns.Session
import SplitDns.Transport
import SplitDns.Network
import SplitDns.Toml.Fault
import SplitDns.Toml.Lex
import SplitDns.Toml.Parse
import SplitDns.Toml.Value
import SplitDns.Toml.Strings
import SplitDns.Toml.Datetime
import SplitDns.Toml.Scalar
import SplitDns.Toml.Build
import SplitDns.Toml.Report
import SplitDns.Text.Quote
import SplitDns.Config
import SplitDns.Text.Similarity
import SplitDns.Cli.Args
import SplitDns.Cli.Run
import SplitDns.Main
import SplitDns.Proofs.CacheCalls
import SplitDns.Proofs.CacheLru
import SplitDns.Proofs.CacheCounters
import SplitDns.Proofs.Arbitration
import SplitDns.Proofs.NoNegativeCaching
import SplitDns.Proofs.SpanMerge
import SplitDns.Proofs.SpanSearch
import SplitDns.Proofs.DomesticMembership
import SplitDns.Proofs.QueryHandling
import SplitDns.Proofs.CanonicalRanges
import SplitDns.Proofs.StartupChecks
import SplitDns.Proofs.CacheExpiry
import SplitDns.Proofs.GenuineReplies
import SplitDns.Proofs.TableText
import SplitDns.Proofs.WireReading
import SplitDns.Proofs.ResponseReading
import SplitDns.Proofs.WireWriting
import SplitDns.Proofs.QueryRoundTrip
import SplitDns.Proofs.AddressText
import SplitDns.Proofs.AddressNormalization
