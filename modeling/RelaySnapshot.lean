import RelaySnapshot.Address
import RelaySnapshot.Address.Parser
import RelaySnapshot.Address.Printer
import RelaySnapshot.Build
import RelaySnapshot.Build.Parties
import RelaySnapshot.Build.Turns
import RelaySnapshot.Calendar.Date
import RelaySnapshot.Calendar.Instant
import RelaySnapshot.Calendar.Moment
import RelaySnapshot.Calendar.Month
import RelaySnapshot.Calendar.Timestamp
import RelaySnapshot.CommandLine
import RelaySnapshot.CommandLine.Arguments
import RelaySnapshot.CommandLine.Report
import RelaySnapshot.ConfigValue
import RelaySnapshot.Content
import RelaySnapshot.Descriptor
import RelaySnapshot.Descriptor.Block
import RelaySnapshot.Descriptor.Line
import RelaySnapshot.Descriptor.Reader
import RelaySnapshot.Double
import RelaySnapshot.Double.Shortest
import RelaySnapshot.Emission
import RelaySnapshot.Endpoint
import RelaySnapshot.Enrichment
import RelaySnapshot.ExitPolicy
import RelaySnapshot.Family
import RelaySnapshot.FileTree
import RelaySnapshot.Fingerprint
import RelaySnapshot.Fingerprint.Map
import RelaySnapshot.Fingerprint.Set
import RelaySnapshot.Geo
import RelaySnapshot.Geo.File
import RelaySnapshot.Ini
import RelaySnapshot.IoError
import RelaySnapshot.Json
import RelaySnapshot.Json5.Document
import RelaySnapshot.Json5.Reader
import RelaySnapshot.Json5.Value
import RelaySnapshot.Path
import RelaySnapshot.Proofs.Address.Text
import RelaySnapshot.Proofs.Build.Failures
import RelaySnapshot.Proofs.Build.History
import RelaySnapshot.Proofs.Build.Outcome
import RelaySnapshot.Proofs.Build.ReadBack
import RelaySnapshot.Proofs.Build.Snapshot
import RelaySnapshot.Proofs.Build.Turns
import RelaySnapshot.Proofs.Calendar.MonthText
import RelaySnapshot.Proofs.Calendar.Order
import RelaySnapshot.Proofs.Calendar.Sorting
import RelaySnapshot.Proofs.Calendar.Tiling
import RelaySnapshot.Proofs.Calendar.Timestamp
import RelaySnapshot.Proofs.CommandLine.Keeping
import RelaySnapshot.Proofs.CommandLine.Runs
import RelaySnapshot.Proofs.Descriptor.Blocks
import RelaySnapshot.Proofs.Descriptor.Idle
import RelaySnapshot.Proofs.Descriptor.Reading
import RelaySnapshot.Proofs.Emission.Coverage
import RelaySnapshot.Proofs.Emission.Extent
import RelaySnapshot.Proofs.Enrichment.Answers
import RelaySnapshot.Proofs.ExitPolicy.Lines
import RelaySnapshot.Proofs.Family.Derivation
import RelaySnapshot.Proofs.Family.Edges
import RelaySnapshot.Proofs.FileTree.Paths
import RelaySnapshot.Proofs.Fingerprint.Lookup
import RelaySnapshot.Proofs.Fingerprint.Spelling
import RelaySnapshot.Proofs.Fingerprint.Text
import RelaySnapshot.Proofs.Reconciliation.Interleaving
import RelaySnapshot.Proofs.Source.Breaking
import RelaySnapshot.Proofs.Source.Carrier
import RelaySnapshot.Proofs.Source.Contact
import RelaySnapshot.Proofs.Source.FullPass
import RelaySnapshot.Proofs.Store.Chronology
import RelaySnapshot.Proofs.Store.Creation
import RelaySnapshot.Proofs.Text.Utf8
import RelaySnapshot.Proofs.Whois.Lookup
import RelaySnapshot.Proofs.Whois.Response
import RelaySnapshot.Reconciliation
import RelaySnapshot.Record
import RelaySnapshot.Ron.Document
import RelaySnapshot.Ron.Failure
import RelaySnapshot.Ron.Value
import RelaySnapshot.Settings
import RelaySnapshot.Settings.Conversion
import RelaySnapshot.Settings.Environment
import RelaySnapshot.Settings.File
import RelaySnapshot.Settings.KeyPath
import RelaySnapshot.Settings.Layers
import RelaySnapshot.Settings.Value
import RelaySnapshot.Source
import RelaySnapshot.Source.Locate
import RelaySnapshot.Store
import RelaySnapshot.Store.Cell
import RelaySnapshot.Store.Database
import RelaySnapshot.Store.Error
import RelaySnapshot.Store.Reading
import RelaySnapshot.Store.Session
import RelaySnapshot.Text.Basic
import RelaySnapshot.Text.Decimal
import RelaySnapshot.Text.Hexadecimal
import RelaySnapshot.Text.Letter
import RelaySnapshot.Text.LowerCase
import RelaySnapshot.Text.Quoted
import RelaySnapshot.Text.Unprintable
import RelaySnapshot.Text.Utf8
import RelaySnapshot.Timeline
import RelaySnapshot.Toml.Document
import RelaySnapshot.Toml.Failure
import RelaySnapshot.Toml.Moment
import RelaySnapshot.Toml.Number
import RelaySnapshot.Toml.Quotation
import RelaySnapshot.Toml.Reader
import RelaySnapshot.Toml.Table
import RelaySnapshot.Toml.Value
import RelaySnapshot.Whois
import RelaySnapshot.Yaml.Cursor
import RelaySnapshot.Yaml.Document
import RelaySnapshot.Yaml.Failure
import RelaySnapshot.Yaml.Layout
import RelaySnapshot.Yaml.Node
import RelaySnapshot.Yaml.Scalar
import RelaySnapshot.Yaml.Tag
import RelaySnapshot.Yaml.Token
