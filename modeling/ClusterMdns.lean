import ClusterMdns.Address
import ClusterMdns.Address.Printer
import ClusterMdns.Address.Reader
import ClusterMdns.Arguments
import ClusterMdns.Arguments.Help
import ClusterMdns.Batch
import ClusterMdns.Cache
import ClusterMdns.Cluster.Advertisement
import ClusterMdns.Cluster.Decoder
import ClusterMdns.Cluster.Ingress
import ClusterMdns.Cluster.IngressRecords
import ClusterMdns.Cluster.Metadata
import ClusterMdns.Cluster.PortText
import ClusterMdns.Cluster.Protocol
import ClusterMdns.Cluster.Service
import ClusterMdns.Cluster.ServiceRecords
import ClusterMdns.ClusterAccess
import ClusterMdns.Failure
import ClusterMdns.Fleet
import ClusterMdns.Following
import ClusterMdns.Hostname
import ClusterMdns.Informer
import ClusterMdns.Json
import ClusterMdns.Json.Reader
import ClusterMdns.Json.Token
import ClusterMdns.Log.Completion
import ClusterMdns.Log.Directive
import ClusterMdns.Log.Filter
import ClusterMdns.Log.Line
import ClusterMdns.Log.Publishing
import ClusterMdns.Main
import ClusterMdns.Metric
import ClusterMdns.Name
import ClusterMdns.Name.Printer
import ClusterMdns.Name.Reader
import ClusterMdns.Number.Binary64
import ClusterMdns.Number.Reader
import ClusterMdns.Number.Shortest
import ClusterMdns.Pattern.Atom
import ClusterMdns.Pattern.Reader
import ClusterMdns.Pattern.Set
import ClusterMdns.Pipeline
import ClusterMdns.Program
import ClusterMdns.Record
import ClusterMdns.Record.Discovery
import ClusterMdns.Record.Host
import ClusterMdns.Record.Mnemonic
import ClusterMdns.Record.Reverse
import ClusterMdns.Relay
import ClusterMdns.Responder.Inquiry
import ClusterMdns.Responder.Lookup
import ClusterMdns.Responder.RecordSet
import ClusterMdns.Responder.Response
import ClusterMdns.ServerUrl
import ClusterMdns.Settings
import ClusterMdns.Settings.Environment
import ClusterMdns.Settings.File
import ClusterMdns.Settings.Format
import ClusterMdns.Settings.Json
import ClusterMdns.Settings.Layers
import ClusterMdns.Settings.Path
import ClusterMdns.Settings.Value
import ClusterMdns.Store
import ClusterMdns.Store.Listing
import ClusterMdns.Synchronizer
import ClusterMdns.TestMode
import ClusterMdns.Text.Alphanumeric
import ClusterMdns.Text.Blank
import ClusterMdns.Text.Case
import ClusterMdns.Text.Digits
import ClusterMdns.Text.Ending
import ClusterMdns.Text.Graphic
import ClusterMdns.Text.Lowercase
import ClusterMdns.Text.Quoted
import ClusterMdns.Text.Ranges
import ClusterMdns.TextMap
import ClusterMdns.Toml.Moment
import ClusterMdns.Toml.Node
import ClusterMdns.Toml.Quotation
import ClusterMdns.Toml.Reader
import ClusterMdns.Toml.Scalar
import ClusterMdns.Watch.Reply
import ClusterMdns.Watch.Session
import ClusterMdns.Watcher
import ClusterMdns.Proofs.Cache.ChangeLog
import ClusterMdns.Proofs.Cache.Identities
import ClusterMdns.Proofs.Cache.Listing
import ClusterMdns.Proofs.Cache.PerKey
import ClusterMdns.Proofs.Cache.Relisting
import ClusterMdns.Proofs.Cache.Standing
import ClusterMdns.Proofs.Cluster.Confinement
import ClusterMdns.Proofs.Cluster.Contents
import ClusterMdns.Proofs.Cluster.Flattening
import ClusterMdns.Proofs.Cluster.Gates
import ClusterMdns.Proofs.Cluster.InstanceNames
import ClusterMdns.Proofs.Cluster.PortTexts
import ClusterMdns.Proofs.Cluster.Representable
import ClusterMdns.Proofs.Cluster.RuleHosts
import ClusterMdns.Proofs.Cluster.SeparateNames
import ClusterMdns.Proofs.Cluster.StandardNames
import ClusterMdns.Proofs.Cluster.TextRecords
import ClusterMdns.Proofs.Fleet.Agreement
import ClusterMdns.Proofs.Fleet.Deliveries
import ClusterMdns.Proofs.Fleet.Missing
import ClusterMdns.Proofs.Fleet.Sequential
import ClusterMdns.Proofs.Fleet.Stale
import ClusterMdns.Proofs.Informer.Cancellation
import ClusterMdns.Proofs.Informer.Course
import ClusterMdns.Proofs.Json.Grammar
import ClusterMdns.Proofs.Json.Reading
import ClusterMdns.Proofs.Json.Strings
import ClusterMdns.Proofs.Json.Values
import ClusterMdns.Proofs.Log.CompletedOnce
import ClusterMdns.Proofs.Name.Grammar
import ClusterMdns.Proofs.Name.Reading
import ClusterMdns.Proofs.Name.Spelling
import ClusterMdns.Proofs.Name.UnderLocal
import ClusterMdns.Proofs.Record.ReverseDecoding
import ClusterMdns.Proofs.Relay.Accounts
import ClusterMdns.Proofs.Relay.Handoff
import ClusterMdns.Proofs.Relay.Moves
import ClusterMdns.Proofs.Relay.Pace
import ClusterMdns.Proofs.Relay.Progress
import ClusterMdns.Proofs.Relay.Rest
import ClusterMdns.Proofs.Relay.Undisturbed
import ClusterMdns.Proofs.Responder.Answers
import ClusterMdns.Proofs.Responder.Interrupted
import ClusterMdns.Proofs.Settings.Accepted
import ClusterMdns.Proofs.Settings.CodedTexts
import ClusterMdns.Proofs.Settings.FieldByField
import ClusterMdns.Proofs.Settings.Fields
import ClusterMdns.Proofs.Settings.Keys
import ClusterMdns.Proofs.Settings.Layer
import ClusterMdns.Proofs.Settings.Masking
import ClusterMdns.Proofs.Settings.Namespace
import ClusterMdns.Proofs.Settings.Relaying
import ClusterMdns.Proofs.Store.Accounting
import ClusterMdns.Proofs.Store.Contents
import ClusterMdns.Proofs.Store.Counts
import ClusterMdns.Proofs.Store.Interleaving
import ClusterMdns.Proofs.Store.Journal
import ClusterMdns.Proofs.Store.Reached
import ClusterMdns.Proofs.Store.Replacement
import ClusterMdns.Proofs.Store.Schedules
import ClusterMdns.Proofs.Store.Spelling
import ClusterMdns.Proofs.Text.ByteOrder
import ClusterMdns.Proofs.Text.Lowercase
import ClusterMdns.Proofs.Text.Numerals
import ClusterMdns.Proofs.Text.Parts
import ClusterMdns.Proofs.Text.Trimming
