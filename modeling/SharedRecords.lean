import SharedRecords.Channel.Address
import SharedRecords.Channel.ClientEnd
import SharedRecords.Channel.Control
import SharedRecords.Channel.Error
import SharedRecords.Channel.Poller
import SharedRecords.Channel.ServerEnd
import SharedRecords.Client.Basic
import SharedRecords.Client.Error
import SharedRecords.Client.Options
import SharedRecords.Client.Publication
import SharedRecords.Database
import SharedRecords.Duration
import SharedRecords.KeyMap
import SharedRecords.Latency.Basic
import SharedRecords.Latency.Summary
import SharedRecords.Manager.Basic
import SharedRecords.Manager.Exchange
import SharedRecords.Metrics.Basic
import SharedRecords.Metrics.Exposition
import SharedRecords.Metrics.Tally
import SharedRecords.Number.Binary
import SharedRecords.Number.Decimal
import SharedRecords.Number.Parse
import SharedRecords.Number.Total
import SharedRecords.Proofs.Channel.Calls
import SharedRecords.Proofs.Channel.Faithful
import SharedRecords.Proofs.Channel.Frames
import SharedRecords.Proofs.Channel.Invariant
import SharedRecords.Proofs.Channel.Rendezvous
import SharedRecords.Proofs.Channel.Submission
import SharedRecords.Proofs.Client.Response
import SharedRecords.Proofs.KeyMap
import SharedRecords.Proofs.Manager.Opening
import SharedRecords.Proofs.Manager.Reached
import SharedRecords.Proofs.Manager.Serving
import SharedRecords.Proofs.Manager.Transparent
import SharedRecords.Proofs.Manager.Transport
import SharedRecords.Proofs.Region.Memory
import SharedRecords.Proofs.Region.Pool
import SharedRecords.Proofs.Region.Volume
import SharedRecords.Proofs.Session.Orderly
import SharedRecords.Proofs.Session.Publishing
import SharedRecords.Proofs.Session.Starting
import SharedRecords.Proofs.Session.Turns
import SharedRecords.Proofs.Store.Reference
import SharedRecords.Proofs.Store.Refinement
import SharedRecords.Proofs.Wire.RoundTrip
import SharedRecords.Region.Error
import SharedRecords.Region.Handle
import SharedRecords.Region.Memory
import SharedRecords.Region.Pool
import SharedRecords.Region.Volume
import SharedRecords.Schema
import SharedRecords.Session.Basic
import SharedRecords.Session.Error
import SharedRecords.Session.Options
import SharedRecords.Session.Publish
import SharedRecords.Session.State
import SharedRecords.Session.Violation
import SharedRecords.Settings.Basic
import SharedRecords.Settings.Dialect
import SharedRecords.Settings.Document
import SharedRecords.Settings.Error
import SharedRecords.Settings.Layers
import SharedRecords.Settings.Path
import SharedRecords.Settings.Places
import SharedRecords.Settings.Tree
import SharedRecords.Settings.Written
import SharedRecords.Store.Backend
import SharedRecords.Store.Basic
import SharedRecords.Store.Error
import SharedRecords.Store.Outcome
import SharedRecords.Store.StoredTable
import SharedRecords.Text.CaseIgnorable
import SharedRecords.Text.Cased
import SharedRecords.Text.Hex
import SharedRecords.Text.Lines
import SharedRecords.Text.LowerCase
import SharedRecords.Text.Path
import SharedRecords.Text.Quoted
import SharedRecords.Text.Ranges
import SharedRecords.Text.Unseen
import SharedRecords.Toml.Document
import SharedRecords.Toml.Lexical
import SharedRecords.Toml.Node
import SharedRecords.Toml.Scalar
import SharedRecords.Toml.Value
import SharedRecords.Wire.Chunk
import SharedRecords.Wire.Code
import SharedRecords.Wire.Encoder
import SharedRecords.Wire.Error
import SharedRecords.Wire.LittleEndian
import SharedRecords.Wire.Payload
import SharedRecords.Wire.Reader
import SharedRecords.Wire.Reply
import SharedRecords.Wire.Request
import SharedRecords.Wire.Shape
import SharedRecords.Workload.Basic
import SharedRecords.Workload.Mix
import SharedRecords.Workload.Run
import SharedRecords.Proofs.Session.Inversion
import SharedRecords.Proofs.Session.Lifecycle
import SharedRecords.Proofs.Session.Exchange
import SharedRecords.Proofs.Manager.Joining
import SharedRecords.Proofs.Manager.Acknowledged
import SharedRecords.Proofs.Manager.Untroubled
import SharedRecords.Proofs.Manager.Agreement
import SharedRecords.Proofs.Manager.Gathered
import SharedRecords.Proofs.Manager.Publications
import SharedRecords.Proofs.Manager.RuntimeCalls
import SharedRecords.Proofs.Channel.Deadline
import SharedRecords.Proofs.Wire.Decoding
import SharedRecords.Proofs.Client.Standing
import SharedRecords.Proofs.Session.Breach
import SharedRecords.Proofs.Manager.Containment
import SharedRecords.Proofs.Session.Services
import SharedRecords.Proofs.Manager.Accounts
import SharedRecords.Proofs.Manager.Bookkeeping
import SharedRecords.Proofs.Manager.Balance
import SharedRecords.Proofs.Wire.Fitting
import SharedRecords.Proofs.Wire.Deposits
import SharedRecords.Proofs.Wire.Truncation
import SharedRecords.Proofs.Wire.Provision
import SharedRecords.Proofs.Settings.Validity
import SharedRecords.Proofs.Database.InProcess
import SharedRecords.Proofs.Session.Downgrade
import SharedRecords.Proofs.Database.Connecting
import SharedRecords.Proofs.Manager.Reliable
import SharedRecords.Proofs.Manager.Supervision
import SharedRecords.Proofs.Manager.Supervised
import SharedRecords.Proofs.Manager.SupervisionCalls
import SharedRecords.Proofs.Workload.Evenness
import SharedRecords.Proofs.Workload.Reported
import SharedRecords.Proofs.Workload.Stock
import SharedRecords.Proofs.Workload.Hits
import SharedRecords.Proofs.Region.History
import SharedRecords.Proofs.Settings.Precedence
import SharedRecords.Proofs.Store.Rows
