import PlanQuota.Text.Utf8
import PlanQuota.Text.Blank
import PlanQuota.Text.Quoted
import PlanQuota.Binary64.Basic
import PlanQuota.Binary64.Shortest
import PlanQuota.Json.Basic
import PlanQuota.Json.Reader
import PlanQuota.Json.Writer
import PlanQuota.Json.Record
import PlanQuota.Catalog.Basic
import PlanQuota.Catalog.Document
import PlanQuota.Desired
import PlanQuota.Quota
import PlanQuota.Observation
import PlanQuota.SetRequest
import PlanQuota.Refusal
import PlanQuota.Url.Basic
import PlanQuota.Failure
import PlanQuota.Catalog.Lookup
import PlanQuota.Engine
import PlanQuota.Memory
import PlanQuota.Url.Form
import PlanQuota.Url.Parse
import PlanQuota.Settings
import PlanQuota.Http.Message
import PlanQuota.Http.Client
import PlanQuota.Report
import PlanQuota.AmountText
import PlanQuota.CommandLine
import PlanQuota.Http.Script
import PlanQuota.Main
import PlanQuota.Proofs.Trace
import PlanQuota.Proofs.Operations
import PlanQuota.Proofs.Lifetime
import PlanQuota.Proofs.SharedDeletion
import PlanQuota.Proofs.Overwriting
import PlanQuota.Proofs.Interleaving
import PlanQuota.Proofs.Session
import PlanQuota.Proofs.Endpoint
import PlanQuota.Proofs.Playback
import PlanQuota.Proofs.Footprint
import PlanQuota.Proofs.Terminality
import PlanQuota.Proofs.Utf8
import PlanQuota.Proofs.ReadBack
import PlanQuota.Proofs.WireFormat
import PlanQuota.Proofs.Exactness
import PlanQuota.Proofs.Listing
import PlanQuota.Proofs.Spelling
import PlanQuota.Proofs.Lookup
import PlanQuota.Proofs.Precedence
import PlanQuota.Proofs.Explanation
import PlanQuota.Proofs.Escapes
import PlanQuota.Proofs.SettledPath
import PlanQuota.Proofs.BelowBase
import PlanQuota.Proofs.SameName
import PlanQuota.Proofs.Secrecy
import PlanQuota.Proofs.AmountText
import PlanQuota.Proofs.Delivery
import PlanQuota.Proofs.CommandLine
import PlanQuota.Proofs.Comparison
import PlanQuota.Proofs.Echo
import PlanQuota.Proofs.Isolation
import PlanQuota.Proofs.Reordering
import PlanQuota.Proofs.QueryPairs
import PlanQuota.Proofs.HeaderValues
