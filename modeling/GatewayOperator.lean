import GatewayOperator.Cluster.Deployment
import GatewayOperator.Cluster.Event
import GatewayOperator.Cluster.Failure
import GatewayOperator.Cluster.Ingress
import GatewayOperator.Cluster.Kind
import GatewayOperator.Cluster.Metadata
import GatewayOperator.Cluster.Pod
import GatewayOperator.Cluster.Secret
import GatewayOperator.Cluster.Service
import GatewayOperator.Config.Basic
import GatewayOperator.Config.CommandLine
import GatewayOperator.Controller.Timeline
import GatewayOperator.Controller.Visit
import GatewayOperator.Controller.Watch
import GatewayOperator.Decimal.Shortest
import GatewayOperator.Decimal.Text
import GatewayOperator.Definition.Gateway
import GatewayOperator.Definition.Manifest
import GatewayOperator.Definition.Schema
import GatewayOperator.Failure
import GatewayOperator.Fields.Merge
import GatewayOperator.Fields.Table
import GatewayOperator.Gateway.Basic
import GatewayOperator.Gateway.Defaults
import GatewayOperator.Gateway.DesiredState
import GatewayOperator.Gateway.Environment
import GatewayOperator.Gateway.Naming
import GatewayOperator.Http.Message
import GatewayOperator.Json.Basic
import GatewayOperator.Json.Codec
import GatewayOperator.Json.Decode
import GatewayOperator.Json.Located
import GatewayOperator.Json.MergePatch
import GatewayOperator.Json.Parser
import GatewayOperator.Json.Printer
import GatewayOperator.Json.Record
import GatewayOperator.Json.Token
import GatewayOperator.Main
import GatewayOperator.Map
import GatewayOperator.Metrics.Exposition
import GatewayOperator.Metrics.Observation
import GatewayOperator.Metrics.Series
import GatewayOperator.Network.SocketAddress
import GatewayOperator.Ownership
import GatewayOperator.Proofs.Cluster.Kind
import GatewayOperator.Proofs.Failure
import GatewayOperator.Proofs.Fields.Children
import GatewayOperator.Proofs.Fields.Deployment
import GatewayOperator.Proofs.Fields.Ingress
import GatewayOperator.Proofs.Fields.Merge
import GatewayOperator.Proofs.Gateway.DesiredState
import GatewayOperator.Proofs.Ownership
import GatewayOperator.Proofs.Reconcile.Convergence
import GatewayOperator.Proofs.Reconcile.Guard
import GatewayOperator.Proofs.Reconcile.Idempotence
import GatewayOperator.Proofs.Reconcile.Interleaving
import GatewayOperator.Proofs.Reconcile.Ownership
import GatewayOperator.Proofs.Reconcile.Progress
import GatewayOperator.Proofs.Reconcile.Protocol
import GatewayOperator.Proofs.Reconcile.Stages
import GatewayOperator.Proofs.Reconcile.Turn
import GatewayOperator.Proofs.Status.Conditions
import GatewayOperator.Proofs.Store.Exchange
import GatewayOperator.Proofs.Store.Frame
import GatewayOperator.Proofs.Store.Memory
import GatewayOperator.Proofs.Store.Reachable
import GatewayOperator.Reconcile.Children
import GatewayOperator.Reconcile.Pass
import GatewayOperator.Reconcile.Report
import GatewayOperator.Reconcile.Secrets
import GatewayOperator.Secrets.Validation
import GatewayOperator.Status.Conditions
import GatewayOperator.Store.Http
import GatewayOperator.Store.Memory
import GatewayOperator.Store.Program
import GatewayOperator.Store.Server
import GatewayOperator.Text.Base64
import GatewayOperator.Text.Blank
import GatewayOperator.Text.Diagnostic
import GatewayOperator.Text.Quoted
import GatewayOperator.Text.Ranges
import GatewayOperator.Text.Utf8
import GatewayOperator.Unicode.Bidi
import GatewayOperator.Unicode.Canonical
import GatewayOperator.Unicode.HostMapping
import GatewayOperator.Unicode.Joining
import GatewayOperator.Unicode.Marks
import GatewayOperator.Url.Address
import GatewayOperator.Url.Basic
import GatewayOperator.Url.Domain
import GatewayOperator.Url.Punycode
import GatewayOperator.Yaml.Printer
import GatewayOperator.Yaml.Scalar
import GatewayOperator.Proofs.Status.History
import GatewayOperator.Proofs.Gateway.Wiring
import GatewayOperator.Proofs.Reconcile.Wiring
import GatewayOperator.Proofs.Reconcile.Children
import GatewayOperator.Proofs.Reconcile.ForeignObjects
import GatewayOperator.Proofs.Reconcile.SharedSecrets
import GatewayOperator.Proofs.Store.Replay
import GatewayOperator.Proofs.Reconcile.Isolation
import GatewayOperator.Proofs.Reconcile.Replay
import GatewayOperator.Proofs.Fields.ReadBack
import GatewayOperator.Proofs.Reconcile.Inspection
import GatewayOperator.Proofs.Store.Documents
import GatewayOperator.Proofs.Store.Agreement
import GatewayOperator.Proofs.Store.Atomicity
import GatewayOperator.Proofs.Store.Subresource
import GatewayOperator.Proofs.Status.StaleReport
import GatewayOperator.Proofs.Metrics.Tally
import GatewayOperator.Proofs.Metrics.Agreement
import GatewayOperator.Proofs.Fields.Versions
import GatewayOperator.Proofs.Reconcile.Rotation
import GatewayOperator.Proofs.Json.Tokens
import GatewayOperator.Proofs.Json.Text
import GatewayOperator.Proofs.Json.Order
import GatewayOperator.Proofs.Gateway.StatusPatch
import GatewayOperator.Proofs.Gateway.RoundTrip
import GatewayOperator.Proofs.Store.Routes
import GatewayOperator.Proofs.Store.Faithful
import GatewayOperator.Proofs.Reconcile.BothStores
import GatewayOperator.Proofs.Reconcile.Retry
import GatewayOperator.Proofs.Fields.Reports
import GatewayOperator.Proofs.Fields.Unmanaged
import GatewayOperator.Proofs.Reconcile.Unmanaged
import GatewayOperator.Proofs.Fields.Environment
import GatewayOperator.Proofs.Ownership.InPlace
import GatewayOperator.Proofs.Fields.Collections
import GatewayOperator.Proofs.Gateway.Coherence
import GatewayOperator.Proofs.Fields.Precedence
import GatewayOperator.Proofs.Gateway.Settings
import GatewayOperator.Proofs.Fields.Replicas
import GatewayOperator.Proofs.Secrets.AdminPortal
import GatewayOperator.Proofs.Reconcile.PreservedReplicas
import GatewayOperator.Proofs.Reconcile.ReplicaPolicy
import GatewayOperator.Proofs.Fields.Routes
import GatewayOperator.Proofs.Status.Updates
