import TenantOverlay.Backoff
import TenantOverlay.Bundle
import TenantOverlay.Cluster.Access
import TenantOverlay.Cluster.Client
import TenantOverlay.Cluster.Memory
import TenantOverlay.Cluster.Request
import TenantOverlay.Cluster.Selector
import TenantOverlay.CommandLine.Arguments
import TenantOverlay.CommandLine.Help
import TenantOverlay.CommandLine.LogFilter
import TenantOverlay.CommandLine.Run
import TenantOverlay.Config.Basic
import TenantOverlay.Config.Codec
import TenantOverlay.Config.Load
import TenantOverlay.Config.Setting
import TenantOverlay.Config.SocketAddress
import TenantOverlay.Data.SortedMap
import TenantOverlay.Decimal.Reading
import TenantOverlay.Decimal.Shortest
import TenantOverlay.Error
import TenantOverlay.Handlers.Cleanup
import TenantOverlay.Handlers.Daemon
import TenantOverlay.Handlers.NetworkNamespace
import TenantOverlay.Handlers.RoleBindings
import TenantOverlay.Handlers.StoredNetwork
import TenantOverlay.Json.Basic
import TenantOverlay.Json.Number
import TenantOverlay.Json.Parser
import TenantOverlay.Json.Printer
import TenantOverlay.Json.Quoted
import TenantOverlay.Kubernetes.Kinds
import TenantOverlay.Kubernetes.Metadata
import TenantOverlay.Kubernetes.Normal
import TenantOverlay.Kubernetes.Pod
import TenantOverlay.Kubernetes.Schema
import TenantOverlay.Kubernetes.Schema.Kinds
import TenantOverlay.Kubernetes.Schema.Meta
import TenantOverlay.Kubernetes.Schema.Pod
import TenantOverlay.Kubernetes.Schema.Volume
import TenantOverlay.Kubernetes.Timestamp
import TenantOverlay.Main
import TenantOverlay.Manifests.Access
import TenantOverlay.Manifests.Cleanup
import TenantOverlay.Manifests.Daemon
import TenantOverlay.Manifests.Host
import TenantOverlay.Metrics.Page
import TenantOverlay.Metrics.Registry
import TenantOverlay.NetworkEntry
import TenantOverlay.Operator.Calls
import TenantOverlay.Operator.Controller
import TenantOverlay.Operator.Generations
import TenantOverlay.Operator.Lifecycle
import TenantOverlay.Operator.Memory
import TenantOverlay.Operator.Reconciler
import TenantOverlay.Operator.Server
import TenantOverlay.Overlay.Basic
import TenantOverlay.Overlay.Codec
import TenantOverlay.Overlay.Definition
import TenantOverlay.Overlay.Naming
import TenantOverlay.Program.Basic
import TenantOverlay.Program.Runtime
import TenantOverlay.Proofs.Bundle
import TenantOverlay.Proofs.Cluster.Alike
import TenantOverlay.Proofs.Cluster.Memory
import TenantOverlay.Proofs.Cluster.Runs
import TenantOverlay.Proofs.Cluster.Selector
import TenantOverlay.Proofs.Cluster.Versions
import TenantOverlay.Proofs.CommandLine.Options
import TenantOverlay.Proofs.Config.SocketAddress
import TenantOverlay.Proofs.Config.Validation
import TenantOverlay.Proofs.Handlers.Cleanup
import TenantOverlay.Proofs.Handlers.Daemon
import TenantOverlay.Proofs.Handlers.Desired
import TenantOverlay.Proofs.Handlers.Drift
import TenantOverlay.Proofs.Handlers.NetworkNamespace
import TenantOverlay.Proofs.Handlers.Ownership
import TenantOverlay.Proofs.Handlers.Patches
import TenantOverlay.Proofs.Handlers.Rest
import TenantOverlay.Proofs.Handlers.Retries
import TenantOverlay.Proofs.Handlers.RoleBindings
import TenantOverlay.Proofs.Handlers.StoredEntry
import TenantOverlay.Proofs.Handlers.StoredNetwork
import TenantOverlay.Proofs.Json.Number
import TenantOverlay.Proofs.Json.Path
import TenantOverlay.Proofs.Json.Quoted
import TenantOverlay.Proofs.Json.RoundTrip
import TenantOverlay.Proofs.Metrics.Registry
import TenantOverlay.Proofs.NetworkEntry
import TenantOverlay.Proofs.Operator.Circumstances
import TenantOverlay.Proofs.Operator.Controller
import TenantOverlay.Proofs.Operator.Convergence
import TenantOverlay.Proofs.Operator.Copies
import TenantOverlay.Proofs.Operator.Deletion
import TenantOverlay.Proofs.Operator.Edits
import TenantOverlay.Proofs.Operator.Effects
import TenantOverlay.Proofs.Operator.Environment
import TenantOverlay.Proofs.Operator.Finalizer
import TenantOverlay.Proofs.Operator.Generations
import TenantOverlay.Proofs.Operator.HandOver
import TenantOverlay.Proofs.Operator.Idempotence
import TenantOverlay.Proofs.Operator.Independence
import TenantOverlay.Proofs.Operator.Isolation
import TenantOverlay.Proofs.Operator.Memory
import TenantOverlay.Proofs.Operator.Passes
import TenantOverlay.Proofs.Operator.Protocol
import TenantOverlay.Proofs.Operator.Requeue
import TenantOverlay.Proofs.Operator.Servers
import TenantOverlay.Proofs.Operator.Start
import TenantOverlay.Proofs.Operator.Teardown
import TenantOverlay.Proofs.Operator.Unhandled
import TenantOverlay.Proofs.Operator.Versions
import TenantOverlay.Proofs.Overlay.Codec
import TenantOverlay.Proofs.Overlay.Defaults
import TenantOverlay.Proofs.Overlay.Naming
import TenantOverlay.Proofs.Overlay.Tenants
import TenantOverlay.Proofs.Program.Attempts
import TenantOverlay.Proofs.Program.Congruence
import TenantOverlay.Proofs.Program.Courses
import TenantOverlay.Proofs.Program.Environment
import TenantOverlay.Proofs.Program.Fallible
import TenantOverlay.Proofs.Program.Log
import TenantOverlay.Proofs.Program.Runs
import TenantOverlay.Proofs.Reconcile.Confinement
import TenantOverlay.Proofs.Reconcile.Counting
import TenantOverlay.Proofs.Reconcile.Deletion
import TenantOverlay.Proofs.Reconcile.Handler
import TenantOverlay.Proofs.Reconcile.Operations
import TenantOverlay.Proofs.Reconcile.Order
import TenantOverlay.Proofs.Reconcile.Repetition
import TenantOverlay.Proofs.Reconcile.Rest
import TenantOverlay.Proofs.Reconcile.Routing
import TenantOverlay.Proofs.Reconcile.Runs
import TenantOverlay.Proofs.Store.Agreement
import TenantOverlay.Proofs.Store.Failover
import TenantOverlay.Proofs.Store.Memory
import TenantOverlay.Proofs.Store.Nodes
import TenantOverlay.Proofs.Store.Paths
import TenantOverlay.Proofs.Text.Digits
import TenantOverlay.Proofs.Text.Numerals
import TenantOverlay.Proofs.Text.Trimming
import TenantOverlay.Proofs.Version
import TenantOverlay.Reconcile.Engine
import TenantOverlay.Reconcile.Flow
import TenantOverlay.Reconcile.Handler
import TenantOverlay.Reconcile.Pass
import TenantOverlay.Reconcile.Patch
import TenantOverlay.Reconcile.Resource
import TenantOverlay.Reconcile.Router
import TenantOverlay.Rehearsal.Attempts
import TenantOverlay.Rehearsal.Basic
import TenantOverlay.Rehearsal.Scripted
import TenantOverlay.Rehearsal.Session
import TenantOverlay.Rehearsal.Watch
import TenantOverlay.Store.Client
import TenantOverlay.Store.Connection
import TenantOverlay.Store.Memory
import TenantOverlay.Store.Request
import TenantOverlay.Text.Blank
import TenantOverlay.Text.Digits
import TenantOverlay.Text.Split
import TenantOverlay.Text.Visible
import TenantOverlay.Text.Visible.Table
import TenantOverlay.Version
import TenantOverlay.Web.Message
import TenantOverlay.Web.Pem
import TenantOverlay.Web.Percent
import TenantOverlay.Web.Target
import TenantOverlay.Web.Url
import TenantOverlay.Yaml.Basic
import TenantOverlay.Yaml.Printer
import TenantOverlay.Yaml.Reader
