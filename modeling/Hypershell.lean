import Hypershell.Catalog.Catalog
import Hypershell.Catalog.References
import Hypershell.Console.ConsoleWait
import Hypershell.Console.CreateDialog
import Hypershell.Console.GatewayLists
import Hypershell.Console.Searches
import Hypershell.Console.ShellCommands
import Hypershell.Console.Text
import Hypershell.Controller.Cycle
import Hypershell.Controller.KeyQueue
import Hypershell.Controller.KeyedProgress
import Hypershell.Controller.KeyedRuns
import Hypershell.Foundation.Agreement
import Hypershell.Foundation.Backoff
import Hypershell.Foundation.Counting
import Hypershell.Foundation.ErrorTree
import Hypershell.Foundation.Hex
import Hypershell.Foundation.Listing
import Hypershell.Foundation.LoggedRuns
import Hypershell.Foundation.OrderedLocks
import Hypershell.Foundation.Paging
import Hypershell.Foundation.Process
import Hypershell.Foundation.QueryStrings
import Hypershell.Foundation.Quoting
import Hypershell.Foundation.Readings
import Hypershell.Foundation.Replica
import Hypershell.Foundation.SearchLanguage
import Hypershell.Foundation.Shell
import Hypershell.Foundation.Table
import Hypershell.Foundation.Transaction
import Hypershell.Gateways.Changes
import Hypershell.Gateways.ClientCondition
import Hypershell.Gateways.ControllerWrites
import Hypershell.Gateways.Counts
import Hypershell.Gateways.Creation
import Hypershell.Gateways.CycleSteps
import Hypershell.Gateways.Deletion
import Hypershell.Gateways.DeletionRuns
import Hypershell.Gateways.DeletionSteps
import Hypershell.Gateways.Evidence
import Hypershell.Gateways.EvidenceHistory
import Hypershell.Gateways.Finalization
import Hypershell.Gateways.GrantEvents
import Hypershell.Gateways.GrantSteps
import Hypershell.Gateways.Grants
import Hypershell.Gateways.IdentityCycle
import Hypershell.Gateways.ListRequests
import Hypershell.Gateways.MutationSteps
import Hypershell.Gateways.Mutations
import Hypershell.Gateways.Owners
import Hypershell.Gateways.Presentation
import Hypershell.Gateways.Principal
import Hypershell.Gateways.Projection
import Hypershell.Gateways.ProviderState
import Hypershell.Gateways.Queries
import Hypershell.Gateways.Resolution
import Hypershell.Gateways.SQLGate
import Hypershell.Gateways.SQLRuns
import Hypershell.Gateways.SQLState
import Hypershell.Gateways.Service
import Hypershell.Gateways.Snapshots
import Hypershell.Gateways.Visibility
import Hypershell.Gateways.Watch
import Hypershell.Keycloak.Clients
import Hypershell.Keycloak.ConsoleAccess
import Hypershell.Keycloak.ConsoleCredentials
import Hypershell.Keycloak.Inventory
import Hypershell.Outbox.Payload
import Hypershell.Outbox.Queue
import Hypershell.Outbox.QueueHistory
import Hypershell.Outbox.QueueRuns
import Hypershell.Outbox.Worker
import Hypershell.Outbox.WorkerRuns
import Hypershell.Sandboxes.Controller
import Hypershell.Sandboxes.Refresh
import Hypershell.Sandboxes.RefreshRuns
import Hypershell.Sandboxes.Snapshots
import Hypershell.Sandboxes.Tally
import Hypershell.ServiceAccounts.Access
import Hypershell.ServiceAccounts.Cleanup
import Hypershell.ServiceAccounts.CleanupCycle
import Hypershell.ServiceAccounts.Compensation
import Hypershell.ServiceAccounts.Create
import Hypershell.ServiceAccounts.CreateSteps
import Hypershell.ServiceAccounts.Executions
import Hypershell.ServiceAccounts.Journals
import Hypershell.ServiceAccounts.Ledger
import Hypershell.ServiceAccounts.Lifecycle
import Hypershell.ServiceAccounts.Processes
import Hypershell.ServiceAccounts.Recover
import Hypershell.ServiceAccounts.RecoverSteps
import Hypershell.ServiceAccounts.Recovery
import Hypershell.ServiceAccounts.Repetition
import Hypershell.ServiceAccounts.RoleCeiling
import Hypershell.ServiceAccounts.Safety
import Hypershell.ServiceAccounts.Sample
import Hypershell.ServiceAccounts.Service
import Hypershell.ServiceAccounts.Steps
import Hypershell.ServiceAccounts.Streams
import Hypershell.Storage.Accounts
import Hypershell.Storage.Checkpoints
import Hypershell.Storage.Conditions
import Hypershell.Storage.Directory
import Hypershell.Storage.Effects
import Hypershell.Storage.Gateways
import Hypershell.Storage.Observations
import Hypershell.Storage.Queries
import Hypershell.Storage.ResourceStates
import Hypershell.Storage.Rows
import Hypershell.Storage.Store
import Hypershell.Workload.Kubernetes
import Hypershell.Workload.Names
import Hypershell.Workload.Observation
