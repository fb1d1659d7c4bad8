import Drukbox.Hosts.Deleter
import Drukbox.Templates.Service
import Drukbox.Templates.Exclusion
import Drukbox.Hosts.Holder
import Drukbox.Hosts.LoserDisposal
import Drukbox.Hosts.Teardown
import Drukbox.Await.Machine
import Drukbox.Await.Pipe
import Drukbox.Await.Ledger
import Drukbox.Database.RowSteps
import Drukbox.Hosts.Claimant
import Drukbox.Hosts.Orphans
import Drukbox.Hosts.PoolClaims
import Drukbox.Hosts.Limits
import Drukbox.Hosts.Strands
import Drukbox.Hosts.Lessor
import Drukbox.Hosts.Leases
import Drukbox.Hosts.Launcher
import Drukbox.Hosts.Lifecycle
import Drukbox.Await.Gate
import Drukbox.Await.Script
import Drukbox.HostSecrets.RoundTrip
import Drukbox.HostSecrets.Schemas
import Drukbox.Hosts.BootEnvironment
import Drukbox.Providers.KeyPairs
import Drukbox.Proxy.AllOrNothing
import Drukbox.Proxy.RoundTrip
import Drukbox.SecretsExchange.Authorize
import Drukbox.SecretsExchange.RefreshOrder
import Drukbox.SecretsExchange.SingleFlight
import Drukbox.Await.History
import Drukbox.Hosts.TeardownOrder
import Drukbox.Proxy.Frame
import Drukbox.Proxy.Credentials
import Drukbox.SecretsExchange.Fetch
import Drukbox.Networking.DeviceWaiter
import Drukbox.Networking.Address
import Drukbox.ServiceAccounts.Access
import Drukbox.Cloudflare.Worker
import Drukbox.Cloudflare.Deletion
import Drukbox.Providers.Boat
import Drukbox.Providers.ExeApi
import Drukbox.Providers.PersistedEnvironment
import Drukbox.Providers.SbxFiles
import Drukbox.Providers.Scripts
import Drukbox.Providers.SbxSession
import Drukbox.SecretsExchange.Freshness
import Drukbox.Templates.Images
import Drukbox.Hosts.PoolBudget
import Drukbox.Hosts.PoolPlan
import Drukbox.Hosts.KnownHosts
import Drukbox.Providers.Ingress
import Drukbox.SecretsExchange.Backoff
import Drukbox.Gateway.BridgeEnd
import Drukbox.Gateway.Tunnel
import Drukbox.Gateway.SftpOwnership
import Drukbox.Gateway.LiveHandlers
import Drukbox.Proxy.UpstreamList
import Drukbox.Proxy.Destinations
import Drukbox.Proxy.Delivery
import Drukbox.SecretsExchange.Rounds
