import ExplorerProxy.Cache.RecencyList
import ExplorerProxy.Main
import ExplorerProxy.Service.Flight
import ExplorerProxy.Explorer.Headers
import ExplorerProxy.Proofs.Cache.InStep
import ExplorerProxy.Proofs.Cache.AsList
import ExplorerProxy.Proofs.Cache.Refinement
import ExplorerProxy.Proofs.Service.Steps
import ExplorerProxy.Proofs.Service.Traffic
import ExplorerProxy.Proofs.Service.Provenance
import ExplorerProxy.Proofs.Cache.Latest
import ExplorerProxy.Proofs.Service.Lookups
import ExplorerProxy.Proofs.Service.Visits
import ExplorerProxy.Proofs.Explorer.Outcomes
import ExplorerProxy.Proofs.Api.Delivery
import ExplorerProxy.Proofs.Api.Exchange
import ExplorerProxy.Proofs.Service.Steady
import ExplorerProxy.Proofs.Api.Transparency
import ExplorerProxy.Proofs.Service.Moves
import ExplorerProxy.Proofs.Service.Watch
import ExplorerProxy.Proofs.Service.Budget
import ExplorerProxy.Proofs.Service.Failures
import ExplorerProxy.Proofs.Explorer.Authorities
import ExplorerProxy.Proofs.Explorer.Sites
import ExplorerProxy.Proofs.Cache.Counts
import ExplorerProxy.Proofs.Service.Replay
import ExplorerProxy.Proofs.Service.Accounts
import ExplorerProxy.Proofs.Service.Ledger
import ExplorerProxy.Proofs.Service.Balance
import ExplorerProxy.Proofs.Api.Separation
import ExplorerProxy.Proofs.Service.Results
import ExplorerProxy.Proofs.Service.OneByOne
import ExplorerProxy.Proofs.Service.Separate
import ExplorerProxy.Proofs.Service.Commute
import ExplorerProxy.Proofs.Page.Links
import ExplorerProxy.Proofs.Page.Blocks
import ExplorerProxy.Proofs.Page.Published
import ExplorerProxy.Proofs.Retry.Backoff
import ExplorerProxy.Proofs.Retry.Loop
import ExplorerProxy.Proofs.Cache.Inclusion
import ExplorerProxy.Proofs.Explorer.Overrides
import ExplorerProxy.Proofs.Config.Variables
import ExplorerProxy.Proofs.Cache.Eviction
import ExplorerProxy.Proofs.Page.Rendering
import ExplorerProxy.Proofs.Json.Lexemes
import ExplorerProxy.Proofs.Json.Records
import ExplorerProxy.Proofs.Wire.RoundTrip
import ExplorerProxy.Proofs.Api.Paths
