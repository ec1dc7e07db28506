import StartOrder.Dependency.Closure
import StartOrder.Launch.Session
import StartOrder.Main
import StartOrder.Recipe.Written
import StartOrder.Proofs.NameMap
import StartOrder.Proofs.Dependency.Edges
import StartOrder.Proofs.Dependency.Additions
import StartOrder.Proofs.Dependency.Weights
import StartOrder.Proofs.Plan.Order
import StartOrder.Proofs.Dependency.Cycles
import StartOrder.Proofs.Dependency.Chains
import StartOrder.Proofs.Dependency.Passes
import StartOrder.Proofs.Dependency.Transitive
import StartOrder.Proofs.Plan.Validation
import StartOrder.Proofs.Plan.Unresolved
import StartOrder.Proofs.Plan.Extension
import StartOrder.Proofs.Plan.Declarations
import StartOrder.Proofs.Plan.Layers
import StartOrder.Proofs.Source.Downloads
import StartOrder.Proofs.Source.Redirects
import StartOrder.Proofs.Source.Noninterference
import StartOrder.Proofs.Source.Authorization
import StartOrder.Proofs.Launch.Starts
import StartOrder.Proofs.Launch.Protocol
import StartOrder.Proofs.Launch.Refinement
import StartOrder.Proofs.Launch.Cancellation
import StartOrder.Proofs.Launch.Sessions
import StartOrder.Proofs.Command.Orders
import StartOrder.Proofs.Command.Plans
import StartOrder.Proofs.Recipe.RoundTrip
import StartOrder.Proofs.Recipe.Rearrangement
import StartOrder.Proofs.Recipe.Timespans
import StartOrder.Proofs.Recipe.Links
import StartOrder.Proofs.Recipe.Variables
import StartOrder.Proofs.Recipe.Keys
import StartOrder.Proofs.Recipe.BuildKeys
import StartOrder.Proofs.Source.MediaTypes
import StartOrder.Proofs.Source.Descriptors
import StartOrder.Proofs.Command.Summaries
