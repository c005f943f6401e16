import RadioRelay.Main
import RadioRelay.Proofs.Execution
import RadioRelay.Proofs.Registry
import RadioRelay.Proofs.Wire.RoundTrip
import RadioRelay.Simulation.ChannelTrial
import RadioRelay.Simulation.ClientTrial
import RadioRelay.Simulation.ConfigurationTrial
import RadioRelay.Simulation.DaemonTrial
import RadioRelay.Simulation.MonitorTrial
import RadioRelay.Simulation.RouterTrial
import RadioRelay.Simulation.RoutingTrial
import RadioRelay.Simulation.Workbench
import RadioRelay.Proofs.Router.Steps
import RadioRelay.Proofs.Router.Moves
import RadioRelay.Proofs.Router.Stages
import RadioRelay.Proofs.Router.Surroundings
import RadioRelay.Proofs.Router.Tenure
import RadioRelay.Proofs.Router.Bookkeeping
import RadioRelay.Proofs.Router.Answering
import RadioRelay.Proofs.Router.Delivery
import RadioRelay.Proofs.Router.Phases
import RadioRelay.Proofs.Client
import RadioRelay.Proofs.Router.Settling
import RadioRelay.Proofs.Network.Arrivals
import RadioRelay.Proofs.Network.Composition
import RadioRelay.Proofs.Network.Registration
import RadioRelay.Proofs.Router.Forwarding
import RadioRelay.Proofs.Router.Limits
import RadioRelay.Proofs.Network.Reading
import RadioRelay.Proofs.Router.Seats
import RadioRelay.Proofs.Router.Guests
import RadioRelay.Proofs.Router.Laps
import RadioRelay.Proofs.Router.Isolation
import RadioRelay.Proofs.Router.Resilience
import RadioRelay.Proofs.Network.Lateness
import RadioRelay.Proofs.Router.Attribution
import RadioRelay.Proofs.Monitor
import RadioRelay.Proofs.Mirroring
import RadioRelay.Proofs.Router.Twins
import RadioRelay.Proofs.Router.Servings
import RadioRelay.Proofs.Router.Hearing
import RadioRelay.Proofs.Router.Interchange
import RadioRelay.Proofs.Router.Counting
import RadioRelay.Proofs.Wire.Sharing
import RadioRelay.Proofs.Signals
import RadioRelay.Proofs.Router.Running
import RadioRelay.Proofs.Router.Stopping
import RadioRelay.Proofs.Failing
import RadioRelay.Proofs.Configuring
import RadioRelay.Proofs.Replies
import RadioRelay.Proofs.Handshake
import RadioRelay.Proofs.Startup
import RadioRelay.Proofs.Daemon
import RadioRelay.Proofs.Wire.Grammar
import RadioRelay.Proofs.Wire.Framing
import RadioRelay.Proofs.Registry.History
import RadioRelay.Proofs.Registry.Rearrangement
import RadioRelay.Proofs.Routing
import RadioRelay.Proofs.Wire.Drafting
import RadioRelay.Proofs.Wire.Notifications
import RadioRelay.Proofs.Wire.Requests
import RadioRelay.Proofs.Wire.Correlation
import RadioRelay.Proofs.Subscribing
import RadioRelay.Proofs.Registering
import RadioRelay.Proofs.Wire.Indexing
import RadioRelay.Proofs.Bounds
import RadioRelay.Proofs.Router.Clock
import RadioRelay.Proofs.Router.Entrance
import RadioRelay.Proofs.Router.Pausing
import RadioRelay.Proofs.MacAddress
import RadioRelay.Proofs.Rendezvous
import RadioRelay.Proofs.Router.Complaints
