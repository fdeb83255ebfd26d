import MatrixGateway.Lifetime
import MatrixGateway.Main
import MatrixGateway.Net.Service
import MatrixGateway.Proofs.Credentials
import MatrixGateway.Proofs.Forwarding
import MatrixGateway.Proofs.Overlays
import MatrixGateway.Proofs.Preparation
import MatrixGateway.Proofs.Relaying
import MatrixGateway.Proofs.Reports
import MatrixGateway.Proofs.WorstCase
import MatrixGateway.Transport.Flights
import MatrixGateway.Proofs.EndToEnd
import MatrixGateway.Proofs.ForwardedFor
import MatrixGateway.Proofs.Reach
import MatrixGateway.Proofs.MediaRequests
import MatrixGateway.Proofs.Counters
import MatrixGateway.Proofs.Heads
import MatrixGateway.Proofs.Replies
import MatrixGateway.Proofs.MediaAnswers
import MatrixGateway.Proofs.Drain
import MatrixGateway.Proofs.Signals
import MatrixGateway.Proofs.Budgets
import MatrixGateway.Proofs.Opening
import MatrixGateway.Proofs.Merging
import MatrixGateway.Proofs.Flights
import MatrixGateway.Proofs.Dispatch
import MatrixGateway.Proofs.Variables
import MatrixGateway.Proofs.Hops
import MatrixGateway.Proofs.Waiting
import MatrixGateway.Proofs.Permits
import MatrixGateway.Proofs.Subscribers
import MatrixGateway.Proofs.Verbosity
import MatrixGateway.Proofs.Tokens
import MatrixGateway.Proofs.Endpoints
import MatrixGateway.Proofs.Traces
