import CircuitBreaker.Bench
import CircuitBreaker.Config.Codec
import CircuitBreaker.Json.Printer
import CircuitBreaker.Proofs.Abandoned
import CircuitBreaker.Proofs.Alike
import CircuitBreaker.Proofs.Building
import CircuitBreaker.Proofs.ByHand
import CircuitBreaker.Proofs.ClockFamilies
import CircuitBreaker.Proofs.ConfigFormat
import CircuitBreaker.Proofs.Configurations
import CircuitBreaker.Proofs.Counting
import CircuitBreaker.Proofs.CoupledSessions
import CircuitBreaker.Proofs.Faithful
import CircuitBreaker.Proofs.Flattening
import CircuitBreaker.Proofs.Gate
import CircuitBreaker.Proofs.LastFailure
import CircuitBreaker.Proofs.Laziness
import CircuitBreaker.Proofs.Logbook
import CircuitBreaker.Proofs.Mirror
import CircuitBreaker.Proofs.Panics
import CircuitBreaker.Proofs.Payloads
import CircuitBreaker.Proofs.Probes
import CircuitBreaker.Proofs.Race
import CircuitBreaker.Proofs.RaceEnds
import CircuitBreaker.Proofs.Remaining
import CircuitBreaker.Proofs.RetryDelay
import CircuitBreaker.Proofs.Sessions
import CircuitBreaker.Proofs.SessionsAlike
import CircuitBreaker.Proofs.SnapshotFormat
import CircuitBreaker.Proofs.Snapshots
import CircuitBreaker.Proofs.Spans
import CircuitBreaker.Proofs.Stragglers
import CircuitBreaker.Proofs.Transitions
import CircuitBreaker.Proofs.Uncounted
import CircuitBreaker.Snapshot.Codec
