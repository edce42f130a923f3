import Transports.Lib.System
import Transports.Lib.Ownership
import Transports.Core.Seam
import Transports.Pool.VecPool
import Transports.Pool.Ownership
import Transports.Udp.Socket
import Transports.Udp.Burst
import Transports.Udp.Landings
import Transports.Udp.Contract
import Transports.Udp.World
import Transports.Udp.Undisturbed
import Transports.Udp.Custody
import Transports.Udp.Handover
import Transports.Udp.Delivery
import Transports.Tcp.Stream
import Transports.Readiness.Source
import Transports.Readiness.Mio
import Transports.Readiness.Tokio
import Transports.Udp.Session
import Transports.Udp.Backends
import Transports.Udp.Counters
import Transports.Udp.Splitting
import Transports.Udp.Draining
import Transports.Readiness.Blocking
import Transports.Sockets.Options
import Transports.Readiness.Connect
import Transports.Readiness.Signals
import Transports.Core.Conformance
import Transports.Core.Lawful
import Transports.Core.Tolerance
import Transports.Udp.Accumulator
import Transports.Udp.Exhaustion
import Transports.Udp.Conformance
import Transports.Core.Certified
import Transports.Tcp.ReadChunk
import Transports.Lib.Framing
import Transports.Lib.Script
import Transports.Testing.Wire
import Transports.Testing.MockPeer
import Transports.Testing.Conservation
import Transports.Testing.Roundtrip
import Transports.Testing.Expectations
import Transports.Udp.Calls
import Transports.Udp.Bind
import Transports.Udp.Send
import Transports.Facade.Transport
import Transports.Facade.Interchange
import Transports.Facade.Refines
import Transports.Facade.Runs
import Transports.Facade.Suite
import Transports.Readiness.Prompt
import Transports.Testing.EndToEnd
import Transports.Tcp.Reading
import Transports.Udp.Receiver
import Transports.Testing.Outbound
import Transports.Testing.Conversation
