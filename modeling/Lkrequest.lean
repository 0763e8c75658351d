import Lkrequest.Bridge.Panics
import Lkrequest.Bridge.WindDown
import Lkrequest.Bridge.Backstop
import Lkrequest.Session.Lifecycle
import Lkrequest.Session.Outcome
import Lkrequest.Session.Collection
import Lkrequest.Session.Reclamation
import Lkrequest.Session.Shutdown
import Lkrequest.Session.Counting
import Lkrequest.Pool.Handles
import Lkrequest.Upload.Streams
import Lkrequest.Request.Ordering
import Lkrequest.Metrics.Resets
import Lkrequest.Metrics.Updates
import Lkrequest.Metrics.Scrapes
import Lkrequest.WebSocket.PeerClose
import Lkrequest.Client.Overrides
import Lkrequest.Response.Conservation
import Lkrequest.Response.Agreement
import Lkrequest.Response.Atomicity
import Lkrequest.Response.Completion
import Lkrequest.Pcap.ClientHellos
import Lkrequest.Pcap.Http2Streams
import Lkrequest.Middleware.Callbacks
import Lkrequest.Client.TimedCalls
import Lkrequest.Response.HeaderMap
import Lkrequest.Response.Fields
import Lkrequest.Client.Consistency
import Lkrequest.Client.ClientPool
import Lkrequest.Metrics.Exposition
import Lkrequest.Response.Charset
import Lkrequest.Upload.Sharing
import Lkrequest.Pcap.Profiles
