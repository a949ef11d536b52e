import TinyRtsp.Foundation.Transition
import TinyRtsp.CircularQueue.Basic
import TinyRtsp.CircularQueue.Refinement
import TinyRtsp.CircularQueue.Wakeup
import TinyRtsp.Foundation.InputFile
import TinyRtsp.Media.H264Track
import TinyRtsp.Foundation.Chunks
import TinyRtsp.Rtp.Address
import TinyRtsp.Rtp.Header
import TinyRtsp.Rtp.RtpRtcpHandler
import TinyRtsp.Rtp.Depacketize
import TinyRtsp.Server.Descriptors
import TinyRtsp.Foundation.Table
import TinyRtsp.Session.Session
import TinyRtsp.Session.Threads
import TinyRtsp.Foundation.Regex
import TinyRtsp.Foundation.Text
import TinyRtsp.Rtsp.Message
import TinyRtsp.Rtsp.Url
import TinyRtsp.Media.MediaTrack
import TinyRtsp.Server.Server
import TinyRtsp.Server.ConnectionHandler
import TinyRtsp.Foundation.Triple
import TinyRtsp.Rtsp.Response
import TinyRtsp.Server.Responses
import TinyRtsp.Rtsp.Request
import TinyRtsp.Server.Framing
import TinyRtsp.Foundation.Registry
import TinyRtsp.Server.Consumers
import TinyRtsp.Server.Orphans
import TinyRtsp.Server.Site
import TinyRtsp.Session.Termination
import TinyRtsp.Rtp.Stream
import TinyRtsp.Rtsp.StreamUrl
import TinyRtsp.Server.Setup
import TinyRtsp.Foundation.Lease
import TinyRtsp.Server.Accounts
import TinyRtsp.Server.Ports
import TinyRtsp.Server.Ownership
import TinyRtsp.Server.Advertise
import TinyRtsp.Media.Drain
import TinyRtsp.Session.Isolation
import TinyRtsp.Media.Audience
import TinyRtsp.Session.Manager
import TinyRtsp.Session.Deadlock
import TinyRtsp.Foundation.Memory
import TinyRtsp.Rtp.Rtcp
import TinyRtsp.Foundation.FixedPoint
import TinyRtsp.Rtp.SenderReports
import TinyRtsp.Rtp.NtpTime
import TinyRtsp.Rtp.Accounting
import TinyRtsp.Server.Correlation
import TinyRtsp.Rtp.Destination
import TinyRtsp.Rtsp.Transport
import TinyRtsp.Server.UsablePorts
import TinyRtsp.Media.AacTrack
import TinyRtsp.Rtp.AccessUnits
import TinyRtsp.Rtp.PacketBuffer
import TinyRtsp.Rtsp.Malformed
import TinyRtsp.Media.Segmentation
import TinyRtsp.Rtp.FrameReads
import TinyRtsp.Rtp.Timestamps
import TinyRtsp.Rtp.ReceiveLoop
import TinyRtsp.Media.AdtsCrc
import TinyRtsp.Server.PortPool
import TinyRtsp.CircularQueue.Registration
import TinyRtsp.Session.RtcpThreads
import TinyRtsp.Media.Lifecycle
import TinyRtsp.Media.Restart
import TinyRtsp.Foundation.Tally
import TinyRtsp.Server.ThreadPool
import TinyRtsp.Server.Shutdown
import TinyRtsp.Media.Tail
import TinyRtsp.Foundation.Reassembly
import TinyRtsp.Rtp.Losses
import TinyRtsp.Media.Streaming
import TinyRtsp.Media.AdtsAccepted
import TinyRtsp.Rtp.Snapshots
import TinyRtsp.Foundation.Delimited
import TinyRtsp.Server.Pipeline
import TinyRtsp.Server.Directory
import TinyRtsp.Media.Progress
import TinyRtsp.Media.LiveTrack
import TinyRtsp.Server.Frame
import TinyRtsp.Server.Dispatching
import TinyRtsp.Server.Playback
import TinyRtsp.Server.Description
import TinyRtsp.Foundation.Handles
import TinyRtsp.Server.Sockets
import TinyRtsp.Server.Hosting
