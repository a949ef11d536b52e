import TinyRtsp.Rtsp.Message
import TinyRtsp.Rtsp.Url
import TinyRtsp.Server.Server

/-! `ConnectionHandler`: a connection receives, parses, dispatches and answers
until a request cannot be read or handled. The handlers are computations over
the server and the connection; what they changed before an exception stays. -/
namespace TinyRtsp

/-- The members of `ConnectionHandler`, with the requests it has dispatched and
the texts it has given to `send`. -/
structure Connection where
  clientIp : Text
  sessionId : SessionId
  url : RtspUrl
  dispatched : List RtspMessage
  sent : List Text

structure World where
  server : Server
  connection : Connection

/-- An exception, which `process` catches, or the end of the whole process. -/
inductive Failure where
  | exception (e : Exception)
  | terminate

abbrev Handling := EStateM Failure World

/-- What a request meets outside the server: the clock, the random number, the
sockets and the media files. -/
structure Env where
  secondsSinceEpoch : Nat
  random : Nat
  constructs : Except Exception Unit
  opens : TrackRef → Bool

namespace ConnectionHandler

def attempt {α : Type} : Except Exception α → Handling α
  | .ok a => return a
  | .error e => throw (.exception e)

/-- A call on what the connections share. -/
def act (call : Server → Outcome Server) : Handling Unit := do
  match call (← get).server with
  | .returned server => modify fun w => { w with server }
  | .thrown e server =>
    modify fun w => { w with server }
    throw (.exception e)
  | .terminated => throw .terminate

def padded (width n : Nat) : Text := (Text.decimal n).leftpad width '0'

def generateUniqueSessionId (env : Env) : SessionId :=
  padded 10 env.secondsSinceEpoch ++ padded 6 env.random

/-- `parse_url` into the connection's `url_`. -/
def parseUrlOf (request : RtspMessage) : Handling RtspUrl := do
  let url ← attempt (parseUrl request.requestUri)
  modify fun w => { w with connection.url := url }
  return url

/-- `set_protocol`, `set_status_code` and `set_cseq` from the request. -/
def reply (request response : RtspMessage) (status : StatusCode) : RtspMessage :=
  { response with protocol := request.protocol, statusCode := status, cseq := request.cseq }

def handleOptions (request response : RtspMessage) : Handling RtspMessage :=
  return (reply request response .ok).setHeaders "Public".toList
    "OPTIONS, DESCRIBE, SETUP, PLAY, PAUSE, TEARDOWN".toList

def sdp (env : Env) (host : Text) (tracks : Table TrackName MediaTrack) : Text :=
  "v=0\r\no=- ".toList ++ Text.decimal env.secondsSinceEpoch ++ " 1 IN IP4 ".toList ++ host ++
    "\r\nt=0 0\r\na=control:*\r\n".toList ++
    tracks.entries.flatMap fun entry => entry.2.getMediaSdp

def handleDescribe (env : Env) (request response : RtspMessage) : Handling RtspMessage := do
  let url ← parseUrlOf request
  if request.getHeaderValue "Accept".toList ≠ "application/sdp".toList then
    return { response with statusCode := .notAcceptable, cseq := request.cseq }
  match (← get).server.mediaSources.lookup url.app with
  | none => return (reply request response .notFound).setHeaders "Content-Length".toList "0".toList
  | some tracks =>
    let sdp := sdp env url.host tracks
    return { ((reply request response .ok).setHeaders "Content-Type".toList
      "application/sdp".toList).setHeaders "Content-Length".toList (Text.decimal sdp.length) with
      body := sdp }

/-- The Session header, or a new id that the connection remembers. -/
def sessionIdOf (env : Env) (request : RtspMessage) : Handling SessionId := do
  let sessionId := request.getHeaderValue "Session".toList
  if sessionId = [] then
    modify fun w => { w with connection.sessionId := generateUniqueSessionId env }
    return generateUniqueSessionId env
  else return sessionId

def allocatePortPair : Handling Int := do
  let (port, server) := (← get).server.allocatePortPair
  modify fun w => { w with server }
  return port

def handleSetup (env : Env) (request response : RtspMessage) : Handling RtspMessage := do
  let url ← parseUrlOf request
  let client ← attempt (parseTransport (request.getHeaderValue "Transport".toList))
  let serverPort ← allocatePortPair
  let sessionId ← sessionIdOf env request
  let world ← get
  match world.server.mediaSources.lookup url.app with
  | none => return reply request response .notFound
  | some tracks =>
    match tracks.lookup url.track with
    | none => return reply request response .notFound
    | some mediaTrack =>
      if !world.server.sessionExists sessionId then
        modify fun w => { w with server := w.server.createSession sessionId }
      act fun server => server.addMediaTrack sessionId ⟨url.app, url.track⟩
        (env.constructs.map fun _ => ⟨serverPort, serverPort + 1, world.connection.clientIp,
          client.rtp, client.rtcp, mediaTrack.mediaType.timestampIncrement⟩)
      return ((reply request response .ok).setHeaders "Transport".toList
        ("RTP/AVP;unicast;client_port=".toList ++ client.range ++ ";server_port=".toList ++
          Text.decimalInt serverPort ++ "-".toList ++ Text.decimalInt (serverPort + 1))).setHeaders
        "Session".toList sessionId

def handlePlay (env : Env) (request response : RtspMessage) : Handling RtspMessage := do
  let sessionId := request.getHeaderValue "Session".toList
  if (← get).server.sessionExists sessionId then
    act fun server => server.startSession env.opens sessionId
    return (((reply request response .ok).setHeaders "Session".toList sessionId).setHeaders
      "Range".toList (request.getHeaderValue "Range".toList)).setHeaders "RTP-Info".toList
      ("url=".toList ++ request.requestUri ++ ";seq=1;rtptime=0".toList)
  else return reply request response .notFound

def handlePause (request response : RtspMessage) : Handling RtspMessage := do
  let sessionId := request.getHeaderValue "Session".toList
  if (← get).server.sessionExists sessionId then
    modify fun w => { w with server := w.server.pauseSession sessionId }
    return (reply request response .ok).setHeaders "Session".toList sessionId
  else return reply request response .notFound

def handleTeardown (request response : RtspMessage) : Handling RtspMessage := do
  let sessionId := request.getHeaderValue "Session".toList
  if (← get).server.sessionExists sessionId then
    modify fun w => { w with server := w.server.terminateSession sessionId }
    return (reply request response .ok).setHeaders "Session".toList sessionId
  else return reply request response .notFound

/-- The `switch` of `process`. -/
def dispatch (env : Env) (request : RtspMessage) : Handling RtspMessage := do
  modify fun w => { w with connection.dispatched := w.connection.dispatched ++ [request] }
  let response := { RtspMessage.new with cseq := request.cseq }
  match request.method with
  | .options => handleOptions request response
  | .describe => handleDescribe env request response
  | .setup => handleSetup env request response
  | .play => handlePlay env request response
  | .pause => handlePause request response
  | .teardown => handleTeardown request response
  | _ => return { response with statusCode := .methodNotAllowed }

/-- How `send` ends. `brokenPipe` is the error for a connection that the client has
closed: it comes with a signal that nothing handles, which ends the process. -/
inductive SendResult where
  | whole
  | part
  | failed
  | brokenPipe
  deriving DecidableEq

/-- One turn of the loop: what `recv` returns, if anything, what the request
meets, and how much of the response `send` takes. -/
structure Turn where
  received : Option Text
  env : Env
  send : SendResult

/-- `receive_rtsp_message`; the buffer is read as a string, up to its first null
byte. -/
def receive (t : Turn) : Handling Text :=
  match t.received with
  | some bytes => return bytes.takeWhile (· != '\x00')
  | none => throw (.exception (.runtimeError "Failed to receive RTSP message"))

def sendRtspMessage (t : Turn) (message : Text) : Handling Unit := do
  modify fun w => { w with connection.sent := w.connection.sent ++ [message] }
  match t.send with
  | .whole => return
  | .part => throw (.exception (.runtimeError "Incomplete RTSP message sent"))
  | .failed => throw (.exception (.runtimeError "Failed to send RTSP message"))
  | .brokenPipe => throw .terminate

/-- One turn, with whether the loop goes on. -/
def turn (t : Turn) : Handling Bool := do
  let data ← receive t
  match ← attempt (RtspMessage.parse data) with
  | none => return false
  | some request =>
    let response ← dispatch t.env request
    sendRtspMessage t response.createResponse
    return decide (request.method ≠ .teardown)

/-- `process`, for the turns it is given. -/
def process : List Turn → Handling Unit
  | [] => return
  | t :: rest => do if ← turn t then process rest

/-- `~ConnectionHandler` -/
def destroy (w : World) : World :=
  if w.connection.sessionId ≠ [] then
    { w with server := w.server.terminateSession w.connection.sessionId }
  else w

end ConnectionHandler
end TinyRtsp
