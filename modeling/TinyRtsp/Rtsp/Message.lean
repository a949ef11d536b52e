import Mathlib.Data.Char
import Mathlib.Data.List.Lex
import Mathlib.Data.List.Sort
import TinyRtsp.Foundation.Table
import TinyRtsp.Foundation.Text

/-! `RTSPMessage`: how a received text becomes a request and how a response
becomes text. -/
namespace TinyRtsp

inductive Method where
  | options
  | describe
  | setup
  | play
  | pause
  | teardown
  | getParameter
  | setParameter
  | redirect
  | announce
  | record
  | unknown
  deriving DecidableEq

inductive StatusCode where
  | unset
  | continue
  | ok
  | created
  | lowOnStorageSpace
  | multipleChoices
  | movedPermanently
  | movedTemporarily
  | badRequest
  | unauthorized
  | paymentRequired
  | forbidden
  | notFound
  | methodNotAllowed
  | notAcceptable
  | proxyAuthenticationRequired
  | requestTimeout
  | conflict
  | gone
  | lengthRequired
  | preconditionFailed
  | requestEntityTooLarge
  | requestURITooLarge
  | unsupportedMediaType
  | invalidParameter
  | illegalConferenceIdentifier
  | notEnoughBandwidth
  | sessionNotFound
  | methodNotValidInThisState
  | headerFieldNotValidForResource
  | invalidRange
  | parameterIsReadOnly
  | aggregateOperationNotAllowed
  | onlyAggregateOperationAllowed
  | unsupportedTransport
  | destinationUnreachable
  | internalServerError
  | notImplemented
  | badGateway
  | serviceUnavailable
  | gatewayTimeout
  | rtspVersionNotSupported
  | optionNotSupported
  deriving DecidableEq

def StatusCode.value : StatusCode → Nat
  | .unset => 0
  | .continue => 100
  | .ok => 200
  | .created => 201
  | .lowOnStorageSpace => 250
  | .multipleChoices => 300
  | .movedPermanently => 301
  | .movedTemporarily => 302
  | .badRequest => 400
  | .unauthorized => 401
  | .paymentRequired => 402
  | .forbidden => 403
  | .notFound => 404
  | .methodNotAllowed => 405
  | .notAcceptable => 406
  | .proxyAuthenticationRequired => 407
  | .requestTimeout => 408
  | .conflict => 409
  | .gone => 410
  | .lengthRequired => 411
  | .preconditionFailed => 412
  | .requestEntityTooLarge => 413
  | .requestURITooLarge => 414
  | .unsupportedMediaType => 415
  | .invalidParameter => 451
  | .illegalConferenceIdentifier => 452
  | .notEnoughBandwidth => 453
  | .sessionNotFound => 454
  | .methodNotValidInThisState => 455
  | .headerFieldNotValidForResource => 456
  | .invalidRange => 457
  | .parameterIsReadOnly => 458
  | .aggregateOperationNotAllowed => 459
  | .onlyAggregateOperationAllowed => 460
  | .unsupportedTransport => 461
  | .destinationUnreachable => 462
  | .internalServerError => 500
  | .notImplemented => 501
  | .badGateway => 502
  | .serviceUnavailable => 503
  | .gatewayTimeout => 504
  | .rtspVersionNotSupported => 505
  | .optionNotSupported => 551

/-- The members of `RTSPMessage` that are read somewhere. -/
structure RtspMessage where
  protocol : Text
  method : Method
  requestUri : Text
  cseq : UInt32
  statusCode : StatusCode
  body : Text
  headers : Table Text Text

namespace RtspMessage

def new : RtspMessage where
  protocol := "RTSP/1.0".toList
  method := .unknown
  requestUri := []
  cseq := 0
  statusCode := .unset
  body := []
  headers := ∅

def parseMethod (methodStr : Text) : Method :=
  if methodStr = "OPTIONS".toList then .options
  else if methodStr = "DESCRIBE".toList then .describe
  else if methodStr = "SETUP".toList then .setup
  else if methodStr = "PLAY".toList then .play
  else if methodStr = "PAUSE".toList then .pause
  else if methodStr = "TEARDOWN".toList then .teardown
  else if methodStr = "GET_PARAMETER".toList then .getParameter
  else if methodStr = "SET_PARAMETER".toList then .setParameter
  else if methodStr = "REDIRECT".toList then .redirect
  else if methodStr = "ANNOUNCE".toList then .announce
  else if methodStr = "RECORD".toList then .record
  else .unknown

def statusCodeToString : StatusCode → Text
  | .continue => "Continue".toList
  | .ok => "OK".toList
  | .created => "Created".toList
  | _ => "Unknown".toList

def methodToString : Method → Text
  | .options => "OPTIONS".toList
  | .describe => "DESCRIBE".toList
  | .setup => "SETUP".toList
  | .play => "PLAY".toList
  | .pause => "PAUSE".toList
  | .teardown => "TEARDOWN".toList
  | _ => "UNKNOWN".toList

/-- `request_line >> method_str >> request_uri_ >> protocol_`; after the first
token that is missing the members keep their initial values. -/
def parseRequestLine (line : Text) : RtspMessage :=
  match Text.extract line with
  | none => { new with method := parseMethod [] }
  | some (methodStr, line) =>
    match Text.extract line with
    | none => { new with method := parseMethod methodStr }
    | some (uri, line) =>
      match Text.extract line with
      | none => { new with method := parseMethod methodStr, requestUri := uri }
      | some (protocol, _) =>
        { new with method := parseMethod methodStr, requestUri := uri, protocol := protocol }

/-- One header line, which is not empty and has no line break in it. -/
def parseHeaderLine (m : RtspMessage) (line : Text) : Except Exception RtspMessage := do
  let (headerName, rest) := (Text.getline ':' line).getD ([], [])
  let (headerValue, _) := (Text.getline '\n' rest).getD ([], [])
  let headerValue ← Text.trimSpaces headerValue
  if headerName = "CSeq".toList then
    return { m with cseq := .ofInt (← Text.stoi headerValue) }
  else return { m with headers := m.headers.insert headerName headerValue }

/-- The header lines, up to the first that holds nothing but carriage returns. -/
def parseHeaders (m : RtspMessage) (data : Text) : Except Exception RtspMessage :=
  match _ : Text.getline '\n' data with
  | none => return m
  | some (line, rest) =>
    let line := line.filter (· != '\r')
    if line = [] then return m
    else do parseHeaders (← m.parseHeaderLine line) rest
  termination_by data.length
  decreasing_by exact Text.getline_length ‹_›

/-- `parse` on a fresh message; `none` is its false. -/
def parse (data : Text) : Except Exception (Option RtspMessage) :=
  match Text.getline '\n' data with
  | none => return none
  | some (line, rest) => do return some (← (parseRequestLine line).parseHeaders rest)

def headerList (m : RtspMessage) : List ((_ : Text) × Text) :=
  m.headers.entries.insertionSort fun a b => a.1 ≤ b.1

def firstLine (m : RtspMessage) : Text :=
  if m.statusCode ≠ .unset then
    m.protocol ++ " ".toList ++ Text.decimal m.statusCode.value ++ " ".toList ++
      statusCodeToString m.statusCode
  else methodToString m.method ++ " ".toList ++ m.requestUri ++ " ".toList ++ m.protocol

def headerLine (header : (_ : Text) × Text) : Text := header.1 ++ ": ".toList ++ header.2

def createResponse (m : RtspMessage) : Text :=
  m.firstLine ++ Text.crlf ++
    m.headerList.flatMap (fun header => headerLine header ++ Text.crlf) ++ Text.crlf ++ m.body

def setHeaders (m : RtspMessage) (key value : Text) : RtspMessage :=
  { m with headers := m.headers.insert key value }

theorem lookup_setHeaders (m : RtspMessage) (key value name : Text) :
    (m.setHeaders key value).headers.lookup name =
      if name = key then some value else m.headers.lookup name := by
  unfold RtspMessage.setHeaders
  split
  · subst name
    exact AList.lookup_insert _
  · exact AList.lookup_insert_ne ‹_›

def getHeaderValue (m : RtspMessage) (key : Text) : Text := (m.headers.lookup key).getD []

end RtspMessage
end TinyRtsp
