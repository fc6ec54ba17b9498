import Clawhip.Json

/-!
# The client of the SDK endpoint

`SdkClient` of `src/gjc_sdk.rs`. The endpoint is any source of websocket messages: what a client meets at its
connects, sends and reads is an input. A deadline is reached where the messages of a connection end. `tracing` and
the address of the endpoint are left out, and so is time apart from the deadlines.
-/

namespace Clawhip.Gjc.Sdk

/-! ## Frames -/

inductive SdkTransportError where
  | endpointUnavailable
  | endpointMalformed
  | endpointUnauthorized
  | invalidHello
  | timeout
  | connectionClosed
  | frameRejected
  | correlationMismatch
  | retryExhausted
deriving DecidableEq

def ABSOLUTE_MAX_FRAME_BYTES : ℕ := 262144

def MAX_CONNECTION_ID_CHARS : ℕ := 128

def MAX_OPERATION_NAME_CHARS : ℕ := 128

structure SdkTransportLimits where
  max_frame_bytes : ℕ
  max_payload_bytes : ℕ
  max_reconnect_attempts : ℕ

namespace SdkTransportLimits

def default : SdkTransportLimits := ⟨65536, 65536, 2⟩

def sanitized (limits : SdkTransportLimits) : SdkTransportLimits where
  max_frame_bytes := min (max limits.max_frame_bytes 1024) ABSOLUTE_MAX_FRAME_BYTES
  max_payload_bytes := min (max limits.max_payload_bytes 1024) ABSOLUTE_MAX_FRAME_BYTES
  max_reconnect_attempts := min limits.max_reconnect_attempts 5

end SdkTransportLimits

structure SdkRequest where
  id : String
  frame_type : String
  query : Option String
  operation : Option String
  input : Json

structure SdkServerError where
  code : Option String
  message : Option String
deriving DecidableEq

structure SdkResponse where
  id : Option String
  frame_type : String
  ok : Option Bool
  result : Json
  page : Json
  error : Option SdkServerError
deriving DecidableEq

structure HelloFrame where
  connection_id : Option String

/-- `serde_json::from_str` at the two types that it is used at. -/
structure Serde where
  value : String → Option Json
  response : String → Option SdkResponse

def validOperationName (value : String) : Bool :=
  !value.isEmpty && value.utf8ByteSize ≤ MAX_OPERATION_NAME_CHARS &&
    value.toList.all fun c => c.isAlphanum || ['.', '_', '/', '-'].contains c

namespace SdkRequest

variable (request : SdkRequest)

def responseFrameType : String :=
  if request.frame_type = "control_request" then "control_response"
  else if request.frame_type = "broker_request" then "broker_response"
  else "query_response"

/-- The request as it is serialized. -/
def toJson : Json :=
  .object ([("id", .string request.id), ("type", .string request.frame_type)] ++
    (request.query.map fun query => ("query", .string query)).toList ++
    (request.operation.map fun operation => ("operation", .string operation)).toList ++
    [("input", request.input)])

def encode : Except SdkTransportError String :=
  if !request.input.isObject then .error .frameRejected
  else
    let selectorOk := match request.query, request.operation with
      | some query, none => request.frame_type == "query_request" && validOperationName query
      | none, some operation =>
        (request.frame_type == "control_request" || request.frame_type == "broker_request") &&
          validOperationName operation
      | _, _ => false
    if !selectorOk then .error .frameRejected
    else
      let frame := request.toJson.toText
      if frame.utf8ByteSize > ABSOLUTE_MAX_FRAME_BYTES then .error .frameRejected else .ok frame

end SdkRequest

def validConnectionId (value : String) : Bool :=
  !value.isEmpty && value.utf8ByteSize ≤ MAX_CONNECTION_ID_CHARS &&
    value.toList.all fun c => c.isAlphanum || c == '-'

/-- `serde_json::from_value` at `HelloFrame`. -/
def helloFrame (value : Json) : Option HelloFrame :=
  match value.get "connectionId" with
  | none => some ⟨none⟩
  | some .null => some ⟨none⟩
  | some (.string id) => some ⟨some id⟩
  | some _ => none

section Frames

variable (serde : Serde) (limits : SdkTransportLimits)

def parseHello (frame : String) : Except SdkTransportError HelloFrame :=
  if frame.utf8ByteSize > limits.max_frame_bytes then .error .frameRejected
  else
    match serde.value frame with
    | none => .error .invalidHello
    | some value =>
      if (value.get "type").bind Json.asStr ≠ some "hello" then .error .invalidHello
      else
        match helloFrame value with
        | none => .error .invalidHello
        | some hello => if hello.connection_id.any validConnectionId then .ok hello else .error .invalidHello

def parseResponse (frame : String) : Except SdkTransportError SdkResponse :=
  if frame.utf8ByteSize > limits.max_frame_bytes then .error .frameRejected
  else
    match serde.response frame with
    | none => .error .frameRejected
    | some response =>
      if response.result.toText.utf8ByteSize > limits.max_payload_bytes ||
          response.page.toText.utf8ByteSize > limits.max_payload_bytes then .error .frameRejected
      else .ok response

end Frames

/-! ## Connections -/

/-- A message that the websocket library hands to the reader. -/
inductive Message where
  | text (text : String)
  | binary
  | ping
  | pong
  | close

/-- What a read gives before the deadline. -/
inductive Read where
  | message (message : Message)
  | failed
  | ended

/-- What a send comes to. -/
inductive Send where
  | sent
  | failed
  | elapsed

/-- What an exchange meets on its connection: its send and its reads, until the deadline. -/
structure Script where
  send : Send
  reads : List Read

/-- What a connect meets: it fails, or it reads the first message of a connection, whose other messages are left to
the exchange. -/
inductive Dial where
  | failed (error : SdkTransportError)
  | accepted (send : Send) (messages : List Read)

/-- What a call meets: on the connection that is there, and at its connects. -/
structure Behaviour where
  pooled : Script
  dials : ℕ → Dial

/-- What happens on the connections, which are numbered. -/
inductive Event where
  | read (connection : ℕ) (read : Read)
  | sent (connection : ℕ) (frame : String)

/-- `SdkClient`, with the number of its connection and of the connections so far. -/
structure SdkClient where
  limits : SdkTransportLimits
  stream : Option ℕ
  hello : Option HelloFrame
  connections : ℕ

def SdkClient.new : SdkClient := ⟨.default, none, none, 0⟩

def SdkClient.withLimits (client : SdkClient) (limits : SdkTransportLimits) : SdkClient :=
  { client with limits := limits.sanitized }

/-- The client without its connection. -/
def SdkClient.closed (client : SdkClient) : SdkClient := { client with stream := none, hello := none }

/-- What a call comes to: its result, the client behind it, and what happened. -/
structure Outcome (α : Type) where
  result : Except SdkTransportError α
  client : SdkClient
  log : List Event

section Calls

variable (serde : Serde)

/-- `connect`: the result is what the exchange meets on the new connection. -/
def SdkClient.connect (client : SdkClient) (dial : Dial) : Outcome (ℕ × Script) :=
  match dial with
  | .failed error => ⟨.error error, client, []⟩
  | .accepted send messages =>
    let connection := client.connections
    let client := { client with connections := connection + 1 }
    match messages with
    | [] => ⟨.error .timeout, client, []⟩
    | first :: reads =>
      let log := [Event.read connection first]
      match first with
      | .ended => ⟨.error .connectionClosed, client, log⟩
      | .failed => ⟨.error .connectionClosed, client, log⟩
      | .message (.text text) =>
        match parseHello serde client.limits text with
        | .error error => ⟨.error error, client, log⟩
        | .ok hello =>
          let client := { client with stream := some connection, hello := some hello }
          ⟨.ok (connection, ⟨send, reads⟩), client, log⟩
      | .message _ => ⟨.error .invalidHello, client, log⟩

variable (limits : SdkTransportLimits) (request : SdkRequest)

/-- The frame that is correlated with the request. -/
def checkReply (response : SdkResponse) : Except SdkTransportError SdkResponse :=
  if response.frame_type ≠ request.responseFrameType then .error .frameRejected
  else
    match response.ok with
    | some true => .ok response
    | some false => if response.error.isSome then .ok response else .error .frameRejected
    | none => .error .frameRejected

/-- The loop of `exchange` over the messages, and the reads that it makes. -/
def readReply : ℕ → List Read → Except SdkTransportError SdkResponse × List Read
  | _, [] => (.error .timeout, [])
  | uncorrelated, read :: reads =>
    match read with
    | .ended => (.error .connectionClosed, [read])
    | .failed => (.error .connectionClosed, [read])
    | .message (.text text) =>
      match parseResponse serde limits text with
      | .error error => (.error error, [read])
      | .ok response =>
        if response.frame_type = "notification" then
          let rest := readReply uncorrelated reads
          (rest.1, read :: rest.2)
        else
          match response.id with
          | some id =>
            if id = request.id then (checkReply request response, [read])
            else (.error .correlationMismatch, [read])
          | none =>
            if uncorrelated + 1 ≥ 16 then (.error .correlationMismatch, [read])
            else
              let rest := readReply (uncorrelated + 1) reads
              (rest.1, read :: rest.2)
    | .message _ => (.error .frameRejected, [read])

def exchange (connection : ℕ) (frame : String) (script : Script) :
    Except SdkTransportError SdkResponse × List Event :=
  match script.send with
  | .elapsed => (.error .timeout, [.sent connection frame])
  | .failed => (.error .connectionClosed, [.sent connection frame])
  | .sent =>
    let reply := readReply serde limits request 0 script.reads
    (reply.1, .sent connection frame :: reply.2.map (Event.read connection))

/-- The connection of an exchange: the one that is there, or else a new one. -/
def SdkClient.connected (client : SdkClient) (behaviour : Behaviour) (dialled : ℕ) : Outcome (ℕ × Script) :=
  match client.stream with
  | some connection => ⟨.ok (connection, behaviour.pooled), client, []⟩
  | none => client.connect serde (behaviour.dials dialled)

/-- The loop of `request`, with the reconnects that are left. -/
def attempt (frame : String) (behaviour : Behaviour) : ℕ → ℕ → SdkClient → Outcome SdkResponse
  | retries, dialled, client =>
    let connected := client.connected serde behaviour dialled
    match connected.result with
    | .error error => ⟨.error error, connected.client, connected.log⟩
    | .ok (connection, script) =>
      let exchanged := exchange serde connected.client.limits request connection frame script
      let log := connected.log ++ exchanged.2
      match exchanged.1 with
      | .ok response => ⟨.ok response, connected.client, log⟩
      | .error error =>
        let client := connected.client.closed
        let connectionLost := error = .connectionClosed
        if connectionLost ∧ request.frame_type = "control_request" then
          ⟨.error .connectionClosed, client, log⟩
        else if connectionLost then
          match retries with
          | 0 => ⟨.error .retryExhausted, client, log⟩
          | retries + 1 =>
            let rest := attempt frame behaviour retries (dialled + 1) client
            { rest with log := log ++ rest.log }
        else ⟨.error error, client, log⟩

end Calls

def SdkClient.request (serde : Serde) (client : SdkClient) (request : SdkRequest) (behaviour : Behaviour) :
    Outcome SdkResponse :=
  match request.encode with
  | .error error => ⟨.error error, client, []⟩
  | .ok frame => attempt serde request frame behaviour client.limits.max_reconnect_attempts 0 client

end Clawhip.Gjc.Sdk
