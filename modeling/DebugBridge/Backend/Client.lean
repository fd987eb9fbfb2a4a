import DebugBridge.Backend.Call
import DebugBridge.Decode.OfText
import DebugBridge.Json.Failure
import DebugBridge.Url.Read

/-!
# The backend's client

Every call is one exchange.  What became of the exchange decides the outcome of the call: a reply,
or one of the faults below.
-/

namespace DebugBridge

/-- Why a call failed. -/
inductive BackendFault
  | url (fault : UrlFault)
  /-- The exchange broke off; `transient` when trying again may help. -/
  | exchange (text : String) (transient : Bool)
  | status (path : String) (code : Nat)
  | decode (path : String) (text : String)
deriving DecidableEq

namespace BackendFault

def message : BackendFault → String
  | .url fault => "invalid backend url: " ++ fault.message
  | .exchange text _ => text
  | .status path code => "backend replied " ++ toString code ++ " to " ++ path
  | .decode path text => "malformed reply from " ++ path ++ ": " ++ text

/-- Whether the same call can succeed later: connections fail and replies are refusals while the
server or its resource starts. -/
def isTransient : BackendFault → Bool
  | .url _ => false
  | .exchange _ transient => transient
  | .status _ _ => true
  | .decode _ _ => false

end BackendFault

/-- A reply as it arrived. -/
structure HttpReply where
  status : Nat := 200
  body : List UInt8 := []
  /-- The connection ended inside the body. -/
  truncated : Bool := false
deriving DecidableEq

/-- What came of an exchange. -/
abbrev Outcome := Except BackendFault HttpReply

namespace BackendClient

/-- A reply counts as success. -/
def isSuccess (status : Nat) : Bool := 200 ≤ status && status < 300

/-- The outcome of a call whose reply has nothing to tell. -/
def accepted (call : BackendCall) (outcome : Outcome) : Except BackendFault Unit := do
  let reply ← outcome
  if isSuccess reply.status then .ok () else .error (.status call.path reply.status)

/-- The outcome of a call whose reply is read. -/
def decoded {α : Type} (decoder : TextDecoder α) (call : BackendCall) (outcome : Outcome) :
    Except BackendFault α := do
  let reply ← outcome
  if reply.status != 200 then .error (.status call.path reply.status)
  if reply.truncated then .error (.exchange "error decoding response body" false)
  match decoder.decode reply.body with
  | .ok value => .ok value
  | .error failure => .error (.decode call.path (failure.message reply.body))

def info (suffix : String) (outcome : Outcome) : Except BackendFault ResourceInfo :=
  decoded ResourceInfo.decoder (.info suffix) outcome

def runState (suffix : String) (outcome : Outcome) : Except BackendFault RunState :=
  decoded RunState.decoder (.runState suffix) outcome

/-- The result of an evaluation; empty when the reply has none. -/
def evalResult (outcome : Outcome) : Except BackendFault String :=
  (decoded EvalResult.decoder .evalResult outcome).map fun result => result.text.getD ""

/-- The URL of a call below the base URL. -/
def endpoint (base : Url) (call : BackendCall) : Except UrlFault Url := do
  let directory ← base.asDirectory
  directory.join (call.path.toList.dropWhile (· == '/'))

/-- The most bytes that the URL of a request has. -/
def maxUrlSize : Nat := 65534

/-- What the host of a URL may hold, but not that of a request. -/
def isRefusedInHost (c : Char) : Bool := "\"\x60\x7b\x7d".toList.contains c

/-- Whether a request can be made of a URL. -/
def isRequestable (url : Url) : Bool :=
  (url.scheme = "http" || url.scheme = "https") && url.text.utf8ByteSize ≤ maxUrlSize &&
    !(url.authority.any fun authority => authority.host.text.any isRefusedInHost)

/-- The URL that an exchange for a call goes to, when there can be one. -/
def exchangeUrl (base : Url) (call : BackendCall) : Except BackendFault Url :=
  match endpoint base call with
  | .error fault => .error (.url fault)
  | .ok url =>
    if isRequestable url.withoutCredentials then .ok url
    else .error (.exchange
      ("builder error for url (" ++ url.withoutCredentials.text ++ ")") false)

/-- The fault of an exchange that got no reply: nobody listens, the connection was dropped, or the
time ran out. -/
def noReply (url : Url) : BackendFault :=
  .exchange ("error sending request for url (" ++ url.withoutCredentials.text ++ ")") true

end BackendClient

end DebugBridge
