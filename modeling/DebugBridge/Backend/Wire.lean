import DebugBridge.Backend.Client

/-!
# Calls on the wire

A call travels as one HTTP request on a connection of its own, which the backend closes behind its
reply.  The reader of replies works on all the bytes since the connection was made, so it does not
matter how they were cut up on the way.
-/

namespace DebugBridge.Wire

/-! ## Requests -/

/-- The host and port to connect to. -/
def address? (url : Url) : Option (Url.Host × Nat) := do
  let authority ← url.authority
  let port ← authority.port.or (Url.defaultPort? url.scheme)
  return (authority.host, port)

def header (name value : String) : String := name ++ ": " ++ value ++ "\r\n"

/-- The authority as the backend sees it. -/
def hostText (url : Url) : String :=
  match url.withoutCredentials.authority with
  | some authority => String.ofList authority.text
  | none => ""

def bodyHeaders (body : List UInt8) : String :=
  header "content-type" "application/json" ++ header "content-length" (toString body.length)

/-- The bytes of the request for a call. -/
def request (url : Url) (call : BackendCall) : List UInt8 :=
  let opening := call.method.name ++ " " ++ url.requestTarget ++ " HTTP/1.1\r\n"
    ++ header "host" (hostText url) ++ header "accept" "*/*" ++ header "connection" "close"
  match call.body? with
  | none => Text.encodeUtf8 (opening ++ "\r\n")
  | some value =>
    let body := value.bytes
    Text.encodeUtf8 (opening ++ bodyHeaders body ++ "\r\n") ++ body

/-! ## Replies -/

/-- What the bytes that have arrived hold. -/
inductive Reading
  | reply (reply : HttpReply)
  | waiting
  /-- No reply, and none will come. -/
  | broken
deriving DecidableEq

/-- The first line, and what follows its line feed. -/
def splitLine? : List UInt8 → Option (List UInt8 × List UInt8)
  | [] => none
  | b :: rest =>
    if b = 0x0a then some ([], rest)
    else (splitLine? rest).map fun (line, rest) => (b :: line, rest)

/-- The characters of a line, one for each byte, without the carriage return at its end. -/
def lineChars (line : List UInt8) : List Char :=
  (line.map fun b => Char.ofNat b.toNat).filter (· != '\r')

/-- The lines before the blank one, and the body; `fuel` is more than the bytes there are. -/
def splitHead? : (fuel : Nat) → List UInt8 → Option (List (List Char) × List UInt8)
  | 0, _ => none
  | fuel + 1, input =>
    match splitLine? input with
    | none => none
    | some (line, rest) =>
      match lineChars line with
      | [] => some ([], rest)
      | line => (splitHead? fuel rest).map fun (lines, body) => (line :: lines, body)

/-- The status in the first line of a reply. -/
def status? (line : List Char) : Option Nat :=
  match Url.splitAt (· == ' ') line with
  | version :: status :: _ =>
    if "HTTP/1.".toList.isPrefixOf version then Url.numberIn? 10 status else none
  | _ => none

/-- The value of a header in lower case, if it is there. -/
def headerValue? (name : String) (lines : List (List Char)) : Option (List Char) :=
  lines.findSome? fun line =>
    let key := (line.takeWhile (· != ':')).map Char.toLower
    if key = name.toList then
      some (((line.drop (key.length + 1)).dropWhile (· == ' ')).map Char.toLower)
    else none

/-- How the end of a body is found. -/
inductive BodyEnd
  | after (length : Nat)
  /-- Chunks, the last one empty. -/
  | chunks
  | closing
deriving DecidableEq

def bodyEnd (status : Nat) (headers : List (List Char)) : BodyEnd :=
  if status = 204 || status = 304 then .after 0
  else if headerValue? "transfer-encoding" headers = some "chunked".toList then .chunks
  else match (headerValue? "content-length" headers).bind (Url.numberIn? 10) with
    | some length => .after length
    | none => .closing

/-- The bytes in the chunks, and whether the last chunk is there; `fuel` is more than the bytes
there are. -/
def readChunks : (fuel : Nat) → List UInt8 → List UInt8 × Bool
  | 0, _ => ([], false)
  | fuel + 1, input =>
    match splitLine? input with
    | none => ([], false)
    | some (line, rest) =>
      let digits := (lineChars line).takeWhile fun c => (Url.hexDigitValue? c).isSome
      match Url.numberIn? 16 digits with
      | none => ([], false)
      | some 0 => ([], true)
      | some (size + 1) =>
        let (more, complete) := readChunks fuel (rest.drop (size + 3))
        (rest.take (size + 1) ++ more, complete)

/-- The body among the bytes behind the head, and whether all of it is there. -/
def readBody (ending : BodyEnd) (closed : Bool) (input : List UInt8) : List UInt8 × Bool :=
  match ending with
  | .after length => (input.take length, length ≤ input.length)
  | .chunks => readChunks (input.length + 1) input
  | .closing => (input, closed)

/-- Reads a reply; `closed` tells whether the connection has ended. -/
def read (input : List UInt8) (closed : Bool) : Reading :=
  match splitHead? (input.length + 1) input with
  | some (opening :: headers, rest) =>
    match status? opening with
    | none => .broken
    | some status =>
      let (body, complete) := readBody (bodyEnd status headers) closed rest
      if complete || closed then .reply { status, body, truncated := !complete } else .waiting
  | some ([], _) => .broken
  | none => if closed then .broken else .waiting

end DebugBridge.Wire
