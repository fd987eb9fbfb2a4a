import DebugBridge.Decode.Format

/-!
# Messages of the debug adapter protocol

Requests come from the editor; responses and events go back to it.  A response repeats the number
and command of its request, and leaves out message and body when it has none.
-/

namespace DebugBridge

structure Request where
  seq : Int := 0
  type : String := ""
  command : String := ""
  arguments : Json := .null
deriving Inhabited

namespace Request

def decoder {F : Type → Type} [JsonFormat F] : F Request :=
  Format.record "Request" false [
    Format.requiredField "seq" Format.int64 fun seq request => { request with seq },
    Format.requiredField "type" Format.string fun type request => { request with type },
    Format.requiredField "command" Format.string fun command request => { request with command },
    Format.field "arguments" JsonFormat.anything fun arguments request =>
      { request with arguments }] {}

def toJson (request : Request) : Json :=
  .ofMembers [
    ("seq", .int request.seq),
    ("type", .string request.type),
    ("command", .string request.command),
    ("arguments", request.arguments)]

end Request

structure Response where
  requestSeq : Int
  command : String
  success : Bool
  message : Option String := none
  body : Option Json := none

structure Event where
  name : String
  body : Option Json := none

/-- What the adapter sends. -/
inductive Message
  | response (response : Response)
  | event (event : Event)

namespace Message

def optionalMember (name : String) (value : Option Json) : List (String × Json) :=
  match value with
  | some value => [(name, value)]
  | none => []

/-- The message with its number. -/
def toJson (seq : Int) : Message → Json
  | .response reply =>
    .ofMembers ([
      ("seq", .int seq),
      ("type", .string "response"),
      ("request_seq", .int reply.requestSeq),
      ("success", .bool reply.success),
      ("command", .string reply.command)]
      ++ optionalMember "message" (reply.message.map .string)
      ++ optionalMember "body" reply.body)
  | .event happening =>
    .ofMembers ([
      ("seq", .int seq),
      ("type", .string "event"),
      ("event", .string happening.name)] ++ optionalMember "body" happening.body)

/-- A successful response. -/
def success (request : Request) (body : Option Json) : Message :=
  .response { requestSeq := request.seq, command := request.command, success := true, body }

def failure (request : Request) (message : String) : Message :=
  .response {
    requestSeq := request.seq, command := request.command, success := false,
    message := some message }

/-- An output event for the editor's console; its text ends in a newline. -/
def console (text : String) : Message :=
  let output := if text.toList.getLast? = some '\n' then text else text ++ "\n"
  .event {
    name := "output"
    body := some (.ofMembers [("category", .string "console"), ("output", .string output)]) }

end Message

end DebugBridge
