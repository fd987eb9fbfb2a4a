import DebugBridge.Proofs.Protocol.Stops

/-!
# What the editor is told

Responses and events, read off the messages as the editor gets them.  A response is matched to its
request by what it repeats of it.
-/

namespace DebugBridge

/-- A response, as far as it tells which request it answers and how that fared. -/
structure Reply where
  requestSeq : Int
  command : String
  success : Bool
deriving DecidableEq

/-- The response to a request. -/
def Request.reply (request : Request) (success : Bool) : Reply where
  requestSeq := request.seq
  command := request.command
  success := success

inductive Notice
  | reply (reply : Reply)
  | event (happening : Event)

namespace Notice

def reply? : Notice → Option Reply
  | .reply told => some told
  | .event _ => none

def event? : Notice → Option Event
  | .reply _ => none
  | .event happening => some happening

end Notice

/-- The response that a message is. -/
def reply? (message : Json) : Option Reply :=
  match message.member? "type", message.member? "request_seq", message.member? "command",
    message.member? "success" with
  | some (.string "response"), some (.number (.int requestSeq)), some (.string command),
    some (.bool success) => some { requestSeq, command, success }
  | _, _, _, _ => none

/-- The event that a message is. -/
def event? (message : Json) : Option Event :=
  match message.member? "type", message.member? "event" with
  | some (.string "event"), some (.string name) => some { name, body := message.member? "body" }
  | _, _ => none

def notice? (message : Json) : Option Notice :=
  match reply? message with
  | some reply => some (.reply reply)
  | none => (event? message).map .event

namespace Message

/-- What a message tells. -/
def notice : Message → Notice
  | .response reply => .reply
      { requestSeq := reply.requestSeq, command := reply.command, success := reply.success }
  | .event happening => .event happening

theorem reply?_response (seq : Int) (reply : Response) :
    reply? ((Message.response reply).toJson seq) = some
      { requestSeq := reply.requestSeq, command := reply.command, success := reply.success } := by
  obtain ⟨requestSeq, command, success, message, body⟩ := reply
  cases message <;> cases body <;>
    simp [reply?, toJson, optionalMember, Json.sortMembers, Json.int]

theorem reply?_event (seq : Int) (happening : Event) :
    reply? ((Message.event happening).toJson seq) = none := by
  obtain ⟨name, body⟩ := happening
  cases body <;> simp [reply?, toJson, optionalMember, Json.sortMembers]

theorem event?_event (seq : Int) (happening : Event) :
    event? ((Message.event happening).toJson seq) = some happening := by
  obtain ⟨name, body⟩ := happening
  have hnone : Json.lookup "body" ([] : List (String × Json)) = none := rfl
  cases body <;> simp [event?, toJson, optionalMember, Json.sortMembers, hnone]

/-- Every message is read back as what it tells. -/
theorem notice?_toJson (seq : Int) (message : Message) :
    notice? (message.toJson seq) = some message.notice := by
  cases message with
  | response reply => rw [notice?, reply?_response]; rfl
  | event happening => rw [notice?, reply?_event, event?_event]; rfl

end Message

/-- What the editor is told, in order. -/
def noticesIn (effects : List Effect) : List Notice :=
  effects.filterMap fun
    | .send message => notice? message
    | _ => none

/-- The responses among it. -/
def repliesIn (effects : List Effect) : List Reply :=
  effects.filterMap fun
    | .send message => reply? message
    | _ => none

/-- The events among it. -/
def eventsIn (effects : List Effect) : List Event := (noticesIn effects).filterMap Notice.event?

@[simp]
theorem noticesIn_append (first second : List Effect) :
    noticesIn (first ++ second) = noticesIn first ++ noticesIn second :=
  List.filterMap_append

@[simp]
theorem repliesIn_append (first second : List Effect) :
    repliesIn (first ++ second) = repliesIn first ++ repliesIn second :=
  List.filterMap_append

@[simp]
theorem eventsIn_append (first second : List Effect) :
    eventsIn (first ++ second) = eventsIn first ++ eventsIn second := by
  rw [eventsIn, noticesIn_append, List.filterMap_append]
  rfl

/-- The responses are the notices that are responses. -/
theorem repliesIn_eq (effects : List Effect) :
    repliesIn effects = (noticesIn effects).filterMap Notice.reply? := by
  rw [repliesIn, noticesIn, List.filterMap_filterMap]
  congr 1
  funext effect
  cases effect with
  | send message =>
      cases hreply : reply? message with
      | some reply => simp [notice?, hreply, Notice.reply?]
      | none => cases hevent : event? message <;> simp [notice?, hreply, hevent, Notice.reply?]
  | log record => rfl
  | call activity made => rfl
  | ready activity => rfl
  | sleepUntil activity deadline => rfl
  | forget activity => rfl

end DebugBridge
