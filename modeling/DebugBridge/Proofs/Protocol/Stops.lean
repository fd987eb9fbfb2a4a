import DebugBridge.Proofs.Json.Members
import DebugBridge.Session.Activities

/-!
# Messages that report a stop

The thread of a `stopped` event is read off the message as the editor gets it.  Of everything that
a session sends, only the event of the poller has one.
-/

namespace DebugBridge

/-- The thread that a message reports as stopped. -/
def stoppedThread? (message : Json) : Option Int :=
  match message.member? "event", (message.member? "body").bind (Json.member? "threadId") with
  | some (.string "stopped"), some (.number (.int thread)) => some thread
  | _, _ => none

theorem stoppedThread?_eq_none {message : Json}
    (hevent : message.member? "event" ≠ some (.string "stopped")) :
    stoppedThread? message = none := by
  unfold stoppedThread?
  split
  · next hstopped _ => exact absurd hstopped hevent
  · rfl

namespace Message

theorem name_of_mem_optionalMember {name : String} {value : Option Json} {member : String × Json}
    (hmem : member ∈ optionalMember name value) : member.1 = name := by
  cases value with
  | none => cases hmem
  | some value =>
      rw [List.mem_singleton.mp hmem]

/-- A response has no event. -/
theorem stoppedThread?_response (seq : Int) (reply : Response) :
    stoppedThread? ((Message.response reply).toJson seq) = none := by
  apply stoppedThread?_eq_none
  rw [toJson, Json.member?_ofMembers, Json.lookup_sortMembers_eq_none]
  · simp
  · intro member hmember
    simp only [List.mem_append, List.mem_cons, List.not_mem_nil, or_false] at hmember
    rcases hmember with (hfixed | hmessage) | hbody
    · rcases hfixed with rfl | rfl | rfl | rfl | rfl <;> simp
    · rw [name_of_mem_optionalMember hmessage]
      decide
    · rw [name_of_mem_optionalMember hbody]
      decide

/-- The name of an event stands in its message. -/
theorem member?_event (seq : Int) (happening : Event) :
    ((Message.event happening).toJson seq).member? "event" = some (.string happening.name) := by
  rw [toJson, Json.member?_ofMembers]
  cases happening.body with
  | none => simp [optionalMember, Json.sortMembers]
  | some body => simp [optionalMember, Json.sortMembers]

theorem stoppedThread?_event (seq : Int) {happening : Event} (hname : happening.name ≠ "stopped") :
    stoppedThread? ((Message.event happening).toJson seq) = none := by
  apply stoppedThread?_eq_none
  rw [member?_event]
  simpa using hname

/-- The poller's event reports its thread. -/
theorem stoppedThread?_stopped (seq thread : Int) :
    stoppedThread? ((Message.event
      { name := "stopped", body := some (Session.stoppedBody thread) }).toJson seq) =
        some thread := by
  have hbody : ((Message.event
      { name := "stopped", body := some (Session.stoppedBody thread) }).toJson seq).member? "body" =
        some (Session.stoppedBody thread) := by
    simp [toJson, optionalMember, Json.sortMembers]
  have hthread : (Session.stoppedBody thread).member? "threadId" = some (.int thread) := by
    simp [Session.stoppedBody, Json.sortMembers]
  simp [stoppedThread?, member?_event, hbody, hthread, Json.int]

end Message

/-- How many of the effects report a stop of the thread. -/
def stopsOf (thread : Int) (effects : List Effect) : Nat :=
  effects.countP fun
    | .send message => stoppedThread? message = some thread
    | _ => false

@[simp]
theorem stopsOf_append (thread : Int) (first second : List Effect) :
    stopsOf thread (first ++ second) = stopsOf thread first + stopsOf thread second :=
  List.countP_append

@[simp]
theorem stopsOf_logs (thread : Int) (records : List LogRecord) :
    stopsOf thread (records.map .log) = 0 := by
  rw [stopsOf, List.countP_eq_zero]
  intro effect heffect
  obtain ⟨record, -, rfl⟩ := List.mem_map.mp heffect
  simp

theorem stopsOf_send (thread : Int) (message : Json) :
    stopsOf thread [.send message] = if stoppedThread? message = some thread then 1 else 0 := by
  rw [stopsOf, List.countP_singleton]
  simp

end DebugBridge
