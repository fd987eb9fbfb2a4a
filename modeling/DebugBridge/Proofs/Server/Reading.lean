import DebugBridge.Proofs.Framing.Intake
import DebugBridge.Proofs.Session.Runs
import DebugBridge.Server.Loop

/-!
# The request loop and its session

For the session, going on reading is a run: the requests among the messages that have arrived, in
order and up to the first one that ends the loop, and a shutdown where reading has come to its end.
-/

namespace DebugBridge

/-- The requests among messages. -/
def requestsAmong (messages : List Request) : List Request :=
  messages.filter fun message => message.type = "request"

/-- Requests up to the first that disconnects. -/
def throughDisconnect : List Request → List Request
  | [] => []
  | request :: rest =>
    if request.command = "disconnect" then [request] else request :: throughDisconnect rest

section Requests

variable {first second : List Request}

theorem requestsAmong_append (first second : List Request) :
    requestsAmong (first ++ second) = requestsAmong first ++ requestsAmong second :=
  List.filter_append first second

/-- Behind requests that do not disconnect, it goes on with what comes. -/
theorem throughDisconnect_append
    (hstays : ∀ request ∈ first, request.command ≠ "disconnect") :
    throughDisconnect (first ++ second) = first ++ throughDisconnect second := by
  induction first with
  | nil => rfl
  | cons request first ih =>
      obtain ⟨hrequest, hmore⟩ := List.forall_mem_cons.mp hstays
      rw [List.cons_append, throughDisconnect, if_neg hrequest, ih hmore, List.cons_append]

/-- Where nothing disconnects, every request counts. -/
theorem throughDisconnect_eq_self
    (hstays : ∀ request ∈ throughDisconnect first, request.command ≠ "disconnect") :
    throughDisconnect first = first := by
  induction first with
  | nil => rfl
  | cons request first ih =>
      rw [throughDisconnect] at hstays ⊢
      split at hstays
      · next hleaves => exact absurd hleaves (hstays request (List.mem_singleton_self _))
      · next hrequest =>
          rw [if_neg hrequest]
          rw [ih fun other hother => hstays other (List.mem_cons_of_mem _ hother)]

end Requests

/-- All that is wanted, but for the log. -/
def acts (effects : List Effect) : List Effect :=
  effects.filter fun
    | .log _ => false
    | _ => true

@[simp]
theorem acts_append (first second : List Effect) :
    acts (first ++ second) = acts first ++ acts second :=
  List.filter_append first second

@[simp]
theorem acts_nil : acts [] = [] := rfl

@[simp]
theorem acts_logs (records : List LogRecord) : acts (records.map .log) = [] := by
  rw [acts, List.filter_eq_nil_iff]
  intro effect heffect
  obtain ⟨record, -, rfl⟩ := List.mem_map.mp heffect
  simp

namespace Framing.Intake

/-- The requests that the loop hands to the session. -/
def requests (intake : Intake) : List Request :=
  throughDisconnect (requestsAmong intake.messages)

/-- How the loop ends. -/
def result (intake : Intake) : Option (Except FrameFault Unit) :=
  if ∃ request ∈ intake.requests, request.command = "disconnect" then some (.ok ())
  else intake.ending

/-- What happens to the session when the loop takes it all in. -/
def events (now : Nat) (intake : Intake) : List (Nat × SessionEvent) :=
  intake.requests.map (fun request => (now, .request request)) ++
    if intake.result.isSome then [(now, .shutdown), (now, .release)] else []

section Behind

variable {messages : List Request} {message : Request} {intake : Intake}

theorem requests_behind
    (hstays : ∀ request ∈ requestsAmong messages, request.command ≠ "disconnect") :
    (intake.behind messages).requests = requestsAmong messages ++ intake.requests := by
  rw [requests, behind, requestsAmong_append, throughDisconnect_append hstays, requests]

theorem result_behind
    (hstays : ∀ request ∈ requestsAmong messages, request.command ≠ "disconnect") :
    (intake.behind messages).result = intake.result := by
  have hiff : (∃ request ∈ (intake.behind messages).requests, request.command = "disconnect") ↔
      ∃ request ∈ intake.requests, request.command = "disconnect" := by
    rw [requests_behind hstays]
    constructor
    · rintro ⟨request, hrequest, hleaves⟩
      rcases List.mem_append.mp hrequest with hfirst | hrest
      · exact absurd hleaves (hstays request hfirst)
      · exact ⟨request, hrest, hleaves⟩
    · rintro ⟨request, hrequest, hleaves⟩
      exact ⟨request, List.mem_append_right _ hrequest, hleaves⟩
  simp only [result, hiff]
  rfl

theorem requestsAmong_other (htype : message.type ≠ "request") : requestsAmong [message] = [] := by
  simp [requestsAmong, htype]

theorem requestsAmong_request (htype : message.type = "request") :
    requestsAmong [message] = [message] := by
  simp [requestsAmong, htype]

/-- Other messages mean nothing. -/
theorem events_behind_other (htype : message.type ≠ "request") (now : Nat) :
    (intake.behind [message]).events now = intake.events now := by
  have hstays : ∀ request ∈ requestsAmong [message], request.command ≠ "disconnect" := by
    simp [requestsAmong_other htype]
  rw [events, requests_behind hstays, result_behind hstays, requestsAmong_other htype, events,
    List.nil_append]

theorem stays_request (htype : message.type = "request") (hstays : message.command ≠ "disconnect") :
    ∀ request ∈ requestsAmong [message], request.command ≠ "disconnect" := by
  rw [requestsAmong_request htype]
  exact List.forall_mem_singleton.mpr hstays

theorem requests_behind_leaves (htype : message.type = "request")
    (hleaves : message.command = "disconnect") :
    (intake.behind [message]).requests = [message] := by
  rw [requests, behind, requestsAmong_append, requestsAmong_request htype, List.singleton_append,
    throughDisconnect, if_pos hleaves]

theorem result_behind_leaves (htype : message.type = "request")
    (hleaves : message.command = "disconnect") :
    (intake.behind [message]).result = some (.ok ()) := by
  rw [result, requests_behind_leaves htype hleaves,
    if_pos ⟨message, List.mem_singleton_self _, hleaves⟩]

theorem events_behind_leaves (htype : message.type = "request")
    (hleaves : message.command = "disconnect") (now : Nat) :
    (intake.behind [message]).events now =
      [(now, .request message), (now, .shutdown), (now, .release)] := by
  rw [events, requests_behind_leaves htype hleaves, result_behind_leaves htype hleaves]
  rfl

theorem events_behind_stays (htype : message.type = "request")
    (hstays : message.command ≠ "disconnect") (now : Nat) :
    (intake.behind [message]).events now = (now, .request message) :: intake.events now := by
  have hall := stays_request htype hstays
  rw [events, requests_behind hall, result_behind hall, requestsAmong_request htype, events]
  rfl

end Behind

section Standing

variable {taken : Intake}

/-- In a stream that has not come to an end, nothing disconnects. -/
theorem stays_of_open (hopen : taken.result = none) :
    ∀ request ∈ taken.requests, request.command ≠ "disconnect" := by
  intro request hrequest hleaves
  rw [result, if_pos ⟨request, hrequest, hleaves⟩] at hopen
  cases hopen

theorem requests_of_open (hopen : taken.result = none) :
    taken.requests = requestsAmong taken.messages :=
  throughDisconnect_eq_self (stays_of_open hopen)

/-- Where the loop has ended, whatever else arrives is not read. -/
theorem settled {ending later : StreamEnd} {input more : List UInt8}
    {verdict : Except FrameFault Unit} (hended : (intake ending input).result = some verdict)
    (hcontinues : Continues ending more later) :
    (intake later (input ++ more)).requests = (intake ending input).requests ∧
      (intake later (input ++ more)).result = some verdict := by
  induction hlength : input.length using Nat.strongRecOn generalizing input with
  | ind length ih =>
      cases hread : nextRequest input ending with
      | waiting =>
          rw [intake_waiting hread] at hended
          cases hended
      | finished =>
          have hmore := nextRequest_continues hcontinues hread (by simp)
          rw [intake_finished hmore, ← hended, intake_finished hread]
          exact ⟨rfl, rfl⟩
      | failed fault rest =>
          have hmore := nextRequest_continues hcontinues hread (by simp)
          rw [intake_failed hmore, ← hended, intake_failed hread]
          exact ⟨rfl, rfl⟩
      | value message rest =>
          have hmore := nextRequest_continues hcontinues hread (by simp)
          have hshort : rest.length < length := hlength ▸ length_lt_of_nextRequest hread
          rw [intake_value hread] at hended ⊢
          rw [intake_value hmore]
          by_cases hall : ∀ request ∈ requestsAmong [message], request.command ≠ "disconnect"
          · rw [result_behind hall] at hended ⊢
            rw [requests_behind hall, requests_behind hall]
            obtain ⟨hrequests, hresult⟩ := ih rest.length hshort hended rfl
            exact ⟨congrArg (requestsAmong [message] ++ ·) hrequests, hresult⟩
          · have htype : message.type = "request" := by
              by_contra hother
              exact hall (by simp [requestsAmong_other hother])
            have hleaves : message.command = "disconnect" := by
              by_contra hstays
              exact hall (stays_request htype hstays)
            rw [requests_behind_leaves htype hleaves, requests_behind_leaves htype hleaves,
              result_behind_leaves htype hleaves, ← hended, result_behind_leaves htype hleaves]
            exact ⟨rfl, rfl⟩

end Standing

end Framing.Intake

namespace ServerLoop

open Framing Framing.Intake

variable {now fuel : Nat} {server : ServerLoop}

/-- Stopping is a run of the session. -/
theorem stop_eq (now : Nat) (result : Except FrameFault Unit) (server : ServerLoop) :
    server.stop now result =
      ({ server with
        session := (Session.run [(now, .shutdown), (now, .release)] server.session).1
        result := some result },
      (Session.run [(now, .shutdown), (now, .release)] server.session).2) := by
  simp [stop, onSession, Session.run, Session.Turn.andThen, Session.Turn.idle]

/-- The loop has taken in what was in its buffer. -/
structure Took (now : Nat) (server after : ServerLoop) (effects : List Effect) : Prop where
  session : after.session =
    (Session.run ((intake server.ending server.buffer).events now) server.session).1
  acts : acts effects =
    DebugBridge.acts
      (Session.run ((intake server.ending server.buffer).events now) server.session).2
  ending : after.ending = server.ending
  result : after.result = (intake server.ending server.buffer).result
  /-- What is left waits for more, and goes on where the messages ended. -/
  left : after.result = none →
    nextRequest after.buffer server.ending = .waiting ∧
    ∀ more later, Continues server.ending more later →
      intake later (server.buffer ++ more) =
        (intake later (after.buffer ++ more)).behind (intake server.ending server.buffer).messages

/-- Behind a message the loop goes on with the rest. -/
theorem left_behind {after : ServerLoop} {message : Request} {rest : List UInt8}
    (hread : nextRequest server.buffer server.ending = .value message rest)
    (hleft : nextRequest after.buffer server.ending = .waiting ∧
      ∀ more later, Continues server.ending more later →
        intake later (rest ++ more) =
          (intake later (after.buffer ++ more)).behind (intake server.ending rest).messages) :
    nextRequest after.buffer server.ending = .waiting ∧
      ∀ more later, Continues server.ending more later →
        intake later (server.buffer ++ more) = (intake later (after.buffer ++ more)).behind
          ((intake server.ending rest).behind [message]).messages := by
  refine ⟨hleft.1, fun more later hcontinues => ?_⟩
  have hmore := nextRequest_continues hcontinues hread (by simp)
  rw [intake_value hmore, hleft.2 more later hcontinues, Intake.behind_behind]
  rfl

section Message

variable {message : Request} {rest : List UInt8} {after : ServerLoop} {effects : List Effect}

/-- The session takes the disconnect, and the loop stops. -/
theorem took_leaves (hread : nextRequest server.buffer server.ending = .value message rest)
    (htype : message.type = "request") (hleaves : message.command = "disconnect") :
    Took now server (({ server with buffer := rest }.accept now message).1.stop now (.ok ())).1
      (({ server with buffer := rest }.accept now message).2 ++
        (({ server with buffer := rest }.accept now message).1.stop now (.ok ())).2) := by
  rw [stop_eq]
  refine ⟨?_, ?_, rfl, ?_, nofun⟩ <;> rw [intake_value hread]
  · rw [events_behind_leaves htype hleaves]
    rfl
  · rw [events_behind_leaves htype hleaves]
    simp [accept, onSession, Session.run]
  · rw [result_behind_leaves htype hleaves]

/-- The session takes any other request, and the loop reads on. -/
theorem took_stays (hread : nextRequest server.buffer server.ending = .value message rest)
    (htype : message.type = "request") (hstays : message.command ≠ "disconnect")
    (htook : Took now ({ server with buffer := rest }.accept now message).1 after effects) :
    Took now server after (({ server with buffer := rest }.accept now message).2 ++ effects) := by
  refine ⟨?_, ?_, htook.ending, ?_, fun hnone => ?_⟩ <;> rw [intake_value hread]
  · rw [events_behind_stays htype hstays, htook.session]
    rfl
  · rw [events_behind_stays htype hstays, acts_append, htook.acts]
    simp [accept, onSession, Session.run]
  · rw [result_behind (stays_request htype hstays), htook.result]
    rfl
  · exact left_behind hread (htook.left hnone)

/-- What is no request is passed over. -/
theorem took_other (hread : nextRequest server.buffer server.ending = .value message rest)
    (htype : message.type ≠ "request")
    (htook : Took now { server with buffer := rest } after effects) :
    Took now server after effects := by
  have hstays : ∀ request ∈ requestsAmong [message], request.command ≠ "disconnect" := by
    simp [requestsAmong_other htype]
  refine ⟨?_, ?_, htook.ending, ?_, fun hnone => ?_⟩
  · rw [htook.session, intake_value hread, events_behind_other htype]
  · rw [htook.acts, intake_value hread, events_behind_other htype]
  · rw [htook.result, intake_value hread, result_behind hstays]
  · rw [intake_value hread]
    exact left_behind hread (htook.left hnone)

end Message

theorem took_readOn (hfuel : server.buffer.length < fuel) (hopen : server.result = none) :
    Took now server (server.readOn now fuel).1 (server.readOn now fuel).2 := by
  induction fuel generalizing server with
  | zero => exact absurd hfuel (Nat.not_lt_zero _)
  | succ fuel ih =>
      cases hread : nextRequest server.buffer server.ending with
      | waiting =>
          have hintake := intake_waiting hread
          have hout : server.readOn now (fuel + 1) = (server, []) := by
            simp only [readOn, hread]
          rw [hout]
          refine ⟨?_, ?_, rfl, ?_, fun _ => ⟨hread, fun more later _ => ?_⟩⟩ <;> rw [hintake]
          · rfl
          · rfl
          · exact hopen
          · rfl
      | finished =>
          have hout : server.readOn now (fuel + 1) = server.stop now (.ok ()) := by
            simp only [readOn, hread]
          rw [hout, stop_eq]
          refine ⟨?_, ?_, rfl, ?_, nofun⟩ <;> rw [intake_finished hread] <;> rfl
      | failed fault rest =>
          have hout : server.readOn now (fuel + 1) =
              { server with buffer := rest }.stop now (.error fault) := by
            simp only [readOn, hread]
          rw [hout, stop_eq]
          refine ⟨?_, ?_, rfl, ?_, nofun⟩ <;> rw [intake_failed hread] <;> rfl
      | value message rest =>
          have hshort := length_lt_of_nextRequest hread
          have hrest : rest.length < fuel := by omega
          let accepted := { server with buffer := rest }.accept now message
          by_cases htype : message.type = "request"
          · by_cases hleaves : message.command = "disconnect"
            · have hout : server.readOn now (fuel + 1) =
                  ((accepted.1.stop now (.ok ())).1,
                    accepted.2 ++ (accepted.1.stop now (.ok ())).2) := by
                simp only [readOn, hread, if_pos htype, Session.afterRequest, if_pos hleaves,
                  accepted]
              rw [hout]
              exact took_leaves hread htype hleaves
            · have hout : server.readOn now (fuel + 1) =
                  ((accepted.1.readOn now fuel).1,
                    accepted.2 ++ (accepted.1.readOn now fuel).2) := by
                simp only [readOn, hread, if_pos htype, Session.afterRequest, if_neg hleaves,
                  accepted]
              rw [hout]
              exact took_stays hread htype hleaves (@ih accepted.1 hrest hopen)
          · have hout : server.readOn now (fuel + 1) =
                { server with buffer := rest }.readOn now fuel := by
              simp only [readOn, hread, if_neg htype]
            rw [hout]
            exact took_other hread htype (@ih { server with buffer := rest } hrest hopen)

end ServerLoop

end DebugBridge
