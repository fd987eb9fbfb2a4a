import DebugBridge.Proofs.Server.Delivery
import DebugBridge.Proofs.Server.Handing
import DebugBridge.Proofs.Session.Numbering
import DebugBridge.Proofs.Session.Outstanding
import DebugBridge.Proofs.Session.Shutdown

/-!
# Serving a session

Whatever order bytes, replies, alarms and writes come in, the session handles the requests that the
bytes hold, and the bytes that are written are the frames of the messages that it sends.
-/

namespace DebugBridge

open Framing

/-! ## What the session is told -/

namespace SessionEvent

/-- The event belongs to an activity. -/
def isBackground : SessionEvent → Bool
  | .wake _ => true
  | .outcome _ _ => true
  | _ => false

/-- The event does not end anything from outside. -/
def isOrdinary (event : SessionEvent) : Bool := event.request?.isSome || event.isBackground

end SessionEvent

/-- As long as the loop reads, its session gets requests and goes on with its activities.  When the
loop ends, the session is shut down and let go, and only its activities go on. -/
def Told (result : Option (Except FrameFault Unit)) (history : List (Nat × SessionEvent)) : Prop :=
  match result with
  | none => ∀ entry ∈ history, entry.2.isOrdinary = true
  | some _ => ∃ earlier now later,
      history = earlier ++ (now, .shutdown) :: (now, .release) :: later ∧
      (∀ entry ∈ earlier, entry.2.isOrdinary = true) ∧
      ∀ entry ∈ later, entry.2.isBackground = true

theorem SessionEvent.isOrdinary_of_isBackground {event : SessionEvent}
    (hbackground : event.isBackground = true) : event.isOrdinary = true := by
  rw [isOrdinary, hbackground, Bool.or_true]

theorem Told.background {result : Option (Except FrameFault Unit)}
    {history more : List (Nat × SessionEvent)} (htold : Told result history)
    (hmore : ∀ entry ∈ more, entry.2.isBackground = true) : Told result (history ++ more) := by
  cases result with
  | none =>
      intro entry hentry
      rcases List.mem_append.mp hentry with hold | hnew
      · exact htold entry hold
      · exact SessionEvent.isOrdinary_of_isBackground (hmore entry hnew)
  | some verdict =>
      obtain ⟨earlier, now, later, rfl, hearlier, hlater⟩ := htold
      refine ⟨earlier, now, later ++ more, by simp, hearlier, fun entry hentry => ?_⟩
      rcases List.mem_append.mp hentry with hold | hnew
      · exact hlater entry hold
      · exact hmore entry hnew

theorem Told.events {history : List (Nat × SessionEvent)} (htold : Told none history)
    (now : Nat) (taken : Intake) : Told taken.result (history ++ taken.events now) := by
  have hrequests : ∀ entry ∈ history ++
      taken.requests.map (fun request => (now, SessionEvent.request request)),
      entry.2.isOrdinary = true := by
    intro entry hentry
    rcases List.mem_append.mp hentry with hold | hnew
    · exact htold entry hold
    · obtain ⟨request, -, rfl⟩ := List.mem_map.mp hnew
      rfl
  rw [Intake.events, ← List.append_assoc]
  cases taken.result with
  | none =>
      rw [Option.isSome_none, if_neg Bool.false_ne_true, List.append_nil]
      exact hrequests
  | some verdict =>
      rw [Option.isSome_some, if_pos rfl]
      exact ⟨_, now, [], rfl, hrequests, List.forall_mem_nil _⟩

namespace Service

variable {service : Service} {told : List (Nat × SessionEvent)}

theorem isBackground_background? (event : ServerEvent) :
    ∀ entry ∈ event.background?.toList, entry.2.isBackground = true := by
  cases event <;> simp [ServerEvent.background?, SessionEvent.isBackground]

theorem told_step (htold : Told service.server.result told) (event : ServerEvent) :
    Told (service.step event).1.server.result (told ++ service.takes event) := by
  have hbackground := htold.background (isBackground_background? event)
  have hheard : ∀ change : ServerLoop → ServerLoop,
      (∀ server, (change server).result = server.result) →
        Told (service.hear change).server.result (told ++ event.background?.toList) := by
    intro change hchange
    rw [hear_keeps service hchange]
    exact hbackground
  cases event with
  | arrive bytes => exact hheard (.receive bytes) fun _ => rfl
  | close => exact hheard .close fun _ => rfl
  | sever => exact hheard (fun server => { server with ending := .broken }) fun _ => rfl
  | read now =>
      simp only [step, act, takes, ServerLoop.pump]
      split
      · rw [List.append_nil]
        exact htold
      · next hopen =>
          have hnone : service.server.result = none := by simpa using hopen
          have htook := @ServerLoop.took_readOn now _ service.server (Nat.lt_succ_self _) hnone
          rw [htook.result]
          exact (hnone ▸ htold).events now _
  | wake now activity => exact hbackground
  | outcome now activity reply => exact hbackground
  | write =>
      simp only [step, offer_server]
      exact hbackground
  | refuse count =>
      simp only [step, offer_server]
      exact hbackground

/-- Reading adds nothing to what the activities do. -/
theorem background_takes (event : ServerEvent) :
    ((service.takes event).filter fun entry => entry.2.isBackground) =
      event.background?.toList := by
  cases event with
  | read now =>
      rw [List.filter_eq_nil_iff.mpr]
      · rfl
      · intro entry hentry
        simp only [takes] at hentry
        split at hentry
        · cases hentry
        · rcases List.mem_append.mp hentry with hrequest | hend
          · obtain ⟨request, -, rfl⟩ := List.mem_map.mp hrequest
            exact Bool.false_ne_true
          · split at hend
            · simp only [List.mem_cons, List.not_mem_nil, or_false] at hend
              rcases hend with rfl | rfl <;> exact Bool.false_ne_true
            · cases hend
  | arrive bytes => rfl
  | close => rfl
  | sever => rfl
  | wake now activity => rfl
  | outcome now activity reply => rfl
  | write => rfl
  | refuse count => rfl

section Run

variable (config : BackendConfig) (events : List ServerEvent)

theorem told_run :
    Told (run events (start config)).1.server.result (history events (start config)) := by
  induction events using List.reverseRecOn with
  | nil => exact nofun
  | append_singleton events event ih =>
      rw [run_snoc, history_snoc]
      exact told_step ih event

theorem background_history :
    ((history events (start config)).filter fun entry => entry.2.isBackground) =
      events.filterMap ServerEvent.background? := by
  induction events using List.reverseRecOn with
  | nil => rfl
  | append_singleton events event ih =>
      rw [history_snoc, List.filter_append, ih, background_takes, List.filterMap_append]
      cases event <;> rfl

/-- With the loop its session ends. -/
theorem isShutDown_of_result (hended : (run events (start config)).1.server.result.isSome = true) :
    (run events (start config)).1.server.session.isShutDown = true := by
  have htold := told_run config events
  obtain ⟨verdict, hverdict⟩ := Option.isSome_iff_exists.mp hended
  rw [hverdict] at htold
  obtain ⟨earlier, now, later, hhistory, -, -⟩ := htold
  rw [((start config).run_history events).1, hhistory, Session.run_append,
    Session.Turn.andThen_fst, Session.run, Session.Turn.andThen_fst]
  have hwf := Session.wellFormed_run (Session.WellFormed.ofConfig config) earlier
  have hshut := @Session.isShutDown_of_shutsDown
    (Session.run earlier (Session.ofConfig config)).1 _ (.inl rfl) now
  by_contra hopen
  rw [Bool.not_eq_true] at hopen
  rw [Session.isShutDown_run (Session.wellFormed_step hwf now _) _ hopen] at hshut
  cases hshut

end Run

end Service

/-! ## The service and its stream -/

/-- What becomes of a service over events: of its session, to which the history happens, and of its
output.  The stream is what the bytes hold that have arrived. -/
structure Serves (config : BackendConfig) (events : List ServerEvent) (stream : Intake)
    (history : List (Nat × SessionEvent)) (service : Service) (effects : List Effect) : Prop where
  /-- The session makes the run of its history. -/
  session : service.server.session = (Session.run history (.ofConfig config)).1
  /-- What that run wants is what the service wants, but for the log. -/
  effects : acts effects = acts (Session.run history (.ofConfig config)).2
  /-- Replies and alarms reach the session as they come. -/
  background : (history.filter fun entry => entry.2.isBackground) =
    events.filterMap ServerEvent.background?
  /-- The session is handed requests of the stream, in their order. -/
  handed : requestsIn history <+: stream.requests
  /-- Reading goes on until the loop ends or waits for more bytes. -/
  rests : ∀ earlier now, events = earlier ++ [.read now] → service.server.Rests
  /-- Then the session has been handed them all, and the loop has ended as the stream does. -/
  caughtUp : service.server.Rests →
    requestsIn history = stream.requests ∧ service.server.result = stream.result
  /-- The session is shut down when the loop ends, and not before. -/
  told : Told service.server.result history
  shutDown : service.server.result.isSome = true → service.server.session.isShutDown = true
  /-- The frames of what the session sends are written in order, while the output takes them. -/
  delivered : Delivered (messagesIn (Session.run history (.ofConfig config)).2) service
  /-- With as many writes more as messages wait, those frames and nothing else are written. -/
  written : service.output.isGone = false →
    (Service.run (List.replicate service.output.queue.length .write) service).1.written =
      (messagesIn (Session.run history (.ofConfig config)).2).flatMap ofValue
  /-- The output takes them until it is made to fail. -/
  accepting : service.output.isGone = true → ∃ count, .refuse count ∈ events
  /-- The messages are numbered from one on. -/
  numbered : (messagesIn (Session.run history (.ofConfig config)).2).map messageNumber? =
    (List.range' 1 (messagesIn (Session.run history (.ofConfig config)).2).length).map
      fun number : Nat => some (number : Int)

namespace Service

/-- Whatever arrives, and in whatever pieces: behind frames with any bodies, and before anything
else that follows, the session handles the requests among the messages up to the first that
disconnects or the first fault, and the loop ends as they do.  A body is as long as a length can
say. -/
theorem serves_session (config : BackendConfig) (events : List ServerEvent)
    (bodies : List (List UInt8)) (rest : List UInt8)
    (hfits : ∀ body ∈ bodies, body.length ≤ greatestLength)
    (hheard : heard events = bodies.flatMap frame ++ rest) :
    Serves config events (inFrames bodies (intake (ended events) rest))
      (history events (start config)) (run events (start config)).1
      (run events (start config)).2 := by
  obtain ⟨hsession, heffects⟩ := (start config).run_history events
  have hstep := inStep_run config events
  have hsent : messagesIn (run events (start config)).2 =
      messagesIn (Session.run (history events (start config)) (.ofConfig config)).2 := by
    rw [← messagesIn_acts, heffects, messagesIn_acts]
    rfl
  have hdelivered := hsent ▸ delivered_run config events
  have hstream := @intake_frames (ended events) rest bodies hfits
  rw [← hheard] at hstream
  rw [← hstream]
  refine
    { session := hsession
      effects := heffects
      background := background_history config events
      handed := hstep.handed
      rests := ?_
      caughtUp := hstep.caughtUp
      told := told_run config events
      shutDown := isShutDown_of_result config events
      delivered := hdelivered
      written := fun haccepting => (written_writes rfl).trans (hdelivered.accepted haccepting)
      accepting := isGone_run
      numbered := Session.messageNumbers_run config _ }
  rintro earlier now rfl
  rw [run_snoc]
  exact ServerLoop.rests_pump now _

/-- Two requests with a message between them that is none, and a request that comes too late. -/
def sampleTalk : List Request :=
  [{ seq := 1, type := "request", command := "initialize" },
    { seq := 2, type := "event", command := "initialize" },
    { seq := 3, type := "request", command := "disconnect" },
    { seq := 4, type := "request", command := "threads" }]

def sampleTalkBodies : List (List UInt8) := sampleTalk.map fun message => message.toJson.bytes

/-- The talk with one more byte, in two pieces that do not meet where frames do. -/
def sampleTalkEvents : List ServerEvent :=
  let stream := sampleTalkBodies.flatMap frame ++ [0x7b]
  [.arrive (stream.take 30), .read 5, .arrive (stream.drop 30), .write, .read 6, .write, .write,
    .close]

theorem serves_session_until_disconnect :
    Serves {} sampleTalkEvents (inFrames sampleTalkBodies (intake (ended sampleTalkEvents) [0x7b]))
      (history sampleTalkEvents (start {})) (run sampleTalkEvents (start {})).1
      (run sampleTalkEvents (start {})).2 ∧
    (requestsIn (history sampleTalkEvents (start {}))).map Request.command =
      ["initialize", "disconnect"] ∧
    (run sampleTalkEvents (start {})).1.server.result.isSome = true :=
  ⟨serves_session {} sampleTalkEvents sampleTalkBodies [0x7b] (by decide +kernel)
    (by decide +kernel), by decide +kernel, by decide +kernel⟩

end Service

end DebugBridge
