import DebugBridge.Proofs.Server.Service

/-!
# The requests that are handed over

The request loop and its stream keep in step: the requests that the session has been handed belong
to the messages that the bytes so far hold, and what waits in the buffer is read as the stream goes
on.
-/

namespace DebugBridge

open Framing

/-! ## What has been handed over -/

def SessionEvent.request? : SessionEvent → Option Request
  | .request asked => some asked
  | _ => none

/-- The requests that a session is handed. -/
def requestsIn (history : List (Nat × SessionEvent)) : List Request :=
  history.filterMap fun entry => entry.2.request?

theorem requestsIn_append (first second : List (Nat × SessionEvent)) :
    requestsIn (first ++ second) = requestsIn first ++ requestsIn second :=
  List.filterMap_append

theorem requestsIn_events (now : Nat) (taken : Intake) :
    requestsIn (taken.events now) = taken.requests := by
  have hrequests : requestsIn (taken.requests.map fun request => (now, .request request)) =
      taken.requests := by
    rw [requestsIn, List.filterMap_map]
    exact List.filterMap_some
  have hend : requestsIn (if taken.result.isSome then [(now, .shutdown), (now, .release)] else []) =
      [] := by
    split <;> rfl
  rw [Intake.events, requestsIn_append, hrequests, hend, List.append_nil]

theorem heard_snoc (events : List ServerEvent) (event : ServerEvent) :
    heard (events ++ [event]) =
      heard events ++ if ended events = .unfinished then event.bytes else [] := by
  induction events with
  | nil => simp [heard, ended]
  | cons first events ih =>
      by_cases hopen : first.streamEnd = .unfinished
      · simp only [List.cons_append, heard, ended, ih, if_pos hopen, List.append_assoc]
      · simp only [List.cons_append, heard, ended, if_neg hopen, List.append_nil]

theorem ended_snoc (events : List ServerEvent) (event : ServerEvent) :
    ended (events ++ [event]) =
      if ended events = .unfinished then event.streamEnd else ended events := by
  induction events with
  | nil =>
      simp only [List.nil_append, ended, if_true]
      split
      · next hopen => exact hopen.symm
      · rfl
  | cons first events ih =>
      by_cases hopen : first.streamEnd = .unfinished
      · simp only [List.cons_append, ended, ih, if_pos hopen]
      · simp only [List.cons_append, ended, if_neg hopen]

/-- The loop has ended, or waits for more bytes. -/
def ServerLoop.Rests (server : ServerLoop) : Prop :=
  server.result.isSome = true ∨ nextRequest server.buffer server.ending = .waiting

/-- The loop is in step with the stream: as long as it reads, the requests are those of the messages
that it has read; and once it has ended, they are those of the stream, whatever else arrives. -/
structure InStep (arrived : List UInt8) (ending : StreamEnd) (server : ServerLoop)
    (requests : List Request) : Prop where
  sameEnd : server.ending = ending
  reading : server.result = none → ∃ messages : List Request,
    requests = requestsAmong messages ∧
    (∀ request ∈ requests, request.command ≠ "disconnect") ∧
    ∀ more later, Continues ending more later →
      intake later (arrived ++ more) = (intake later (server.buffer ++ more)).behind messages
  done : ∀ verdict, server.result = some verdict → ∀ more later, Continues ending more later →
    (intake later (arrived ++ more)).requests = requests ∧
      (intake later (arrived ++ more)).result = some verdict

namespace InStep

variable {arrived : List UInt8} {ending : StreamEnd} {server : ServerLoop}
variable {requests : List Request}

theorem start (config : BackendConfig) : InStep [] .unfinished (.start config) [] where
  sameEnd := rfl
  reading _ := ⟨[], rfl, by simp, fun _ _ _ => rfl⟩
  done := nofun

/-- Nothing of the stream is looked at. -/
theorem congr {other : ServerLoop} (hstep : InStep arrived ending server requests)
    (hbuffer : other.buffer = server.buffer) (hending : other.ending = server.ending)
    (hresult : other.result = server.result) : InStep arrived ending other requests where
  sameEnd := hending.trans hstep.sameEnd
  reading hopen := by
    rw [hbuffer]
    exact hstep.reading (hresult ▸ hopen)
  done verdict hverdict := hstep.done verdict (hresult ▸ hverdict)

/-- Bytes arrive. -/
theorem receive (hstep : InStep arrived .unfinished server requests) (bytes : List UInt8) :
    InStep (arrived ++ bytes) .unfinished (server.receive bytes) requests where
  sameEnd := hstep.sameEnd
  reading hopen := by
    obtain ⟨messages, hrequests, hstays, hintake⟩ := hstep.reading hopen
    refine ⟨messages, hrequests, hstays, fun more later _ => ?_⟩
    rw [ServerLoop.receive, List.append_assoc, List.append_assoc]
    exact hintake (bytes ++ more) later (.inl rfl)
  done verdict hverdict more later _ := by
    rw [List.append_assoc]
    exact hstep.done verdict hverdict (bytes ++ more) later (.inl rfl)

/-- The stream ends. -/
theorem finish {last : StreamEnd} (hstep : InStep arrived .unfinished server requests) :
    InStep arrived last { server with ending := last } requests where
  sameEnd := rfl
  reading hopen := by
    obtain ⟨messages, hrequests, hstays, hintake⟩ := hstep.reading hopen
    exact ⟨messages, hrequests, hstays, fun more later _ => hintake more later (.inl rfl)⟩
  done verdict hverdict more later _ := hstep.done verdict hverdict more later (.inl rfl)

/-- The loop reads on. -/
theorem pump (hstep : InStep arrived ending server requests) (now : Nat) :
    InStep arrived ending (server.pump now).1 (requests ++ requestsIn
      (if server.result.isSome then [] else (intake server.ending server.buffer).events now)) := by
  unfold ServerLoop.pump
  split
  · rw [requestsIn, List.filterMap_nil, List.append_nil]
    exact hstep
  · next hopen =>
      have hnone : server.result = none := by simpa using hopen
      have htook := @ServerLoop.took_readOn now _ server (Nat.lt_succ_self _) hnone
      obtain ⟨messages, rfl, hstays, hintake⟩ := hstep.reading hnone
      obtain rfl := hstep.sameEnd
      rw [requestsIn_events]
      refine ⟨htook.ending, fun hstill => ?_, fun verdict hverdict more later hcontinues => ?_⟩
      · have hresult := htook.result.symm.trans hstill
        refine ⟨messages ++ (intake server.ending server.buffer).messages, ?_, ?_, ?_⟩
        · rw [Intake.requests_of_open hresult, requestsAmong_append]
        · intro request hrequest
          rcases List.mem_append.mp hrequest with hfirst | hrest
          · exact hstays request hfirst
          · exact Intake.stays_of_open hresult request hrest
        · intro more later hcontinues
          rw [hintake more later hcontinues, (htook.left hstill).2 more later hcontinues,
            Intake.behind_behind]
      · have hresult := htook.result.symm.trans hverdict
        obtain ⟨hrequests, hlast⟩ := Intake.settled hresult hcontinues
        rw [hintake more later hcontinues, Intake.requests_behind hstays,
          Intake.result_behind hstays, hrequests, hlast]
        exact ⟨rfl, rfl⟩

theorem handed (hstep : InStep arrived ending server requests) :
    requests <+: (intake ending arrived).requests := by
  cases hresult : server.result with
  | some verdict =>
      have hall := (hstep.done verdict hresult [] ending (.refl ending)).1
      rw [List.append_nil] at hall
      exact hall ▸ List.prefix_refl _
  | none =>
      obtain ⟨messages, rfl, hstays, hintake⟩ := hstep.reading hresult
      have hall := hintake [] ending (.refl ending)
      rw [List.append_nil] at hall
      rw [hall, Intake.requests_behind hstays]
      exact List.prefix_append _ _

/-- A loop that rests has handed over all requests there are. -/
theorem caughtUp (hstep : InStep arrived ending server requests) (hrests : server.Rests) :
    requests = (intake ending arrived).requests ∧
      server.result = (intake ending arrived).result := by
  cases hresult : server.result with
  | some verdict =>
      have hall := hstep.done verdict hresult [] ending (.refl ending)
      rw [List.append_nil] at hall
      exact ⟨hall.1.symm, hall.2.symm⟩
  | none =>
      obtain ⟨messages, rfl, hstays, hintake⟩ := hstep.reading hresult
      have hwaiting := hrests.resolve_left (by simp [hresult])
      have hall := hintake [] ending (.refl ending)
      rw [List.append_nil, List.append_nil, ← hstep.sameEnd, intake_waiting hwaiting] at hall
      rw [← hstep.sameEnd, hall, Intake.requests_behind hstays, Intake.result_behind hstays]
      exact ⟨(List.append_nil _).symm, rfl⟩

end InStep

theorem ServerLoop.rests_pump (now : Nat) (server : ServerLoop) : (server.pump now).1.Rests := by
  unfold pump
  split
  · next hdone => exact .inl hdone
  · next hopen =>
      have hnone : server.result = none := by simpa using hopen
      have htook := @took_readOn now _ server (Nat.lt_succ_self _) hnone
      cases hresult : (server.readOn now (server.buffer.length + 1)).1.result with
      | some verdict => exact .inl (by rw [hresult, Option.isSome_some])
      | none => exact .inr (htook.ending ▸ (htook.left hresult).1)

namespace Service

variable {service : Service} {arrived : List UInt8} {ending : StreamEnd}
variable {requests : List Request}

theorem inStep_hear {change : ServerLoop → ServerLoop} {bytes : List UInt8} {last : StreamEnd}
    (hstep : InStep arrived ending service.server requests)
    (hchange : ∀ server, InStep arrived .unfinished server requests →
      InStep (arrived ++ bytes) last (change server) requests) :
    InStep (arrived ++ if ending = .unfinished then bytes else [])
      (if ending = .unfinished then last else ending) (service.hear change).server requests := by
  rw [hear_server, hstep.sameEnd]
  by_cases hopen : ending = .unfinished
  · subst hopen
    simp only [if_true]
    exact hchange _ hstep
  · simp only [if_neg hopen, List.append_nil]
    exact hstep

theorem inStep_step (hstep : InStep arrived ending service.server requests)
    (event : ServerEvent) :
    InStep (arrived ++ if ending = .unfinished then event.bytes else [])
      (if ending = .unfinished then event.streamEnd else ending)
      (service.step event).1.server (requests ++ requestsIn (service.takes event)) := by
  have hquiet : (if ending = .unfinished then .unfinished else ending) = ending := by
    split
    · next hopen => exact hopen.symm
    · rfl
  have hnothing : arrived ++ (if ending = .unfinished then [] else []) = arrived := by
    rw [ite_self, List.append_nil]
  have hsilent : requests ++ requestsIn [] = requests := List.append_nil requests
  cases event with
  | arrive bytes =>
      simp only [ServerEvent.bytes, ServerEvent.streamEnd, takes, ServerEvent.background?,
        Option.toList_none, hsilent]
      exact inStep_hear hstep fun server hserver => hserver.receive bytes
  | close =>
      simp only [ServerEvent.bytes, ServerEvent.streamEnd, takes, ServerEvent.background?,
        Option.toList_none, hsilent]
      refine inStep_hear hstep fun server hserver => ?_
      rw [List.append_nil]
      exact hserver.finish
  | sever =>
      simp only [ServerEvent.bytes, ServerEvent.streamEnd, takes, ServerEvent.background?,
        Option.toList_none, hsilent]
      refine inStep_hear hstep fun server hserver => ?_
      rw [List.append_nil]
      exact hserver.finish
  | read now =>
      simp only [ServerEvent.bytes, ServerEvent.streamEnd, hquiet, hnothing]
      exact hstep.pump now
  | wake now activity =>
      simp only [ServerEvent.bytes, ServerEvent.streamEnd, hquiet, hnothing]
      exact (List.append_nil requests).symm ▸ hstep.congr rfl rfl rfl
  | outcome now activity reply =>
      simp only [ServerEvent.bytes, ServerEvent.streamEnd, hquiet, hnothing]
      exact (List.append_nil requests).symm ▸ hstep.congr rfl rfl rfl
  | write =>
      simp only [ServerEvent.bytes, ServerEvent.streamEnd, hquiet, hnothing, takes,
        ServerEvent.background?, Option.toList_none, hsilent, step, offer_server]
      exact hstep
  | refuse count =>
      simp only [ServerEvent.bytes, ServerEvent.streamEnd, hquiet, hnothing, takes,
        ServerEvent.background?, Option.toList_none, hsilent, step, offer_server]
      exact hstep

theorem inStep_run (config : BackendConfig) (events : List ServerEvent) :
    InStep (heard events) (ended events) (run events (start config)).1.server
      (requestsIn (history events (start config))) := by
  induction events using List.reverseRecOn with
  | nil => exact .start config
  | append_singleton events event ih =>
      rw [heard_snoc, ended_snoc, run_snoc, history_snoc, requestsIn_append]
      exact inStep_step ih event

end Service

end DebugBridge
