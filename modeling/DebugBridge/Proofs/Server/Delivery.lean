import DebugBridge.Proofs.Server.Service

/-!
# The bytes that are written

The output takes the frames of the messages that are sent, in the order in which they are sent, up
to where it fails.
-/

namespace DebugBridge

open Framing

/-- The output has taken the frames of the first messages, and has the others in its queue.  Once it
has failed, it has taken some of the bytes. -/
structure Delivered (messages : List Json) (service : Service) : Prop where
  accepted : service.output.isGone = false →
    service.written ++ service.output.queue.flatMap ofValue = messages.flatMap ofValue
  refused : service.output.isGone = true →
    service.output.queue = [] ∧ service.written <+: messages.flatMap ofValue

section Delivered

variable {messages : List Json} {service : Service}

theorem putAll_of_gone {output : Output} (hgone : output.isGone = true) (more : List Json) :
    more.foldl (fun output message => output.put message) output = output := by
  induction more with
  | nil => rfl
  | cons message more ih => rw [List.foldl_cons, Output.put, if_pos hgone, ih]

theorem putAll_of_accepting {output : Output} (haccepting : output.isGone = false)
    (more : List Json) :
    more.foldl (fun output message => output.put message) output =
      { output with queue := output.queue ++ more } := by
  induction more generalizing output with
  | nil => rw [List.foldl_nil, List.append_nil]
  | cons message more ih =>
      have hput : output.put message = { output with queue := output.queue ++ [message] } :=
        if_neg (by simp [haccepting])
      have hrest := @ih { output with queue := output.queue ++ [message] } haccepting
      rw [List.foldl_cons, hput, hrest, List.append_assoc, List.singleton_append]

/-- What is sent is queued. -/
theorem Delivered.act (hdelivered : Delivered messages service)
    (action : ServerLoop → ServerLoop × List Effect) :
    Delivered (messages ++ messagesIn (service.act action).2) (service.act action).1 := by
  cases hgone : service.output.isGone with
  | true =>
      have hsame : (service.act action).1.output = service.output := putAll_of_gone hgone _
      obtain ⟨hqueue, hprefix⟩ := hdelivered.refused hgone
      refine ⟨fun haccepting => ?_, fun _ => ⟨hsame ▸ hqueue, ?_⟩⟩
      · rw [hsame, hgone] at haccepting
        cases haccepting
      · rw [List.flatMap_append]
        exact hprefix.trans (List.prefix_append _ _)
  | false =>
      have hput : (service.act action).1.output = { service.output with
          queue := service.output.queue ++ messagesIn (service.act action).2 } :=
        putAll_of_accepting hgone _
      refine ⟨fun _ => ?_, fun hrefused => ?_⟩
      · rw [hput, List.flatMap_append, List.flatMap_append, ← hdelivered.accepted hgone,
          List.append_assoc]
        rfl
      · rw [hput] at hrefused
        rw [hgone] at hrefused
        cases hrefused

theorem next?_eq_some {output rest : Output} {bytes : List UInt8}
    (hnext : output.next? = some (bytes, rest)) : ∃ message queue,
      output.queue = message :: queue ∧ bytes = ofValue message ∧ rest = { output with queue } := by
  unfold Output.next? at hnext
  split at hnext
  · cases hnext
  · next message queue hqueue =>
      obtain ⟨rfl, rfl⟩ := Prod.mk.inj (Option.some.inj hnext)
      exact ⟨message, queue, hqueue, rfl, rfl⟩

/-- A queue that waits belongs to an output that accepts. -/
theorem Delivered.accepting {message : Json} {queue : List Json}
    (hdelivered : Delivered messages service) (hqueue : service.output.queue = message :: queue) :
    service.output.isGone = false := by
  cases hgone : service.output.isGone with
  | false => rfl
  | true =>
      rw [(hdelivered.refused hgone).1] at hqueue
      cases hqueue

theorem Delivered.write (hdelivered : Delivered messages service) :
    Delivered messages (service.offer id) := by
  unfold Service.offer
  split
  · exact hdelivered
  · next next hnext =>
      obtain ⟨message, queue, hqueue, hbytes, hrest⟩ := next?_eq_some hnext
      have haccepting := hdelivered.accepting hqueue
      have hall := hdelivered.accepted haccepting
      refine ⟨fun _ => ?_, fun hgone => ?_⟩
      · rw [hqueue, List.flatMap_cons, ← List.append_assoc] at hall
        rw [id, hrest, hbytes]
        exact hall
      · rw [id, hrest] at hgone
        rw [haccepting] at hgone
        cases hgone

theorem Delivered.refuse (hdelivered : Delivered messages service) (count : Nat) :
    Delivered messages (service.offer fun next => (next.1.take count, .refused)) := by
  unfold Service.offer
  split
  · exact hdelivered
  · next next hnext =>
      obtain ⟨message, queue, hqueue, hbytes, hrest⟩ := next?_eq_some hnext
      have hall := hdelivered.accepted (hdelivered.accepting hqueue)
      refine ⟨nofun, fun _ => ⟨rfl, ?_⟩⟩
      rw [hqueue, List.flatMap_cons] at hall
      change service.written ++ next.1.take count <+: _
      rw [← hall, hbytes]
      exact (List.prefix_append_right_inj _).mpr
        ((List.take_prefix count _).trans (List.prefix_append _ _))

end Delivered

namespace Service

variable {service : Service} {messages : List Json}

theorem delivered_step (hdelivered : Delivered messages service) (event : ServerEvent) :
    Delivered (messages ++ messagesIn (service.step event).2) (service.step event).1 := by
  have hheard : ∀ change : ServerLoop → ServerLoop,
      Delivered (messages ++ messagesIn []) (service.hear change) := by
    intro change
    rw [messagesIn, List.filterMap_nil, List.append_nil]
    unfold hear
    split
    · exact ⟨hdelivered.accepted, hdelivered.refused⟩
    · exact hdelivered
  cases event with
  | arrive bytes => exact hheard (.receive bytes)
  | close => exact hheard .close
  | sever => exact hheard fun server => { server with ending := .broken }
  | read now => exact hdelivered.act _
  | wake now activity => exact hdelivered.act _
  | outcome now activity reply => exact hdelivered.act _
  | write => exact (List.append_nil messages).symm ▸ hdelivered.write
  | refuse count => exact (List.append_nil messages).symm ▸ hdelivered.refuse count

theorem delivered_run (config : BackendConfig) (events : List ServerEvent) :
    Delivered (messagesIn (run events (start config)).2) (run events (start config)).1 := by
  induction events using List.reverseRecOn with
  | nil => exact ⟨fun _ => rfl, nofun⟩
  | append_singleton events event ih =>
      rw [run_snoc, messagesIn_append]
      exact delivered_step ih event

/-- As many writes as there are messages in the queue put all of them out. -/
theorem written_writes {queue : List Json} (hqueue : service.output.queue = queue) :
    (run (List.replicate queue.length .write) service).1.written =
      service.written ++ queue.flatMap ofValue := by
  induction queue generalizing service with
  | nil => exact (List.append_nil service.written).symm
  | cons message queue ih =>
      have hstep : (service.step .write).1 = { service with
          output := { service.output with queue }
          written := service.written ++ ofValue message } := by
        simp only [step, offer, Output.next?, hqueue, id]
      have hlast := @ih (service.step .write).1 (by rw [hstep])
      rw [List.length_cons, List.replicate_succ, run, hlast, hstep, List.flatMap_cons,
        List.append_assoc]

theorem isGone_putAll (output : Output) (more : List Json) :
    (more.foldl (fun output message => output.put message) output).isGone = output.isGone := by
  cases hgone : output.isGone with
  | true => rw [putAll_of_gone hgone, hgone]
  | false => rw [putAll_of_accepting hgone, hgone]

theorem isGone_offer (take : List UInt8 × Output → List UInt8 × Output)
    (hkeeps : ∀ next, (take next).2.isGone = next.2.isGone) :
    (service.offer take).output.isGone = service.output.isGone := by
  unfold offer
  split
  · rfl
  · next next hnext =>
      obtain ⟨message, queue, -, -, hrest⟩ := next?_eq_some hnext
      exact (hkeeps next).trans (by rw [hrest])

/-- The output accepts as long as the stream does. -/
theorem isGone_run {config : BackendConfig} {events : List ServerEvent}
    (hgone : (run events (start config)).1.output.isGone = true) :
    ∃ count, .refuse count ∈ events := by
  induction events using List.reverseRecOn with
  | nil => cases hgone
  | append_singleton events event ih =>
      rw [run_snoc] at hgone
      have hearlier : (run events (start config)).1.output.isGone = true →
          ∃ count, .refuse count ∈ events ++ [event] := fun hbefore =>
        let ⟨count, hcount⟩ := ih hbefore
        ⟨count, List.mem_append_left _ hcount⟩
      cases event with
      | arrive bytes => exact hearlier (hear_output _ _ ▸ hgone)
      | close => exact hearlier (hear_output _ _ ▸ hgone)
      | sever => exact hearlier (hear_output _ _ ▸ hgone)
      | read now => exact hearlier (isGone_putAll _ _ ▸ hgone)
      | wake now activity => exact hearlier (isGone_putAll _ _ ▸ hgone)
      | outcome now activity reply => exact hearlier (isGone_putAll _ _ ▸ hgone)
      | write => exact hearlier (isGone_offer id (fun _ => rfl) ▸ hgone)
      | refuse count => exact ⟨count, List.mem_append_right _ (List.mem_singleton_self _)⟩

end Service

end DebugBridge
