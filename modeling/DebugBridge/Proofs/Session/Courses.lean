import DebugBridge.Proofs.Session.Duties
import DebugBridge.Proofs.Session.Standing

/-!
# Courses of activities

An activity that does an errand waits for one event after the other: to go on, for the outcome of
its call, for the end of a delay.  Between those it does nothing, so that its calls and the
responses that come with its outcomes are told by the events of the run alone.
-/

namespace DebugBridge

/-- The event is an outcome for an activity with one of these numbers. -/
def SessionEvent.isOutcomeWithin (first last : Nat) : SessionEvent → Bool
  | .outcome id _ => first ≤ id && id < last
  | _ => false

namespace Session

/-- The responses that a run sends at outcomes for the activities with these numbers. -/
def repliesWithin (first last : Nat) : List (Nat × SessionEvent) → Session → List Reply
  | [], _ => []
  | (now, event) :: events, session =>
    (if event.isOutcomeWithin first last then repliesIn (step now event session).2 else []) ++
      repliesWithin first last events (step now event session).1

/-! ## Events of a run that an activity waits for -/

section Waiting

variable {α : Type}

end Waiting

section Step

variable {id now : Nat} {session : Session} {event : SessionEvent}

theorem repliesIn_step (session : Session) (now : Nat) (event : SessionEvent) :
    repliesIn (step now event session).2 = (session.notices event).filterMap Notice.reply? := by
  rw [repliesIn_eq, noticesIn_step]

/-- At an outcome, the activity that it is for decides on the responses. -/
theorem repliesIn_step_outcome {activity : Activity}
    (hactivity : session.activity? id = some activity) (now : Nat) (outcome : Outcome) :
    repliesIn (step now (.outcome id outcome) session).2 =
      (session.outcomeNotices (.outcome id outcome) outcome activity).filterMap Notice.reply? := by
  rw [repliesIn_step]
  simp only [notices, hactivity]

theorem repliesIn_step_of_absent (hnone : session.activity? id = none) (now : Nat)
    (outcome : Outcome) : repliesIn (step now (.outcome id outcome) session).2 = [] := by
  rw [repliesIn_step]
  simp only [notices, hnone]
  rfl

/-- Whatever a step answers for a range of activities, one of them answers it at its outcome. -/
theorem repliesIn_step_within (first last : Nat) (session : Session) (now : Nat)
    (event : SessionEvent) :
    (if event.isOutcomeWithin first last then repliesIn (step now event session).2 else []) = [] ∨
      ∃ id outcome activity, event = .outcome id outcome ∧ first ≤ id ∧ id < last ∧
        session.activity? id = some activity ∧
        (if event.isOutcomeWithin first last then repliesIn (step now event session).2 else []) =
          (session.outcomeNotices event outcome activity).filterMap Notice.reply? := by
  cases event with
  | outcome id outcome =>
      cases hwithin : SessionEvent.isOutcomeWithin first last (.outcome id outcome) with
      | false => exact .inl rfl
      | true =>
          rw [if_pos rfl]
          obtain ⟨hfrom, hto⟩ : first ≤ id ∧ id < last := by
            simpa [SessionEvent.isOutcomeWithin] using hwithin
          cases hactivity : session.activity? id with
          | none => exact .inl (repliesIn_step_of_absent hactivity now outcome)
          | some activity =>
              exact .inr ⟨id, outcome, activity, rfl, hfrom, hto, hactivity,
                repliesIn_step_outcome hactivity now outcome⟩
  | request request => exact .inl rfl
  | shutdown => exact .inl rfl
  | release => exact .inl rfl
  | wake id => exact .inl rfl

/-- What the react of the session leaves, the step leaves, but for the poller. -/
theorem activity?_step_of_react (hwf : WellFormed session) {activity : Activity}
    (hreacted : (react now event session).1.activity? id = some activity)
    (hpolling : activity.role ≠ .polling) :
    (step now event session).1.activity? id = some activity := by
  have htable := ((reaction_react hwf now event).wellFormed hwf).table
  rcases (reaped_reap htable).activity? id with hsame | ⟨-, stage, hpoll⟩
  · exact hsame.trans hreacted
  · rw [hreacted, Option.some.injEq] at hpoll
    exact absurd (Activity.role_eq_polling_iff.mpr ⟨stage, hpoll⟩) hpolling

end Step

/-! ## Waiting -/

section Waits

variable {α : Type} {id now : Nat} {session : Session} {activity : Activity}
  {event : SessionEvent}

end Waits

/-! ## Commands -/

section Commands

variable {id : Nat} {session : Session} {request : Request}

end Commands

end Session

end DebugBridge
