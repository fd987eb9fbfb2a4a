import DebugBridge.Proofs.Session.Courses
import DebugBridge.Proofs.Session.Origins

/-!
# Requests and their responses

Every request that is handled is answered at once, when the backend has done its errand, or, of a
launch and of an evaluation without a result, not at all; and no response is sent that does not
answer a request in one of these ways.  Responses to an errand come with outcomes for the
activities that the request started, and are counted by their numbers.
-/

namespace DebugBridge

namespace Session

/-! ## Accounts -/

section Start

variable {session : Session} {request : Request}

/-- An errand leaves its request unanswered for now. -/
theorem repliesIn_step_errand {errand : Errand} (herrand : session.errand? request = some errand)
    (now : Nat) : repliesIn (step now (.request request) session).2 = [] := by
  rw [repliesIn_step]
  simp only [notices, herrand, Option.isSome_some, if_true, List.nil_append]
  split <;> rfl

end Start

/-! ## Requests without an errand, and launches -/

section Rest

variable {first last : Nat} {session : Session} {request : Request}

/-- The activities that there are keep their duties. -/
theorem duties_step (duties : Duty → Prop) (hwf : WellFormed session)
    (hlast : last ≤ session.nextActivity)
    (hduties : ∀ id activity, first ≤ id → id < last → session.activity? id = some activity →
      duties activity.duty)
    (now : Nat) (event : SessionEvent) (id : Nat) (activity : Activity) (hfrom : first ≤ id)
    (hto : id < last) (hafter : (step now event session).1.activity? id = some activity) :
    duties activity.duty := by
  obtain ⟨before, hbefore, hduty⟩ := duty_of_step hwf (Nat.lt_of_lt_of_le hto hlast) hafter
  exact hduty ▸ hduties id before hfrom hto hbefore

/-- Nothing is answered by activities that stay silent. -/
theorem repliesWithin_eq_nil (silent : Duty → Prop)
    (hsilent : ∀ (base : Session) event outcome activity, silent activity.duty →
      (base.outcomeNotices event outcome activity).filterMap Notice.reply? = [])
    (hwf : WellFormed session) (hlast : last ≤ session.nextActivity)
    (hduties : ∀ id activity, first ≤ id → id < last → session.activity? id = some activity →
      silent activity.duty)
    (events : List (Nat × SessionEvent)) : repliesWithin first last events session = [] := by
  induction events generalizing session with
  | nil => rfl
  | cons entry events ih =>
      obtain ⟨now, event⟩ := entry
      rw [repliesWithin, ih (wellFormed_step hwf now event)
        (Nat.le_trans hlast (nextActivity_le_step hwf now event))
        (duties_step silent hwf hlast hduties now event), List.append_nil]
      rcases repliesIn_step_within first last session now event with
        hnone | ⟨id, outcome, activity, -, hfrom, hto, hactivity, hreplies⟩
      · exact hnone
      · rw [hreplies]
        exact hsilent _ _ _ activity (hduties id activity hfrom hto hactivity)

/-- A request without an errand starts at most a sync. -/
theorem duty_of_unentrusted (hwf : WellFormed session) (hnone : session.errand? request = none)
    (now id : Nat) (activity : Activity) (hfrom : session.nextActivity ≤ id)
    (hactivity : (step now (.request request) session).1.activity? id = some activity) :
    activity.duty = .sync := by
  have hnew := List.mem_of_getElem? (newcomer_of_step hwf hfrom hactivity)
  simp only [newcomers, hnone] at hnew
  rw [List.mem_singleton.mp (List.mem_ite_nil_right.mp hnew).2]
  rfl

theorem answered_at_once (hwf : WellFormed session) (hnone : session.errand? request = none)
    (now : Nat) (after : List (Nat × SessionEvent)) :
    repliesIn (step now (.request request) session).2 =
        [request.reply (session.accepts request)] ∧
      repliesWithin session.nextActivity (step now (.request request) session).1.nextActivity after
        (step now (.request request) session).1 = [] := by
  constructor
  · rw [repliesIn_step]
    by_cases hends : request.command ∈ endCommands <;> simp [notices, hnone, hends, Notice.reply?]
  · refine repliesWithin_eq_nil (· = .sync) ?_ (wellFormed_step hwf now _) (Nat.le_refl _)
      (fun id activity hfrom _ => duty_of_unentrusted hwf hnone now id activity hfrom) after
    intro base event outcome activity hduty
    cases activity with
    | sync stage => rfl
    | attach thread stage => cases hduty
    | poll stage => cases hduty
    | resume request thread suffix mode stage => cases hduty
    | evaluate request expression stage => cases hduty
    | restart request resource stage => cases hduty

/-- Of all that an attach does, only the outcome of its command answers the launch. -/
theorem replies_of_attach {thread : Int} (stage : AttachStage) (event : SessionEvent)
    (outcome : Outcome) :
    (session.outcomeNotices event outcome (.attach thread stage)).filterMap Notice.reply? = [] ∨
      ∃ name suffix mode, stage = .resuming name suffix mode ∧
        (session.outcomeNotices event outcome (.attach thread stage)).filterMap Notice.reply? =
          session.pendingLaunch?.toList.map fun request => request.reply
            (BackendClient.accepted (.setResumeMode suffix mode) outcome).isOk := by
  cases stage with
  | starting => exact .inl rfl
  | waiting timer => exact .inl rfl
  | asking timer suffix =>
      left
      simp only [outcomeNotices]
      split
      · split <;> rfl
      · rfl
  | resuming name suffix mode =>
      refine .inr ⟨name, suffix, mode, rfl, ?_⟩
      simp only [outcomeNotices]
      cases session.pendingLaunch? <;> rfl

/-- What a step answers for a range of attaches, it answers to the launch that waits, which is then
through. -/
theorem repliesIn_step_attaches (hattaches : ∀ id activity, first ≤ id → id < last →
      session.activity? id = some activity → ∃ thread, activity.duty = .attach thread)
    (now : Nat) (event : SessionEvent) :
    (if event.isOutcomeWithin first last then repliesIn (step now event session).2 else []) = [] ∨
      session.completesAttach event = true ∧ ∃ success,
        (if event.isOutcomeWithin first last then repliesIn (step now event session).2 else []) =
          session.pendingLaunch?.toList.map fun request => request.reply success := by
  rcases repliesIn_step_within first last session now event with
    hnone | ⟨id, outcome, activity, rfl, hfrom, hto, hactivity, hreplies⟩
  · exact .inl hnone
  · obtain ⟨thread, hduty⟩ := hattaches id activity hfrom hto hactivity
    obtain ⟨stage, rfl⟩ := Activity.attach_of_duty hduty
    rcases @replies_of_attach session thread stage (.outcome id outcome) outcome with
      hnone | ⟨name, suffix, mode, rfl, hanswer⟩
    · exact .inl (hreplies.trans hnone)
    · have hcompletes : session.completesAttach (.outcome id outcome) = true := by
        simp [completesAttach, hactivity]
      exact .inr ⟨hcompletes, _, hreplies.trans hanswer⟩

/-- Attaches answer a launch that waits for its response, the first one that is through, and
nothing else. -/
theorem repliesWithin_of_attaches (hwf : WellFormed session) (hlast : last ≤ session.nextActivity)
    (hattaches : ∀ id activity, first ≤ id → id < last → session.activity? id = some activity →
      ∃ thread, activity.duty = .attach thread)
    {launched : Launch} (hlaunched : session.launched = some launched)
    (events : List (Nat × SessionEvent)) :
    repliesWithin first last events session = [] ∨ ∃ request success,
      launched.pending = some request ∧
        repliesWithin first last events session = [request.reply success] := by
  induction events generalizing session launched with
  | nil => exact .inl rfl
  | cons entry events ih =>
      obtain ⟨now, event⟩ := entry
      have hafter := launched_step_of_launched hlaunched now event
      have hrest := ih (wellFormed_step hwf now event)
        (Nat.le_trans hlast (nextActivity_le_step hwf now event))
        (duties_step (∃ thread, · = .attach thread) hwf hlast hattaches now event) hafter
      -- The step that answers the launch leaves nothing to answer for the rest.
      have hthrough : session.completesAttach event = true →
          repliesWithin first last events (step now event session).1 = [] := by
        intro hcompletes
        rw [hcompletes, if_pos rfl] at hrest
        rcases hrest with hquiet | ⟨request, success, hpending, -⟩
        · exact hquiet
        · cases hpending
      rw [repliesWithin]
      rcases repliesIn_step_attaches hattaches now event with
        hnone | ⟨hcompletes, success, hanswer⟩
      · rw [hnone, List.nil_append]
        cases hcompletes : session.completesAttach event with
        | true => exact .inl (hthrough hcompletes)
        | false =>
            rw [hcompletes, if_neg Bool.false_ne_true] at hrest
            exact hrest
      · rw [hthrough hcompletes, List.append_nil, hanswer, pendingLaunch?, hlaunched,
          Option.bind_some]
        cases launched.pending with
        | none => exact .inl rfl
        | some request => exact .inr ⟨request, success, rfl, rfl⟩

/-- A launch starts nothing but attaches. -/
theorem duty_of_launched (hwf : WellFormed session) {arguments : LaunchArguments}
    {serverPath : String} (herrand : session.errand? request = some (.launch arguments serverPath))
    (now id : Nat) (activity : Activity) (hfrom : session.nextActivity ≤ id)
    (hactivity : (step now (.request request) session).1.activity? id = some activity) :
    ∃ thread, activity.duty = .attach thread := by
  have hnew := List.mem_of_getElem? (newcomer_of_step hwf hfrom hactivity)
  simp only [newcomers, herrand, bearers] at hnew
  split at hnew
  · cases hnew
  · obtain ⟨context, -, rfl⟩ := List.mem_map.mp hnew
    exact ⟨context.thread, rfl⟩

end Rest

/-! ## Every request -/

section Every

variable {session : Session} {request : Request} {event : SessionEvent}

/-- The commands of errands. -/
def errandCommands : List String :=
  ["launch", "restart", "continue", "next", "stepIn", "evaluate"]

/-- Every accepted request with such a command is an errand, and no other request is. -/
theorem errand?_eq_none_iff (session : Session) (request : Request) :
    session.errand? request = none ↔
      request.command ∉ errandCommands ∨ session.accepts request = false := by
  unfold accepts
  constructor
  · intro hnone
    by_cases hcommand : request.command ∈ errandCommands
    · right
      have hresume : ∀ mode, session.resumeErrand? mode request = none →
          (resume mode request session).isOk = false := by
        intro mode hfree
        rcases resume_eq mode request session with ⟨thread, context, hthread, hget, -⟩ |
          ⟨-, fault, hrefused⟩
        · simp [resumeErrand?, hthread, hget] at hfree
        · rw [hrefused]
          rfl
      simp only [errandCommands, List.mem_cons, List.not_mem_nil, or_false] at hcommand
      unfold errand? at hnone
      rcases hcommand with hcommand | hcommand | hcommand | hcommand | hcommand | hcommand <;>
        rw [hcommand] at hnone ⊢
      · rcases launch_eq request session with ⟨arguments, serverPath, -, -, hsome, -⟩ |
          ⟨-, fault, hrefused⟩
        · exact absurd (hsome.symm.trans hnone) (by simp)
        · simp only [handler, hrefused]
          rfl
      · rcases restart_eq request session with ⟨resource, hsome, -⟩ | ⟨-, fault, hrefused⟩
        · simp [errandFor, hsome] at hnone
        · simp only [handler, hrefused]
          rfl
      · exact hresume _ hnone
      · exact hresume _ hnone
      · exact hresume _ hnone
      · rcases evaluate_eq request session with ⟨expression, hsome, -⟩ | ⟨-, fault, hrefused⟩
        · exact absurd (hsome.symm.trans hnone) (by simp)
        · simp only [handler, hrefused]
          rfl
    · exact .inl hcommand
  · rintro (hcommand | hrefused)
    · simp only [errandCommands, List.mem_cons, List.not_mem_nil, or_false, not_or] at hcommand
      obtain ⟨hlaunch, hrestart, hcontinue, hnext, hstepIn, hevaluate⟩ := hcommand
      unfold errand? errandFor
      split <;> first | contradiction | rfl
    · cases hout : handler request.command request session with
      | ok out =>
          rw [hout] at hrefused
          cases hrefused
      | error fault => exact errandFor_eq_none_of_refused hout

/-! ## Every response -/

end Every

end Session

end DebugBridge
