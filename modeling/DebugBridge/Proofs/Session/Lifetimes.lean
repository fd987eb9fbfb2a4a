import DebugBridge.Proofs.Session.Courses
import DebugBridge.Proofs.Session.Pollers
import DebugBridge.Proofs.Session.Shutdown

/-!
# Lifetimes of attaches

What attaches is there until its command is answered or the session is shut down.  From the launch
on, therefore, something attaches or the first result is known, unless there was a shutdown.
-/

namespace DebugBridge.Session

section Attaches

variable {id now : Nat} {session : Session} {event : SessionEvent}

theorem attaches_eq_true_iff :
    session.attaches id = true ↔ ∃ thread stage, session.activity? id = some (.attach thread stage)
    := by
  unfold attaches
  cases session.activity? id with
  | none => simp
  | some activity => cases activity <;> simp

theorem attaches_of_duty {activity : Activity} {thread : Int}
    (hactivity : session.activity? id = some activity) (hduty : activity.duty = .attach thread) :
    session.attaches id = true := by
  obtain ⟨stage, rfl⟩ := Activity.attach_of_duty hduty
  exact attaches_eq_true_iff.mpr ⟨thread, stage, hactivity⟩

theorem nothingAttaches_iff : NothingAttaches session ↔ ∀ id, session.attaches id = false := by
  constructor
  · intro hnothing id
    rw [Bool.eq_false_iff, ne_eq, attaches_eq_true_iff]
    rintro ⟨thread, stage, hactivity⟩
    exact hnothing id _ thread hactivity rfl
  · intro hnone id activity thread hactivity hduty
    have hattaches := attaches_of_duty hactivity hduty
    rw [hnone id] at hattaches
    cases hattaches

theorem nothingAttaches_of_isEmpty (hempty : session.activities.isEmpty = true) :
    NothingAttaches session := by
  intro id activity thread hactivity
  rw [activity?, List.isEmpty_iff.mp hempty] at hactivity
  cases hactivity

/-- What asks for its context goes on to ask or to wait. -/
theorem isSome_attachTick {thread : Int} {activity : Activity}
    (hactivity : session.activity? id = some activity)
    (hget : ∃ context, session.contexts.get? thread = some context) (timer : Timer) (now : Nat) :
    ((attachTick id thread timer now session).1.activity? id).isSome = true := by
  obtain ⟨context, hget⟩ := hget
  unfold attachTick
  split
  · rw [hget]
    exact isSome_activity?_put hactivity _
  · exact isSome_activity?_put hactivity _

/-- As long as nothing is attached to, an answer leaves the activity there. -/
theorem isSome_attachInfo {thread : Int} {timer : Timer} {suffix : String} {outcome : Outcome}
    (hactivity : session.activity? id = some (.attach thread (.asking timer suffix)))
    (hget : ∃ context, session.contexts.get? thread = some context)
    (hlaunched : session.launched.isSome = true)
    (hnone : session.attachment? (.outcome id outcome) = none) (now : Nat) :
    ((attachInfo id thread timer now (BackendClient.info suffix outcome) session).1.activity?
      id).isSome = true := by
  rcases attachInfo_cases hactivity outcome now with
    ⟨info, launched, -, hsome, -⟩ | ⟨-, ⟨hfree, -⟩ | ⟨level, message, fields, hturn⟩⟩
  · rw [hnone] at hsome
    cases hsome
  · rw [hfree] at hlaunched
    cases hlaunched
  · rw [hturn]
    exact isSome_attachTick hactivity hget timer now

/-- An event leaves an attach there unless it attaches to its context, brings the result of that or
shuts the session down. -/
theorem isSome_react_of_attach (hwf : WellFormed session)
    (hlaunched : session.launched.isSome = true) {thread : Int} {stage : AttachStage}
    (hactivity : session.activity? id = some (.attach thread stage))
    (hunattached : ∀ attachment, session.attachment? event = some attachment →
      attachment.activity ≠ id) (hresult : session.attachResult? event = none)
    (hopen : (react now event session).1.isShutDown = false) :
    ((react now event session).1.activity? id).isSome = true := by
  have hstill : (session.activity? id).isSome = true := Option.isSome_of_eq_some hactivity
  have hknown : (Activity.attach thread stage).role = .attaching thread →
      ∃ context, session.contexts.get? thread = some context := fun hrole =>
    Contexts.exists_get?_of_mem_threads (hwf.known id _ thread hactivity hrole)
  by_cases hfor : event.IsFor id
  · rcases hfor with rfl | ⟨outcome, rfl⟩
    · simp only [react, withActivity, hactivity]
      cases stage with
      | starting => exact isSome_attachTick hactivity (hknown rfl) _ now
      | waiting timer => exact isSome_attachTick hactivity (hknown rfl) timer now
      | asking timer suffix => exact hstill
      | resuming name suffix mode => exact hstill
    · simp only [react, withActivity, hactivity]
      cases stage with
      | starting => exact hstill
      | waiting timer => exact hstill
      | asking timer suffix =>
          refine isSome_attachInfo hactivity (hknown rfl) hlaunched ?_ now
          cases hattachment : session.attachment? (.outcome id outcome) with
          | none => rfl
          | some attachment =>
              obtain ⟨other, -, -, hevent, -⟩ := attachment?_eq_some hattachment
              cases hevent
              exact absurd rfl (hunattached attachment hattachment)
      | resuming name suffix mode => simp [attachResult?, hactivity] at hresult
  · have hreaction := reaction_react hwf now event
    rcases hreaction.still_or_ended hwf hactivity (fun hmine => absurd hmine hfor) with
      hsame | ⟨mover, moved, hstage, hmove⟩ | ⟨-, hshut, -⟩
    · exact Option.isSome_of_eq_some hsame
    · rw [(hmove.frame hwf.table hwf.syncs hstage).others id
        (syncStage?_eq_none_of_role hactivity (by cases stage <;> simp [Activity.role]))]
      exact hstill
    · rw [hopen] at hshut
      cases hshut

theorem role_ne_polling_of_attach {activity : Activity} {thread : Int}
    (hduty : activity.duty = .attach thread) : activity.role ≠ .polling := by
  intro hrole
  obtain ⟨stage, rfl⟩ := Activity.role_eq_polling_iff.mp hrole
  cases hduty

/-- What attaches goes on to do so unless its result is there or the session is shut down. -/
theorem attaches_step (hwf : WellFormed session) (hlaunched : session.launched.isSome = true)
    (hattaches : session.attaches id = true) (hresult : session.attachResult? event = none)
    (hopen : (step now event session).1.isShutDown = false) :
    (step now event session).1.attaches id = true := by
  obtain ⟨thread, stage, hactivity⟩ := attaches_eq_true_iff.mp hattaches
  have hpresent : ((step now event session).1.activity? id).isSome = true := by
    by_cases hmine : ∃ attachment, session.attachment? event = some attachment ∧
        attachment.activity = id
    · obtain ⟨attachment, hattachment, rfl⟩ := hmine
      have hcommand := isCommand_of_begunCommand? hwf (begunCommand?_of_attachment hattachment) now
      obtain ⟨after, hafter, -⟩ := isCommand_eq_true_iff.mp hcommand
      exact Option.isSome_of_eq_some hafter
    · have hreacted : (react now event session).1.isShutDown = false := by
        rw [step, Turn.andThen_fst, isShutDown_reap] at hopen
        exact hopen
      obtain ⟨after, hafter⟩ := Option.isSome_iff_exists.mp (isSome_react_of_attach hwf hlaunched
        hactivity (fun attachment hattachment hid => hmine ⟨attachment, hattachment, hid⟩) hresult
        hreacted)
      have hduty := bears_react hwf hactivity now event after hafter
      exact Option.isSome_of_eq_some (activity?_step_of_react hwf hafter
        (role_ne_polling_of_attach hduty))
  obtain ⟨after, hafter⟩ := Option.isSome_iff_exists.mp hpresent
  exact attaches_of_duty hafter (bears_step hwf hactivity now event after hafter)

/-- An accepted launch attaches, unless the session is shut down. -/
theorem attaches_of_launch (hwf : WellFormed session) {request : Request}
    {arguments : LaunchArguments} {serverPath : String}
    (herrand : session.errand? request = some (.launch arguments serverPath))
    (hopen : session.isShutDown = false) {first : Int} {rest : List Int}
    (hthreads : session.contexts.threads = first :: rest) (now : Nat) :
    (step now (.request request) session).1.attaches session.nextActivity = true := by
  obtain ⟨context, others, hcontexts, -, -⟩ := List.map_eq_cons_iff.mp hthreads
  have hreacted : (react now (.request request) session).1.activity? session.nextActivity =
      some (.attach context.thread .starting) := by
    rw [(grows_react hwf now (.request request)).activity? _ (Nat.le_refl _), Nat.sub_self]
    simp [newcomers, herrand, bearers, hopen, hcontexts]
  exact attaches_eq_true_iff.mpr
    ⟨_, _, activity?_step_of_react hwf hreacted (role_ne_polling_of_attach rfl)⟩

end Attaches

/-- From the launch on, as long as there is no shutdown, something attaches or a first result is
known. -/
theorem attaches_or_result_run (config : BackendConfig) (events : List (Nat × SessionEvent))
    (hlaunched : (run events (ofConfig config)).1.launched.isSome = true)
    (hopen : (run events (ofConfig config)).1.isShutDown = false) :
    (∃ id, (run events (ofConfig config)).1.attaches id = true) ∨
      attachResults events (ofConfig config) ≠ [] := by
  induction events using List.reverseRecOn with
  | nil => cases hlaunched
  | append_singleton events entry ih =>
      obtain ⟨now, event⟩ := entry
      rw [run_snoc] at hlaunched hopen ⊢
      have hwf := wellFormed_run (WellFormed.ofConfig config) events
      have hbefore := isShutDown_run hwf [(now, event)] hopen
      rw [attachResults, journal_snoc, ne_eq, List.append_eq_nil_iff, not_and_or]
      by_cases hsome : (run events (ofConfig config)).1.launched.isSome = true
      · rcases ih hsome hbefore with ⟨id, hattaches⟩ | hresults
        · cases hresult : (run events (ofConfig config)).1.attachResult? event with
          | none => exact .inl ⟨id, attaches_step hwf hsome hattaches hresult hopen⟩
          | some success => exact .inr (.inr (by simp))
        · exact .inr (.inl hresults)
      · -- The launch comes with this step, if at all.
        rcases launched_step_cases (run events (ofConfig config)).1 now event with
          ⟨request, arguments, serverPath, rfl, herrand, -⟩ | ⟨-, hafter⟩ | ⟨-, hafter⟩
        · have hthreads := threads_run (WellFormed.ofConfig config) events
          obtain ⟨rest, hfirst⟩ := threads_ofConfig config
          exact .inl ⟨_, attaches_of_launch hwf herrand hbefore (hthreads.trans hfirst) now⟩
        · rw [hafter, Option.isSome_map] at hlaunched
          exact absurd hlaunched hsome
        · rw [hafter] at hlaunched
          exact absurd hlaunched hsome

/-- A launch with no more than it has to have. -/
def plainLaunch : Request :=
  { command := "launch", arguments := .ofMembers [("serverpath", .string "/srv")] }

end DebugBridge.Session
