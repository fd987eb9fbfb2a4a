import DebugBridge.Proofs.Session.Journal
import DebugBridge.Proofs.Session.ModeCalls

/-!
# Attaching

An activity that attaches asks for its context until the resource has started, then waits for the
one command that follows, and ends.  Over a run each context is attached to at most once.
-/

namespace DebugBridge.Session

section Stages

variable {id : Nat} {session : Session} {event : SessionEvent}

/-- The reply that attaches a context. -/
theorem attachment?_eq_some {attachment : Attachment}
    (hattachment : session.attachment? event = some attachment) :
    ∃ outcome timer suffix, event = .outcome attachment.activity outcome ∧
      session.activity? attachment.activity =
        some (.attach attachment.thread (.asking timer suffix)) ∧
      session.launched = some attachment.launched ∧
      BackendClient.info suffix outcome = .ok attachment.info ∧
      attachment.info.hasStarted = true := by
  cases event with
  | outcome mover outcome =>
      simp only [attachment?] at hattachment
      split at hattachment
      · next thread timer suffix launched hactivity hlaunched =>
          split at hattachment
          · next info hreply =>
              split at hattachment
              · next hstarted =>
                  cases hattachment
                  exact ⟨outcome, timer, suffix, rfl, hactivity, hlaunched, hreply, hstarted⟩
              · cases hattachment
          · cases hattachment
      · cases hattachment
  | request request => cases hattachment
  | shutdown => cases hattachment
  | release => cases hattachment
  | wake mover => cases hattachment

/-- What is there after a step was there after the reaction. -/
theorem activity?_react_of_step (hwf : WellFormed session) {now : Nat} {activity : Activity}
    (hactivity : (step now event session).1.activity? id = some activity) :
    (react now event session).1.activity? id = some activity := by
  rcases (undisturbed_reap ((reaction_react hwf now event).wellFormed hwf).table id).activity? with
    hsame | hgone
  · exact hsame.symm.trans hactivity
  · exact absurd (hgone.symm.trans hactivity) (by simp)

/-- An event for someone else leaves an activity as it is, or ends it. -/
theorem kept_of_other (hwf : WellFormed session) {activity after : Activity}
    (hactivity : session.activity? id = some activity) (hsyncing : activity.role ≠ .syncing)
    (hother : ¬ event.IsFor id) {now : Nat}
    (hafter : (step now event session).1.activity? id = some after) : after = activity := by
  have hundisturbed := @undisturbed_step id session event hwf (hwf.table.lt_of_activity? hactivity)
    (syncStage?_eq_none_of_role hactivity hsyncing) (fun hmine => absurd hmine hother) now
  rcases hundisturbed.activity? with hsame | hgone
  · rw [hsame, hactivity, Option.some.injEq] at hafter
    exact hafter.symm
  · exact absurd (hgone.symm.trans hafter) (by simp)

/-- As long as nothing is attached to, asking goes on. -/
theorem attaching_attachInfo (hwf : WellFormed session) {thread : Int} {timer : Timer}
    {suffix : String} {outcome : Outcome}
    (hactivity : session.activity? id = some (.attach thread (.asking timer suffix)))
    (hnone : session.attachment? (.outcome id outcome) = none) (now : Nat) :
    Leaves id (fun next => next.role = .attaching thread)
      (attachInfo id thread timer now (BackendClient.info suffix outcome) session).1 := by
  rcases attachInfo_cases hactivity outcome now with
    ⟨info, launched, -, hsome, -⟩ | ⟨-, ⟨-, hturn⟩ | ⟨level, message, fields, hturn⟩⟩
  · rw [hnone] at hsome
    cases hsome
  · rw [hturn]
    exact leaves_finish session
  · rw [hturn]
    exact (local_attachTick ((silent_log level message fields session).table hwf.table) thread timer
      now).own

/-- An activity that asks for its context goes on asking until it attaches. -/
theorem role_of_asking (hwf : WellFormed session) {thread : Int} {activity : Activity}
    (hactivity : session.activity? id = some activity) (hrole : activity.role = .attaching thread)
    (hnone : session.attachment? event = none) {now : Nat} {after : Activity}
    (hafter : (step now event session).1.activity? id = some after) :
    after.role = .attaching thread := by
  have hfound := activity?_react_of_step hwf hafter
  have hsame : Leaves id (fun next => next.role = .attaching thread) session :=
    leaves_same hactivity hrole
  by_cases hfor : event.IsFor id
  · cases activity with
    | attach other stage =>
        rcases hfor with rfl | ⟨outcome, rfl⟩
        · simp only [react, withActivity, hactivity] at hfound
          cases stage with
          | starting =>
              cases hrole
              exact (local_attachTick hwf.table thread _ now).own after hfound
          | waiting timer =>
              cases hrole
              exact (local_attachTick hwf.table thread timer now).own after hfound
          | asking timer suffix => exact hsame after hfound
          | resuming name suffix mode => cases hrole
        · simp only [react, withActivity, hactivity] at hfound
          cases stage with
          | starting => exact hsame after hfound
          | waiting timer => exact hsame after hfound
          | asking timer suffix =>
              cases hrole
              exact attaching_attachInfo hwf hactivity hnone now after hfound
          | resuming name suffix mode => cases hrole
    | poll stage => cases hrole
    | sync stage => cases hrole
    | resume request other suffix mode stage => cases hrole
    | evaluate request expression stage => cases hrole
    | restart request resource stage => cases hrole
  · exact kept_of_other hwf hactivity (by simp [hrole]) hfor hafter ▸ hrole

theorem commanding_resumeAttached (session : Session) (thread : Int) (mode : ResumeMode) :
    Leaves id (fun next => next.role = .commanding thread)
      (resumeAttached id thread mode session).1 := by
  unfold resumeAttached
  split
  · exact leaves_finish session
  · exact leaves_put _ rfl

/-- Whoever has attached to a context asks for it no longer. -/
theorem role_of_attachment (hwf : WellFormed session) {attachment : Attachment}
    (hattachment : session.attachment? event = some attachment) {now : Nat} {after : Activity}
    (hafter : (step now event session).1.activity? attachment.activity = some after) :
    after.role = .commanding attachment.thread := by
  obtain ⟨outcome, timer, suffix, rfl, hactivity, hlaunched, hreply, hstarted⟩ :=
    attachment?_eq_some hattachment
  have hfound := activity?_react_of_step hwf hafter
  simp only [react, withActivity, hactivity, outcomeActivity, attachInfo, hreply, hstarted, if_true,
    attach, hlaunched, Turn.all_cons, Turn.all_nil, Turn.andThen_idle, Turn.andThen_fst] at hfound
  exact commanding_resumeAttached _ attachment.thread _ after hfound

/-- A command that follows an attach waits for its answer. -/
theorem kept_of_resuming (hwf : WellFormed session) {thread : Int} {name suffix : String}
    {mode : ResumeMode}
    (hactivity : session.activity? id = some (.attach thread (.resuming name suffix mode)))
    {now : Nat} {after : Activity}
    (hafter : (step now event session).1.activity? id = some after) :
    after = .attach thread (.resuming name suffix mode) := by
  have hfound := activity?_react_of_step hwf hafter
  by_cases hfor : event.IsFor id
  · rcases hfor with rfl | ⟨outcome, rfl⟩
    · simp only [react, withActivity, hactivity] at hfound
      exact (Option.some.inj (hactivity.symm.trans hfound)).symm
    · simp only [react, withActivity, hactivity] at hfound
      have hgone : Leaves id (fun _ => False) (outcomeActivity now id outcome
          (.attach thread (.resuming name suffix mode)) session).1 := leaves_finish _
      exact (hgone after hfound).elim
  · exact kept_of_other hwf hactivity (by simp [Activity.role]) hfor hafter

/-- What waits for its command after a step did so before, or has just been attached. -/
theorem resuming_of_step (hwf : WellFormed session) {thread : Int} {name suffix : String}
    {mode : ResumeMode} {now : Nat}
    (hafter : (step now event session).1.activity? id =
      some (.attach thread (.resuming name suffix mode))) :
    session.activity? id = some (.attach thread (.resuming name suffix mode)) ∨
      (session.attachment? event).isSome = true := by
  cases hattachment : session.attachment? event with
  | some attachment => exact .inr rfl
  | none =>
      left
      by_cases hbelow : id < session.nextActivity
      · obtain ⟨before, hbefore, hduty⟩ := duty_of_step hwf hbelow hafter
        obtain ⟨stage, rfl⟩ := Activity.attach_of_duty hduty
        cases stage with
        | resuming first second third => rw [hbefore, kept_of_resuming hwf hbefore hafter]
        | starting => cases role_of_asking hwf hbefore rfl hattachment hafter
        | waiting timer => cases role_of_asking hwf hbefore rfl hattachment hafter
        | asking timer suffix => cases role_of_asking hwf hbefore rfl hattachment hafter
      · obtain ⟨-, -, -, -, -, hnew, -⟩ := launch_of_newcomer (List.mem_of_getElem?
          (newcomer_of_step hwf (Nat.le_of_not_lt hbelow) hafter)) rfl
        cases hnew

/-- What still asks for its context after a step did so before, or has just been launched. -/
theorem attaching_of_step (hwf : WellFormed session) {thread : Int} {now : Nat}
    {after : Activity} (hafter : (step now event session).1.activity? id = some after)
    (hrole : after.role = .attaching thread) :
    (∃ before, session.activity? id = some before ∧ before.role = .attaching thread) ∨
      session.nextActivity ≤ id ∧ after ∈ session.newcomers event := by
  by_cases hbelow : id < session.nextActivity
  · left
    obtain ⟨before, hbefore, hduty⟩ := duty_of_step hwf hbelow hafter
    refine ⟨before, hbefore, ?_⟩
    rw [Activity.duty_of_attaching hrole] at hduty
    obtain ⟨stage, rfl⟩ := Activity.attach_of_duty hduty
    cases stage with
    | resuming name suffix mode =>
        rw [kept_of_resuming hwf hbefore hafter] at hrole
        cases hrole
    | starting => rfl
    | waiting timer => rfl
    | asking timer suffix => rfl
  · right
    have hid := Nat.le_of_not_lt hbelow
    exact ⟨hid, List.mem_of_getElem? (newcomer_of_step hwf hid hafter)⟩

end Stages

/-! ## Attachments -/

/-- The contexts that a run attaches to, in order. -/
def attachments : List (Nat × SessionEvent) → Session → List Attachment :=
  journal fun session _ event => (session.attachment? event).toList

theorem attachments_append (first second : List (Nat × SessionEvent)) (session : Session) :
    attachments (first ++ second) session =
      attachments first session ++ attachments second (run first session).1 :=
  journal_append first second session

/-- What has been attached, and what may still be. -/
structure AttachLedger (attached : List Attachment) (session : Session) : Prop where
  once : (attached.map (·.thread)).Nodup
  /-- What still asks for its context has not attached to it. -/
  asking : ∀ id activity thread, session.activity? id = some activity →
    activity.role = .attaching thread → thread ∉ attached.map (·.thread)
  /-- No two activities are there to attach to the same context. -/
  single : ∀ id other activity next thread, session.activity? id = some activity →
    activity.duty = .attach thread → session.activity? other = some next →
    next.duty = .attach thread → id = other
  /-- Before the launch there is nothing to attach. -/
  launched : session.launched = none → attached = [] ∧
    ∀ id activity thread, session.activity? id = some activity → activity.duty ≠ .attach thread

section Ledger

variable {session : Session} {attached : List Attachment}

theorem isSome_launched_step (hlaunched : session.launched.isSome = true) (now : Nat)
    (event : SessionEvent) : (step now event session).1.launched.isSome = true := by
  rcases launched_step_cases session now event with ⟨request, arguments, serverPath, -, -, hafter⟩ |
    ⟨-, hafter⟩ | ⟨-, hafter⟩
  · rw [hafter]
    rfl
  · rw [hafter, Option.isSome_map, hlaunched]
  · rw [hafter, hlaunched]

theorem isSome_launched_run (hlaunched : session.launched.isSome = true)
    (events : List (Nat × SessionEvent)) : (run events session).1.launched.isSome = true := by
  induction events generalizing session with
  | nil => exact hlaunched
  | cons entry events ih => exact ih (isSome_launched_step hlaunched entry.1 entry.2)

/-- Where something is attached to, the launch was before, and it was not attached to yet. -/
theorem AttachLedger.fresh (hledger : AttachLedger attached session) {event : SessionEvent}
    {attachment : Attachment} (hattachment : session.attachment? event = some attachment) :
    session.launched.isSome = true ∧ attachment.thread ∉ attached.map (·.thread) := by
  obtain ⟨outcome, timer, suffix, -, hactivity, hlaunched, -, -⟩ :=
    attachment?_eq_some hattachment
  exact ⟨Option.isSome_of_eq_some hlaunched, hledger.asking _ _ _ hactivity rfl⟩

theorem AttachLedger.nil_of_unlaunched (hledger : AttachLedger attached session)
    (hnone : session.launched = none) (event : SessionEvent) :
    attached ++ (session.attachment? event).toList = [] := by
  cases hattachment : session.attachment? event with
  | none =>
      rw [(hledger.launched hnone).1]
      rfl
  | some attachment =>
      have hsome := (hledger.fresh hattachment).1
      rw [hnone] at hsome
      cases hsome

/-- What still asks for its context has not attached: it would wait for its command instead. -/
theorem AttachLedger.asking_step (hledger : AttachLedger attached session)
    (hwf : WellFormed session) {now id : Nat} {event : SessionEvent} {activity : Activity}
    {thread : Int} (hactivity : (step now event session).1.activity? id = some activity)
    (hrole : activity.role = .attaching thread) :
    thread ∉ (attached ++ (session.attachment? event).toList).map (·.thread) := by
  rcases attaching_of_step hwf hactivity hrole with ⟨before, hbefore, hsame⟩ | ⟨hid, hnew⟩
  · rw [List.map_append, List.mem_append, not_or]
    refine ⟨hledger.asking id before thread hbefore hsame, ?_⟩
    cases hattachment : session.attachment? event with
    | none => simp
    | some attachment =>
        simp only [Option.toList_some, List.map_cons, List.map_nil, List.mem_singleton]
        rintro rfl
        obtain ⟨outcome, timer, suffix, -, hasking, -⟩ := attachment?_eq_some hattachment
        have hsameId := hledger.single _ _ _ _ _ hbefore (Activity.duty_of_attaching hsame)
          hasking rfl
        subst hsameId
        rw [role_of_attachment hwf hattachment hactivity] at hrole
        cases hrole
  · obtain ⟨request, arguments, serverPath, rfl, herrand, -, -⟩ :=
      launch_of_newcomer hnew (Activity.duty_of_attaching hrole)
    rw [hledger.nil_of_unlaunched (launch_of_errand herrand).2.1]
    simp

/-- A launch starts one activity for each context, and nothing was there for one before. -/
theorem AttachLedger.single_step (hledger : AttachLedger attached session)
    (hwf : WellFormed session) {now id other : Nat} {event : SessionEvent}
    {activity next : Activity} {thread : Int}
    (hactivity : (step now event session).1.activity? id = some activity)
    (hduty : activity.duty = .attach thread)
    (hnext : (step now event session).1.activity? other = some next)
    (hnextDuty : next.duty = .attach thread) : id = other := by
  rcases attach_of_step hwf hactivity hduty with ⟨before, hbefore, hsame⟩ |
      ⟨hid, hnone, -, hposition⟩
  · rcases attach_of_step hwf hnext hnextDuty with ⟨nextBefore, hnextBefore, hnextSame⟩ |
        ⟨-, hnone, -, -⟩
    · exact hledger.single id other before nextBefore thread hbefore hsame hnextBefore hnextSame
    · exact absurd hsame ((hledger.launched hnone).2 id before thread hbefore)
  · rcases attach_of_step hwf hnext hnextDuty with ⟨nextBefore, hnextBefore, hnextSame⟩ |
        ⟨hother, -, -, hnextPosition⟩
    · exact absurd hnextSame ((hledger.launched hnone).2 other nextBefore thread hnextBefore)
    · have hlt := (List.getElem?_eq_some_iff.mp hposition).1
      have hsame := (List.getElem?_inj hlt hwf.threads).mp (hposition.trans hnextPosition.symm)
      omega

theorem AttachLedger.step (hledger : AttachLedger attached session) (hwf : WellFormed session)
    (now : Nat) (event : SessionEvent) :
    AttachLedger (attached ++ (session.attachment? event).toList)
      (step now event session).1 := by
  constructor
  · cases hattachment : session.attachment? event with
    | none => simpa using hledger.once
    | some attachment =>
        simp only [Option.toList_some, List.map_append, List.map_cons, List.map_nil]
        rw [List.nodup_append_comm, List.singleton_append, List.nodup_cons]
        exact ⟨(hledger.fresh hattachment).2, hledger.once⟩
  · intro id activity thread hactivity hrole
    exact hledger.asking_step hwf hactivity hrole
  · intro id other activity next thread hactivity hduty hnext hnextDuty
    exact hledger.single_step hwf hactivity hduty hnext hnextDuty
  · intro hafter
    have hnone : session.launched = none := by
      by_contra hsome
      have hkept := isSome_launched_step (Option.isSome_iff_ne_none.mpr hsome) now event
      rw [hafter] at hkept
      cases hkept
    refine ⟨hledger.nil_of_unlaunched hnone event, fun id activity thread hactivity hduty => ?_⟩
    rcases attach_of_step hwf hactivity hduty with ⟨before, hbefore, hsame⟩ | ⟨-, -, hsome, -⟩
    · exact (hledger.launched hnone).2 id before thread hbefore hsame
    · exact hsome hafter

/-- The ledger at the end of any run. -/
theorem attachLedger_run (config : BackendConfig) (events : List (Nat × SessionEvent)) :
    AttachLedger (attachments events (ofConfig config)) (run events (ofConfig config)).1 := by
  induction events using List.reverseRecOn with
  | nil =>
      have hnone : ∀ id, (ofConfig config).activity? id = none := fun id => rfl
      constructor
      · exact List.nodup_nil
      · intro id activity thread hactivity
        cases (hnone id).symm.trans hactivity
      · intro id other activity next thread hactivity
        cases (hnone id).symm.trans hactivity
      · refine fun _ => ⟨rfl, fun id activity thread hactivity => ?_⟩
        cases (hnone id).symm.trans hactivity
  | append_singleton events entry ih =>
      rw [run_snoc, attachments, journal_snoc]
      exact ih.step (wellFormed_run (WellFormed.ofConfig config) events) entry.1 entry.2

end Ledger

end DebugBridge.Session
