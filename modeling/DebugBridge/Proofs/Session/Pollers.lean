import DebugBridge.Proofs.Session.Attaching
import DebugBridge.Proofs.Session.Polling

/-!
# The one poller

The first attach of a run starts a poller, and none is started ever after: a poller lasts as long as
anything is left to attach.
-/

namespace DebugBridge

/-- What attaches keeps the session, and does not outlast a shutdown. -/
theorem Activity.ends_of_attach {activity : Activity} {thread : Int}
    (hduty : activity.duty = .attach thread) :
    activity.endsAtShutdown = true ∧ activity.keepsSession = true := by
  obtain ⟨stage, rfl⟩ := Activity.attach_of_duty hduty
  exact ⟨rfl, rfl⟩

namespace Session

section Pollers

variable {id : Nat} {session : Session} {event : SessionEvent}

/-- Nothing is left that attaches. -/
def NothingAttaches (session : Session) : Prop :=
  ∀ id activity thread, session.activity? id = some activity → activity.duty ≠ .attach thread

/-- A new poller comes with an attach, where there is none. -/
theorem poller_of_newcomer {position : Nat} {newcomer : Activity}
    (hnew : (session.newcomers event)[position]? = some newcomer)
    (hrole : newcomer.role = .polling) :
    (∃ attachment, session.attachment? event = some attachment) ∧ session.hasPoller = false ∧
      position = 0 := by
  have hmem := List.mem_of_getElem? hnew
  cases event with
  | request request =>
      simp only [newcomers] at hmem
      split at hmem
      · next errand herrand =>
          cases errand with
          | launch arguments serverPath =>
              simp only [bearers] at hmem
              split at hmem
              · cases hmem
              · obtain ⟨context, -, rfl⟩ := List.mem_map.mp hmem
                cases hrole
          | resume thread suffix mode =>
              rw [List.mem_singleton.mp hmem] at hrole
              cases hrole
          | restart resource =>
              rw [List.mem_singleton.mp hmem] at hrole
              cases hrole
          | evaluate expression =>
              rw [List.mem_singleton.mp hmem] at hrole
              cases hrole
      · rw [List.mem_singleton.mp (List.mem_ite_nil_right.mp hmem).2] at hrole
        cases hrole
  | outcome mover outcome =>
      have hsome := (List.mem_ite_nil_right.mp hmem).1
      simp only [newcomers, hsome, if_true] at hnew
      exact ⟨Option.isSome_iff_exists.mp hsome, poller_of_attachPrelude hnew hrole⟩
  | shutdown => cases hmem
  | release => cases hmem
  | wake mover => cases hmem

/-- The first attach starts a poller. -/
theorem newcomers_of_attachment {attachment : Attachment}
    (hattachment : session.attachment? event = some attachment)
    (hnone : session.hasPoller = false) :
    (session.newcomers event)[0]? = some (.poll .starting) := by
  obtain ⟨outcome, -, -, rfl, -⟩ := attachment?_eq_some hattachment
  simp [newcomers, hattachment, hnone]

/-- Its own events leave the poller where it is. -/
theorem polls_react_own {stage : PollStage} (hactivity : session.activity? id = some (.poll stage))
    (hfor : event.IsFor id) (now : Nat) :
    ∃ stage, (react now event session).1.activity? id = some (.poll stage) := by
  rcases hfor with rfl | ⟨outcome, rfl⟩
  · simp only [react, withActivity, hactivity]
    cases stage with
    | starting => exact polls_pollTick hactivity _ now
    | waiting timer => exact polls_pollTick hactivity timer now
    | asking timer target others => exact ⟨_, hactivity⟩
  · simp only [react, withActivity, hactivity]
    cases stage with
    | starting => exact ⟨_, hactivity⟩
    | waiting timer => exact ⟨_, hactivity⟩
    | asking timer target others =>
        have hkept : (pollState target (BackendClient.runState target.suffix outcome)
            session).1.activity? id = some (.poll (.asking timer target others)) := by
          rw [activity?_congr (@activities_pollState id target _ session).1]
          exact hactivity
        exact (asks_pollNext hkept timer now others).1.polls

/-- An abandoned session has nothing left that attaches. -/
theorem polls_reap {stage : PollStage} (htable : TableOk session)
    (hactivity : session.activity? id = some (.poll stage)) :
    (reap session).1.activity? id = some (.poll stage) ∨ NothingAttaches (reap session).1 := by
  by_cases halive : session.isAlive = true
  · left
    rw [reap, if_pos halive]
    exact hactivity
  · right
    rw [reap, if_neg halive]
    intro other found thread hfound hduty
    rw [activity?_cancel htable, Option.filter_eq_some_iff] at hfound
    exact halive (Bool.or_eq_true_iff.mpr (.inr (List.any_eq_true.mpr
      ⟨(other, found), htable.mem_activities_iff.mpr hfound.1,
        (Activity.ends_of_attach hduty).2⟩)))

/-- A poller lasts as long as anything attaches. -/
theorem polls_step (hwf : WellFormed session) {stage : PollStage}
    (hactivity : session.activity? id = some (.poll stage)) (now : Nat) (event : SessionEvent) :
    (∃ stage, (step now event session).1.activity? id = some (.poll stage)) ∨
      NothingAttaches (step now event session).1 := by
  have hreaction := reaction_react hwf now event
  have htable := (hreaction.wellFormed hwf).table
  have hreacted : (∃ stage, (react now event session).1.activity? id = some (.poll stage)) ∨
      NothingAttaches (react now event session).1 := by
    by_cases hfor : event.IsFor id
    · exact .inl (polls_react_own hactivity hfor now)
    · rcases hreaction.still_or_ended hwf hactivity (fun hmine => absurd hmine hfor) with
        hsame | ⟨mover, moved, hstage, hmove⟩ | ⟨-, -, hended⟩
      · exact .inl ⟨stage, hsame⟩
      · exact .inl ⟨stage, ((hmove.frame hwf.table hwf.syncs hstage).others id
          (syncStage?_eq_none_of_role hactivity (by simp [Activity.role]))).trans hactivity⟩
      · right
        intro other found thread hfound hduty
        have hends := (Activity.ends_of_attach hduty).1
        rw [hended other found hfound] at hends
        cases hends
  rcases hreacted with ⟨kept, hkept⟩ | hnothing
  · rcases polls_reap htable hkept with hsame | hnothing
    · exact .inl ⟨kept, hsame⟩
    · exact .inr hnothing
  · exact .inr fun other found thread hfound =>
      hnothing other found thread (activity?_react_of_step hwf hfound)

/-- Once launched, nothing begins to attach. -/
theorem NothingAttaches.step (hnothing : NothingAttaches session) (hwf : WellFormed session)
    (hlaunched : session.launched.isSome = true) (now : Nat) (event : SessionEvent) :
    NothingAttaches (step now event session).1 := by
  intro other found thread hfound hduty
  rcases attach_of_step hwf hfound hduty with ⟨before, hbefore, hsame⟩ | ⟨-, hnone, -, -⟩
  · exact hnothing other before thread hbefore hsame
  · rw [hnone] at hlaunched
    cases hlaunched

/-- The number of the poller, once one was started. -/
structure PollerLedger (started : Option Nat) (session : Session) : Prop where
  known : ∀ id stage, session.activity? id = some (.poll stage) → started = some id
  /-- It is there as long as anything attaches. -/
  lasts : ∀ id, started = some id → session.launched.isSome = true ∧
    ((∃ stage, session.activity? id = some (.poll stage)) ∨ NothingAttaches session)

/-- A poller after the reaction was there before, or is new. -/
theorem polls_of_react (hwf : WellFormed session) {now : Nat} {stage : PollStage}
    (hactivity : (react now event session).1.activity? id = some (.poll stage)) :
    (∃ stage, session.activity? id = some (.poll stage)) ∨
      id = session.nextActivity ∧ session.hasPoller = false ∧
        ∃ attachment, session.attachment? event = some attachment := by
  by_cases hbelow : id < session.nextActivity
  · left
    cases hbefore : session.activity? id with
    | none =>
        have hundisturbed := (reaction_react hwf now event).undisturbed hwf hbelow
          (by rw [syncStage?, hbefore]) (fun _ => hbefore)
        rcases hundisturbed.activity? with hsame | hgone
        · rw [hactivity, hbefore] at hsame
          cases hsame
        · rw [hactivity] at hgone
          cases hgone
    | some before =>
        have hduty := bears_react hwf hbefore now event _ hactivity
        cases before with
        | poll stage => exact ⟨stage, rfl⟩
        | attach thread stage => cases hduty
        | sync stage => cases hduty
        | resume request thread suffix mode stage => cases hduty
        | evaluate request expression stage => cases hduty
        | restart request resource stage => cases hduty
  · right
    have hid := Nat.le_of_not_lt hbelow
    rw [(grows_react hwf now event).activity? id hid] at hactivity
    obtain ⟨hattachment, hnone, hzero⟩ := poller_of_newcomer hactivity rfl
    exact ⟨by omega, hnone, hattachment⟩

theorem PollerLedger.step {started : Option Nat} (hledger : PollerLedger started session)
    (hwf : WellFormed session) (now : Nat) (event : SessionEvent) :
    ∃ next, PollerLedger next (step now event session).1 ∧
      (∀ id, started = some id → next = some id) ∧
      ∀ id stage, (react now event session).1.activity? id = some (.poll stage) →
        next = some id := by
  by_cases hfresh : session.hasPoller = false ∧ ∃ attachment, session.attachment? event =
      some attachment
  · obtain ⟨hnone, attachment, hattachment⟩ := hfresh
    obtain ⟨outcome, timer, suffix, -, hasking, hlaunched, -, -⟩ :=
      attachment?_eq_some hattachment
    have hnopoll : ∀ id stage, session.activity? id ≠ some (.poll stage) := by
      intro id stage hactivity
      rw [hwf.hasPoller_of_role hactivity rfl] at hnone
      cases hnone
    -- Something attaches, so that no poller was started before.
    have hfirst : started = none := by
      cases hstarted : started with
      | none => rfl
      | some id =>
          rcases (hledger.lasts id hstarted).2 with ⟨stage, hactivity⟩ | hnothing
          · exact absurd hactivity (hnopoll id stage)
          · exact absurd rfl (hnothing _ _ _ hasking)
    have hnew : ∀ id stage, (react now event session).1.activity? id = some (.poll stage) →
        some session.nextActivity = some id := by
      intro id stage hactivity
      rcases polls_of_react hwf hactivity with ⟨before, hbefore⟩ | ⟨hid, -⟩
      · exact absurd hbefore (hnopoll id before)
      · rw [hid]
    refine ⟨some session.nextActivity, ⟨?_, ?_⟩, by simp [hfirst], hnew⟩
    · exact fun id stage hactivity => hnew id stage (activity?_react_of_step hwf hactivity)
    · intro id hid
      cases hid
      refine ⟨isSome_launched_step (Option.isSome_of_eq_some hlaunched) now event, ?_⟩
      have hpoll : (react now event session).1.activity? session.nextActivity =
          some (.poll .starting) := by
        rw [(grows_react hwf now event).activity? _ (Nat.le_refl _), Nat.sub_self]
        exact newcomers_of_attachment hattachment hnone
      rcases polls_reap ((reaction_react hwf now event).wellFormed hwf).table hpoll with
        hsame | hnothing
      · exact .inl ⟨.starting, hsame⟩
      · exact .inr hnothing
  · have hsame : ∀ id stage, (react now event session).1.activity? id = some (.poll stage) →
        started = some id := by
      intro id stage hactivity
      rcases polls_of_react hwf hactivity with ⟨before, hbefore⟩ | ⟨-, hnone, hattachment⟩
      · exact hledger.known id before hbefore
      · exact absurd ⟨hnone, hattachment⟩ hfresh
    refine ⟨started, ⟨?_, ?_⟩, fun _ hid => hid, hsame⟩
    · exact fun id stage hactivity => hsame id stage (activity?_react_of_step hwf hactivity)
    · intro id hid
      obtain ⟨hlaunched, hlasts⟩ := hledger.lasts id hid
      refine ⟨isSome_launched_step hlaunched now event, ?_⟩
      rcases hlasts with ⟨stage, hactivity⟩ | hnothing
      · exact polls_step hwf hactivity now event
      · exact .inr (hnothing.step hwf hlaunched now event)

/-- However a run goes, at most one number is ever that of a poller. -/
theorem one_poller_run (config : BackendConfig) (events : List (Nat × SessionEvent)) :
    ∃ started, PollerLedger started (run events (ofConfig config)).1 ∧
      ∀ earlier now event later, events = earlier ++ (now, event) :: later →
        ∀ id stage, (react now event (run earlier (ofConfig config)).1).1.activity? id =
          some (.poll stage) → started = some id := by
  induction events using List.reverseRecOn with
  | nil =>
      refine ⟨none, ⟨?_, by simp⟩, by simp⟩
      intro id stage hactivity
      cases hactivity
  | append_singleton events entry ih =>
      obtain ⟨time, cause⟩ := entry
      obtain ⟨started, hledger, hbefore⟩ := ih
      obtain ⟨next, hnext, hkept, hnew⟩ :=
        hledger.step (wellFormed_run (WellFormed.ofConfig config) events) time cause
      refine ⟨next, ?_, ?_⟩
      · rw [run_snoc]
        exact hnext
      · intro earlier now event later hsplit id stage hactivity
        rcases split_snoc hsplit with ⟨rfl, hentry, -⟩ | ⟨rest, -, hrest⟩
        · cases hentry
          exact hnew id stage hactivity
        · exact hkept id (hbefore earlier now event rest hrest id stage hactivity)

/-- Where the command after an attach is outstanding, there is a poller. -/
def Attended (session : Session) : Prop :=
  ∀ id thread name suffix mode,
    session.activity? id = some (.attach thread (.resuming name suffix mode)) →
    ∃ poller stage, session.activity? poller = some (.poll stage)

theorem Attended.step (hattended : Attended session) (hwf : WellFormed session) (now : Nat)
    (event : SessionEvent) : Attended (step now event session).1 := by
  intro id thread name suffix mode hafter
  -- As long as anything attaches, the poller stays.
  have hstays : ∀ {poller stage}, session.activity? poller = some (.poll stage) →
      ∃ poller stage, (Session.step now event session).1.activity? poller = some (.poll stage) := by
    intro poller stage hpoll
    rcases polls_step hwf hpoll now event with ⟨next, hnext⟩ | hnothing
    · exact ⟨poller, next, hnext⟩
    · exact absurd rfl (hnothing id _ thread hafter)
  rcases resuming_of_step hwf hafter with hbefore | hattached
  · obtain ⟨poller, stage, hpoll⟩ := hattended id thread name suffix mode hbefore
    exact hstays hpoll
  · obtain ⟨attachment, hattachment⟩ := Option.isSome_iff_exists.mp hattached
    cases hpolled : session.hasPoller with
    | true =>
        obtain ⟨⟨poller, activity⟩, hentry, hispoller⟩ := List.any_eq_true.mp hpolled
        have hpoll := hwf.table.mem_activities_iff.mp hentry
        cases activity with
        | poll stage => exact hstays hpoll
        | attach thread stage => cases hispoller
        | sync stage => cases hispoller
        | resume request thread suffix mode stage => cases hispoller
        | evaluate request expression stage => cases hispoller
        | restart request resource stage => cases hispoller
    | false =>
        have hpoll : (react now event session).1.activity? session.nextActivity =
            some (.poll .starting) := by
          rw [(grows_react hwf now event).activity? _ (Nat.le_refl _), Nat.sub_self]
          exact newcomers_of_attachment hattachment hpolled
        rcases polls_reap ((reaction_react hwf now event).wellFormed hwf).table hpoll with
          hsame | hnothing
        · exact ⟨_, _, hsame⟩
        · exact absurd rfl (hnothing id _ thread hafter)

theorem attended_run (config : BackendConfig) (events : List (Nat × SessionEvent)) :
    Attended (run events (ofConfig config)).1 := by
  induction events using List.reverseRecOn with
  | nil =>
      intro id thread name suffix mode hactivity
      cases hactivity
  | append_singleton events entry ih =>
      rw [run_snoc]
      exact ih.step (wellFormed_run (WellFormed.ofConfig config) events) entry.1 entry.2

end Pollers

end Session

end DebugBridge
