import DebugBridge.Proofs.Session.Commands
import DebugBridge.Proofs.Session.Origins

/-!
# Addresses

The name and the suffix of a context never change.  Whatever an activity says to a context goes to
the endpoints with the suffix of that context.
-/

namespace DebugBridge

/-- What a context is called, and where its endpoints are. -/
structure Address where
  name : String
  suffix : String
deriving DecidableEq

def ExecutionContext.address (context : ExecutionContext) : Address where
  name := context.name
  suffix := context.suffix

namespace Contexts

def address? (store : Contexts) (thread : Int) : Option Address :=
  (store.get? thread).map ExecutionContext.address

theorem address?_of_get? {store : Contexts} {thread : Int} {context : ExecutionContext}
    (hget : store.get? thread = some context) : store.address? thread = some context.address := by
  rw [address?, hget]
  rfl

theorem suffix_of_startCommand {store : Contexts} {thread : Int} {suffix : String}
    (hstarted : (store.startCommand thread).1 = some suffix) :
    (store.address? thread).map (·.suffix) = some suffix := by
  rw [← hstarted, startCommand, address?, Option.map_map]
  rfl

/-- A planned poll goes to the context whose thread it names. -/
theorem suffix_of_mem_plannedPolls {store : Contexts} (hnodup : store.threads.Nodup)
    {target : PlannedPoll} (htarget : target ∈ store.plannedPolls) :
    (store.address? target.thread).map (·.suffix) = some target.suffix := by
  obtain ⟨context, hmem, -, rfl⟩ := mem_plannedPolls_iff.mp htarget
  rw [address?_of_get? (get?_of_mem hnodup hmem)]
  rfl

end Contexts

/-- What the activity says to a context goes to the endpoints of this context. -/
def Activity.Addressed (store : Contexts) : Activity → Prop
  | .attach thread (.asking _ suffix) => (store.address? thread).map (·.suffix) = some suffix
  | .attach thread (.resuming _ suffix _) => (store.address? thread).map (·.suffix) = some suffix
  | .poll (.asking _ target others) => ∀ planned ∈ target :: others,
      (store.address? planned.thread).map (·.suffix) = some planned.suffix
  | .resume _ thread suffix _ _ => (store.address? thread).map (·.suffix) = some suffix
  | _ => True

theorem Activity.Addressed.congr {store other : Contexts}
    (hsame : ∀ thread, other.address? thread = store.address? thread) {activity : Activity}
    (haddressed : activity.Addressed store) : activity.Addressed other := by
  cases activity with
  | attach thread stage =>
      cases stage with
      | starting => trivial
      | waiting timer => trivial
      | asking timer suffix => exact (congrArg _ (hsame thread)).trans haddressed
      | resuming name suffix mode => exact (congrArg _ (hsame thread)).trans haddressed
  | poll stage =>
      cases stage with
      | starting => trivial
      | waiting timer => trivial
      | asking timer target others =>
          intro planned hplanned
          rw [hsame]
          exact haddressed planned hplanned
  | sync stage => trivial
  | resume request thread suffix mode stage => exact (congrArg _ (hsame thread)).trans haddressed
  | evaluate request expression stage => trivial
  | restart request resource stage => trivial

namespace Session

/-! ## Contexts keep their addresses -/

section Contexts

variable {session : Session}

theorem CommandMove.address? {thread : Int} {after : Session} {new : List Milestone}
    (hmove : CommandMove thread session after new) :
    after.contexts.address? thread = session.contexts.address? thread := by
  cases hmove with
  | quiet hafter hcommands => rw [Contexts.address?, hafter, Contexts.address?]
  | began hget hafter hcommands hnew hlive =>
      rw [Contexts.address?_of_get? hafter, Contexts.address?_of_get? hget]
      rfl
  | completed hlive hafter hcommands hgone =>
      rw [Contexts.address?, hafter, Option.map_map]
      rfl
  | stopped hget hrunning hidle hafter hcommands =>
      rw [Contexts.address?_of_get? hafter, Contexts.address?_of_get? hget]
      rfl

theorem address?_step (hwf : WellFormed session) (now : Nat) (event : SessionEvent)
    (thread : Int) :
    (step now event session).1.contexts.address? thread = session.contexts.address? thread :=
  (commandMove_step hwf now event).address?

theorem address?_run (hwf : WellFormed session) (events : List (Nat × SessionEvent))
    (thread : Int) :
    (run events session).1.contexts.address? thread = session.contexts.address? thread := by
  induction events generalizing session with
  | nil => rfl
  | cons event events ih =>
      exact (ih (wellFormed_step hwf event.1 event.2)).trans
        (address?_step hwf event.1 event.2 thread)

end Contexts

/-! ## Contexts keep their places -/

section Places

variable {session : Session} {event : SessionEvent} {out : Session × List Effect}

theorem threads_of_backdrop {base : Session} (hbackdrop : out.1.backdrop = base.backdrop)
    (hbase : base.contexts.threads = session.contexts.threads) :
    out.1.contexts.threads = session.contexts.threads := by
  have hcontexts : out.1.contexts.contexts = base.contexts.contexts :=
    congrArg Backdrop.contexts hbackdrop
  rw [Contexts.threads, hcontexts]
  exact hbase

theorem Reaction.threads (hreaction : Reaction session event out) (hwf : WellFormed session) :
    out.1.contexts.threads = session.contexts.threads := by
  cases hreaction.backdropMove hwf with
  | kept hafter => exact threads_of_backdrop hafter rfl
  | recounted hevent hcommand hafter => exact threads_of_backdrop hafter rfl
  | breakpointsSet haccepted hafter => exact threads_of_backdrop hafter rfl
  | commandStarted hbegun hafter =>
      exact threads_of_backdrop hafter (Contexts.threads_startCommand _ _)
  | shutDown hevent hended hafter => exact threads_of_backdrop hafter rfl
  | released hafter => exact threads_of_backdrop hafter rfl
  | attached hbegun hpaths hafter =>
      exact threads_of_backdrop hafter (Contexts.threads_startCommand _ _)
  | commandEnded hended hafter =>
      exact threads_of_backdrop hafter (Contexts.threads_endCommand _ _)
  | paused hevent hactivity hafter =>
      exact threads_of_backdrop hafter (Contexts.threads_applyPoll _ _ _)

theorem threads_step (hwf : WellFormed session) (now : Nat) (event : SessionEvent) :
    (step now event session).1.contexts.threads = session.contexts.threads := by
  have hreaction := reaction_react hwf now event
  exact threads_of_backdrop (reaped_reap (hreaction.wellFormed hwf).table).backdrop
    (hreaction.threads hwf)

theorem threads_run (hwf : WellFormed session) (events : List (Nat × SessionEvent)) :
    (run events session).1.contexts.threads = session.contexts.threads := by
  induction events generalizing session with
  | nil => rfl
  | cons event events ih =>
      exact (ih (wellFormed_step hwf event.1 event.2)).trans (threads_step hwf event.1 event.2)

/-- Every layout has the context of the server, and has it first. -/
theorem threads_ofConfig (config : BackendConfig) :
    ∃ rest, (ofConfig config).contexts.threads = serverThread :: rest := by
  cases hlayout : config.contexts <;> exact ⟨_, by simp [ofConfig, hlayout]; rfl⟩

end Places

/-! ## Activities keep to them -/

section Activities

variable {id : Nat} {session : Session} {meets : Activity → Prop}

/-- After the turn, the activity with this number meets a condition or is gone. -/
def Leaves (id : Nat) (meets : Activity → Prop) (after : Session) : Prop :=
  ∀ activity, after.activity? id = some activity → meets activity

theorem leaves_put (session : Session) {activity : Activity} (hmeets : meets activity) :
    Leaves id meets (put id activity session).1 := by
  intro found hfound
  rw [activity?_put, if_pos rfl, Option.map_eq_some_iff] at hfound
  obtain ⟨-, -, rfl⟩ := hfound
  exact hmeets

theorem leaves_finish (session : Session) : Leaves id meets (finish id session).1 := by
  intro found hfound
  rw [activity?_finish, if_pos rfl] at hfound
  cases hfound

theorem leaves_same {activity : Activity} (hactivity : session.activity? id = some activity)
    (hmeets : meets activity) : Leaves id meets session := by
  intro found hfound
  rw [hactivity, Option.some.injEq] at hfound
  exact hfound ▸ hmeets

theorem addressed_attachTick (session : Session) (thread : Int) (timer : Timer) (now : Nat) :
    Leaves id (Activity.Addressed session.contexts)
      (attachTick id thread timer now session).1 := by
  unfold attachTick
  split
  · split
    · exact leaves_finish session
    · next context hget =>
        refine leaves_put session ?_
        exact congrArg (Option.map _) (Contexts.address?_of_get? hget)
  · exact leaves_put session trivial

theorem addressed_resumeAttached (session : Session) (thread : Int) (mode : ResumeMode) :
    Leaves id (Activity.Addressed session.contexts)
      (resumeAttached id thread mode session).1 := by
  unfold resumeAttached
  split
  · exact leaves_finish session
  · next suffix contexts hstarted =>
      exact leaves_put _ (Contexts.suffix_of_startCommand (congrArg Prod.fst hstarted))

theorem contexts_startPolling (session : Session) :
    (startPolling session).1.contexts = session.contexts := by
  unfold startPolling
  split <;> rfl

theorem contexts_announceInitialized (session : Session) :
    (announceInitialized session).1.contexts = session.contexts := by
  unfold announceInitialized
  split <;> rfl

theorem contexts_installPaths (session : Session) (launched : Launch)
    (resourceName resourcePath : String) :
    (installPaths launched resourceName resourcePath session).1.contexts = session.contexts := by
  simp only [installPaths, Turn.change_apply]
  split <;> rfl

theorem contexts_attachPrelude (session : Session) (thread : Int)
    (name resourceName resourcePath : String) (isSyncing : Bool) :
    (attachPrelude thread name resourceName resourcePath isSyncing session).1.contexts =
      session.contexts := by
  have hsync : ∀ base : Session,
      ((if isSyncing then Turn.idle else spawn (.sync .starting)) base).1.contexts =
        base.contexts := by
    intro base
    split <;> rfl
  have hsend : ∀ (message : Message) (base : Session),
      (send message base).1.contexts = base.contexts := fun _ _ => rfl
  simp only [attachPrelude, Turn.andThen_fst, hsync, hsend, contexts_announceInitialized,
    contexts_startPolling]
  rfl

theorem addressed_attach (session : Session) (thread : Int) (info : ResourceInfo) :
    Leaves id (Activity.Addressed session.contexts) (attach id thread info session).1 := by
  cases hlaunched : session.launched with
  | none =>
      simp only [attach, hlaunched]
      exact leaves_finish session
  | some launched =>
      rw [attach_eq hlaunched, Turn.andThen_fst,
        ← contexts_installPaths session launched (info.name.getD "") (info.path.getD ""),
        ← contexts_attachPrelude _ thread (session.contextName thread) (info.name.getD "")
          (info.path.getD "") session.paths.isSome]
      exact addressed_resumeAttached _ thread _

theorem addressed_attachInfo (session : Session) (thread : Int) (timer : Timer) (now : Nat)
    (reply : Except BackendFault ResourceInfo) :
    Leaves id (Activity.Addressed session.contexts)
      (attachInfo id thread timer now reply session).1 := by
  have hagain : ∀ notice : Turn, (notice session).1.contexts = session.contexts →
      Leaves id (Activity.Addressed session.contexts)
        (notice.andThen (attachTick id thread timer now) session).1 := by
    intro notice hnotice
    rw [← hnotice]
    exact addressed_attachTick _ thread timer now
  cases reply with
  | error fault =>
      simp only [attachInfo]
      apply hagain
      split <;> rfl
  | ok info =>
      simp only [attachInfo]
      split
      · exact addressed_attach session thread info
      · exact hagain _ rfl

theorem addressed_pollTick (hnodup : session.contexts.threads.Nodup) (timer : Timer) (now : Nat) :
    Leaves id (Activity.Addressed session.contexts) (pollTick id timer now session).1 := by
  unfold pollTick
  split
  · split
    · next target others hplanned =>
        refine leaves_put session fun planned hmem => ?_
        exact Contexts.suffix_of_mem_plannedPolls hnodup (hplanned ▸ hmem)
    · exact leaves_put session trivial
  · exact leaves_put session trivial

theorem addressed_pollNext (hnodup : session.contexts.threads.Nodup) (timer : Timer) (now : Nat)
    {others : List PlannedPoll} (hothers : ∀ planned ∈ others,
      (session.contexts.address? planned.thread).map (·.suffix) = some planned.suffix) :
    Leaves id (Activity.Addressed session.contexts) (pollNext id timer now others session).1 := by
  cases others with
  | nil => exact addressed_pollTick hnodup timer now
  | cons target others => exact leaves_put session hothers

theorem addressed_evaluateTick (session : Session) (request : Request) (expression : String)
    (deadline now : Nat) (store : Contexts) :
    Leaves id (Activity.Addressed store)
      (evaluateTick id request expression deadline now session).1 := by
  unfold evaluateTick
  split
  · exact leaves_put session trivial
  · exact leaves_put session trivial

theorem addressed_wakeActivity (hnodup : session.contexts.threads.Nodup) {activity : Activity}
    (hactivity : session.activity? id = some activity) (hsyncing : activity.role ≠ .syncing)
    (haddressed : activity.Addressed session.contexts) (now : Nat) :
    Leaves id (Activity.Addressed session.contexts)
      (wakeActivity now id session activity session).1 := by
  cases activity with
  | attach thread stage =>
      cases stage with
      | starting => exact addressed_attachTick session thread _ now
      | waiting timer => exact addressed_attachTick session thread timer now
      | asking timer suffix => exact leaves_same hactivity haddressed
      | resuming name suffix mode => exact leaves_same hactivity haddressed
  | poll stage =>
      cases stage with
      | starting => exact addressed_pollTick hnodup _ now
      | waiting timer => exact addressed_pollTick hnodup timer now
      | asking timer target others => exact leaves_same hactivity haddressed
  | sync stage => exact absurd rfl hsyncing
  | resume request thread suffix mode stage =>
      cases stage with
      | starting => exact leaves_put session haddressed
      | calling => exact leaves_same hactivity haddressed
  | evaluate request expression stage =>
      cases stage with
      | starting => exact leaves_put session trivial
      | submitting => exact leaves_same hactivity haddressed
      | sleeping deadline => exact addressed_evaluateTick session request expression deadline now _
      | reading => exact leaves_same hactivity haddressed
  | restart request resource stage =>
      cases stage with
      | starting => exact leaves_put session trivial
      | calling => exact leaves_same hactivity haddressed

/-- A poll result leaves the addresses alone. -/
theorem address?_applyPoll (store : Contexts) (target : PlannedPoll) (state : RunState)
    (thread : Int) : (store.applyPoll target state).2.address? thread = store.address? thread := by
  rw [Contexts.address?, Contexts.get?_applyPoll]
  split
  · rw [Option.map_map]
    rfl
  · rfl

theorem contexts_pollState (target : PlannedPoll) (reply : Except BackendFault RunState)
    (session : Session) (thread : Int) :
    (pollState target reply session).1.contexts.threads = session.contexts.threads ∧
      (pollState target reply session).1.contexts.address? thread =
        session.contexts.address? thread := by
  cases reply with
  | error fault => exact ⟨rfl, rfl⟩
  | ok state =>
      have hcontexts : (pollState target (.ok state) session).1.contexts =
          (session.contexts.applyPoll target state).2 := by
        simp only [pollState]
        split <;> rfl
      rw [hcontexts]
      exact ⟨Contexts.threads_applyPoll _ target state, address?_applyPoll _ target state thread⟩

theorem addressed_outcomeActivity (hnodup : session.contexts.threads.Nodup) {activity : Activity}
    (hactivity : session.activity? id = some activity) (hsyncing : activity.role ≠ .syncing)
    (haddressed : activity.Addressed session.contexts) (now : Nat) (outcome : Outcome) :
    Leaves id (Activity.Addressed session.contexts)
      (outcomeActivity now id outcome activity session).1 := by
  cases activity with
  | attach thread stage =>
      cases stage with
      | starting => exact leaves_same hactivity haddressed
      | waiting timer => exact leaves_same hactivity haddressed
      | asking timer suffix => exact addressed_attachInfo session thread timer now _
      | resuming name suffix mode => exact leaves_finish _
  | poll stage =>
      cases stage with
      | starting => exact leaves_same hactivity haddressed
      | waiting timer => exact leaves_same hactivity haddressed
      | asking timer target others =>
          have hkept := contexts_pollState target (BackendClient.runState target.suffix outcome)
            session
          simp only [outcomeActivity, Turn.andThen_fst]
          have hnext := @addressed_pollNext id _ ((hkept 0).1.symm ▸ hnodup) timer now others
            fun planned hplanned => by
              rw [(hkept planned.thread).2]
              exact haddressed planned (List.mem_cons_of_mem _ hplanned)
          exact fun found hfound =>
            (hnext found hfound).congr fun thread => (hkept thread).2.symm
  | sync stage => exact absurd rfl hsyncing
  | resume request thread suffix mode stage =>
      cases stage with
      | starting => exact leaves_same hactivity haddressed
      | calling => exact leaves_finish _
  | evaluate request expression stage =>
      cases stage with
      | starting => exact leaves_same hactivity haddressed
      | submitting => exact addressed_evaluateTick _ request expression _ now _
      | sleeping deadline => exact leaves_same hactivity haddressed
      | reading => exact leaves_finish _
  | restart request resource stage =>
      cases stage with
      | starting => exact leaves_same hactivity haddressed
      | calling => exact leaves_finish _

end Activities

/-! ## Steps and runs -/

section Runs

variable {session : Session} {event : SessionEvent}

/-- All that is said to a context goes to the endpoints of this context. -/
def AllAddressed (session : Session) : Prop :=
  ∀ id activity, session.activity? id = some activity → activity.Addressed session.contexts

/-- A command is given the suffix of the context that it names. -/
theorem context_of_errand {request : Request} {thread : Int} {suffix : String} {mode : ResumeMode}
    (herrand : session.errand? request = some (.resume thread suffix mode)) :
    ∃ context, session.contexts.get? thread = some context ∧ context.suffix = suffix := by
  have hresume : ∀ named, session.resumeErrand? named request =
      some (.resume thread suffix mode) →
      ∃ context, session.contexts.get? thread = some context ∧ context.suffix = suffix := by
    intro named hsome
    obtain ⟨other, -, hmap⟩ := Option.bind_eq_some_iff.mp hsome
    obtain ⟨context, hget, hsame⟩ := Option.map_eq_some_iff.mp hmap
    cases hsame
    exact ⟨context, hget, rfl⟩
  unfold errand? errandFor at herrand
  split at herrand
  · unfold launchErrand? at herrand
    split at herrand
    · split at herrand
      · cases herrand
      · obtain ⟨path, -, hsame⟩ := Option.map_eq_some_iff.mp herrand
        cases hsame
    · cases herrand
  · obtain ⟨resource, -, hsame⟩ := Option.map_eq_some_iff.mp herrand
    cases hsame
  · exact hresume _ herrand
  · exact hresume _ herrand
  · exact hresume _ herrand
  · unfold evaluateErrand? at herrand
    split at herrand
    · obtain ⟨expression, -, hsame⟩ := Option.map_eq_some_iff.mp herrand
      cases hsame
    · cases herrand
  · cases herrand

theorem addressed_of_newcomer {newcomer : Activity} (hnew : newcomer ∈ session.newcomers event) :
    newcomer.Addressed session.contexts := by
  cases event with
  | request request =>
      simp only [newcomers] at hnew
      split at hnew
      · next errand herrand =>
          cases errand with
          | launch arguments serverPath =>
              simp only [bearers] at hnew
              split at hnew
              · cases hnew
              · obtain ⟨context, -, rfl⟩ := List.mem_map.mp hnew
                trivial
          | resume thread suffix mode =>
              rw [List.mem_singleton.mp hnew]
              obtain ⟨context, hget, hsuffix⟩ := context_of_errand herrand
              simp only [Activity.Addressed, Contexts.address?_of_get? hget, ← hsuffix]
              rfl
          | restart resource =>
              rw [List.mem_singleton.mp hnew]
              trivial
          | evaluate expression =>
              rw [List.mem_singleton.mp hnew]
              trivial
      · rw [List.mem_singleton.mp (List.mem_ite_nil_right.mp hnew).2]
        trivial
  | outcome id outcome =>
      obtain rfl | rfl := eq_of_mem_attachPrelude (List.mem_ite_nil_right.mp hnew).2
      · trivial
      · trivial
  | shutdown => cases hnew
  | release => cases hnew
  | wake id => cases hnew

/-- At any event, an activity that is no sync keeps to the endpoints of its context. -/
theorem addressed_react (hwf : WellFormed session) {id : Nat} {activity : Activity}
    (hactivity : session.activity? id = some activity) (hsyncing : activity.role ≠ .syncing)
    (haddressed : activity.Addressed session.contexts) (now : Nat) (event : SessionEvent) :
    Leaves id (Activity.Addressed session.contexts) (react now event session).1 := by
  by_cases hfor : event.IsFor id
  · rcases hfor with rfl | ⟨outcome, rfl⟩
    · simp only [react, withActivity, hactivity]
      exact addressed_wakeActivity hwf.threads hactivity hsyncing haddressed now
    · simp only [react, withActivity, hactivity]
      exact addressed_outcomeActivity hwf.threads hactivity hsyncing haddressed now outcome
  · intro found hfound
    have hundisturbed := (reaction_react hwf now event).undisturbed hwf
      (hwf.table.lt_of_activity? hactivity) (syncStage?_eq_none_of_role hactivity hsyncing)
      (fun hmine => absurd hmine hfor)
    rcases hundisturbed.activity? with hsame | hgone
    · rw [hsame, hactivity, Option.some.injEq] at hfound
      exact hfound ▸ haddressed
    · rw [hgone] at hfound
      cases hfound

theorem AllAddressed.step (haddressed : AllAddressed session) (hwf : WellFormed session)
    (now : Nat) (event : SessionEvent) : AllAddressed (step now event session).1 := by
  intro id activity hactivity
  refine Activity.Addressed.congr (address?_step hwf now event) ?_
  by_cases hbelow : id < session.nextActivity
  · obtain ⟨before, hbefore, hduty⟩ := duty_of_step hwf hbelow hactivity
    by_cases hsyncing : before.role = .syncing
    · obtain ⟨stage, rfl⟩ := Activity.role_eq_syncing_iff.mp hsyncing
      cases activity <;> trivial
    · have hreaped := undisturbed_reap ((reaction_react hwf now event).wellFormed hwf).table id
      rcases hreaped.activity? with hsame | hgone
      · exact addressed_react hwf hbefore hsyncing (haddressed id before hbefore) now event
          activity (hsame.symm.trans hactivity)
      · exact absurd (hgone.symm.trans hactivity) (by simp)
  · exact addressed_of_newcomer
      (List.mem_of_getElem? (newcomer_of_step hwf (Nat.le_of_not_lt hbelow) hactivity))

theorem allAddressed_run (config : BackendConfig) (events : List (Nat × SessionEvent)) :
    AllAddressed (run events (ofConfig config)).1 := by
  induction events using List.reverseRecOn with
  | nil =>
      intro id activity hactivity
      simp [run, activity?, ofConfig] at hactivity
  | append_singleton events entry ih =>
      rw [run_snoc]
      exact ih.step (wellFormed_run (WellFormed.ofConfig config) events) entry.1 entry.2

end Runs

end Session

end DebugBridge
