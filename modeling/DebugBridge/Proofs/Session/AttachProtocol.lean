import DebugBridge.Proofs.Session.Pollers

/-!
# How a run attaches

Every run, in whatever order the contexts report their resources and acknowledge their commands,
attaches to each context at most once, only after the context has named its resource, and tells the
editor of it in the right order.
-/

namespace DebugBridge

/-- The notice is an event of this name. -/
def Notice.tells (name : String) : Notice → Bool
  | .event happening => happening.name == name
  | .reply _ => false

/-- What has to wait until the session is initialized: stops, and lines for the console. -/
def Notice.waits (notice : Notice) : Prop :=
  notice.tells "stopped" = true ∨ notice.tells "output" = true

@[simp]
theorem Notice.tells_event (name : String) (happening : Event) :
    (Notice.event happening).tells name = (happening.name == name) := rfl

@[simp]
theorem Notice.tells_reply (name : String) (reply : Reply) :
    (Notice.reply reply).tells name = false := rfl

namespace Session

/-! ## What an attachment settles -/

/-- Where sources are found once this resource is attached first. -/
def Attachment.directories (config : BackendConfig) (attachment : Attachment) :
    ResourceDirectories :=
  .ofDirectories attachment.launched.serverPath config.resourcesSubdir
    (attachment.info.path.getD "")

/-- The first attachment settles what the session knows of its resource. -/
structure Settled (config : BackendConfig) (attached : List Attachment) (session : Session) :
    Prop where
  configured : session.config = config
  initializedSent : session.initializedSent = !attached.isEmpty
  paths : session.paths = attached.head?.map (Attachment.directories config)
  resourceName : session.resourceName = attached.head?.map fun attachment =>
    attachment.info.name.getD ""

section Settled

variable {config : BackendConfig} {session : Session} {event : SessionEvent}

theorem standingAfter_of_attachment {attachment : Attachment}
    (hattachment : session.attachment? event = some attachment) :
    session.standingAfter event = session.standing.attach attachment := by
  obtain ⟨outcome, -, -, rfl, -⟩ := attachment?_eq_some hattachment
  simp only [standingAfter, attachedOn, hattachment]

/-- Without an attachment nothing is settled. -/
theorem standingAfter_of_unattached (hnone : session.attachment? event = none) :
    (session.standingAfter event).config = session.config ∧
      (session.standingAfter event).initializedSent = session.initializedSent ∧
      (session.standingAfter event).paths = session.paths ∧
      (session.standingAfter event).resourceName = session.resourceName := by
  unfold standingAfter
  split
  · split
    · next errand herrand => cases errand <;> exact ⟨rfl, rfl, rfl, rfl⟩
    · obtain ⟨shownThread, handles, hsame⟩ := inspected_eq _ session _
      rw [hsame]
      exact ⟨rfl, rfl, rfl, rfl⟩
  · simp only [attachedOn, hnone]
    split <;> exact ⟨rfl, rfl, rfl, rfl⟩

theorem initializedSent_step (session : Session) (now : Nat) (event : SessionEvent) :
    (step now event session).1.initializedSent =
      (session.initializedSent || (session.attachment? event).isSome) := by
  have hstanding := congrArg Standing.initializedSent (standing_step session now event)
  refine hstanding.trans ?_
  cases hattachment : session.attachment? event with
  | none =>
      rw [(standingAfter_of_unattached hattachment).2.1]
      simp
  | some attachment =>
      rw [standingAfter_of_attachment hattachment]
      simp [Standing.attach]

theorem Settled.step {attached : List Attachment} (hsettled : Settled config attached session)
    (now : Nat) (event : SessionEvent) :
    Settled config (attached ++ (session.attachment? event).toList) (step now event session).1 := by
  have hstanding := standing_step session now event
  have hsent := initializedSent_step session now event
  cases hattachment : session.attachment? event with
  | none =>
      obtain ⟨hconfig, -, hpaths, hname⟩ := standingAfter_of_unattached hattachment
      rw [← hstanding] at hconfig hpaths hname
      rw [hattachment] at hsent
      rw [Option.toList_none, List.append_nil]
      exact ⟨hconfig.trans hsettled.configured,
        (hsent.trans (Bool.or_false _)).trans hsettled.initializedSent,
        hpaths.trans hsettled.paths, hname.trans hsettled.resourceName⟩
  | some attachment =>
      rw [standingAfter_of_attachment hattachment] at hstanding
      have hinstalled : (session.standing.install attachment.launched attachment.info).config =
            config ∧
          (session.standing.install attachment.launched attachment.info).paths =
            (attached ++ [attachment]).head?.map (Attachment.directories config) ∧
          (session.standing.install attachment.launched attachment.info).resourceName =
            (attached ++ [attachment]).head?.map fun attachment =>
              attachment.info.name.getD "" := by
        have hpaths : session.standing.paths = _ := hsettled.paths
        have hname : session.standing.resourceName = _ := hsettled.resourceName
        have hconfig : session.standing.config = config := hsettled.configured
        cases attached with
        | nil => simp [Standing.install, hpaths, hconfig, Attachment.directories]
        | cons first rest => simp [Standing.install, hpaths, hname, hconfig]
      obtain ⟨hconfig, hpaths, hname⟩ := hinstalled
      refine ⟨(congrArg Standing.config hstanding).trans hconfig, ?_,
        (congrArg Standing.paths hstanding).trans hpaths,
        (congrArg Standing.resourceName hstanding).trans hname⟩
      rw [hsent, hattachment, Option.toList_some]
      cases attached <;> simp

theorem settled_run (config : BackendConfig) (events : List (Nat × SessionEvent)) :
    Settled config (attachments events (ofConfig config)) (run events (ofConfig config)).1 := by
  induction events using List.reverseRecOn with
  | nil => exact ⟨rfl, rfl, rfl, rfl⟩
  | append_singleton events entry ih =>
      rw [run_snoc, attachments, journal_snoc]
      exact ih.step entry.1 entry.2

end Settled

/-! ## What the editor is told -/

section Told

variable {session : Session} {event : SessionEvent}

theorem contextName_eq (session : Session) (thread : Int) :
    session.contextName thread =
      ((session.contexts.address? thread).map (·.name)).getD "Unknown" := by
  unfold contextName Contexts.address?
  cases session.contexts.get? thread <;> rfl

theorem notices_of_attachment {attachment : Attachment}
    (hattachment : session.attachment? event = some attachment) :
    session.notices event =
      (if session.initializedSent then [] else [.event initializedEvent]) ++
        [(session.attachmentEvent attachment).notice] := by
  obtain ⟨outcome, timer, suffix, rfl, hactivity, -⟩ := attachment?_eq_some hattachment
  simp only [notices, hactivity, outcomeNotices, hattachment]

/-- Without an attachment the editor may be told of a stop, by the poller, and of nothing else that
has to wait. -/
theorem tells_of_unattached (hnone : session.attachment? event = none) {notice : Notice}
    (hnotice : notice ∈ session.notices event) :
    notice.tells "initialized" = false ∧ notice.tells "output" = false ∧
      (notice.tells "stopped" = true → ∃ id stage, session.activity? id = some (.poll stage)) := by
  have hreply : ∀ {reply : Reply}, notice = .reply reply →
      notice.tells "initialized" = false ∧ notice.tells "output" = false ∧
        (notice.tells "stopped" = true →
          ∃ id stage, session.activity? id = some (.poll stage)) := by
    rintro reply rfl
    exact ⟨rfl, rfl, fun hstopped => by cases hstopped⟩
  cases event with
  | request request =>
      simp only [notices, List.mem_append, List.mem_ite_nil_left, List.mem_ite_nil_right,
        List.mem_singleton] at hnotice
      rcases hnotice with ⟨-, hnotice⟩ | ⟨-, rfl⟩
      · exact hreply hnotice
      · exact ⟨by simp [terminatedEvent], by simp [terminatedEvent], by simp [terminatedEvent]⟩
  | outcome id outcome =>
      simp only [notices] at hnotice
      split at hnotice
      · next activity hactivity =>
          unfold outcomeNotices at hnotice
          split at hnotice
          · rw [hnone] at hnotice
            cases hnotice
          · obtain ⟨request, -, rfl⟩ := List.mem_map.mp hnotice
            exact hreply rfl
          · split at hnotice
            · rw [List.mem_singleton.mp (List.mem_ite_nil_right.mp hnotice).2]
              exact ⟨by simp [stoppedEvent], by simp [stoppedEvent], fun _ => ⟨id, _, hactivity⟩⟩
            · cases hnotice
          · exact hreply (List.mem_singleton.mp hnotice)
          · exact hreply (List.mem_singleton.mp (List.mem_ite_nil_right.mp hnotice).2)
          · exact hreply (List.mem_singleton.mp hnotice)
          · cases hnotice
      · cases hnotice
  | shutdown => cases hnotice
  | release => cases hnotice
  | wake id => cases hnotice

/-- An attachment tells one line for the console. -/
theorem tells_attachmentEvent (attachment : Attachment) (name : String) :
    (session.attachmentEvent attachment).notice.tells name = ("output" == name) := rfl

/-- The lines for the console that a step tells are those of its attachment. -/
theorem outputs_of_notices (session : Session) (event : SessionEvent) :
    (session.notices event).filter (Notice.tells "output") =
      (session.attachment? event).toList.map fun attachment =>
        (session.attachmentEvent attachment).notice := by
  cases hattachment : session.attachment? event with
  | none =>
      rw [Option.toList_none, List.map_nil, List.filter_eq_nil_iff]
      intro notice hnotice
      simp [(tells_of_unattached hattachment hnotice).2.1]
  | some attachment =>
      rw [notices_of_attachment hattachment]
      split <;> simp [initializedEvent, tells_attachmentEvent]

/-- A step tells that the session is initialized where it attaches first. -/
theorem countP_initialized_notices (session : Session) (event : SessionEvent) :
    (session.notices event).countP (Notice.tells "initialized") =
      if session.initializedSent = false ∧ (session.attachment? event).isSome then 1 else 0 := by
  cases hattachment : session.attachment? event with
  | none =>
      rw [Option.isSome_none, if_neg (by simp), List.countP_eq_zero]
      intro notice hnotice
      simp [(tells_of_unattached hattachment hnotice).1]
  | some attachment =>
      rw [notices_of_attachment hattachment]
      cases session.initializedSent <;> simp [initializedEvent, tells_attachmentEvent]

end Told

/-! ## In which order -/

/-- Whatever has to wait comes after the session is told to be initialized. -/
def InOrder (notices : List Notice) : Prop :=
  ∀ before notice after, notices = before ++ notice :: after → notice.waits →
    ∃ told ∈ before, told.tells "initialized" = true

section Order

variable {config : BackendConfig} {session : Session}

theorem InOrder.append {first second : List Notice} (hfirst : InOrder first)
    (hsecond : ∀ before notice after, second = before ++ notice :: after → notice.waits →
      ∃ told ∈ first ++ before, told.tells "initialized" = true) : InOrder (first ++ second) := by
  intro before notice after hsplit hwaits
  rcases List.append_eq_append_iff.mp hsplit with ⟨rest, hbefore, hrest⟩ | ⟨rest, hlast, hrest⟩
  · rw [hbefore]
    exact hsecond rest notice after hrest hwaits
  · cases rest with
    | nil =>
        rw [List.append_nil] at hlast
        rw [← hlast]
        obtain ⟨told, htold, htells⟩ := hsecond [] notice after hrest.symm hwaits
        exact ⟨told, List.append_nil first ▸ htold, htells⟩
    | cons next rest =>
        obtain ⟨rfl, -⟩ := List.cons.inj hrest
        exact hfirst before notice rest hlast hwaits

/-- The poller and the commands that follow an attach come after the session is initialized. -/
structure Late (session : Session) : Prop where
  polls : ∀ id stage, session.activity? id = some (.poll stage) → session.initializedSent = true
  resumes : ∀ id thread name suffix mode,
    session.activity? id = some (.attach thread (.resuming name suffix mode)) →
    session.initializedSent = true

theorem Late.step (hlate : Late session) (hwf : WellFormed session) (now : Nat)
    (event : SessionEvent) : Late (step now event session).1 := by
  have hkept : session.initializedSent = true ∨ (session.attachment? event).isSome = true →
      (Session.step now event session).1.initializedSent = true := by
    intro hsent
    rw [initializedSent_step, Bool.or_eq_true_iff]
    exact hsent
  constructor
  · intro id stage hactivity
    apply hkept
    rcases polls_of_react hwf (activity?_react_of_step hwf hactivity) with ⟨before, hbefore⟩ |
      ⟨-, -, attachment, hattachment⟩
    · exact .inl (hlate.polls id before hbefore)
    · exact .inr (Option.isSome_of_eq_some hattachment)
  · intro id thread name suffix mode hactivity
    apply hkept
    rcases resuming_of_step hwf hactivity with hbefore | hattachment
    · exact .inl (hlate.resumes id thread name suffix mode hbefore)
    · exact .inr hattachment

theorem late_run (config : BackendConfig) (events : List (Nat × SessionEvent)) :
    Late (run events (ofConfig config)).1 := by
  induction events using List.reverseRecOn with
  | nil =>
      constructor
      · intro id stage hactivity
        cases hactivity
      · intro id thread name suffix mode hactivity
        cases hactivity
  | append_singleton events entry ih =>
      rw [run_snoc]
      exact ih.step (wellFormed_run (WellFormed.ofConfig config) events) entry.1 entry.2

/-- The editor is told once that the session is initialized, and not before it is. -/
theorem countP_initialized_run (config : BackendConfig) (events : List (Nat × SessionEvent)) :
    (noticesIn (run events (ofConfig config)).2).countP (Notice.tells "initialized") =
      if (run events (ofConfig config)).1.initializedSent then 1 else 0 := by
  induction events using List.reverseRecOn with
  | nil => rfl
  | append_singleton events entry ih =>
      obtain ⟨now, event⟩ := entry
      rw [run_snoc, noticesIn_append, List.countP_append, ih, noticesIn_step,
        countP_initialized_notices, initializedSent_step]
      cases (run events (ofConfig config)).1.initializedSent <;> simp

theorem exists_initialized_of_sent (config : BackendConfig) (events : List (Nat × SessionEvent))
    (hsent : (run events (ofConfig config)).1.initializedSent = true) :
    ∃ told ∈ noticesIn (run events (ofConfig config)).2, told.tells "initialized" = true := by
  rw [← List.countP_pos_iff, countP_initialized_run, if_pos hsent]
  exact Nat.one_pos

/-- Within a step, what has to wait comes behind as well. -/
theorem initialized_before_of_notices (hlate : Late session) {event : SessionEvent}
    {before after : List Notice} {notice : Notice}
    (hsplit : session.notices event = before ++ notice :: after) (hwaits : notice.waits) :
    session.initializedSent = true ∨ ∃ told ∈ before, told.tells "initialized" = true := by
  cases hattachment : session.attachment? event with
  | none =>
      have hmem : notice ∈ session.notices event := by
        rw [hsplit]
        exact List.mem_append_right _ List.mem_cons_self
      obtain ⟨-, houtput, hstopped⟩ := tells_of_unattached hattachment hmem
      rcases hwaits with hstop | hline
      · obtain ⟨id, stage, hactivity⟩ := hstopped hstop
        exact .inl (hlate.polls id stage hactivity)
      · rw [houtput] at hline
        cases hline
  | some attachment =>
      cases hsent : session.initializedSent with
      | true => exact .inl rfl
      | false =>
          right
          rw [notices_of_attachment hattachment, hsent, if_neg Bool.false_ne_true,
            List.singleton_append] at hsplit
          cases before with
          | nil =>
              obtain ⟨rfl, -⟩ := List.cons.inj hsplit
              rcases hwaits with hstop | hline
              · cases hstop
              · cases hline
          | cons first before =>
              obtain ⟨rfl, -⟩ := List.cons.inj hsplit
              exact ⟨_, List.mem_cons_self, rfl⟩

theorem inOrder_run (config : BackendConfig) (events : List (Nat × SessionEvent)) :
    InOrder (noticesIn (run events (ofConfig config)).2) := by
  induction events using List.reverseRecOn with
  | nil =>
      intro before notice after hsplit
      exact absurd hsplit.symm (by simp [run])
  | append_singleton events entry ih =>
      rw [run_snoc, noticesIn_append, noticesIn_step]
      refine ih.append fun before notice after hsplit hwaits => ?_
      rcases initialized_before_of_notices (late_run config events) hsplit hwaits with
        hsent | ⟨told, htold, htells⟩
      · obtain ⟨told, htold, htells⟩ := exists_initialized_of_sent config events hsent
        exact ⟨told, List.mem_append_left _ htold, htells⟩
      · exact ⟨told, List.mem_append_right _ htold, htells⟩

end Order

/-! ## The answer to the launch -/

/-- What came of the command that follows an attach. -/
def attachResult? (session : Session) : SessionEvent → Option Bool
  | .outcome id outcome =>
    match session.activity? id with
    | some (.attach _ (.resuming _ suffix mode)) =>
      some (BackendClient.accepted (.setResumeMode suffix mode) outcome).isOk
    | _ => none
  | _ => none

/-- How the commands fared that followed the attaches of a run, in the order of their outcomes. -/
def attachResults : List (Nat × SessionEvent) → Session → List Bool :=
  journal fun session _ event => (session.attachResult? event).toList

theorem attachResults_append (first second : List (Nat × SessionEvent)) (session : Session) :
    attachResults (first ++ second) session =
      attachResults first session ++ attachResults second (run first session).1 :=
  journal_append first second session

section Answer

variable {config : BackendConfig} {session : Session} {event : SessionEvent}

theorem attachResult?_eq_some {success : Bool}
    (hresult : session.attachResult? event = some success) :
    ∃ id outcome thread name suffix mode, event = .outcome id outcome ∧
      session.activity? id = some (.attach thread (.resuming name suffix mode)) ∧
      success = (BackendClient.accepted (.setResumeMode suffix mode) outcome).isOk := by
  cases event with
  | outcome id outcome =>
      simp only [attachResult?] at hresult
      split at hresult
      · next thread name suffix mode hactivity =>
          exact ⟨id, outcome, thread, name, suffix, mode, rfl, hactivity,
            (Option.some.inj hresult).symm⟩
      · cases hresult
  | request request => cases hresult
  | shutdown => cases hresult
  | release => cases hresult
  | wake id => cases hresult

theorem isSome_attachResult? (session : Session) (event : SessionEvent) :
    (session.attachResult? event).isSome = session.completesAttach event := by
  cases event with
  | outcome id outcome =>
      simp only [attachResult?, completesAttach]
      cases session.activity? id with
      | none => rfl
      | some activity =>
          cases activity with
          | attach thread stage => cases stage <;> rfl
          | _ => rfl
  | request request => rfl
  | shutdown => rfl
  | release => rfl
  | wake id => rfl

/-- A result of an attach is told to the launch that still waits. -/
theorem notices_of_attachResult {success : Bool}
    (hresult : session.attachResult? event = some success) :
    session.notices event = session.pendingLaunch?.toList.map fun request =>
      .reply (request.reply success) := by
  obtain ⟨id, outcome, thread, name, suffix, mode, rfl, hactivity, rfl⟩ :=
    attachResult?_eq_some hresult
  simp only [notices, hactivity, outcomeNotices]

/-- The launch waits for its answer until a first attach has its result. -/
structure LaunchWaits (results : List Bool) (session : Session) : Prop where
  none_before : session.launched = none → results = []
  waits : session.launched ≠ none → session.pendingLaunch?.isSome = results.isEmpty

theorem LaunchWaits.step {results : List Bool} (hwaits : LaunchWaits results session)
    (hidle : session.launched = none → session.completesAttach event = false) (now : Nat) :
    LaunchWaits (results ++ (session.attachResult? event).toList) (step now event session).1 := by
  have hnone : session.completesAttach event = false → session.attachResult? event = none := by
    intro hfalse
    rw [← Option.not_isSome_iff_eq_none, isSome_attachResult?, hfalse]
    exact Bool.false_ne_true
  rcases launched_step_cases session now event with
    ⟨request, arguments, serverPath, rfl, herrand, hafter⟩ | ⟨hcompletes, hafter⟩ |
    ⟨hcompletes, hafter⟩
  · -- The launch is accepted: nothing was attached before.
    have hresults := hwaits.none_before (launch_of_errand herrand).2.1
    constructor
    · intro hgone
      rw [hafter] at hgone
      cases hgone
    · intro _
      rw [pendingLaunch?, hafter, hresults]
      rfl
  · -- A first or later attach has its result.
    have hlaunched : session.launched ≠ none := by
      intro hgone
      rw [hidle hgone] at hcompletes
      cases hcompletes
    obtain ⟨launched, hlaunched⟩ := Option.ne_none_iff_exists'.mp hlaunched
    obtain ⟨success, hresult⟩ := Option.isSome_iff_exists.mp
      ((isSome_attachResult? session event).trans hcompletes)
    rw [hlaunched, Option.map_some] at hafter
    constructor
    · intro hgone
      rw [hafter] at hgone
      cases hgone
    · intro _
      rw [pendingLaunch?, hafter, hresult]
      cases results <;> rfl
  · rw [hnone hcompletes, Option.toList_none, List.append_nil]
    constructor
    · intro hgone
      exact hwaits.none_before (hafter.symm.trans hgone)
    · intro hsome
      rw [pendingLaunch?, hafter]
      exact hwaits.waits (hafter ▸ hsome)

theorem launchWaits_run (config : BackendConfig) (events : List (Nat × SessionEvent)) :
    LaunchWaits (attachResults events (ofConfig config)) (run events (ofConfig config)).1 := by
  induction events using List.reverseRecOn with
  | nil => exact ⟨fun _ => rfl, fun hsome => absurd rfl hsome⟩
  | append_singleton events entry ih =>
      rw [run_snoc, attachResults, journal_snoc]
      refine ih.step (fun hnone => ?_) entry.1
      have hidle := ((attachLedger_run config events).launched hnone).2
      cases hresult : (run events (ofConfig config)).1.attachResult? entry.2 with
      | none => rw [← isSome_attachResult?, hresult]; rfl
      | some success =>
          obtain ⟨id, outcome, thread, name, suffix, mode, -, hactivity, -⟩ :=
            attachResult?_eq_some hresult
          exact absurd rfl (hidle id _ thread hactivity)

end Answer

/-! ## The commands that follow -/

/-- The activity is one that attaches. -/
def attaches (session : Session) (id : Nat) : Bool :=
  match session.activity? id with
  | some (.attach _ _) => true
  | _ => false

/-- The commands that the attaching activities of a run send. -/
def entryCalls : List (Nat × SessionEvent) → Session → List ModeCall :=
  journal fun session now event =>
    (modeCallsIn (step now event session).2).filter fun call => session.attaches call.activity

section Entry

variable {session : Session} {event : SessionEvent}

/-- An attaching activity sends a command where it attaches. -/
theorem entryCalls_step (hwf : WellFormed session) (now : Nat) :
    (modeCallsIn (step now event session).2).filter (fun call => session.attaches call.activity) =
      (session.attachment? event).toList.filterMap session.entryCall? := by
  rw [modeCallsIn_step hwf]
  cases hattachment : session.attachment? event with
  | none =>
      simp only [modeCall?]
      split
      · split
        · next hactivity => simp [attaches, hactivity]
        · rfl
      · simp [hattachment]
  | some attachment =>
      obtain ⟨outcome, timer, suffix, rfl, hactivity, -⟩ := attachment?_eq_some hattachment
      simp only [modeCall?, hattachment, Option.bind_some]
      cases hcall : session.entryCall? attachment with
      | none => simp [hcall]
      | some call =>
          obtain ⟨address, -, rfl⟩ := Option.map_eq_some_iff.mp hcall
          simp [hcall, attaches, hactivity]

end Entry

/-! ## All of it -/

/-- A context is attached to for the launch of the run, upon a reply of its own that names its
resource and the place of it. -/
structure Started (config : BackendConfig) (events : List (Nat × SessionEvent))
    (attachment : Attachment) : Prop where
  replied : ∃ earlier now outcome later timer context,
    events = earlier ++ (now, .outcome attachment.activity outcome) :: later ∧
    (run earlier (ofConfig config)).1.activity? attachment.activity =
      some (.attach attachment.thread (.asking timer context.suffix)) ∧
    (ofConfig config).contexts.get? attachment.thread = some context ∧
    BackendClient.info context.suffix outcome = .ok attachment.info
  named : ∃ name path, attachment.info.name = some name ∧ name ≠ "" ∧
    attachment.info.path = some path ∧ path ≠ ""
  launched : ∃ launch : AcceptedLaunch config events,
    attachment.launched.serverPath = launch.serverPath ∧
    attachment.launched.entryMode = if launch.arguments.stopOnEntry then .stepInto else .resume

/-- How a run attaches to its contexts. -/
structure AttachProtocol (config : BackendConfig) (events : List (Nat × SessionEvent)) : Prop where
  started : ∀ attachment ∈ attachments events (ofConfig config), Started config events attachment
  /-- Each context is attached to at most once. -/
  once : ((attachments events (ofConfig config)).map (·.thread)).Nodup
  /-- The console gets one line for each attachment, and no other. -/
  told : (noticesIn (run events (ofConfig config)).2).filter (Notice.tells "output") =
    (attachments events (ofConfig config)).map fun attachment =>
      ((ofConfig config).attachmentEvent attachment).notice
  /-- Each attachment is followed by one command to its context, in the mode of the launch; the
  attaching activities send no other. -/
  entered : (entryCalls events (ofConfig config)).map some =
    (attachments events (ofConfig config)).map (ofConfig config).entryCall?
  /-- No two pollers ever have different numbers, nor is one started after another. -/
  onePoller : ∃ poller, ∀ earlier now event later, events = earlier ++ (now, event) :: later →
    ∀ id stage, (react now event (run earlier (ofConfig config)).1).1.activity? id =
      some (.poll stage) → id = poller
  initializedOnce :
    (noticesIn (run events (ofConfig config)).2).countP (Notice.tells "initialized") ≤ 1
  initializedFirst : InOrder (noticesIn (run events (ofConfig config)).2)
  /-- The first attach with a result answers the launch, after the session is initialized, and no
  later one answers anything. -/
  answered : ∀ earlier now event later success, events = earlier ++ (now, event) :: later →
    (run earlier (ofConfig config)).1.attachResult? event = some success →
    (∃ told ∈ noticesIn (run earlier (ofConfig config)).2, told.tells "initialized" = true) ∧
    ∃ launch : AcceptedLaunch config earlier,
      noticesIn (step now event (run earlier (ofConfig config)).1).2 =
        if attachResults earlier (ofConfig config) = [] then
          [.reply (launch.request.reply success)]
        else []
  /-- Paths are those of the first attachment. -/
  paths : (run events (ofConfig config)).1.paths =
    (attachments events (ofConfig config)).head?.map (Attachment.directories config)
  resourceName : (run events (ofConfig config)).1.resourceName =
    (attachments events (ofConfig config)).head?.bind (·.info.name)
  /-- They never change afterwards. -/
  kept : ∀ earlier later, events = earlier ++ later →
    attachments earlier (ofConfig config) ≠ [] →
    (run events (ofConfig config)).1.paths = (run earlier (ofConfig config)).1.paths ∧
      (run events (ofConfig config)).1.resourceName = (run earlier (ofConfig config)).1.resourceName

section Protocol

variable {config : BackendConfig} {events : List (Nat × SessionEvent)}

/-- A launch of a run is one of every longer run. -/
def AcceptedLaunch.append (launch : AcceptedLaunch config events)
    (later : List (Nat × SessionEvent)) : AcceptedLaunch config (events ++ later) where
  earlier := launch.earlier
  now := launch.now
  request := launch.request
  later := launch.later ++ later
  arguments := launch.arguments
  serverPath := launch.serverPath
  split := by
    conv => lhs; rw [launch.split]
    rw [List.append_assoc]
    rfl
  accepted := launch.accepted

theorem exists_filled {field : Option String} (hfilled : ResourceInfo.filled field = true) :
    ∃ text, field = some text ∧ text ≠ "" := by
  cases field with
  | none => cases hfilled
  | some text => exact ⟨text, rfl, by simpa [ResourceInfo.filled] using hfilled⟩

theorem started_of_mem {attachment : Attachment}
    (hattachment : attachment ∈ attachments events (ofConfig config)) :
    Started config events attachment := by
  obtain ⟨earlier, now, event, later, rfl, hshown⟩ := exists_of_mem_journal hattachment
  rw [Option.mem_toList] at hshown
  obtain ⟨outcome, timer, suffix, rfl, hactivity, hlaunched, hreply, hstarted⟩ :=
    attachment?_eq_some hshown
  have haddress : ((ofConfig config).contexts.address? attachment.thread).map (·.suffix) =
      some suffix := by
    rw [← address?_run (WellFormed.ofConfig config) earlier]
    exact allAddressed_run config earlier _ _ hactivity
  rw [Contexts.address?, Option.map_map, Option.map_eq_some_iff] at haddress
  obtain ⟨context, hget, rfl⟩ := haddress
  obtain ⟨hname, hpath⟩ := Bool.and_eq_true_iff.mp hstarted
  obtain ⟨name, hname, hnameFilled⟩ := exists_filled hname
  obtain ⟨path, hpath, hpathFilled⟩ := exists_filled hpath
  refine ⟨⟨earlier, now, outcome, later, timer, context, rfl, hactivity, hget, hreply⟩,
    ⟨name, path, hname, hnameFilled, hpath, hpathFilled⟩, ?_⟩
  rcases launched_run config earlier with ⟨-, hidle⟩ | ⟨launch, launched, hlaunch⟩
  · exact absurd rfl (hidle _ _ _ hactivity)
  · obtain rfl : launched = attachment.launched :=
      Option.some.inj (hlaunch.found.symm.trans hlaunched)
    exact ⟨launch.append _, hlaunch.serverPath, hlaunch.entryMode⟩

/-- The addresses of a run are those of its beginning. -/
theorem entryCall?_run (config : BackendConfig) (events : List (Nat × SessionEvent))
    (attachment : Attachment) :
    (run events (ofConfig config)).1.entryCall? attachment =
      (ofConfig config).entryCall? attachment := by
  rw [entryCall?, address?_run (WellFormed.ofConfig config), entryCall?]

theorem attachmentEvent_run (config : BackendConfig) (events : List (Nat × SessionEvent))
    (attachment : Attachment) :
    (run events (ofConfig config)).1.attachmentEvent attachment =
      (ofConfig config).attachmentEvent attachment := by
  rw [attachmentEvent, contextName_eq, address?_run (WellFormed.ofConfig config), attachmentEvent,
    contextName_eq]

theorem resourceName_run (config : BackendConfig) (events : List (Nat × SessionEvent)) :
    (run events (ofConfig config)).1.resourceName =
      (attachments events (ofConfig config)).head?.bind (·.info.name) := by
  rw [(settled_run config events).resourceName]
  cases hfirst : (attachments events (ofConfig config)).head? with
  | none => rfl
  | some attachment =>
      obtain ⟨name, -, hname, -⟩ := (started_of_mem (List.mem_of_head? hfirst)).named
      simp [hname]

theorem told_run (config : BackendConfig) (events : List (Nat × SessionEvent)) :
    (noticesIn (run events (ofConfig config)).2).filter (Notice.tells "output") =
      (attachments events (ofConfig config)).map fun attachment =>
        ((ofConfig config).attachmentEvent attachment).notice := by
  rw [noticesIn_run, attachments,
    apply_journal rfl (fun first second => List.filter_append first second),
    apply_journal rfl (fun first second => List.map_append)]
  refine journal_congr fun earlier now event later hsplit => ?_
  simp only [outputs_of_notices, attachmentEvent_run]

theorem entered_run (config : BackendConfig) (events : List (Nat × SessionEvent)) :
    (entryCalls events (ofConfig config)).map some =
      (attachments events (ofConfig config)).map (ofConfig config).entryCall? := by
  rw [entryCalls, attachments, apply_journal rfl (fun first second => List.map_append),
    apply_journal rfl (fun first second => List.map_append)]
  refine journal_congr fun earlier now event later hsplit => ?_
  have hwf := wellFormed_run (WellFormed.ofConfig config) earlier
  rw [entryCalls_step hwf]
  cases hattachment : (run earlier (ofConfig config)).1.attachment? event with
  | none => rfl
  | some attachment =>
      obtain ⟨context, hget⟩ : ∃ context, (ofConfig config).contexts.get? attachment.thread =
          some context := by
        have hmem : attachment ∈ attachments events (ofConfig config) := by
          rw [hsplit, attachments_append]
          exact List.mem_append_right _ (List.mem_append_left _ (by simp [hattachment]))
        obtain ⟨earlier, now, outcome, later, timer, context, -, -, hget, -⟩ :=
          (started_of_mem hmem).replied
        exact ⟨context, hget⟩
      have hcall : (ofConfig config).entryCall? attachment = some
          { activity := attachment.activity, suffix := context.suffix,
            mode := attachment.launched.entryMode } := by
        rw [entryCall?, Contexts.address?_of_get? hget]
        rfl
      simp [entryCall?_run, hcall]

theorem answered_run (config : BackendConfig) (earlier : List (Nat × SessionEvent)) (now : Nat)
    {event : SessionEvent} {success : Bool}
    (hresult : (run earlier (ofConfig config)).1.attachResult? event = some success) :
    (∃ told ∈ noticesIn (run earlier (ofConfig config)).2, told.tells "initialized" = true) ∧
      ∃ launch : AcceptedLaunch config earlier,
        noticesIn (step now event (run earlier (ofConfig config)).1).2 =
          if attachResults earlier (ofConfig config) = [] then
            [.reply (launch.request.reply success)]
          else [] := by
  obtain ⟨id, outcome, thread, name, suffix, mode, rfl, hactivity, -⟩ :=
    attachResult?_eq_some hresult
  refine ⟨exists_initialized_of_sent config earlier
    ((late_run config earlier).resumes id thread name suffix mode hactivity), ?_⟩
  rcases launched_run config earlier with ⟨-, hidle⟩ | ⟨launch, launched, hlaunch⟩
  · exact absurd rfl (hidle id _ thread hactivity)
  · refine ⟨launch, ?_⟩
    have hwaits := (launchWaits_run config earlier).waits (by simp [hlaunch.found])
    rw [noticesIn_step, notices_of_attachResult hresult]
    have hpending : (run earlier (ofConfig config)).1.pendingLaunch? = launched.pending := by
      rw [pendingLaunch?, hlaunch.found]
      rfl
    rw [hpending] at hwaits ⊢
    cases hresults : attachResults earlier (ofConfig config) with
    | nil =>
        rw [hresults] at hwaits
        rcases hlaunch.pending with hnone | hsome
        · rw [hnone] at hwaits
          cases hwaits
        · rw [hsome, if_pos rfl]
          rfl
    | cons first rest =>
        rw [hresults] at hwaits
        have hnone : launched.pending = none := by
          rw [← Option.not_isSome_iff_eq_none, hwaits]
          exact Bool.false_ne_true
        rw [hnone, if_neg (List.cons_ne_nil first rest)]
        rfl

/-- In every run, in whatever order the contexts report and acknowledge, attaching keeps to its
protocol. -/
theorem attach_protocol (config : BackendConfig) (events : List (Nat × SessionEvent)) :
    AttachProtocol config events where
  started attachment hattachment := started_of_mem hattachment
  once := (attachLedger_run config events).once
  told := told_run config events
  entered := entered_run config events
  onePoller := by
    obtain ⟨started, -, hstarted⟩ := one_poller_run config events
    refine ⟨started.getD 0, fun earlier now event later hsplit id stage hactivity => ?_⟩
    rw [hstarted earlier now event later hsplit id stage hactivity]
    rfl
  initializedOnce := by
    rw [countP_initialized_run]
    split <;> decide
  initializedFirst := inOrder_run config events
  answered earlier now event later success hsplit hresult := answered_run config earlier now hresult
  paths := (settled_run config events).paths
  resourceName := resourceName_run config events
  kept := by
    rintro earlier later rfl hattached
    have hbefore := settled_run config earlier
    have hafter := settled_run config (earlier ++ later)
    have hhead : (attachments (earlier ++ later) (ofConfig config)).head? =
        (attachments earlier (ofConfig config)).head? := by
      rw [attachments_append, List.head?_append_of_ne_nil _ hattached]
    rw [hafter.paths, hafter.resourceName, hbefore.paths, hbefore.resourceName, hhead]
    exact ⟨rfl, rfl⟩

/-- A launch whose resource has started attaches to the one context there is. -/
example : (attachments launchedRun (ofConfig { contexts := .single })).map (·.thread) =
    [serverThread] := by
  decide +kernel

end Protocol

end Session

end DebugBridge
