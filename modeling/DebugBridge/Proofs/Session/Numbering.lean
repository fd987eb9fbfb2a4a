import DebugBridge.Proofs.Session.Inquiries

/-!
# The numbers of messages

Responses and events of all activities share one counter: over a run, the messages that a session
sends are numbered from one on, without a gap and in the order in which they are sent.
-/

namespace DebugBridge

/-- Messages under the numbers from `seq` on. -/
def inSequence : (seq : Int) → List Message → List Json
  | _, [] => []
  | seq, message :: rest => message.toJson seq :: inSequence (seq + 1) rest

theorem inSequence_append (seq : Int) (first second : List Message) :
    inSequence seq (first ++ second) =
      inSequence seq first ++ inSequence (seq + first.length) second := by
  induction first generalizing seq with
  | nil => simp [inSequence]
  | cons message first ih =>
      have hnext : seq + 1 + (first.length : Int) = seq + ((message :: first).length : Int) := by
        simp only [List.length_cons]
        omega
      rw [List.cons_append, inSequence, inSequence, ih, hnext, List.cons_append]

/-- The number that a message bears. -/
def messageNumber? (message : Json) : Option Int :=
  match message.member? "seq" with
  | some (.number (.int seq)) => some seq
  | _ => none

theorem messageNumber?_toJson (message : Message) (seq : Int) :
    messageNumber? (message.toJson seq) = some seq := by
  cases message with
  | response reply =>
      obtain ⟨requestSeq, command, success, text, body⟩ := reply
      cases text <;> cases body <;>
        simp [messageNumber?, Message.toJson, Message.optionalMember, Json.sortMembers, Json.int]
  | event happening =>
      obtain ⟨name, body⟩ := happening
      cases body <;>
        simp [messageNumber?, Message.toJson, Message.optionalMember, Json.sortMembers, Json.int]

/-- The numbers go up one by one. -/
theorem map_messageNumber?_inSequence (start : Nat) (messages : List Message) :
    (inSequence start messages).map messageNumber? =
      (List.range' start messages.length).map fun number : Nat => some (number : Int) := by
  induction messages generalizing start with
  | nil => rfl
  | cons message messages ih =>
      have hnext : (start : Int) + 1 = ((start + 1 : Nat) : Int) := rfl
      rw [inSequence, List.map_cons, messageNumber?_toJson, hnext, ih, List.length_cons,
        List.range'_succ, List.map_cons]

namespace Session

/-- The messages among the effects bear the numbers from `seq` on, and the counter stands behind
them. -/
def Numbered (seq : Int) (out : Session × List Effect) : Prop :=
  ∃ messages : List Message, messagesIn out.2 = inSequence seq messages ∧
    out.1.outbox.nextSeq = seq + messages.length

/-- The turn numbers its messages, whatever the session. -/
def Numbers (turn : Turn) : Prop :=
  ∀ session, Numbered session.outbox.nextSeq (turn session)

/-! ## Turns -/

section Turns

theorem Numbered.silent {session : Session} {effects : List Effect}
    (hsilent : messagesIn effects = []) : Numbered session.outbox.nextSeq (session, effects) :=
  ⟨[], hsilent, by simp⟩

theorem Numbers.andThen {first second : Turn} (hfirst : Numbers first) (hsecond : Numbers second) :
    Numbers (first.andThen second) := by
  intro session
  obtain ⟨messages, hmessages, hseq⟩ := hfirst session
  obtain ⟨others, hothers, hlast⟩ := hsecond (first session).1
  refine ⟨messages ++ others, ?_, ?_⟩
  · rw [Turn.andThen_snd, messagesIn_append, hmessages, hothers, hseq, inSequence_append]
  · rw [Turn.andThen_fst, hlast, hseq, List.length_append, Int.natCast_add, Int.add_assoc]

theorem numbers_idle : Numbers Turn.idle := fun _ => .silent rfl

theorem numbers_all {turns : List Turn} (hturns : ∀ turn ∈ turns, Numbers turn) :
    Numbers (Turn.all turns) := by
  induction turns with
  | nil => exact numbers_idle
  | cons turn turns ih =>
      obtain ⟨hturn, hmore⟩ := List.forall_mem_cons.mp hturns
      exact hturn.andThen (ih hmore)

theorem numbers_change {change : Session → Session}
    (houtbox : ∀ session, (change session).outbox.nextSeq = session.outbox.nextSeq) :
    Numbers (.change change) :=
  fun session => ⟨[], rfl, by simpa using houtbox session⟩

theorem numbers_effect {effect : Effect} (hsilent : messagesIn [effect] = []) :
    Numbers (.effect effect) := fun _ => .silent hsilent

/-- What is sent takes the next number. -/
theorem numbers_send (message : Message) : Numbers (send message) :=
  fun session => ⟨[message], messagesIn_send message session, rfl⟩

theorem numbers_log (level : LogLevel) (message : String) (fields : List (String × LogValue)) :
    Numbers (log level message fields) := numbers_effect rfl

theorem numbers_respond (request : Request) (body : Option Json) :
    Numbers (respond request body) := numbers_send _

theorem numbers_respondFailure (request : Request) (message : String) :
    Numbers (respondFailure request message) := numbers_send _

theorem numbers_emit (name : String) (body : Option Json) : Numbers (emit name body) :=
  numbers_send _

theorem numbers_spawn (activity : Activity) : Numbers (spawn activity) := fun _ => ⟨[], rfl, by
  simp [spawn]⟩

theorem numbers_put (id : Nat) (activity : Activity) : Numbers (put id activity) :=
  numbers_change fun _ => rfl

theorem numbers_await (id : Nat) (activity : Activity) (call : BackendCall) :
    Numbers (await id activity call) := (numbers_put id activity).andThen (numbers_effect rfl)

theorem numbers_sleep (id : Nat) (activity : Activity) (deadline : Nat) :
    Numbers (sleep id activity deadline) := (numbers_put id activity).andThen (numbers_effect rfl)

theorem numbers_finish (id : Nat) : Numbers (finish id) := numbers_change fun _ => rfl

theorem numbers_cancel (isMeant : Activity → Bool) : Numbers (cancel isMeant) := by
  refine fun session => ⟨[], ?_, by simp [cancel]⟩
  rw [messagesIn, cancel, inSequence, List.filterMap_eq_nil_iff]
  intro effect heffect
  obtain ⟨entry, -, rfl⟩ := List.mem_map.mp heffect
  rfl

theorem numbers_shutdown : Numbers shutdown :=
  Numbers.andThen (numbers_change fun _ => rfl) (numbers_cancel _)

theorem numbers_reap : Numbers reap := by
  intro session
  unfold reap
  split
  · exact numbers_idle session
  · exact numbers_cancel _ session

theorem numbers_spawns (fresh : List Activity) : Numbers (Turn.all (fresh.map spawn)) := by
  apply numbers_all
  intro turn hturn
  obtain ⟨activity, -, rfl⟩ := List.mem_map.mp hturn
  exact numbers_spawn activity

end Turns

/-! ## Requests -/

section Requests

variable {session : Session} {request : Request} {out : Session × List Effect}

theorem numbers_spawnAttaches : Numbers spawnAttaches := by
  intro session
  unfold spawnAttaches
  split
  · exact numbers_idle session
  · have hall := numbers_spawns (session.contexts.contexts.map fun context =>
      .attach context.thread .starting) session
    rw [List.map_map] at hall
    exact hall

theorem numbered_launch (hout : launch request session = .ok out) :
    Numbered session.outbox.nextSeq out := by
  rcases launch_eq request session with ⟨arguments, serverPath, -, -, -, haccepted⟩ |
      ⟨-, fault, hrefused⟩
  · rw [haccepted] at hout
    cases hout
    refine numbers_all ?_ session
    simp only [List.forall_mem_cons, List.not_mem_nil, false_implies, implies_true, and_true]
    exact ⟨numbers_change fun _ => rfl, numbers_change fun _ => rfl, numbers_log _ _ _,
      numbers_spawnAttaches⟩
  · rw [hrefused] at hout
    cases hout

theorem numbered_setBreakpoints (hout : setBreakpoints request session = .ok out) :
    Numbered session.outbox.nextSeq out := by
  obtain ⟨arguments, -, hout⟩ := bind_eq_ok.mp hout
  obtain ⟨path, -, hout⟩ := bind_eq_ok.mp hout
  cases hout
  refine numbers_all ?_ session
  simp only [List.forall_mem_cons, List.not_mem_nil, false_implies, implies_true, and_true]
  refine ⟨numbers_change fun _ => rfl, numbers_respond _ _, ?_⟩
  split
  · exact numbers_spawn _
  · exact numbers_log _ _ _

theorem numbered_resume {mode : ResumeMode} (hout : resume mode request session = .ok out) :
    Numbered session.outbox.nextSeq out := by
  rcases resume_eq mode request session with ⟨thread, context, -, -, haccepted⟩ |
      ⟨-, fault, hrefused⟩
  · rw [haccepted] at hout
    cases hout
    refine numbers_all ?_ session
    simp only [List.forall_mem_cons, List.not_mem_nil, false_implies, implies_true, and_true]
    exact ⟨numbers_change fun _ => rfl, numbers_log _ _ _, numbers_spawn _⟩
  · rw [hrefused] at hout
    cases hout

/-- A response for a session that differs only in what it remembers. -/
theorem numbered_respond {changed : Session} (body : Option Json)
    (hseq : changed.outbox.nextSeq = session.outbox.nextSeq) :
    Numbered session.outbox.nextSeq (respond request body changed) :=
  hseq ▸ numbers_respond request body changed

theorem numbered_stackTrace (hout : stackTrace request session = .ok out) :
    Numbered session.outbox.nextSeq out := by
  obtain ⟨arguments, -, hout⟩ := bind_eq_ok.mp hout
  obtain ⟨thread, -, hout⟩ := bind_eq_ok.mp hout
  split at hout
  · cases hout
  · cases hout
    exact numbered_respond _ rfl

theorem numbered_listVariables (hout : listVariables request session = .ok out) :
    Numbered session.outbox.nextSeq out := by
  obtain ⟨arguments, -, hout⟩ := bind_eq_ok.mp hout
  obtain ⟨reference, -, hout⟩ := bind_eq_ok.mp hout
  split at hout
  · cases hout
  · cases hout
    exact numbered_respond _ rfl

theorem numbered_terminate (hout : terminate request session = .ok out) :
    Numbered session.outbox.nextSeq out := by
  cases hout
  refine numbers_all ?_ session
  simp only [List.forall_mem_cons, List.not_mem_nil, false_implies, implies_true, and_true]
  exact ⟨numbers_shutdown, numbers_respond _ _, numbers_emit _ _⟩

theorem numbered_handler {command : String} (hout : handler command request session = .ok out) :
    Numbered session.outbox.nextSeq out := by
  unfold handler at hout
  split at hout
  · obtain ⟨arguments, -, hout⟩ := bind_eq_ok.mp hout
    cases hout
    exact numbered_respond _ rfl
  · exact numbered_launch hout
  · cases hout
    exact numbered_respond _ rfl
  · rcases restart_eq request session with ⟨resource, -, haccepted⟩ | ⟨-, fault, hrefused⟩
    · rw [haccepted] at hout
      cases hout
      exact numbers_spawn _ session
    · rw [hrefused] at hout
      cases hout
  · exact numbered_setBreakpoints hout
  · cases hout
    exact numbered_respond _ rfl
  · exact numbered_stackTrace hout
  · obtain ⟨arguments, -, hout⟩ := bind_eq_ok.mp hout
    cases hout
    exact numbered_respond _ rfl
  · exact numbered_listVariables hout
  · exact numbered_resume hout
  · exact numbered_resume hout
  · exact numbered_resume hout
  · rcases evaluate_eq request session with ⟨expression, -, haccepted⟩ | ⟨-, fault, hrefused⟩
    · rw [haccepted] at hout
      cases hout
      exact numbers_spawn _ session
    · rw [hrefused] at hout
      cases hout
  · exact numbered_terminate hout
  · exact numbered_terminate hout
  · cases hout
    exact numbers_send _ session

theorem numbers_handle (request : Request) : Numbers (handle request) := by
  intro session
  unfold handle
  split
  · next out hout => exact numbered_handler hout
  · exact ((numbers_log _ _ _).andThen (numbers_respondFailure _ _)) session

end Requests

/-! ## Activities -/

section Activities

variable {id now : Nat}

theorem numbers_attachTick (thread : Int) (timer : Timer) :
    Numbers (attachTick id thread timer now) := by
  intro session
  unfold attachTick
  split
  · split
    · exact numbers_finish _ session
    · exact numbers_await _ _ _ session
  · exact numbers_sleep _ _ _ session

theorem numbers_startPolling : Numbers startPolling := by
  intro session
  unfold startPolling
  split
  · exact numbers_idle session
  · exact ((numbers_log _ _ _).andThen (numbers_spawn _)) session

theorem numbers_announceInitialized : Numbers announceInitialized := by
  intro session
  unfold announceInitialized
  split
  · exact numbers_idle session
  · exact numbers_emit _ _ { session with initializedSent := true }

theorem numbers_installPaths (launched : Launch) (resourceName resourcePath : String) :
    Numbers (installPaths launched resourceName resourcePath) := by
  refine numbers_change fun session => ?_
  split <;> rfl

theorem numbers_resumeAttached (thread : Int) (mode : ResumeMode) :
    Numbers (resumeAttached id thread mode) := by
  intro session
  unfold resumeAttached
  split
  · exact numbers_finish _ session
  · next suffix contexts hbegun => exact numbers_await _ _ _ { session with contexts }

theorem numbers_attach (thread : Int) (info : ResourceInfo) : Numbers (attach id thread info) := by
  intro session
  unfold attach
  split
  · exact numbers_finish _ session
  · refine numbers_all ?_ session
    simp only [List.forall_mem_cons, List.not_mem_nil, false_implies, implies_true, and_true]
    refine ⟨numbers_installPaths _ _ _, numbers_log _ _ _, numbers_startPolling,
      numbers_announceInitialized, numbers_send _, ?_, numbers_resumeAttached _ _⟩
    split
    · exact numbers_idle
    · exact numbers_spawn _

theorem numbers_attachInfo (thread : Int) (timer : Timer)
    (reply : Except BackendFault ResourceInfo) :
    Numbers (attachInfo id thread timer now reply) := by
  cases reply with
  | ok info =>
      rw [attachInfo]
      split
      · exact numbers_attach thread info
      · exact (numbers_log _ _ _).andThen (numbers_attachTick thread timer)
  | error fault =>
      rw [attachInfo]
      refine Numbers.andThen ?_ (numbers_attachTick thread timer)
      split
      · exact numbers_log _ _ _
      · exact numbers_log _ _ _

theorem numbers_endCommand (thread : Int) : Numbers (endCommand thread) :=
  numbers_change fun _ => rfl

theorem numbers_answerLaunch (thread : Int) (name : String) (result : Except BackendFault Unit) :
    Numbers (answerLaunch thread name result) := by
  intro session
  have houtbox : session.takePending.2.outbox = session.outbox := by
    unfold takePending
    split <;> rfl
  unfold answerLaunch
  rw [← houtbox]
  generalize session.takePending = taken
  obtain ⟨pending, base⟩ := taken
  cases result with
  | ok _ =>
      cases pending with
      | none => exact numbers_idle base
      | some request => exact numbers_respond _ _ base
  | error fault =>
      cases pending with
      | none => exact numbers_log _ _ _ base
      | some request => exact ((numbers_log _ _ _).andThen (numbers_respondFailure _ _)) base

theorem numbers_pollTick (timer : Timer) : Numbers (pollTick id timer now) := by
  intro session
  unfold pollTick
  split
  · split
    · exact numbers_await _ _ _ session
    · exact numbers_sleep _ _ _ session
  · exact numbers_sleep _ _ _ session

theorem numbers_pollNext (timer : Timer) (others : List PlannedPoll) :
    Numbers (pollNext id timer now others) := by
  cases others with
  | nil => exact numbers_pollTick timer
  | cons target others => exact numbers_await _ _ _

theorem numbers_pollState (target : PlannedPoll) (reply : Except BackendFault RunState) :
    Numbers (pollState target reply) := by
  cases reply with
  | error fault => exact numbers_log _ _ _
  | ok state =>
      intro session
      simp only [pollState]
      split
      · exact ((numbers_log _ _ _).andThen (numbers_emit _ _))
          { session with contexts := (session.contexts.applyPoll target state).2 }
      · exact numbers_change (fun _ => rfl) session

theorem numbers_endSync : Numbers (endSync id) := by
  refine (numbers_finish id).andThen fun session => ?_
  split
  · exact numbers_change (fun _ => rfl) session
  · next first others hqueue =>
      exact Numbers.andThen (numbers_put _ _) (numbers_effect rfl)
        { session with syncTurn := some first, syncQueue := others }

theorem numbers_beginSync : Numbers (beginSync id) := by
  intro session
  unfold beginSync
  split
  · exact numbers_endSync session
  · exact numbers_await _ _ _ session

theorem numbers_startSync : Numbers (startSync id) := by
  intro session
  unfold startSync
  split
  · exact numbers_beginSync { session with syncTurn := some id }
  · exact numbers_put _ _ { session with syncQueue := session.syncQueue ++ [id] }

theorem numbers_syncNext (plan : SyncPlan) : Numbers (syncNext id plan) := by
  unfold syncNext
  split
  · exact numbers_await _ _ _
  · exact (numbers_log _ _ _).andThen numbers_endSync

theorem numbers_evaluateTick (request : Request) (expression : String) (deadline : Nat) :
    Numbers (evaluateTick id request expression deadline now) := by
  unfold evaluateTick
  split
  · exact numbers_await _ _ _
  · exact numbers_sleep _ _ _

theorem numbers_wakeActivity (base : Session) (activity : Activity) :
    Numbers (wakeActivity now id base activity) := by
  unfold wakeActivity
  split
  · exact numbers_attachTick _ _
  · exact numbers_attachTick _ _
  · exact numbers_pollTick _
  · exact numbers_pollTick _
  · exact numbers_startSync
  · exact numbers_beginSync
  · exact numbers_await _ _ _
  · exact numbers_await _ _ _
  · exact numbers_evaluateTick _ _ _
  · exact numbers_await _ _ _
  · exact numbers_idle

theorem numbers_answerResume (request : Request) (thread : Int) (mode : ResumeMode)
    (result : Except BackendFault Unit) : Numbers (answerResume request thread mode result) := by
  cases result with
  | ok _ => exact numbers_respond _ _
  | error fault => exact (numbers_log _ _ _).andThen (numbers_respondFailure _ _)

theorem numbers_answerRestart (request : Request) (result : Except BackendFault Unit) :
    Numbers (answerRestart request result) := by
  cases result with
  | ok _ => exact numbers_respond _ _
  | error fault => exact (numbers_log _ _ _).andThen (numbers_respondFailure _ _)

theorem numbers_answerEvaluate (request : Request) (result : Except BackendFault String) :
    Numbers (answerEvaluate request result) := by
  cases result with
  | ok text => exact numbers_respond _ _
  | error fault => exact numbers_log _ _ _

theorem numbers_evaluateSubmitted (request : Request) (expression : String)
    (result : Except BackendFault Unit) :
    Numbers (evaluateSubmitted id request expression now result) := by
  refine Numbers.andThen ?_ fun session => numbers_evaluateTick _ _ _ session
  cases result with
  | ok _ => exact numbers_idle
  | error fault => exact numbers_log _ _ _

theorem numbers_outcomeActivity (outcome : Outcome) (activity : Activity) :
    Numbers (outcomeActivity now id outcome activity) := by
  unfold outcomeActivity
  split
  · exact numbers_attachInfo _ _ _
  · apply numbers_all
    simp only [List.forall_mem_cons, List.not_mem_nil, false_implies, implies_true, and_true]
    exact ⟨numbers_endCommand _, numbers_answerLaunch _ _ _, numbers_finish _⟩
  · exact (numbers_pollState _ _).andThen (numbers_pollNext _ _)
  · unfold syncCleared
    split
    · exact numbers_syncNext _
    · exact (numbers_log _ _ _).andThen numbers_endSync
  · unfold syncSet
    split
    · exact numbers_syncNext _
    · exact (numbers_log _ _ _).andThen (numbers_syncNext _)
  · apply numbers_all
    simp only [List.forall_mem_cons, List.not_mem_nil, false_implies, implies_true, and_true]
    exact ⟨numbers_endCommand _, numbers_answerResume _ _ _ _, numbers_finish _⟩
  · exact numbers_evaluateSubmitted _ _ _
  · exact (numbers_answerEvaluate _ _).andThen (numbers_finish _)
  · exact (numbers_answerRestart _ _).andThen (numbers_finish _)
  · exact numbers_idle

end Activities

/-! ## Steps and runs -/

theorem numbers_step (now : Nat) (event : SessionEvent) : Numbers (step now event) := by
  refine Numbers.andThen ?_ numbers_reap
  cases event with
  | request request => exact numbers_handle request
  | shutdown => exact numbers_shutdown
  | release => exact numbers_change fun _ => rfl
  | wake id =>
      intro session
      simp only [react, withActivity]
      split
      · exact numbers_wakeActivity _ _ session
      · exact numbers_idle session
  | outcome id outcome =>
      intro session
      simp only [react, withActivity]
      split
      · exact numbers_outcomeActivity _ _ session
      · exact numbers_idle session

theorem numbers_run (events : List (Nat × SessionEvent)) : Numbers (run events) := by
  induction events with
  | nil => exact numbers_idle
  | cons entry events ih => exact (numbers_step entry.1 entry.2).andThen ih

/-- Over a run, messages bear the numbers from one on. -/
theorem messageNumbers_run (config : BackendConfig) (events : List (Nat × SessionEvent)) :
    (messagesIn (run events (ofConfig config)).2).map messageNumber? =
      (List.range' 1 (messagesIn (run events (ofConfig config)).2).length).map
        fun number : Nat => some (number : Int) := by
  obtain ⟨messages, hmessages, -⟩ := numbers_run events (ofConfig config)
  have hlength : (inSequence (1 : Nat) messages).length = messages.length := by
    have hnumbers := congrArg List.length (map_messageNumber?_inSequence 1 messages)
    simpa using hnumbers
  have hfirst : messagesIn (run events (ofConfig config)).2 = inSequence (1 : Nat) messages :=
    hmessages
  rw [hfirst, map_messageNumber?_inSequence, hlength]

end Session

end DebugBridge
