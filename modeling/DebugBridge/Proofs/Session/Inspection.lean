import DebugBridge.Proofs.Session.AttachProtocol
import DebugBridge.Proofs.Session.Pauses

/-!
# What the editor inspects

At every point of every run, what the editor is shown of a thread is the reply that the last stop
of the thread came with: its place as a frame, and of its variables those of the scope asked for.
References to scopes are never taken back and never given twice.
-/

namespace DebugBridge

/-- The name and the reference of a scope, as they stand in a message. -/
def listedScope? (item : Json) : Option (String × Int) :=
  match item.member? "name", item.member? "variablesReference" with
  | some (.string name), some (.number (.int reference)) => some (name, reference)
  | _, _ => none

/-- The scopes that a message lists. -/
def listedScopes (message : Json) : List (String × Int) :=
  match (message.member? "body").bind (Json.member? "scopes") with
  | some (.array items) => items.filterMap listedScope?
  | _ => []

theorem listedScope?_scopeToJson (scope : Scope × Nat) :
    listedScope? (Session.scopeToJson scope) = some (scope.1.label, (scope.2 : Int)) := by
  simp [listedScope?, Session.scopeToJson, Json.sortMembers, Json.nat, Json.int]

/-- What a response carries is its member of this name. -/
theorem body_success (request : Request) (seq : Int) (body : Json) :
    ((Message.success request (some body)).toJson seq).member? "body" = some body := by
  simp [Message.success, Message.toJson, Message.optionalMember, Json.sortMembers]

theorem listedScopes_success (request : Request) (seq : Int) (scopes : List (Scope × Nat)) :
    listedScopes ((Message.success request (some (Session.scopesBody scopes))).toJson seq) =
      scopes.map fun scope => (scope.1.label, (scope.2 : Int)) := by
  have hscopes : (Session.scopesBody scopes).member? "scopes" =
      some (.array (scopes.map Session.scopeToJson)) := by
    simp [Session.scopesBody, Json.sortMembers]
  rw [listedScopes, body_success, Option.bind_some, hscopes]
  change (scopes.map Session.scopeToJson).filterMap listedScope? = _
  rw [List.filterMap_map, ← List.filterMap_eq_map]
  congr 1
  funext scope
  exact listedScope?_scopeToJson scope

theorem listedScopes_failure (request : Request) (seq : Int) (reason : String) :
    listedScopes ((Message.failure request reason).toJson seq) = [] := by
  have hbody : ((Message.failure request reason).toJson seq).member? "body" = none := by
    rw [Message.failure, Message.toJson, Json.member?_ofMembers, Json.lookup_sortMembers_eq_none]
    simp [Message.optionalMember]
  rw [listedScopes, hbody]
  rfl

namespace Session

/-! ## What the editor has asked to see -/

/-- The thread whose frames are asked for, by a request that is accepted. -/
def tracedThread? (session : Session) : SessionEvent → Option Int
  | .request request =>
    if request.command = "stackTrace" then session.resumedThread? request else none
  | _ => none

/-- The threads whose frames the editor got to see over a run. -/
def traced : List (Nat × SessionEvent) → Session → List Int :=
  journal fun session _ event => (session.tracedThread? event).toList

/-- The thread whose variables are shown: the last one whose frames the editor got to see, and
until then the first there is. -/
def currentThread (events : List (Nat × SessionEvent)) (session : Session) : Int :=
  (traced events session).getLast?.getD serverThread

/-- The frame whose scopes are asked for, by a request that is accepted. -/
def scopedOn? : SessionEvent → Option Int
  | .request request => if request.command = "scopes" then scopedFrame? request else none
  | _ => none

/-- The scopes that the response to a request for scopes lists. -/
def scopesIn (session : Session) (now : Nat) : SessionEvent → List (String × Int)
  | .request request =>
    if request.command = "scopes" then
      (messagesIn (step now (.request request) session).2).flatMap listedScopes
    else []
  | _ => []

/-- All scopes that were listed over a run. -/
def issued : List (Nat × SessionEvent) → Session → List (String × Int) := journal scopesIn

/-! ## What it is shown -/

/-- The frame at a place whose line is counted from zero: an editor that counts from one is shown
the next line, as far as there is one. -/
def pauseFrame (session : Session) (directories : ResourceDirectories) (file : String)
    (line : Int) : Json :=
  .ofMembers [
    ("id", .int 0),
    ("name", .string "Frame 0"),
    ("source", .ofMembers [
      ("name", .string (Path.lastPart (directories.pausePath file))),
      ("path", .string (directories.pausePath file))]),
    ("line", .int (if session.linesStartAt1 then min 9223372036854775807 (line + 1) else line)),
    ("column", .int (if session.columnsStartAt1 then 1 else 0))]

/-- A scope, and the reference that its variables are asked for by. -/
def shownScope (name : String) (reference : Nat) : Json :=
  .ofMembers [
    ("name", .string name),
    ("variablesReference", .nat reference),
    ("expensive", .bool false)]

/-- A variable whose value is a text; there is nothing below it. -/
def shownVariable (name text typeName : String) : Json :=
  .ofMembers [
    ("name", .string name),
    ("value", .string text),
    ("type", .string typeName),
    ("variablesReference", .nat 0)]

/-- The variables of a scope, in their order: tables are told from all else. -/
def shownVariables (shown : VariableMap) : List Json :=
  shown.map fun entry => match entry.2 with
    | .plain text => shownVariable entry.1 text "string"
    | .table text => shownVariable entry.1 text "table"

theorem frames_eq_pauseFrame {session : Session} {context : ExecutionContext}
    {directories : ResourceDirectories} {file : String} {line : Int}
    (hpaths : session.paths = some directories) (hfile : context.currentFile = some file)
    (hline : context.currentLine = some line) :
    session.frames context = [session.pauseFrame directories file line] := by
  simp only [frames, hfile, hline, hpaths]
  rfl

theorem map_variableToJson (shown : VariableMap) :
    shown.map variableToJson = shownVariables shown := by
  refine List.map_congr_left fun entry _ => ?_
  obtain ⟨name, text | text⟩ := entry <;> rfl

/-- The request is answered at once, and this is what the one message in answer carries. -/
structure Carries (session : Session) (now : Nat) (request : Request) (body : Json) : Prop where
  answers : session.Answers now request body
  carried : ∃ message, messagesIn (step now (.request request) session).2 = [message] ∧
    message.member? "body" = some body

theorem Answers.carries {session : Session} {now : Nat} {request : Request} {body : Json}
    (hanswers : session.Answers now request body) : session.Carries now request body :=
  ⟨hanswers, _, hanswers, body_success request session.outbox.nextSeq body⟩

/-! ## How it changes -/

section Steps

variable {session : Session} {event : SessionEvent}

/-- Of all events, only requests for frames choose a thread, and only those for scopes are given
handles. -/
theorem inquiries_standingAfter (session : Session) (event : SessionEvent) :
    (session.standingAfter event).shownThread =
        (session.tracedThread? event).or session.contexts.shownThread ∧
      (session.standingAfter event).handles =
        ((scopedOn? event).map fun frame =>
          (allocateScopes frame Scope.all session.handles).2).getD session.handles := by
  have hattached : ∀ other, (session.attachedOn other).shownThread = session.contexts.shownThread ∧
      (session.attachedOn other).handles = session.handles := by
    intro other
    unfold attachedOn
    split
    · simp only [Standing.attach, Standing.install]
      split <;> exact ⟨rfl, rfl⟩
    · split <;> exact ⟨rfl, rfl⟩
  cases event with
  | request request =>
      by_cases htraces : request.command = "stackTrace"
      · have hnone : session.errand? request = none := by
          rw [errand?, htraces]
          rfl
        simp only [standingAfter, hnone, tracedThread?, scopedOn?, htraces]
        exact ⟨rfl, rfl⟩
      · by_cases hscopes : request.command = "scopes"
        · have hnone : session.errand? request = none := by
            rw [errand?, hscopes]
            rfl
          simp only [standingAfter, hnone, tracedThread?, scopedOn?, hscopes, inspected]
          cases scopedFrame? request <;> exact ⟨rfl, rfl⟩
        · simp only [standingAfter, tracedThread?, scopedOn?, htraces, hscopes, if_false]
          split
          · next errand herrand => cases errand <;> exact ⟨rfl, rfl⟩
          · unfold inspected
            split
            · contradiction
            · contradiction
            · exact ⟨rfl, rfl⟩
  | shutdown => exact hattached .shutdown
  | release => exact hattached .release
  | wake id => exact hattached (.wake id)
  | outcome id outcome => exact hattached (.outcome id outcome)

theorem shownThread_step (session : Session) (now : Nat) (event : SessionEvent) :
    (step now event session).1.contexts.shownThread =
      (session.tracedThread? event).or session.contexts.shownThread := by
  have hstanding := congrArg Standing.shownThread (standing_step session now event)
  exact hstanding.trans (inquiries_standingAfter session event).1

theorem handles_step (session : Session) (now : Nat) (event : SessionEvent) :
    (step now event session).1.handles =
      ((scopedOn? event).map fun frame =>
        (allocateScopes frame Scope.all session.handles).2).getD session.handles := by
  have hstanding := congrArg Standing.handles (standing_step session now event)
  exact hstanding.trans (inquiries_standingAfter session event).2

/-- The scopes that get handles from a table: one of each kind. -/
def nextScopes (handles : Handles FrameScope) : List (Scope × Nat) :=
  Scope.all.zipIdx (Handles.firstHandle + handles.entries.size)

theorem answers_scopes {request : Request} {frame : Int} (hcommand : request.command = "scopes")
    (hframe : scopedFrame? request = some frame) (session : Session) (now : Nat) :
    session.Answers now request (scopesBody (nextScopes session.handles)) := by
  rcases scopes_eq request session with ⟨other, -, haccepted⟩ | ⟨hnone, -⟩
  · exact answers_of_handler hcommand now haccepted rfl
  · rw [hframe] at hnone
    cases hnone

/-- What a response lists are the scopes that were given handles. -/
theorem scopesIn_eq (session : Session) (now : Nat) (event : SessionEvent) :
    scopesIn session now event = if (scopedOn? event).isSome then
      (nextScopes session.handles).map fun scope => (scope.1.label, (scope.2 : Int)) else [] := by
  cases event with
  | request request =>
      by_cases hcommand : request.command = "scopes"
      · simp only [scopesIn, scopedOn?, hcommand, if_true]
        rcases scopes_eq request session with ⟨frame, hframe, -⟩ | ⟨hnone, fault, hrefused⟩
        · rw [answers_scopes hcommand hframe session now, hframe, List.flatMap_singleton,
            listedScopes_success]
          rfl
        · have hrefuses : session.Refuses now request fault.message :=
            refuses_of_handler hcommand now hrefused
          rw [hrefuses, hnone, List.flatMap_singleton, listedScopes_failure]
          rfl
      · simp only [scopesIn, scopedOn?, hcommand, if_false]
        rfl
  | shutdown => rfl
  | release => rfl
  | wake id => rfl
  | outcome id outcome => rfl

end Steps

/-! ## What a run has shown and given -/

/-- The session remembers the thread chosen last, and every reference that it has given. -/
structure Remembered (threads : List Int) (references : List (String × Int))
    (session : Session) : Prop where
  shownThread : session.contexts.shownThread = threads.getLast?
  references : references = session.handles.numbered.map fun entry =>
    (entry.1.kind.label, (entry.2 : Int))

theorem remembered_run (config : BackendConfig) (events : List (Nat × SessionEvent)) :
    Remembered (traced events (ofConfig config)) (issued events (ofConfig config))
      (run events (ofConfig config)).1 := by
  induction events using List.reverseRecOn with
  | nil => exact ⟨by cases hlayout : config.contexts <;> simp [ofConfig, hlayout] <;> rfl, rfl⟩
  | append_singleton events entry ih =>
      obtain ⟨now, event⟩ := entry
      rw [run_snoc, traced, issued, journal_snoc, journal_snoc]
      constructor
      · rw [shownThread_step, ih.shownThread, List.getLast?_append]
        cases (run events (ofConfig config)).1.tracedThread? event <;> rfl
      · rw [handles_step, scopesIn_eq]
        cases hscoped : scopedOn? event with
        | none =>
            rw [Option.isSome_none, if_neg Bool.false_ne_true, List.append_nil]
            exact ih.references
        | some frame =>
            rw [Option.map_some, Option.getD_some, (allocateScopes_eq _ _ _).2, List.map_append]
            exact congrArg (· ++ _) ih.references

/-! ## The inspection of a run -/

/-- The variables of a reply under the names of their scopes. -/
def scopedVariables (state : RunState) : List (String × VariableMap) := [
  ("Local", state.localVariables),
  ("Closure", state.upvalueVariables),
  ("Global", state.globalVariables)]

theorem exists_kind_of_mem_scopedVariables {state : RunState} {name : String}
    {entries : VariableMap} (hscoped : (name, entries) ∈ scopedVariables state) :
    ∃ kind, Scope.label kind = name ∧ state.variableMap kind = entries := by
  simp only [scopedVariables, List.mem_cons, List.not_mem_nil, or_false, Prod.mk.injEq] at hscoped
  obtain ⟨rfl, rfl⟩ | ⟨rfl, rfl⟩ | ⟨rfl, rfl⟩ := hscoped
  · exact ⟨.locals, rfl, rfl⟩
  · exact ⟨.closure, rfl, rfl⟩
  · exact ⟨.globals, rfl, rfl⟩

/-- What can be inspected at the end of a run, and how far it goes back. -/
structure Inspection (config : BackendConfig) (events : List (Nat × SessionEvent)) : Prop where
  /-- Every stop comes with one reply. -/
  replied : ∀ thread, (pauses thread events (ofConfig config)).length =
    stopsOf thread (run events (ofConfig config)).2
  /-- Its variables are there once each, in the order of their names, and without the marker. -/
  proper : ∀ thread, ∀ scope ∈ scopedVariables (lastPause thread events (ofConfig config)),
    (scope.2.map (·.1)).Pairwise (· < ·) ∧ "__isObject" ∉ scope.2.map (·.1)
  /-- A context shows all of the last reply of its thread. -/
  shown : ∀ thread context,
    (run events (ofConfig config)).1.contexts.get? thread = some context →
    context.Shows (lastPause thread events (ofConfig config))
  /-- Nothing but a stop changes any of it, whatever happens next. -/
  kept : ∀ thread context state now event,
    (run events (ofConfig config)).1.contexts.get? thread = some context → context.Shows state →
    stopsOf thread (step now event (run events (ofConfig config)).1).2 = 0 →
    ∃ last, (step now event (run events (ofConfig config)).1).1.contexts.get? thread = some last ∧
      last.Shows state
  /-- A stop takes up a reply that is accepted, and replaces all of it. -/
  replaced : ∀ thread now event,
    stopsOf thread (step now event (run events (ofConfig config)).1).2 ≠ 0 →
    ∃ target state last, target.thread = thread ∧
      Pauses (run events (ofConfig config)).1 event
        (step now event (run events (ofConfig config)).1) target state ∧
      (step now event (run events (ofConfig config)).1).1.contexts.get? thread = some last ∧
      last.Shows state
  /-- A thread has one frame where its last reply names a place, in the attached resource. -/
  framed : ∀ now request thread file line, request.command = "stackTrace" →
    (run events (ofConfig config)).1.resumedThread? request = some thread →
    (lastPause thread events (ofConfig config)).currentFile = some file →
    (lastPause thread events (ofConfig config)).currentLine = some line →
    ∃ directories, (run events (ofConfig config)).1.paths = some directories ∧
      (run events (ofConfig config)).1.Carries now request (.ofMembers [
        ("stackFrames", .array
          [(run events (ofConfig config)).1.pauseFrame directories file line]),
        ("totalFrames", .nat 1)])
  /-- Otherwise it has none. -/
  unframed : ∀ now request thread, request.command = "stackTrace" →
    (run events (ofConfig config)).1.resumedThread? request = some thread →
    (lastPause thread events (ofConfig config)).currentFile = none ∨
      (lastPause thread events (ofConfig config)).currentLine = none →
    (run events (ofConfig config)).1.Carries now request (.ofMembers [
      ("stackFrames", .array []),
      ("totalFrames", .nat 0)])
  /-- Without a thread that there is, a request for frames is refused. -/
  untraced : ∀ now request, request.command = "stackTrace" →
    (run events (ofConfig config)).1.resumedThread? request = none →
    ∃ reason, (run events (ofConfig config)).1.Refuses now request reason
  /-- A request for scopes lists one of each kind, with three new references. -/
  allotted : ∀ now request, request.command = "scopes" → (scopedFrame? request).isSome →
    ∃ first : Nat, (∀ entry ∈ issued events (ofConfig config), entry.2 < first) ∧
      (run events (ofConfig config)).1.Carries now request (.ofMembers [("scopes", .array [
        shownScope "Local" first,
        shownScope "Closure" (first + 1),
        shownScope "Global" (first + 2)])])
  /-- No reference is given twice. -/
  increasing : ((issued events (ofConfig config)).map (·.2)).Pairwise (· < ·)
  /-- A reference that was given lists the variables of its scope, those of the last reply of the
  current thread. -/
  listed : ∀ now request name entries reference, request.command = "variables" →
    listedReference? request = some reference →
    (name, reference) ∈ issued events (ofConfig config) →
    (name, entries) ∈ scopedVariables
      (lastPause (currentThread events (ofConfig config)) events (ofConfig config)) →
    (run events (ofConfig config)).1.Carries now request
      (.ofMembers [("variables", .array (shownVariables entries))])
  /-- Any other reference is refused. -/
  unlisted : ∀ now request reference, request.command = "variables" →
    listedReference? request = some reference →
    reference ∉ (issued events (ofConfig config)).map (·.2) →
    (run events (ofConfig config)).1.Refuses now request
      ("unknown variablesReference " ++ toString reference)

section Inspection

variable {config : BackendConfig} {events : List (Nat × SessionEvent)} {request : Request}
variable {thread : Int}

/-- Once a stop was reported, a resource is attached. -/
theorem paths_of_pause {state : RunState}
    (hstate : state ∈ pauses thread events (ofConfig config)) :
    ∃ directories, (run events (ofConfig config)).1.paths = some directories := by
  obtain ⟨earlier, now, event, later, target, rfl, hpolled⟩ := polled_of_mem_pauses hstate
  obtain ⟨id, outcome, timer, others, -, hpoller, -⟩ := polledState?_eq_some hpolled
  have hsent := (late_run config earlier).polls id _ hpoller
  have hattached : attachments earlier (ofConfig config) ≠ [] := by
    intro hnone
    rw [(settled_run config earlier).initializedSent, hnone] at hsent
    cases hsent
  rw [(settled_run config (earlier ++ (now, event) :: later)).paths, attachments_append,
    List.head?_append_of_ne_nil _ hattached]
  cases hfirst : attachments earlier (ofConfig config) with
  | nil => exact absurd hfirst hattached
  | cons first rest => exact ⟨_, rfl⟩

theorem mem_pauses_of_lastPause (hplace : lastPause thread events (ofConfig config) ≠ {}) :
    lastPause thread events (ofConfig config) ∈ pauses thread events (ofConfig config) := by
  unfold lastPause at hplace ⊢
  cases hlast : (pauses thread events (ofConfig config)).getLast? with
  | none =>
      rw [hlast] at hplace
      exact absurd rfl hplace
  | some state => exact List.mem_of_getLast? hlast

theorem answers_stackTrace (hcommand : request.command = "stackTrace")
    (hthread : (run events (ofConfig config)).1.resumedThread? request = some thread) (now : Nat) :
    ∃ context, (run events (ofConfig config)).1.contexts.get? thread = some context ∧
      context.Shows (lastPause thread events (ofConfig config)) ∧
      (run events (ofConfig config)).1.Answers now request
        (framesBody ((run events (ofConfig config)).1.frames context)) := by
  rcases stackTrace_eq request (run events (ofConfig config)).1 with
    ⟨other, context, hother, hget, haccepted⟩ | ⟨hnone, -⟩
  · obtain rfl : thread = other := Option.some.inj (hthread.symm.trans hother)
    exact ⟨context, hget, shows_lastPause hget, answers_of_handler hcommand now haccepted rfl⟩
  · rw [hthread] at hnone
    cases hnone

theorem framed_run {file : String} {line : Int} (hcommand : request.command = "stackTrace")
    (hthread : (run events (ofConfig config)).1.resumedThread? request = some thread)
    (hfile : (lastPause thread events (ofConfig config)).currentFile = some file)
    (hline : (lastPause thread events (ofConfig config)).currentLine = some line) (now : Nat) :
    ∃ directories, (run events (ofConfig config)).1.paths = some directories ∧
      (run events (ofConfig config)).1.Answers now request
        (framesBody [(run events (ofConfig config)).1.pauseFrame directories file line]) := by
  obtain ⟨context, -, hshows, hanswers⟩ := answers_stackTrace hcommand hthread now
  have hpaused : lastPause thread events (ofConfig config) ≠ {} := by
    intro hnothing
    rw [hnothing] at hfile
    cases hfile
  obtain ⟨directories, hpaths⟩ := paths_of_pause (mem_pauses_of_lastPause hpaused)
  refine ⟨directories, hpaths, ?_⟩
  have hframes : (run events (ofConfig config)).1.frames context =
      [(run events (ofConfig config)).1.pauseFrame directories file line] :=
    frames_eq_pauseFrame hpaths (hshows.currentFile.trans hfile) (hshows.currentLine.trans hline)
  rw [← hframes]
  exact hanswers

theorem unframed_run (hcommand : request.command = "stackTrace")
    (hthread : (run events (ofConfig config)).1.resumedThread? request = some thread)
    (hplace : (lastPause thread events (ofConfig config)).currentFile = none ∨
      (lastPause thread events (ofConfig config)).currentLine = none) (now : Nat) :
    (run events (ofConfig config)).1.Answers now request (framesBody []) := by
  obtain ⟨context, -, hshows, hanswers⟩ := answers_stackTrace hcommand hthread now
  have hframes : (run events (ofConfig config)).1.frames context = [] := by
    rw [← hshows.currentFile, ← hshows.currentLine] at hplace
    unfold frames
    split
    · next hfile hline => simp [hfile, hline] at hplace
    · rfl
  rw [← hframes]
  exact hanswers

/-- A reference that was given still has its scope. -/
theorem exists_scope_of_issued {kind : Scope} {reference : Int}
    (hissued : (Scope.label kind, reference) ∈ issued events (ofConfig config)) :
    ∃ scope, (run events (ofConfig config)).1.handles.get? reference = some scope ∧
      scope.kind = kind := by
  rw [(remembered_run config events).references] at hissued
  obtain ⟨⟨scope, number⟩, hgiven, hsame⟩ := List.mem_map.mp hissued
  obtain ⟨hlabel, rfl⟩ := Prod.mk.inj hsame
  exact ⟨scope, Handles.get?_eq_some_iff.mpr ⟨number, rfl, hgiven⟩, Scope.label_injective hlabel⟩

theorem get?_of_not_issued {reference : Int}
    (hforeign : reference ∉ (issued events (ofConfig config)).map (·.2)) :
    (run events (ofConfig config)).1.handles.get? reference = none := by
  rw [Option.eq_none_iff_forall_ne_some]
  intro scope hscope
  obtain ⟨number, rfl, hgiven⟩ := Handles.get?_eq_some_iff.mp hscope
  apply hforeign
  rw [(remembered_run config events).references, List.map_map]
  exact List.mem_map.mpr ⟨(scope, number), hgiven, rfl⟩

/-- A thread whose frames were shown has its context for good. -/
theorem exists_get?_of_traced (htraced : thread ∈ traced events (ofConfig config)) :
    ∃ context, (run events (ofConfig config)).1.contexts.get? thread = some context := by
  obtain ⟨earlier, now, event, later, -, hshown⟩ := exists_of_mem_journal htraced
  rw [Option.mem_toList] at hshown
  have hthere : ((run earlier (ofConfig config)).1.contexts.get? thread).isSome = true := by
    cases event with
    | request request =>
        simp only [tracedThread?, resumedThread?] at hshown
        split at hshown
        · split at hshown
          · exact (Option.filter_eq_some_iff.mp hshown).2
          · cases hshown
        · cases hshown
    | shutdown => cases hshown
    | release => cases hshown
    | wake id => cases hshown
    | outcome id outcome => cases hshown
  have haddress : (run events (ofConfig config)).1.contexts.address? thread =
      (run earlier (ofConfig config)).1.contexts.address? thread := by
    rw [address?_run (WellFormed.ofConfig config), address?_run (WellFormed.ofConfig config)]
  have hkept := congrArg Option.isSome haddress
  rw [Contexts.address?, Contexts.address?, Option.isSome_map, Option.isSome_map, hthere] at hkept
  exact Option.isSome_iff_exists.mp hkept

/-- The variables shown are those of the current thread. -/
theorem shown_run (config : BackendConfig) (events : List (Nat × SessionEvent)) :
    ∃ context, (run events (ofConfig config)).1.contexts.shown? = some context ∧
      context.Shows (lastPause (currentThread events (ofConfig config)) events
        (ofConfig config)) := by
  have hwf := wellFormed_run (WellFormed.ofConfig config) events
  have hshown := (remembered_run config events).shownThread
  cases hlast : (traced events (ofConfig config)).getLast? with
  | none =>
      rw [hlast] at hshown
      have hthreads := threads_run (WellFormed.ofConfig config) events
      obtain ⟨rest, hfirst⟩ := threads_ofConfig config
      rw [hfirst, Contexts.threads, List.map_eq_cons_iff] at hthreads
      obtain ⟨context, others, hcontexts, hthread, -⟩ := hthreads
      have hget := Contexts.get?_of_mem hwf.threads (hcontexts ▸ List.mem_cons_self)
      refine ⟨context, by rw [Contexts.shown?, hshown, hcontexts]; rfl, ?_⟩
      rw [currentThread, hlast, Option.getD_none, ← hthread]
      exact shows_lastPause hget
  | some thread =>
      rw [hlast] at hshown
      obtain ⟨context, hget⟩ := exists_get?_of_traced (List.mem_of_getLast? hlast)
      refine ⟨context, by rw [Contexts.shown?, hshown]; exact hget, ?_⟩
      rw [currentThread, hlast, Option.getD_some]
      exact shows_lastPause hget

end Inspection

/-- At every point of every run, what the editor inspects is the last reply of a stop. -/
theorem inspects_last_pause (config : BackendConfig) (events : List (Nat × SessionEvent)) :
    Inspection config events where
  replied := length_pauses config events
  proper thread scope hscope := by
    obtain ⟨kind, -, hvariables⟩ := exists_kind_of_mem_scopedVariables hscope
    have hproper := proper_lastPause thread events config kind
    rw [hvariables] at hproper
    refine ⟨hproper.ascending, fun hmarker => ?_⟩
    obtain ⟨entry, hentry, hname⟩ := List.mem_map.mp hmarker
    exact hproper.unmarked entry hentry hname
  shown thread context hget := shows_lastPause hget
  kept thread context state now event hget hshows hquiet :=
    shows_step (wellFormed_run (WellFormed.ofConfig config) events) hquiet hget hshows
  replaced thread now event hstop := by
    have hwf := wellFormed_run (WellFormed.ofConfig config) events
    obtain ⟨target, state, hpauses, rfl⟩ := pauses_of_stop_step hwf hstop
    obtain ⟨last, hlast, hshows⟩ := hpauses.shows
    exact ⟨target, state, last, rfl, hpauses, hlast, hshows⟩
  framed now request thread file line hcommand hthread hfile hline := by
    obtain ⟨directories, hpaths, hanswers⟩ := framed_run hcommand hthread hfile hline now
    exact ⟨directories, hpaths, hanswers.carries⟩
  unframed now request thread hcommand hthread hplace :=
    (unframed_run hcommand hthread hplace now).carries
  untraced now request hcommand hnone := by
    rcases stackTrace_eq request (run events (ofConfig config)).1 with
      ⟨thread, context, hthread, -⟩ | ⟨-, fault, hrefused⟩
    · rw [hnone] at hthread
      cases hthread
    · exact ⟨fault.message, refuses_of_handler hcommand now hrefused⟩
  allotted now request hcommand hscoped := by
    obtain ⟨frame, hframe⟩ := Option.isSome_iff_exists.mp hscoped
    refine ⟨Handles.firstHandle + (run events (ofConfig config)).1.handles.entries.size, ?_,
      (answers_scopes hcommand hframe _ now).carries⟩
    intro entry hentry
    rw [(remembered_run config events).references] at hentry
    obtain ⟨given, hgiven, rfl⟩ := List.mem_map.mp hentry
    exact Int.ofNat_lt.mpr (Handles.lt_of_mem_numbered hgiven)
  increasing := by
    have hnumbered := Handles.pairwise_numbered (run events (ofConfig config)).1.handles
    rw [(remembered_run config events).references, List.map_map]
    rw [List.pairwise_map] at hnumbered ⊢
    exact hnumbered.imp Int.ofNat_lt.mpr
  listed now request name entries reference hcommand hreference hissued hscoped := by
    obtain ⟨kind, rfl, rfl⟩ := exists_kind_of_mem_scopedVariables hscoped
    obtain ⟨scope, hscope, rfl⟩ := exists_scope_of_issued hissued
    obtain ⟨context, hcontext, hshows⟩ := shown_run config events
    have haccepted := listVariables_eq request (run events (ofConfig config)).1 hreference
    rw [hscope, hcontext] at haccepted
    rw [← hshows.variableMap, ← map_variableToJson]
    exact (answers_of_handler hcommand now haccepted rfl).carries
  unlisted now request reference hcommand hreference hforeign := by
    have hrefused := listVariables_eq request (run events (ofConfig config)).1 hreference
    rw [get?_of_not_issued hforeign] at hrefused
    exact refuses_of_handler hcommand now hrefused

/-- The script pauses on the third line of a file with two locals, and the editor is given the
scopes. -/
def inspectedRun : List (Nat × SessionEvent) := launchedRun ++ [
  (3, .wake 1),
  (4, .outcome 1 (replyOf ("\x7b\"resume_mode\":1,\"current_file\":\"play/a.lua\"," ++
    "\"current_line\":2,\"local_variables\":" ++
    "\x7b\"rows\":[1],\"name\":\"x\",\"__isObject\":true\x7d\x7d"))),
  (5, .request { command := "scopes" })]

/-- Asks where the first thread is. -/
def traceRequest : Request where
  command := "stackTrace"
  arguments := .ofMembers [("threadId", .int 1)]

/-- Asks for the variables behind a reference. -/
def variablesRequest (reference : Int) : Request where
  command := "variables"
  arguments := .ofMembers [("variablesReference", .int reference)]

theorem inspects_last_pause_locals :
    (run inspectedRun (ofConfig { contexts := .single })).1.Carries 6 traceRequest (.ofMembers [
      ("stackFrames", .array [.ofMembers [
        ("id", .int 0),
        ("name", .string "Frame 0"),
        ("source", .ofMembers [
          ("name", .string "a.lua"),
          ("path", .string "/srv/mods/deathmatch/resources/play/a.lua")]),
        ("line", .int 3),
        ("column", .int 1)]]),
      ("totalFrames", .nat 1)]) ∧
    (run inspectedRun (ofConfig { contexts := .single })).1.Carries 6 (variablesRequest 1000)
      (.ofMembers [("variables", .array [
        .ofMembers [
          ("name", .string "name"),
          ("value", .string "x"),
          ("type", .string "string"),
          ("variablesReference", .nat 0)],
        .ofMembers [
          ("name", .string "rows"),
          ("value", .string "[1]"),
          ("type", .string "table"),
          ("variablesReference", .nat 0)]])]) ∧
    (run inspectedRun (ofConfig { contexts := .single })).1.Carries 6 (variablesRequest 1001)
      (.ofMembers [("variables", .array [])]) ∧
    (run inspectedRun (ofConfig { contexts := .single })).1.Refuses 6 (variablesRequest 1003)
      "unknown variablesReference 1003" := by
  have hinspected := inspects_last_pause { contexts := .single } inspectedRun
  have hissued : issued inspectedRun (ofConfig { contexts := .single }) =
      [("Local", 1000), ("Closure", 1001), ("Global", 1002)] := by
    decide +kernel
  have hscoped : scopedVariables (lastPause
      (currentThread inspectedRun (ofConfig { contexts := .single })) inspectedRun
        (ofConfig { contexts := .single })) =
      [("Local", [("name", .plain "x"), ("rows", .table "[1]")]), ("Closure", []),
        ("Global", [])] := by
    decide +kernel
  refine ⟨?_, ?_, ?_, ?_⟩
  · obtain ⟨directories, hpaths, hcarries⟩ := hinspected.framed 6 traceRequest 1 "play/a.lua" 2 rfl
      (by decide +kernel) (by decide +kernel) (by decide +kernel)
    obtain ⟨hattached, hpath, hlines, hcolumns⟩ :
        (run inspectedRun (ofConfig { contexts := .single })).1.paths =
            some (.ofDirectories "/srv" "mods/deathmatch/resources" "play") ∧
          (ResourceDirectories.ofDirectories "/srv" "mods/deathmatch/resources" "play").pausePath
            "play/a.lua" = "/srv/mods/deathmatch/resources/play/a.lua" ∧
          (run inspectedRun (ofConfig { contexts := .single })).1.linesStartAt1 = true ∧
          (run inspectedRun (ofConfig { contexts := .single })).1.columnsStartAt1 = true := by
      decide +kernel
    obtain rfl := Option.some.inj (hattached.symm.trans hpaths)
    have hname : Path.lastPart "/srv/mods/deathmatch/resources/play/a.lua" = "a.lua" := by
      decide +kernel
    rw [pauseFrame, hpath, hlines, hcolumns, hname] at hcarries
    exact hcarries
  · exact hinspected.listed 6 (variablesRequest 1000) "Local" _ 1000 rfl (by decide +kernel)
      (by rw [hissued]; decide) (by rw [hscoped]; exact List.mem_cons_self)
  · exact hinspected.listed 6 (variablesRequest 1001) "Closure" [] 1001 rfl (by decide +kernel)
      (by rw [hissued]; decide) (by rw [hscoped]; decide)
  · exact hinspected.unlisted 6 (variablesRequest 1003) 1003 rfl (by decide +kernel)
      (by rw [hissued]; decide)

/-- The first request for scopes gives the first three references. -/
example : issued [(0, .request { command := "scopes" })] (ofConfig { contexts := .single }) =
    [("Local", 1000), ("Closure", 1001), ("Global", 1002)] := by
  decide +kernel

end Session

end DebugBridge
