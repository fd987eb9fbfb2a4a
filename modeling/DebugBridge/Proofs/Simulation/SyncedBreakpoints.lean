import DebugBridge.Proofs.Simulation.Filling

/-!
# Breakpoints after a sync

Whatever else happens, the last block of calls decides what the backend has.  Once it is through
and all of its calls were accepted, the backend has the breakpoints of the session: those of the
moment at which the block began are still those of now, or another sync would be due.
-/

namespace DebugBridge

namespace Session

variable {session : Session} {event : SessionEvent} {now : Nat}

/-- A sync that is due is pending. -/
theorem pending_of_starts (hwf : WellFormed session) (hinstalled : session.SyncsInstalled)
    (hstarts : session.startsSync event (step now event session).1 = true) :
    ∃ id, (step now event session).1.isPendingSync id = true := by
  have hstep := syncStep_step hwf hinstalled now event
  rw [hstarts] at hstep
  generalize session.stepMarks now event = marks at hstep
  cases hstep with
  | @quiet fresh hcount hnew hevent hcalling hpending =>
      obtain ⟨id, hid⟩ := List.exists_mem_of_length_pos (Nat.lt_of_lt_of_eq Nat.one_pos hcount.symm)
      refine ⟨id, ?_⟩
      rw [hpending]
      simp [hid]
  | began hnone => cases hnone
  | called hnone => cases hnone
  | ended hnone => cases hnone

/-- Until a sync begins it stays pending. -/
theorem isPendingSync_step (hwf : WellFormed session) (hinstalled : session.SyncsInstalled)
    (hclear : ∀ owner known, SyncMark.clear owner known ∉ session.stepMarks now event)
    {id : Nat} (hwaiting : session.isPendingSync id = true) :
    (step now event session).1.isPendingSync id = true := by
  have hstep := syncStep_step hwf hinstalled now event
  generalize session.stepMarks now event = marks at hclear hstep
  cases hstep with
  | quiet hcount hnew hevent hcalling hpending =>
      rw [hpending, hwaiting]
      rfl
  | @began owner plan => exact absurd List.mem_cons_self (hclear owner (some plan))
  | called hstarts hevent hstage hleft hcalling hpending =>
      rw [hpending]
      exact hwaiting
  | ended hstarts hevent hstage hleft hcalling hpending =>
      rw [hpending]
      exact hwaiting

/-- The plan of the last block is what the backend is to have, or another block is to come. -/
def UpToDate (session : Session) (plan : List (String × Int)) : Prop :=
  session.backendBreakpoints = some plan ∨ ∃ id, session.isPendingSync id = true

theorem upToDate_step {plan : List (String × Int)} (hplan : session.UpToDate plan)
    (hwf : WellFormed session) (hinstalled : session.SyncsInstalled)
    (hlines : ∀ request, event = .request request → request.command ≠ "initialize")
    (hclear : ∀ owner known, SyncMark.clear owner known ∉ session.stepMarks now event) :
    (step now event session).1.UpToDate plan := by
  rcases hplan with hknown | ⟨id, hwaiting⟩
  · have hpaths : session.paths.isSome = true := by
      rw [backendBreakpoints] at hknown
      exact Option.isSome_map ▸ Option.isSome_of_eq_some hknown
    cases hstarts : session.startsSync event (step now event session).1 with
    | true => exact .inr (pending_of_starts hwf hinstalled hstarts)
    | false =>
        have hsets : session.setsBreakpoints event = false := by
          rw [startsSync, hpaths, Bool.true_and, Bool.or_eq_false_iff] at hstarts
          exact hstarts.2
        exact .inl ((backendBreakpoints_step hwf hpaths hsets hlines now).trans hknown)
  · exact .inr ⟨id, isPendingSync_step hwf hinstalled hclear hwaiting⟩

/-- Nothing is attached, or a first block is to come. -/
def Unsynced (session : Session) : Prop :=
  session.paths = none ∨ ∃ id, session.isPendingSync id = true

theorem unsynced_step (hunsynced : session.Unsynced) (hwf : WellFormed session)
    (hinstalled : session.SyncsInstalled)
    (hclear : ∀ owner known, SyncMark.clear owner known ∉ session.stepMarks now event) :
    (step now event session).1.Unsynced := by
  rcases hunsynced with hnone | ⟨id, hwaiting⟩
  · cases hstarts : session.startsSync event (step now event session).1 with
    | true => exact .inr (pending_of_starts hwf hinstalled hstarts)
    | false =>
        rw [startsSync, hnone, Option.isNone_none, Bool.true_and, Bool.or_eq_false_iff] at hstarts
        exact .inl (Option.not_isSome_iff_eq_none.mp (by simp [hstarts.1]))
  · exact .inr ⟨id, isPendingSync_step hwf hinstalled hclear hwaiting⟩

end Session

namespace World

/-- Nobody but the session writes breakpoints. -/
def Untouched (events : List WorldEvent) : Prop :=
  ∀ change, .touch change ∈ events →
    ∀ backend, (change backend).breakpoints = backend.breakpoints

/-- No request tells anew how lines are counted. -/
def KeepsLines (events : List WorldEvent) : Prop :=
  ∀ now request, .session now (.request request) ∈ events → request.command ≠ "initialize"

/-- The block began at this event, behind those in front. -/
structure Began (start : World) (front : List SyncBlock) (block : SyncBlock)
    (before : List WorldEvent) (first : WorldEvent) : Prop where
  earlier : trace before start = front.flatMap SyncBlock.marks
  clears : (run before start).marks first = [.clear block.owner (some block.plan)]

/-- What holds since a block began. -/
structure Since (block : SyncBlock) (after : List WorldEvent) (world : World) : Prop where
  filling : Untouched after → (∀ accepted ∈ block.answers, accepted = true) →
    Filling block.plan world
  plan : KeepsLines after → world.session.UpToDate block.plan

/-- A run of the world, with the blocks that can be seen of it. -/
structure Chronicle (start : World) (events : List WorldEvent) (blocks : List SyncBlock) :
    Prop where
  wellFormed : Session.WellFormed (run events start).session
  calls : CallsOk (run events start)
  journal : Session.Journal (trace events start) (starts events start) blocks
    (run events start).session
  unsynced : blocks = [] → (run events start).session.Unsynced
  /-- The last block began at some event. -/
  last : ∀ front block, blocks = front ++ [block] →
    ∃ before first after, events = before ++ first :: after ∧
      Began start front block before first ∧ Since block after (run events start)

variable {start world : World} {events after : List WorldEvent} {blocks : List SyncBlock}
variable {block : SyncBlock}

theorem Chronicle.ofConfig (config : BackendConfig) (backend : SimulatedBackend) :
    Chronicle (.ofConfig config backend) [] [] where
  wellFormed := Session.WellFormed.ofConfig config
  calls := CallsOk.ofConfig config backend
  journal := Session.Journal.ofConfig config
  unsynced _ := .inl rfl
  last front block hblocks := by simp at hblocks

theorem run_snoc (events : List WorldEvent) (event : WorldEvent) (start : World) :
    run (events ++ [event]) start = (run events start).step event :=
  run_append events [event] start

theorem trace_snoc (events : List WorldEvent) (event : WorldEvent) (start : World) :
    trace (events ++ [event]) start = trace events start ++ (run events start).marks event := by
  rw [trace_append, trace_singleton]

/-- An event that the session has no part in. -/
theorem Chronicle.still (hchronicle : Chronicle start events blocks) {event : WorldEvent}
    (hsession : ((run events start).step event).session = (run events start).session)
    (htaken : (run events start).taken event = [])
    (hcalls : CallsOk ((run events start).step event))
    (hfilling : ∀ plan, Untouched [event] → Filling plan (run events start) →
      Filling plan ((run events start).step event)) :
    Chronicle start (events ++ [event]) blocks := by
  have hrun := run_snoc events event start
  have htrace : trace (events ++ [event]) start = trace events start := by
    rw [trace_snoc, marks_of_untaken htaken, List.append_nil]
  have hstarts : starts (events ++ [event]) start = starts events start := by
    rw [starts_append, starts_of_untaken htaken, Nat.add_zero]
  constructor
  · rw [hrun, hsession]
    exact hchronicle.wellFormed
  · rw [hrun]
    exact hcalls
  · rw [hrun, htrace, hstarts, hsession]
    exact hchronicle.journal
  · rw [hrun, hsession]
    exact hchronicle.unsynced
  · intro front block hblocks
    obtain ⟨before, first, after, rfl, hbegan, hsince⟩ := hchronicle.last front block hblocks
    refine ⟨before, first, after ++ [event], by simp, hbegan, ?_⟩
    rw [hrun]
    constructor
    · intro huntouched hanswers
      have hbefore : Untouched after := fun change hmem =>
        huntouched change (List.mem_append_left _ hmem)
      have hlast : Untouched [event] := fun change hmem =>
        huntouched change (List.mem_append_right _ hmem)
      exact hfilling block.plan hlast (hsince.filling hbefore hanswers)
    · intro hlines
      have hbefore : KeepsLines after := fun now request hmem =>
        hlines now request (List.mem_append_left _ hmem)
      rw [Session.UpToDate, hsession]
      exact hsince.plan hbefore

/-! ## Events that the session takes -/

section Take

variable {now : Nat} {event : SessionEvent}

theorem run_take (hpermits : (run events start).permits event = true) :
    run (events ++ [.session now event]) start = (run events start).take now event := by
  rw [run_snoc, step, if_pos hpermits]

theorem Chronicle.journal_take (hchronicle : Chronicle start events blocks)
    (hpermits : (run events start).permits event = true) :
    Session.Journal (trace (events ++ [.session now event]) start)
      (starts (events ++ [.session now event]) start)
      (SyncBlock.extend blocks ((run events start).session.stepMarks now event))
      ((run events start).take now event).session := by
  have hwf := hchronicle.wellFormed
  have hnext := hchronicle.journal.step hwf.table (Session.wellFormed_step hwf now event).table
    (Session.nextActivity_le_step hwf now event)
    (fun hinstalled => Session.paths_step hwf hinstalled now event)
    (Session.syncStep_step hwf hchronicle.journal.installed now event)
  rw [trace_snoc, marks_session hpermits, starts_append, starts_session hpermits]
  exact hnext

/-- Between clears, a block goes on as it began. -/
theorem Since.take {next : SyncBlock} (hsince : Since block after world)
    (hwf : Session.WellFormed world.session)
    (hinstalled : world.session.SyncsInstalled) (hpermits : world.permits event = true)
    (hclear : ∀ owner known, SyncMark.clear owner known ∉ world.session.stepMarks now event)
    (hplan : next.plan = block.plan)
    (hanswers : (∀ accepted ∈ next.answers, accepted = true) →
      (∀ accepted ∈ block.answers, accepted = true) ∧ ∀ owner, SyncMark.answered owner false ∉
        world.session.stepMarks now event) :
    Since next (after ++ [.session now event]) (world.take now event) where
  filling huntouched haccepted := by
    have hbefore : Untouched after := fun change hmem =>
      huntouched change (List.mem_append_left _ hmem)
    obtain ⟨hearlier, hmarks⟩ := hanswers haccepted
    rw [hplan]
    exact (hsince.filling hbefore hearlier).take hwf hinstalled hpermits hclear hmarks
  plan hlines := by
    have hbefore : KeepsLines after := fun moment request hmem =>
      hlines moment request (List.mem_append_left _ hmem)
    have hlast : ∀ request, event = .request request → request.command ≠ "initialize" := by
      rintro request rfl
      exact hlines now request (List.mem_append_right _ List.mem_cons_self)
    rw [hplan]
    exact Session.upToDate_step (hsince.plan hbefore) hwf hinstalled hlast hclear

/-- An event without marks, and one that is an answer, go on with the last block. -/
theorem Chronicle.last_take {front : List SyncBlock} {next : SyncBlock}
    (hchronicle : Chronicle start events (front ++ [block]))
    (hpermits : (run events start).permits event = true)
    (hclear : ∀ owner known,
      SyncMark.clear owner known ∉ (run events start).session.stepMarks now event)
    (howner : next.owner = block.owner) (hplan : next.plan = block.plan)
    (hanswers : (∀ accepted ∈ next.answers, accepted = true) →
      (∀ accepted ∈ block.answers, accepted = true) ∧ ∀ owner, SyncMark.answered owner false ∉
        (run events start).session.stepMarks now event) :
    ∃ before first after, events ++ [.session now event] = before ++ first :: after ∧
      Began start front next before first ∧
      Since next after (run (events ++ [.session now event]) start) := by
  obtain ⟨before, first, after, hevents, hbegan, hsince⟩ := hchronicle.last front block rfl
  refine ⟨before, first, after ++ [.session now event], by simp [hevents], ?_, ?_⟩
  · exact ⟨hbegan.earlier, by rw [howner, hplan]; exact hbegan.clears⟩
  · rw [run_take hpermits]
    exact hsince.take hchronicle.wellFormed hchronicle.journal.installed hpermits hclear hplan
      hanswers

/-- Only a block that there is gets an answer. -/
theorem Chronicle.answered_ne_nil {owner : Nat} {accepted : Bool} {stage : SyncStage}
    {rest : List SyncMark} (hchronicle : Chronicle start events blocks)
    (hstage : (run events start).session.callingStage? owner = some stage) :
    SyncBlock.extend blocks (.answered owner accepted :: rest) ≠ [] := by
  obtain ⟨front, block, rfl, rfl, hwaits⟩ := hchronicle.journal.underWay owner stage hstage
  rw [SyncBlock.extend_answered]
  exact List.append_ne_nil_of_right_ne_nil _ (List.cons_ne_nil _ _)

theorem Chronicle.last_of_answer {owner : Nat} {accepted : Bool} {stage : SyncStage}
    {rest : List SyncMark} (hchronicle : Chronicle start events blocks)
    (hpermits : (run events start).permits event = true)
    (hstage : (run events start).session.callingStage? owner = some stage)
    (hmarks : (run events start).session.stepMarks now event = .answered owner accepted :: rest)
    (hrest : ∀ mark ∈ rest, ∃ file line, mark = .set owner file line) {front : List SyncBlock}
    {next : SyncBlock}
    (hblocks : SyncBlock.extend blocks (.answered owner accepted :: rest) = front ++ [next]) :
    ∃ before first after, events ++ [.session now event] = before ++ first :: after ∧
      Began start front next before first ∧
      Since next after (run (events ++ [.session now event]) start) := by
  obtain ⟨earlier, block, rfl, rfl, hwaits⟩ := hchronicle.journal.underWay owner stage hstage
  rw [SyncBlock.extend_answered] at hblocks
  obtain ⟨rfl, hnext⟩ := List.append_inj' hblocks rfl
  cases hnext
  refine hchronicle.last_take hpermits ?_ rfl rfl fun hanswers => ⟨?_, ?_⟩
  · intro other known hmem
    rw [hmarks] at hmem
    rcases List.mem_cons.mp hmem with hfirst | hlater
    · cases hfirst
    · obtain ⟨file, line, hset⟩ := hrest _ hlater
      cases hset
  · exact fun answer hmem => hanswers answer (List.mem_append_left _ hmem)
  · intro other hmem
    rw [hmarks] at hmem
    rcases List.mem_cons.mp hmem with hfirst | hlater
    · cases hfirst
      cases hanswers false (List.mem_append_right _ List.mem_cons_self)
    · obtain ⟨file, line, hset⟩ := hrest _ hlater
      cases hset

theorem Chronicle.last_of_clear {owner : Nat} {plan : List (String × Int)}
    (hchronicle : Chronicle start events blocks)
    (hsync : ((run events start).session.syncStage? owner).isSome = true)
    (hevent : event = .wake owner)
    (hknown : (run events start).session.backendBreakpoints = some plan)
    (hmarks : (run events start).session.stepMarks now event = [.clear owner (some plan)])
    (hcalling : ∀ other, ((run events start).take now event).session.callingStage? other =
      if other = owner then some (.clearing { rest := plan, total := plan.length }) else none) :
    Since { owner, plan, answers := [] } [] ((run events start).take now event) where
  filling _ _ := .of_clear hchronicle.wellFormed hsync hmarks hcalling
  plan _ := by
    refine .inl (Eq.trans (Session.backendBreakpoints_step hchronicle.wellFormed ?_ ?_ ?_ now)
      hknown)
    · exact hchronicle.journal.installed owner hsync
    · rw [hevent]
      rfl
    · intro request hrequest
      rw [hevent] at hrequest
      cases hrequest

theorem Chronicle.take (hchronicle : Chronicle start events blocks)
    (hpermits : (run events start).permits event = true) (now : Nat) :
    Chronicle start (events ++ [.session now event]) (SyncBlock.extend blocks
      ((run events start).session.stepMarks now event)) := by
  have hwf := hchronicle.wellFormed
  have hinstalled := hchronicle.journal.installed
  have hrun := @run_take start events now event hpermits
  have hnext := @Chronicle.journal_take start events blocks now event hchronicle hpermits
  have hcalls := hchronicle.calls.take hwf hinstalled now event
  have hwfNext : Session.WellFormed ((run events start).take now event).session :=
    Session.wellFormed_step hwf now event
  rw [← hrun] at hnext hcalls hwfNext
  refine ⟨hwfNext, hcalls, hnext, ?_, ?_⟩
  · intro hempty
    rw [hrun]
    have hstep := Session.syncStep_step hwf hinstalled now event
    generalize hmarks : (run events start).session.stepMarks now event = marks at hempty hstep
    generalize (run events start).session.startsSync event
      (Session.step now event (run events start).session).1 = starts at hstep
    cases hstep with
    | quiet hcount hnew hevent hcalling hpending =>
        exact Session.unsynced_step (hchronicle.unsynced hempty) hwf hinstalled (by simp [hmarks])
    | began => exact absurd hempty (List.append_ne_nil_of_right_ne_nil _ (List.cons_ne_nil _ _))
    | called hstarts hevent hstage => exact absurd hempty (hchronicle.answered_ne_nil hstage)
    | ended hstarts hevent hstage => exact absurd hempty (hchronicle.answered_ne_nil hstage)
  · intro front block hblocks
    have hstep := Session.syncStep_step hwf hinstalled now event
    generalize hmarks : (run events start).session.stepMarks now event = marks at hblocks hstep
    generalize (run events start).session.startsSync event
      (Session.step now event (run events start).session).1 = starts at hstep
    cases hstep with
    | quiet hcount hnew hevent hcalling hpending =>
        have hsame : blocks = front ++ [block] := hblocks
        subst hsame
        exact hchronicle.last_take hpermits (by simp [hmarks]) rfl rfl
          fun hanswers => ⟨hanswers, by simp [hmarks]⟩
    | @began owner plan hstarts hevent hknown hwaiting hidle hcalling hpending =>
        have hextended : blocks ++ [{ owner, plan, answers := [] }] = front ++ [block] := hblocks
        obtain ⟨rfl, hblock⟩ := List.append_inj' hextended rfl
        cases hblock
        refine ⟨events, .session now event, [], rfl, ⟨hchronicle.journal.marks, ?_⟩, ?_⟩
        · rw [marks_session hpermits, hmarks]
        · rw [hrun]
          exact hchronicle.last_of_clear (Session.isSome_syncStage?_iff.mpr (.inl hwaiting)) hevent
            hknown hmarks hcalling
    | called hstarts hevent hstage hleft hcalling hpending =>
        exact hchronicle.last_of_answer hpermits hstage hmarks (by simp) hblocks
    | ended hstarts hevent hstage hleft hcalling hpending =>
        exact hchronicle.last_of_answer hpermits hstage hmarks (by simp) hblocks

end Take

/-! ## Runs -/

theorem Chronicle.step (hchronicle : Chronicle start events blocks) (event : WorldEvent) :
    ∃ blocks', Chronicle start (events ++ [event]) blocks' := by
  cases event with
  | session now event =>
      by_cases hpermits : (run events start).permits event = true
      · exact ⟨_, hchronicle.take hpermits now⟩
      · have hsame : (run events start).step (.session now event) = run events start :=
          if_neg hpermits
        refine ⟨blocks, hchronicle.still ?_ (if_neg hpermits) ?_ ?_⟩
        · rw [hsame]
        · rw [hsame]
          exact hchronicle.calls
        · rw [hsame]
          exact fun plan _ hfilling => hfilling
  | process id =>
      exact ⟨blocks, hchronicle.still (session_process _ id) rfl (hchronicle.calls.process id)
        fun plan _ hfilling => hfilling.process hchronicle.calls hchronicle.wellFormed.syncs id⟩
  | touch change =>
      refine ⟨blocks, hchronicle.still rfl rfl ⟨hchronicle.calls.waiting, hchronicle.calls.writing⟩
        fun plan huntouched hfilling => ?_⟩
      exact hfilling.congr (fun _ => rfl) (fun _ _ _ => rfl)
        (huntouched change List.mem_cons_self _)

theorem exists_chronicle (config : BackendConfig) (backend : SimulatedBackend)
    (events : List WorldEvent) : ∃ blocks, Chronicle (.ofConfig config backend) events blocks := by
  induction events using List.reverseRecOn with
  | nil => exact ⟨[], Chronicle.ofConfig config backend⟩
  | append_singleton events event ih =>
      obtain ⟨blocks, hchronicle⟩ := ih
      exact hchronicle.step event

/-- Once something is attached and no sync is left, there is a last block. -/
theorem Chronicle.exists_last (hchronicle : Chronicle start events blocks)
    (hinstalled : (run events start).session.paths.isSome = true)
    (hnone : ∀ id, ¬ (run events start).session.isPendingSync id = true) :
    ∃ front block, blocks = front ++ [block] := by
  rcases List.eq_nil_or_concat blocks with hempty | ⟨front, block, hblocks⟩
  · rcases hchronicle.unsynced hempty with hunknown | ⟨id, hwaiting⟩
    · rw [hunknown] at hinstalled
      cases hinstalled
    · exact absurd hwaiting (hnone id)
  · exact ⟨front, block, by rw [hblocks, List.concat_eq_append]⟩

theorem syncStage?_of_idle {session : Session} (htable : Session.TableOk session)
    (hidle : ∀ entry ∈ session.activities, entry.2.role ≠ .syncing) (id : Nat) :
    session.syncStage? id = none := by
  refine Session.syncStage?_eq_none_of_ne fun stage hstage => ?_
  exact hidle (id, .sync stage) (htable.mem_activities_iff.mpr hstage) rfl

/-- In every run the calls that write breakpoints are blocks, one behind the other and one for
every time that a sync was due.  Once no sync is left the last block is through; if it was
accepted throughout, nobody else writes breakpoints and lines are counted as before, the backend
has exactly the breakpoints that the session knows now. -/
theorem breakpoints_reach_backend (config : BackendConfig) :
    (∀ events : List (Nat × SessionEvent), ∃ blocks : List SyncBlock,
      Session.syncTrace events (.ofConfig config) = blocks.flatMap SyncBlock.marks ∧
      (∀ block ∈ blocks.dropLast, block.isComplete = true) ∧
      ((∀ id, (Session.run events (.ofConfig config)).1.callingStage? id = none) →
        ∀ block ∈ blocks, block.isComplete = true) ∧
      (blocks.map (·.owner)).Nodup ∧
      blocks.length + (Session.run events (.ofConfig config)).1.pendingSyncs.length =
        Session.syncStarts events (.ofConfig config)) ∧
    ∀ (backend : SimulatedBackend) (events : List WorldEvent),
      (run events (.ofConfig config backend)).session.paths.isSome = true →
      (∀ entry ∈ (run events (.ofConfig config backend)).session.activities,
        entry.2.role ≠ .syncing) →
      ∃ front block before first after, events = before ++ first :: after ∧
        Began (.ofConfig config backend) front block before first ∧
        trace events (.ofConfig config backend) =
          front.flatMap SyncBlock.marks ++ block.marks ∧
        block.isComplete = true ∧
        (Untouched after → KeepsLines after → (∀ accepted ∈ block.answers, accepted = true) →
          (run events (.ofConfig config backend)).session.backendBreakpoints =
            some (run events (.ofConfig config backend)).backend.breakpoints) := by
  constructor
  · intro events
    obtain ⟨blocks, hjournal⟩ := Session.journal_run config events
    exact ⟨blocks, hjournal.marks, hjournal.earlier, hjournal.complete, hjournal.owners,
      hjournal.count⟩
  · intro backend events hinstalled hidle
    obtain ⟨blocks, hchronicle⟩ := exists_chronicle config backend events
    have hnone := syncStage?_of_idle hchronicle.wellFormed.table hidle
    have hquiet : ∀ id, (run events (.ofConfig config backend)).session.callingStage? id = none :=
      fun id => by rw [Session.callingStage?, hnone]; rfl
    have hsettled : ∀ id,
        ¬ (run events (.ofConfig config backend)).session.isPendingSync id = true :=
      fun id => by simp [Session.isPendingSync, hnone id]
    obtain ⟨front, block, rfl⟩ := hchronicle.exists_last hinstalled hsettled
    obtain ⟨before, first, after, hevents, hbegan, hsince⟩ := hchronicle.last front block rfl
    have hcomplete := hchronicle.journal.complete hquiet
    refine ⟨front, block, before, first, after, hevents, hbegan, ?_, ?_, ?_⟩
    · rw [hchronicle.journal.marks, List.flatMap_append, List.flatMap_singleton]
    · exact hcomplete block (List.mem_append_right _ List.mem_cons_self)
    · intro huntouched hlines haccepted
      have hfilled := (hsince.filling huntouched haccepted).through hquiet
      rcases hsince.plan hlines with hknown | ⟨id, hwaiting⟩
      · calc
          (run events (.ofConfig config backend)).session.backendBreakpoints
            = some block.plan := hknown
          _ = some (run events (.ofConfig config backend)).backend.breakpoints := by rw [hfilled]
      · exact absurd hwaiting (hsettled id)

/-- A breakpoint is recorded, a resource is attached, and the sync comes through. -/
def attachedRun : List WorldEvent := [
  .session 0 (.request {
    command := "setBreakpoints"
    arguments := .ofMembers [
      ("source", .ofMembers [("path", .string "/srv/mods/deathmatch/resources/play/a.lua")]),
      ("breakpoints", .array [.ofMembers [("line", .int 3)]])] }),
  .session 0 (.request {
    command := "launch"
    arguments := .ofMembers [("serverpath", .string "/srv")] }),
  .session 0 (.wake 0),
  .process 0,
  .session 1 (.outcome 0 (.ok {
    body := "\x7b\"resource_name\":\"play\",\"resource_path\":\"play\"\x7d".toUTF8.toList })),
  .session 2 (.wake 2),
  .process 2,
  .session 3 (.outcome 2 (.ok {})),
  .process 2,
  .session 4 (.outcome 2 (.ok {}))]

/-- The backend then has the one breakpoint that was recorded. -/
theorem breakpoints_reach_backend_attached :
    (run attachedRun (.ofConfig { contexts := .single } {})).session.backendBreakpoints =
        some (run attachedRun (.ofConfig { contexts := .single } {})).backend.breakpoints ∧
      (run attachedRun (.ofConfig { contexts := .single } {})).backend.breakpoints =
        [("a.lua", 2)] := by
  refine ⟨?_, by decide +kernel⟩
  obtain ⟨-, hworlds⟩ := breakpoints_reach_backend { contexts := .single }
  obtain ⟨front, block, before, first, after, hevents, hbegan, htrace, hcomplete, hequal⟩ :=
    hworlds {} attachedRun (by decide +kernel) (by decide +kernel)
  have hafter : ∀ event ∈ after, event ∈ attachedRun := by
    intro event hmem
    rw [hevents]
    exact List.mem_append_right _ (List.mem_cons_of_mem _ hmem)
  refine hequal (fun change hmem => ?_) (fun now request hmem => ?_) fun accepted hmem => ?_
  · have htouched := hafter _ hmem
    simp [attachedRun] at htouched
  · have hasked := hafter _ hmem
    simp [attachedRun] at hasked
    rcases hasked with ⟨-, rfl⟩ | ⟨-, rfl⟩
    · decide
    · decide
  · have hmark : SyncMark.answered block.owner accepted ∈
        trace attachedRun (.ofConfig { contexts := .single } {}) := by
      rw [htrace]
      exact List.mem_append_right _ (SyncBlock.mem_marks_of_answer hcomplete hmem)
    have hseen : trace attachedRun (.ofConfig { contexts := .single } {}) = [
        .clear 2 (some [("a.lua", 2)]), .answered 2 true, .set 2 "a.lua" 2, .answered 2 true] := by
      decide +kernel
    rw [hseen] at hmark
    simp only [List.mem_cons, SyncMark.answered.injEq, reduceCtorEq, List.not_mem_nil, or_false,
      false_or, or_self] at hmark
    exact hmark.2

end World

end DebugBridge
