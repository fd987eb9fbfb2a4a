import DebugBridge.Proofs.Session.Others
import DebugBridge.Proofs.Session.Syncing

/-!
# The journal of the syncs

The blocks of a run, kept beside the session: which sync has made which calls, and how many syncs
are still to come.
-/

namespace DebugBridge.Session

/-- The blocks in step with the session. -/
structure Journal (log : List SyncMark) (starts : Nat) (blocks : List SyncBlock)
    (session : Session) : Prop where
  marks : log = blocks.flatMap SyncBlock.marks
  earlier : ∀ block ∈ blocks.dropLast, block.isComplete = true
  complete : (∀ id, session.callingStage? id = none) → ∀ block ∈ blocks, block.isComplete = true
  /-- Whoever waits for an answer is at work on the last block. -/
  underWay : ∀ id stage, session.callingStage? id = some stage →
    ∃ front block, blocks = front ++ [block] ∧ block.owner = id ∧ block.WaitsAt stage
  owners : (blocks.map (·.owner)).Nodup
  /-- No sync comes twice. -/
  settled : ∀ block ∈ blocks, block.owner < session.nextActivity ∧
    session.isPendingSync block.owner = false
  count : blocks.length + session.pendingSyncs.length = starts
  installed : session.SyncsInstalled

theorem isSome_syncStage?_iff {session : Session} {id : Nat} :
    (session.syncStage? id).isSome = true ↔
      session.isPendingSync id = true ∨ ∃ stage, session.callingStage? id = some stage := by
  cases hstage : session.syncStage? id with
  | none => simp [isPendingSync, callingStage?, hstage]
  | some stage =>
      cases hcalls : stage.isCalling with
      | false => simp [isPendingSync, hstage, hcalls]
      | true => simp [callingStage?, hstage, hcalls]

theorem TableOk.lt_of_isPendingSync {session : Session} (htable : TableOk session) {id : Nat}
    (hpending : session.isPendingSync id = true) : id < session.nextActivity := by
  rw [isPendingSync, Option.any_eq_true] at hpending
  obtain ⟨stage, hstage, -⟩ := hpending
  exact htable.lt_of_activity? (syncStage?_eq_some_iff.mp hstage)

namespace Journal

variable {log : List SyncMark} {starts : Nat} {blocks : List SyncBlock} {session after : Session}
variable {event : SessionEvent} {started : Bool} {marks : List SyncMark}

theorem ofConfig (config : BackendConfig) : Journal [] 0 [] (.ofConfig config) := by
  have hnone : ∀ id, (Session.ofConfig config).syncStage? id = none := fun _ => rfl
  constructor
  · rfl
  · simp
  · simp
  · intro id stage hstage
    rw [callingStage?, hnone] at hstage
    cases hstage
  · exact List.nodup_nil
  · simp
  · rfl
  · intro id hid
    rw [hnone] at hid
    cases hid

/-! ## How many syncs are to come -/

theorem count_quiet {fresh : List Nat} (htable : TableOk session) (hafter : TableOk after)
    (hcount : fresh.length = if started then 1 else 0)
    (hnew : ∀ id ∈ fresh, session.nextActivity ≤ id)
    (hpending : ∀ id, after.isPendingSync id = (session.isPendingSync id || decide (id ∈ fresh))) :
    after.pendingSyncs.length = session.pendingSyncs.length + if started then 1 else 0 := by
  have hfresh : fresh.Nodup := by
    cases fresh with
    | nil => exact List.nodup_nil
    | cons id rest =>
        have hrest : rest = [] := by
          rw [← List.length_eq_zero_iff]
          rw [List.length_cons] at hcount
          split at hcount <;> omega
        rw [hrest]
        exact List.nodup_singleton id
  have hnodup : (session.pendingSyncs ++ fresh).Nodup := by
    refine List.nodup_append.mpr ⟨nodup_pendingSyncs htable, hfresh, ?_⟩
    rintro id hid _ hother rfl
    have hbelow := htable.lt_of_isPendingSync ((mem_pendingSyncs_iff htable).mp hid)
    exact absurd (hnew id hother) (Nat.not_le_of_lt hbelow)
  have hperm : after.pendingSyncs.Perm (session.pendingSyncs ++ fresh) := by
    refine (List.perm_ext_iff_of_nodup (nodup_pendingSyncs hafter) hnodup).mpr fun id => ?_
    rw [mem_pendingSyncs_iff hafter, hpending, List.mem_append, mem_pendingSyncs_iff htable]
    simp
  rw [hperm.length_eq, List.length_append, hcount]

theorem count_began {id : Nat} (htable : TableOk session) (hafter : TableOk after)
    (hwaiting : session.isPendingSync id = true)
    (hpending : ∀ other,
      after.isPendingSync other = (session.isPendingSync other && other != id)) :
    after.pendingSyncs.length + 1 = session.pendingSyncs.length := by
  have hmem : id ∈ session.pendingSyncs := (mem_pendingSyncs_iff htable).mpr hwaiting
  have hnodup : session.pendingSyncs.Nodup := nodup_pendingSyncs htable
  have hperm : after.pendingSyncs.Perm (session.pendingSyncs.erase id) := by
    refine (List.perm_ext_iff_of_nodup (nodup_pendingSyncs hafter) (hnodup.erase id)).mpr
      fun other => ?_
    rw [mem_pendingSyncs_iff hafter, hpending, hnodup.mem_erase_iff, mem_pendingSyncs_iff htable]
    simp [and_comm]
  rw [hperm.length_eq, List.length_erase_of_mem hmem]
  have hpos := List.length_pos_of_mem hmem
  omega

theorem count_same (htable : TableOk session) (hafter : TableOk after)
    (hpending : ∀ other, after.isPendingSync other = session.isPendingSync other) :
    after.pendingSyncs.length = session.pendingSyncs.length := by
  have hnone : ([] : List Nat).length = if false then 1 else 0 := rfl
  exact count_quiet htable hafter hnone (by simp) (by simpa using hpending)

/-! ## One step -/

theorem installed_step (hjournal : Journal log starts blocks session)
    (hstep : SyncStep session event after (session.startsSync event after) marks)
    (hpaths : session.paths.isSome = true → after.paths = session.paths) :
    after.SyncsInstalled := by
  intro id hid
  have hkept : ∀ other, session.isPendingSync other = true ∨
      (∃ stage, session.callingStage? other = some stage) → after.paths.isSome = true := by
    intro other hold
    have hinstalled := hjournal.installed other (isSome_syncStage?_iff.mpr hold)
    rw [hpaths hinstalled]
    exact hinstalled
  rw [isSome_syncStage?_iff] at hid
  cases hstep with
  | @quiet fresh hcount hnew hevent hcalling hpending =>
      rw [hcalling, hpending, Bool.or_eq_true, decide_eq_true_eq] at hid
      rcases hid with (hold | hfresh) | hold
      · exact hkept id (.inl hold)
      · have hstarts : session.startsSync event after = true := by
          cases hstarts : session.startsSync event after with
          | true => rfl
          | false =>
              rw [hstarts] at hcount
              have hlength := List.length_pos_of_mem hfresh
              rw [hcount] at hlength
              cases hlength
        rw [startsSync, Bool.or_eq_true, Bool.and_eq_true, Bool.and_eq_true] at hstarts
        rcases hstarts with ⟨-, hinstalled⟩ | ⟨hinstalled, -⟩
        · exact hinstalled
        · rw [hpaths hinstalled]
          exact hinstalled
      · exact hkept id (.inr hold)
  | began hstarts hevent hknown hwaiting hidle hcalling hpending =>
      exact hkept _ (.inl hwaiting)
  | called hstarts hevent hstage hleft hcalling hpending =>
      exact hkept _ (.inr ⟨_, hstage⟩)
  | ended hstarts hevent hstage hleft hcalling hpending =>
      exact hkept _ (.inr ⟨_, hstage⟩)

theorem quiet {fresh : List Nat} (hjournal : Journal log starts blocks session)
    (htable : TableOk session) (hafter : TableOk after)
    (hnext : session.nextActivity ≤ after.nextActivity) (hinstalled : after.SyncsInstalled)
    (hcount : fresh.length = if started then 1 else 0)
    (hnew : ∀ id ∈ fresh, session.nextActivity ≤ id)
    (hcalling : ∀ id, after.callingStage? id = session.callingStage? id)
    (hpending : ∀ id,
      after.isPendingSync id = (session.isPendingSync id || decide (id ∈ fresh))) :
    Journal log (starts + if started then 1 else 0) blocks after where
  marks := hjournal.marks
  earlier := hjournal.earlier
  complete hidle := hjournal.complete fun id => (hcalling id).symm.trans (hidle id)
  underWay id stage hstage := hjournal.underWay id stage ((hcalling id).symm.trans hstage)
  owners := hjournal.owners
  settled block hblock := by
    obtain ⟨hbelow, hsettled⟩ := hjournal.settled block hblock
    refine ⟨Nat.lt_of_lt_of_le hbelow hnext, ?_⟩
    have hold : block.owner ∉ fresh := fun hmem =>
      absurd (hnew block.owner hmem) (Nat.not_le_of_lt hbelow)
    rw [hpending, hsettled]
    simp [hold]
  count := by
    rw [count_quiet htable hafter hcount hnew hpending, ← hjournal.count]
    omega
  installed := hinstalled

/-- The block of a sync that begins comes behind the others, all of them complete. -/
theorem began {id : Nat} {plan : List (String × Int)}
    (hjournal : Journal log starts blocks session) (htable : TableOk session)
    (hafter : TableOk after) (hnext : session.nextActivity ≤ after.nextActivity)
    (hinstalled : after.SyncsInstalled) (hwaiting : session.isPendingSync id = true)
    (hidle : ∀ other, session.callingStage? other = none)
    (hcalling : ∀ other, after.callingStage? other =
      if other = id then some (.clearing { rest := plan, total := plan.length }) else none)
    (hpending : ∀ other,
      after.isPendingSync other = (session.isPendingSync other && other != id)) :
    Journal (log ++ [.clear id (some plan)]) starts
      (blocks ++ [{ owner := id, plan, answers := [] }]) after := by
  have hbelow := htable.lt_of_isPendingSync hwaiting
  have hfirst : id ∉ blocks.map (·.owner) := by
    intro hmem
    obtain ⟨block, hblock, hsame⟩ := List.mem_map.mp hmem
    have hsettled := (hjournal.settled block hblock).2
    rw [hsame, hwaiting] at hsettled
    cases hsettled
  constructor
  · rw [List.flatMap_append, ← hjournal.marks]
    rfl
  · rw [List.dropLast_concat]
    exact hjournal.complete hidle
  · intro hnone
    have hcalls := hnone id
    rw [hcalling, if_pos rfl] at hcalls
    cases hcalls
  · intro other stage hstage
    rw [hcalling] at hstage
    split at hstage
    · next hother =>
        cases hstage
        exact ⟨blocks, _, rfl, hother.symm, ⟨rfl, rfl⟩⟩
    · cases hstage
  · rw [List.map_append]
    refine List.nodup_append.mpr ⟨hjournal.owners, List.nodup_singleton id, ?_⟩
    rintro owner howner _ hlast rfl
    rw [List.mem_singleton.mp hlast] at howner
    exact hfirst howner
  · intro block hblock
    rcases List.mem_append.mp hblock with hold | hlast
    · obtain ⟨holdBelow, hsettled⟩ := hjournal.settled block hold
      exact ⟨Nat.lt_of_lt_of_le holdBelow hnext, by rw [hpending, hsettled]; rfl⟩
    · rw [List.mem_singleton.mp hlast]
      exact ⟨Nat.lt_of_lt_of_le hbelow hnext, by simp [hpending]⟩
  · have hcount := count_began htable hafter hwaiting hpending
    rw [List.length_append, List.length_singleton, ← hjournal.count]
    omega
  · exact hinstalled

section Answer

variable {front : List SyncBlock} {block : SyncBlock} {accepted : Bool}

/-- An answer changes nothing about whose blocks there are. -/
theorem settled_answer (hjournal : Journal log starts (front ++ [block]) session)
    (hnext : session.nextActivity ≤ after.nextActivity)
    (hpending : ∀ other, after.isPendingSync other = session.isPendingSync other) :
    ∀ found ∈ front ++ [block.answer accepted],
      found.owner < after.nextActivity ∧ after.isPendingSync found.owner = false := by
  have hold : ∀ found ∈ front ++ [block],
      found.owner < after.nextActivity ∧ after.isPendingSync found.owner = false := by
    intro found hfound
    obtain ⟨hbelow, hsettled⟩ := hjournal.settled found hfound
    exact ⟨Nat.lt_of_lt_of_le hbelow hnext, (hpending found.owner).trans hsettled⟩
  intro found hfound
  rcases List.mem_append.mp hfound with hfront | hlast
  · exact hold found (List.mem_append_left _ hfront)
  · rw [List.mem_singleton.mp hlast]
    exact hold block (List.mem_append_right _ List.mem_cons_self)

/-- The last block takes the answer in, and either goes on or is complete. -/
theorem answered (hjournal : Journal log starts (front ++ [block]) session)
    (htable : TableOk session) (hafter : TableOk after)
    (hnext : session.nextActivity ≤ after.nextActivity) (hinstalled : after.SyncsInstalled)
    (hpending : ∀ other, after.isPendingSync other = session.isPendingSync other)
    (hmarks : (block.answer accepted).marks = block.marks ++ marks)
    (hdone : (∀ id, after.callingStage? id = none) → (block.answer accepted).isComplete = true)
    (hwaits : ∀ id stage, after.callingStage? id = some stage →
      (block.answer accepted).owner = id ∧ (block.answer accepted).WaitsAt stage) :
    Journal (log ++ marks) starts (front ++ [block.answer accepted]) after := by
  have hearlier := hjournal.earlier
  rw [List.dropLast_concat] at hearlier
  constructor
  · rw [hjournal.marks]
    simp [hmarks]
  · rw [List.dropLast_concat]
    exact hearlier
  · intro hnone found hmem
    rcases List.mem_append.mp hmem with hfront | hlast
    · exact hearlier found hfront
    · rw [List.mem_singleton.mp hlast]
      exact hdone hnone
  · intro id stage hstage
    exact ⟨front, _, rfl, hwaits id stage hstage⟩
  · have howners := hjournal.owners
    rw [List.map_append] at howners ⊢
    exact howners
  · exact settled_answer hjournal hnext hpending
  · rw [count_same htable hafter hpending, ← hjournal.count]
    simp
  · exact hinstalled

end Answer

/-- An event keeps the journal, with the blocks extended by what can be seen of it. -/
theorem step (hjournal : Journal log starts blocks session) (htable : TableOk session)
    (hafter : TableOk after) (hnext : session.nextActivity ≤ after.nextActivity)
    (hpaths : session.paths.isSome = true → after.paths = session.paths)
    (hstep : SyncStep session event after (session.startsSync event after) marks) :
    Journal (log ++ marks) (starts + if session.startsSync event after then 1 else 0)
      (SyncBlock.extend blocks marks) after := by
  have hinstalled := hjournal.installed_step hstep hpaths
  generalize session.startsSync event after = started at hstep ⊢
  cases hstep with
  | quiet hcount hnew hevent hcalling hpending =>
      rw [List.append_nil]
      exact hjournal.quiet htable hafter hnext hinstalled hcount hnew hcalling hpending
  | began hstarts hevent hknown hwaiting hidle hcalling hpending =>
      rw [hstarts]
      exact hjournal.began htable hafter hnext hinstalled hwaiting hidle hcalling hpending
  | @called id stage outcome file line rest total hstarts hevent hstage hleft hcalling hpending =>
      obtain ⟨front, block, rfl, rfl, hwaits⟩ := hjournal.underWay id stage hstage
      obtain ⟨hmarks, hnextWaits⟩ := hwaits.called hleft
      rw [hstarts, SyncBlock.extend_answered]
      refine hjournal.answered htable hafter hnext hinstalled hpending hmarks ?_ ?_
      · intro hnone
        have hcalls := hnone block.owner
        rw [hcalling, if_pos rfl] at hcalls
        cases hcalls
      · intro other next hnextStage
        rw [hcalling] at hnextStage
        split at hnextStage
        · next hother =>
            cases hnextStage
            exact ⟨hother.symm, hnextWaits⟩
        · cases hnextStage
  | @ended id stage outcome hstarts hevent hstage hleft hcalling hpending =>
      obtain ⟨front, block, rfl, rfl, hwaits⟩ := hjournal.underWay id stage hstage
      obtain ⟨hmarks, hdone⟩ := hwaits.ended hleft
      rw [hstarts, SyncBlock.extend_answered]
      refine hjournal.answered htable hafter hnext hinstalled hpending hmarks (fun _ => hdone) ?_
      intro other next hnextStage
      rw [hcalling] at hnextStage
      cases hnextStage

end Journal

/-! ## Steps and runs -/

section Run

variable {session : Session} {event : SessionEvent} {out : Session × List Effect}

/-- Directories that are known stay. -/
theorem Reaction.paths_kept (hreaction : Reaction session event out) (hwf : WellFormed session)
    (hinstalled : session.paths.isSome = true) : out.1.paths = session.paths := by
  cases hreaction.backdropMove hwf with
  | kept hafter => exact congrArg Backdrop.paths hafter
  | recounted hevent hcommand hafter => exact congrArg Backdrop.paths hafter
  | breakpointsSet haccepted hafter => exact congrArg Backdrop.paths hafter
  | commandStarted hbegun hafter => exact congrArg Backdrop.paths hafter
  | shutDown hevent hended hafter => exact congrArg Backdrop.paths hafter
  | released hafter => exact congrArg Backdrop.paths hafter
  | attached hbegun hpaths hafter =>
      rcases hpaths with hnone | hsome
      · rw [hnone] at hinstalled
        cases hinstalled
      · rw [hsome]
        exact congrArg Backdrop.paths hafter
  | commandEnded hended hafter => exact congrArg Backdrop.paths hafter
  | paused hevent hactivity hafter => exact congrArg Backdrop.paths hafter

theorem paths_step (hwf : WellFormed session) (hinstalled : session.paths.isSome = true)
    (now : Nat) (event : SessionEvent) : (step now event session).1.paths = session.paths := by
  have hreaction := reaction_react hwf now event
  have hreaped := reaped_reap (hreaction.wellFormed hwf).table
  have hafter : (step now event session).1.paths = (react now event session).1.paths :=
    congrArg Backdrop.paths hreaped.backdrop
  exact hafter.trans (hreaction.paths_kept hwf hinstalled)

/-- What decides which breakpoints the backend is to have. -/
def registry (session : Session) : Option ResourceDirectories × SourceBreakpoints × Bool :=
  (session.paths, session.breakpoints, session.linesStartAt1)

def Backdrop.registry (backdrop : Backdrop) :
    Option ResourceDirectories × SourceBreakpoints × Bool :=
  (backdrop.paths, backdrop.breakpoints, backdrop.linesStartAt1)

theorem backendBreakpoints_congr {other : Session} (hregistry : other.registry = session.registry) :
    other.backendBreakpoints = session.backendBreakpoints := by
  simp only [registry, Prod.mk.injEq] at hregistry
  obtain ⟨hpaths, hbreakpoints, hlines⟩ := hregistry
  rw [backendBreakpoints, backendBreakpoints, hpaths, hbreakpoints, hlines]

/-- Once a resource is attached, only new breakpoints and another way to count lines change what the
backend is to have. -/
theorem Reaction.registry_kept (hreaction : Reaction session event out) (hwf : WellFormed session)
    (hinstalled : session.paths.isSome = true) (hsets : session.setsBreakpoints event = false)
    (hlines : ∀ request, event = .request request → request.command ≠ "initialize") :
    out.1.registry = session.registry := by
  cases hreaction.backdropMove hwf with
  | kept hafter => exact congrArg Backdrop.registry hafter
  | recounted hevent hcommand hafter => exact absurd hcommand (hlines _ hevent)
  | breakpointsSet haccepted hafter =>
      rw [haccepted] at hsets
      cases hsets
  | commandStarted hbegun hafter => exact congrArg Backdrop.registry hafter
  | shutDown hevent hended hafter => exact congrArg Backdrop.registry hafter
  | released hafter => exact congrArg Backdrop.registry hafter
  | attached hbegun hpaths hafter =>
      rcases hpaths with hnone | hsome
      · rw [hnone] at hinstalled
        cases hinstalled
      · rw [registry, registry, hsome]
        exact congrArg Backdrop.registry hafter
  | commandEnded hended hafter => exact congrArg Backdrop.registry hafter
  | paused hevent hactivity hafter => exact congrArg Backdrop.registry hafter

theorem backendBreakpoints_step (hwf : WellFormed session)
    (hinstalled : session.paths.isSome = true) (hsets : session.setsBreakpoints event = false)
    (hlines : ∀ request, event = .request request → request.command ≠ "initialize") (now : Nat) :
    (step now event session).1.backendBreakpoints = session.backendBreakpoints := by
  have hreaction := reaction_react hwf now event
  have hreaped := reaped_reap (hreaction.wellFormed hwf).table
  have hafter : (step now event session).1.registry = (react now event session).1.registry :=
    congrArg Backdrop.registry hreaped.backdrop
  exact backendBreakpoints_congr
    (hafter.trans (hreaction.registry_kept hwf hinstalled hsets hlines))

/-- The abandoned poller is no sync. -/
theorem syncStage?_reap (htable : TableOk session) (id : Nat) :
    (reap session).1.syncStage? id = session.syncStage? id := by
  rcases (reaped_reap htable).activity? id with hsame | ⟨hnone, stage, hpoll⟩
  · exact syncStage?_congr hsame
  · rw [syncStage?, syncStage?, hnone, hpoll]

theorem SyncStep.congr {after other : Session} {starts : Bool} {marks : List SyncMark}
    (hstep : SyncStep session event after starts marks)
    (hstages : ∀ id, other.syncStage? id = after.syncStage? id) :
    SyncStep session event other starts marks := by
  have hcalls : ∀ id, other.callingStage? id = after.callingStage? id :=
    fun id => callingStage?_congr (hstages id)
  have hpends : ∀ id, other.isPendingSync id = after.isPendingSync id :=
    fun id => isPendingSync_congr (hstages id)
  cases hstep with
  | quiet hcount hnew hevent hcalling hpending =>
      exact .quiet hcount hnew hevent (fun id => (hcalls id).trans (hcalling id))
        fun id => (hpends id).trans (hpending id)
  | began hstarts hevent hknown hwaiting hidle hcalling hpending =>
      exact .began hstarts hevent hknown hwaiting hidle
        (fun id => (hcalls id).trans (hcalling id)) fun id => (hpends id).trans (hpending id)
  | called hstarts hevent hstage hleft hcalling hpending =>
      exact .called hstarts hevent hstage hleft
        (fun id => (hcalls id).trans (hcalling id)) fun id => (hpends id).trans (hpending id)
  | ended hstarts hevent hstage hleft hcalling hpending =>
      exact .ended hstarts hevent hstage hleft
        (fun id => (hcalls id).trans (hcalling id)) fun id => (hpends id).trans (hpending id)

theorem syncStep_step (hwf : WellFormed session)
    (hinstalled : session.SyncsInstalled) (now : Nat) (event : SessionEvent) :
    SyncStep session event (step now event session).1
      (session.startsSync event (step now event session).1) (session.stepMarks now event) := by
  have hreaction := reaction_react hwf now event
  have htable := (hreaction.wellFormed hwf).table
  have hreaped := reaped_reap htable
  have hpaths : (step now event session).1.paths = (react now event session).1.paths :=
    congrArg Backdrop.paths hreaped.backdrop
  have hmarks : session.stepMarks now event =
      session.syncMarks event (react now event session) := by
    rw [stepMarks, syncMarks, syncMarks, step, Turn.andThen_snd, callMarks_append,
      callMarks_of_noCall hreaped.effects, List.append_nil]
  have hstarts : session.startsSync event (step now event session).1 =
      session.startsSync event (react now event session).1 := by
    rw [startsSync, startsSync, hpaths]
  rw [hmarks, hstarts]
  exact (hreaction.syncStep hwf hinstalled).congr fun id => syncStage?_reap htable id

theorem Journal.run {log : List SyncMark} {starts : Nat} {blocks : List SyncBlock}
    (hjournal : Journal log starts blocks session) (hwf : WellFormed session)
    (events : List (Nat × SessionEvent)) :
    ∃ blocks', Journal (log ++ syncTrace events session) (starts + syncStarts events session)
      blocks' (Session.run events session).1 := by
  induction events generalizing session log starts blocks with
  | nil =>
      rw [syncTrace, List.append_nil]
      exact ⟨blocks, hjournal⟩
  | cons event events ih =>
      have hnextWf := wellFormed_step hwf event.1 event.2
      have hnext := hjournal.step hwf.table hnextWf.table
        (nextActivity_le_step hwf event.1 event.2)
        (fun hinstalled => paths_step hwf hinstalled event.1 event.2)
        (syncStep_step hwf hjournal.installed event.1 event.2)
      obtain ⟨blocks', hrest⟩ := ih hnext hnextWf
      rw [List.append_assoc, Nat.add_assoc] at hrest
      exact ⟨blocks', hrest⟩

theorem journal_run (config : BackendConfig) (events : List (Nat × SessionEvent)) :
    ∃ blocks, Journal (syncTrace events (ofConfig config)) (syncStarts events (ofConfig config))
      blocks (Session.run events (ofConfig config)).1 := by
  obtain ⟨blocks, hjournal⟩ :=
    (Journal.ofConfig config).run (WellFormed.ofConfig config) events
  rw [List.nil_append, Nat.zero_add] at hjournal
  exact ⟨blocks, hjournal⟩

end Run

end DebugBridge.Session
