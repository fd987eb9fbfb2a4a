import DebugBridge.Proofs.Session.Recorded
import DebugBridge.Proofs.Simulation.Reads
import DebugBridge.Proofs.Simulation.SyncedBreakpoints

/-!
# Breakpoints set again

Setting the breakpoints of a source again replaces those that were set under the same path, at the
backend too.  The backend knows files by other names than the editor does: those that were set under
another path stay, even where both paths come to one file of the backend.
-/

namespace DebugBridge

namespace Session

variable {session : Session} {event : SessionEvent} {now : Nat}

/-- A clear is asked for with the breakpoints of that moment in mind. -/
theorem known_of_clear {owner : Nat} {known : Option (List (String × Int))}
    (hclear : SyncMark.clear owner known ∈ session.stepMarks now event) :
    known = session.backendBreakpoints := by
  rcases List.mem_append.mp hclear with hanswer | hcall
  · unfold answerMarks at hanswer
    split at hanswer
    · split at hanswer
      · rw [List.mem_singleton] at hanswer
        cases hanswer
      · cases hanswer
    · cases hanswer
  · obtain ⟨effect, -, hmark⟩ := List.mem_filterMap.mp hcall
    split at hmark
    · cases hmark
      rfl
    · cases hmark
    · cases hmark

end Session

namespace World

variable {config : BackendConfig} {backend : SimulatedBackend} {start : World}
variable {before events later after : List WorldEvent} {first : WorldEvent}
variable {front : List SyncBlock} {block : SyncBlock}

/-- The session takes no part in an event, or a step. -/
theorem session_step_cases (world : World) (event : WorldEvent) :
    (world.step event).session = world.session ∧ world.taken event = [] ∨
      ∃ now next, event = .session now next ∧ world.taken event = [(now, next)] ∧
        (world.step event).session = (Session.step now next world.session).1 ∧
        world.marks event = world.session.stepMarks now next := by
  cases event with
  | session now next =>
      cases hpermits : world.permits next with
      | false =>
          have hrefused : ¬ world.permits next = true := by simp [hpermits]
          exact .inl ⟨congrArg World.session (if_neg hrefused), if_neg hrefused⟩
      | true =>
          exact .inr ⟨now, next, rfl, if_pos hpermits, congrArg World.session (if_pos hpermits),
            marks_session hpermits now⟩
  | process id => exact .inl ⟨session_process world id, rfl⟩
  | touch change => exact .inl ⟨rfl, rfl⟩

/-! ## Since a block began -/

/-- The plan of a block is what the backend was to have when the block began. -/
theorem Began.plan (hbegan : Began start front block before first) :
    (run before start).session.backendBreakpoints = some block.plan := by
  have hclears := hbegan.clears
  rcases session_step_cases (run before start) first with
    ⟨-, htaken⟩ | ⟨now, event, -, -, -, hmarks⟩
  · rw [marks_of_untaken htaken] at hclears
    cases hclears
  · have hclear : SyncMark.clear block.owner (some block.plan) ∈
        (run before start).session.stepMarks now event := by
      rw [← hmarks, hclears]
      exact List.mem_singleton_self _
    exact (Session.known_of_clear hclear).symm

/-- Behind the beginning of the last block nothing is cleared. -/
theorem Began.not_clear (hbegan : Began start front block before first)
    (htrace : trace (before ++ first :: after) start =
      front.flatMap SyncBlock.marks ++ block.marks) (owner : Nat)
    (known : Option (List (String × Int))) :
    SyncMark.clear owner known ∉ trace after (run (before ++ [first]) start) := by
  have hsplit : before ++ first :: after = (before ++ [first]) ++ after := by simp
  obtain ⟨rest, hmarks, hrest⟩ := block.marks_eq_cons
  rw [hsplit, trace_append, trace_snoc, hbegan.earlier, hbegan.clears, hmarks,
    List.append_assoc] at htrace
  have hafter := List.append_cancel_left htrace
  rw [List.singleton_append] at hafter
  rw [(List.cons.inj hafter).2]
  exact hrest owner known

section Uncleared

variable {event : WorldEvent}

theorem not_clear_snoc
    (hclear : ∀ owner known,
      SyncMark.clear owner known ∉ trace (event :: later) (run events start)) :
    (∀ owner known, SyncMark.clear owner known ∉ (run events start).marks event) ∧
      ∀ owner known, SyncMark.clear owner known ∉ trace later (run (events ++ [event]) start) := by
  have hsplit : event :: later = [event] ++ later := rfl
  rw [hsplit, trace_append, trace_singleton] at hclear
  rw [run_append]
  exact ⟨fun owner known hmem => hclear owner known (List.mem_append_left _ hmem),
    fun owner known hmem => hclear owner known (List.mem_append_right _ hmem)⟩

/-- A sync that is pending stays so until something is cleared. -/
theorem isPendingSync_run {id : Nat}
    (hpending : (run events (.ofConfig config backend)).session.isPendingSync id = true)
    (hclear : ∀ owner known, SyncMark.clear owner known ∉
      trace later (run events (.ofConfig config backend))) :
    (run (events ++ later) (.ofConfig config backend)).session.isPendingSync id = true := by
  induction later generalizing events with
  | nil =>
      rw [List.append_nil]
      exact hpending
  | cons event later ih =>
      obtain ⟨blocks, hchronicle⟩ := exists_chronicle config backend events
      obtain ⟨hnow, hlater⟩ := not_clear_snoc hclear
      have hwhole : events ++ event :: later = (events ++ [event]) ++ later := by simp
      rw [hwhole]
      refine ih ?_ hlater
      rw [run_snoc]
      rcases session_step_cases (run events (.ofConfig config backend)) event with
        ⟨hsame, -⟩ | ⟨now, next, -, -, hstep, hmarks⟩
      · rw [hsame]
        exact hpending
      · rw [hmarks] at hnow
        rw [hstep]
        exact Session.isPendingSync_step hchronicle.wellFormed hchronicle.journal.installed hnow
          hpending

/-- Without a sync to come, the breakpoints are those of the last clear. -/
theorem breakpoints_run
    (hinstalled : (run events (.ofConfig config backend)).session.paths.isSome = true)
    (hclear : ∀ owner known, SyncMark.clear owner known ∉
      trace later (run events (.ofConfig config backend)))
    (hsettled : ∀ id,
      ¬ (run (events ++ later) (.ofConfig config backend)).session.isPendingSync id = true) :
    (run (events ++ later) (.ofConfig config backend)).session.breakpoints =
        (run events (.ofConfig config backend)).session.breakpoints ∧
      (run (events ++ later) (.ofConfig config backend)).session.paths =
        (run events (.ofConfig config backend)).session.paths := by
  induction later generalizing events with
  | nil =>
      rw [List.append_nil]
      exact ⟨rfl, rfl⟩
  | cons event later ih =>
      obtain ⟨blocks, hchronicle⟩ := exists_chronicle config backend events
      obtain ⟨-, hlater⟩ := not_clear_snoc hclear
      have hwhole : events ++ event :: later = (events ++ [event]) ++ later := by simp
      rw [hwhole] at hsettled ⊢
      have hnext : (run (events ++ [event]) (.ofConfig config backend)).session.breakpoints =
            (run events (.ofConfig config backend)).session.breakpoints ∧
          (run (events ++ [event]) (.ofConfig config backend)).session.paths =
            (run events (.ofConfig config backend)).session.paths := by
        rcases session_step_cases (run events (.ofConfig config backend)) event with
          ⟨hsame, -⟩ | ⟨now, next, -, -, hstep, -⟩
        · rw [run_snoc, hsame]
          exact ⟨rfl, rfl⟩
        · have hwf := hchronicle.wellFormed
          have hunset : Session.recorded? next = none := by
            by_contra hsets
            have hstarts : (run events (.ofConfig config backend)).session.startsSync next
                (Session.step now next (run events (.ofConfig config backend)).session).1 =
                  true := by
              rw [Session.startsSync, hinstalled, Session.setsBreakpoints_eq]
              simp [Option.isSome_iff_ne_none.mpr hsets]
            obtain ⟨id, hpending⟩ :=
              Session.pending_of_starts hwf hchronicle.journal.installed hstarts
            refine hsettled id (isPendingSync_run ?_ hlater)
            rw [run_snoc, hstep]
            exact hpending
          rw [run_snoc, hstep, Session.paths_step hwf hinstalled, Session.breakpoints_step hwf,
            hunset]
          exact ⟨rfl, rfl⟩
      obtain ⟨hbreakpoints, hpaths⟩ := ih (by rw [hnext.2]; exact hinstalled) hlater hsettled
      exact ⟨hbreakpoints.trans hnext.1, hpaths.trans hnext.2⟩

end Uncleared

/-- The breakpoints of a session are still those that the last block began with. -/
theorem Began.kept (hbegan : Began (.ofConfig config backend) front block before first)
    (htrace : trace (before ++ first :: after) (.ofConfig config backend) =
      front.flatMap SyncBlock.marks ++ block.marks)
    (hsettled : ∀ id, ¬ (run (before ++ first :: after)
      (.ofConfig config backend)).session.isPendingSync id = true) :
    (run (before ++ first :: after) (.ofConfig config backend)).session.breakpoints =
        (run before (.ofConfig config backend)).session.breakpoints ∧
      (run (before ++ first :: after) (.ofConfig config backend)).session.paths =
        (run before (.ofConfig config backend)).session.paths := by
  obtain ⟨blocks, hchronicle⟩ := exists_chronicle config backend before
  have hwf := hchronicle.wellFormed
  have hinstalled : (run before (.ofConfig config backend)).session.paths.isSome = true := by
    have hplan := hbegan.plan
    rw [Session.backendBreakpoints] at hplan
    exact Option.isSome_map ▸ Option.isSome_of_eq_some hplan
  have hfirst : (run (before ++ [first]) (.ofConfig config backend)).session.breakpoints =
        (run before (.ofConfig config backend)).session.breakpoints ∧
      (run (before ++ [first]) (.ofConfig config backend)).session.paths =
        (run before (.ofConfig config backend)).session.paths := by
    rcases session_step_cases (run before (.ofConfig config backend)) first with
      ⟨hsame, -⟩ | ⟨now, event, -, -, hstep, hmarks⟩
    · rw [run_snoc, hsame]
      exact ⟨rfl, rfl⟩
    · have hclears := hmarks.symm.trans hbegan.clears
      have hunset : Session.recorded? event = none := by
        have hmove := Session.syncStep_step hwf hchronicle.journal.installed now event
        rw [hclears] at hmove
        cases hmove with
        | began hstarts hevent =>
            rw [hevent]
            rfl
      rw [run_snoc, hstep, Session.paths_step hwf hinstalled, Session.breakpoints_step hwf, hunset]
      exact ⟨rfl, rfl⟩
  have hsplit : before ++ first :: after = (before ++ [first]) ++ after := by simp
  rw [hsplit] at hsettled ⊢
  have hafter := breakpoints_run (by rw [hfirst.2]; exact hinstalled)
    (hbegan.not_clear htrace) hsettled
  exact ⟨hafter.1.trans hfirst.1, hafter.2.trans hfirst.2⟩

/-! ## Sources -/

theorem mem_history {start : World} {now : Nat} {event : SessionEvent}
    (hmem : (now, event) ∈ history events start) : .session now event ∈ events := by
  induction events generalizing start with
  | nil => cases hmem
  | cons first events ih =>
      rcases List.mem_append.mp hmem with hfirst | hrest
      · rcases session_step_cases start first with ⟨-, htaken⟩ | ⟨moment, next, rfl, htaken, -, -⟩
        · rw [htaken] at hfirst
          cases hfirst
        · rw [htaken, List.mem_singleton, Prod.mk.injEq] at hfirst
          obtain ⟨rfl, rfl⟩ := hfirst
          exact List.mem_cons_self
      · exact List.mem_cons_of_mem _ (ih hrest)

/-- What a request sets is what counts until another one sets something. -/
theorem recordedLines_of_last {earlier : List WorldEvent} {now : Nat} {request : Request}
    {source : String} {lines : List Int}
    (hset : Session.recorded? (.request request) = some (source, lines))
    (hlast : ∀ moment event, .session moment event ∈ later → Session.recorded? event = none)
    (start : World) :
    Session.recordedLines (history (earlier ++ .session now (.request request) :: later) start)
      source = lines := by
  have htaken : (run earlier start).taken (.session now (.request request)) =
      [(now, .request request)] := rfl
  have hlater : ∀ event ∈ history later
      ((run earlier start).step (.session now (.request request))),
      Session.recorded? event.2 = none := by
    rintro ⟨moment, event⟩ hmem
    exact hlast moment event (mem_history hmem)
  rw [history_append, history, htaken, ← List.append_assoc, Session.recordedLines_append hlater,
    Session.recordedLines_snoc, Session.record, hset]
  exact Function.update_self _ _ _

/-- The breakpoints that the backend has in one file. -/
def breakpointsIn (world : World) (file : String) : List (String × Int) :=
  world.backend.breakpoints.filter fun place => place.1 == file

/-- A plan holds, of one file, the lines of the sources that come to this file. -/
theorem filter_plan {session : Session} {paths : ResourceDirectories} {plan : List (String × Int)}
    {recorded : String → List Int} (hrecords : session.breakpoints.Records recorded)
    (hpaths : session.paths = some paths) (hplan : session.backendBreakpoints = some plan)
    (file : String) :
    plan.filter (fun place => place.1 == file) =
      ((session.breakpoints.bySource.map (·.1)).filter
        fun source => paths.backendName source == file).flatMap fun source =>
          (recorded source).map fun line =>
            (file, Session.backendLine line session.linesStartAt1) := by
  have hall := hrecords.toList_map fun source line =>
    (paths.backendName source, Session.backendLine line session.linesStartAt1)
  rw [Session.backendBreakpoints, hpaths, Option.map_some, Option.some.injEq] at hplan
  rw [← hplan, hall]
  exact SourceBreakpoints.filter_places _ recorded paths.backendName
    (Session.backendLine · session.linesStartAt1) file

/-- After the last request that sets breakpoints, once no sync is left: if the last sync was
accepted throughout and nobody else writes breakpoints, the backend has, in the file that the
request names, the lines of that request, and beside them what other paths of this file were last
set to, path by path.  Where no other path of the file has breakpoints, it has just those lines. -/
theorem breakpointsIn_of_last_set (config : BackendConfig) (backend : SimulatedBackend)
    (events earlier later : List WorldEvent) (now : Nat) (request : Request) (source : String)
    (lines : List Int) (paths : ResourceDirectories)
    (hevents : events = earlier ++ .session now (.request request) :: later)
    (hset : Session.recorded? (.request request) = some (source, lines))
    (hlast : ∀ moment event, .session moment event ∈ later → Session.recorded? event = none)
    (hattached : (run events (.ofConfig config backend)).session.paths = some paths)
    (hidle : ∀ entry ∈ (run events (.ofConfig config backend)).session.activities,
      entry.2.role ≠ .syncing) :
    ∃ front block before first after, events = before ++ first :: after ∧
      Began (.ofConfig config backend) front block before first ∧
      trace events (.ofConfig config backend) =
        front.flatMap SyncBlock.marks ++ block.marks ∧
      block.isComplete = true ∧
      (Untouched after → (∀ accepted ∈ block.answers, accepted = true) →
        ∃ (recorded : String → List Int) (place : Int → String × Int) (sources : List String),
          recorded = Session.recordedLines (history events (.ofConfig config backend)) ∧
          recorded source = lines ∧
          place = (fun line => (paths.backendName source, Session.backendLine line
            (run before (.ofConfig config backend)).session.linesStartAt1)) ∧
          sources.Pairwise (· < ·) ∧
          (∀ other, other ∈ sources ↔
            paths.backendName other = paths.backendName source ∧ recorded other ≠ []) ∧
          (run events (.ofConfig config backend)).breakpointsIn (paths.backendName source) =
            (sources.flatMap fun other => (recorded other).map place) ∧
          ((∀ other, other ≠ source → paths.backendName other = paths.backendName source →
              recorded other = []) →
            (run events (.ofConfig config backend)).breakpointsIn (paths.backendName source) =
              lines.map place)) := by
  obtain ⟨blocks, hchronicle⟩ := exists_chronicle config backend events
  have hnone := syncStage?_of_idle hchronicle.wellFormed.table hidle
  have hquiet : ∀ id, (run events (.ofConfig config backend)).session.callingStage? id = none :=
    fun id => by rw [Session.callingStage?, hnone]; rfl
  have hsettled : ∀ id,
      ¬ (run events (.ofConfig config backend)).session.isPendingSync id = true :=
    fun id => by simp [Session.isPendingSync, hnone id]
  obtain ⟨front, block, rfl⟩ :=
    hchronicle.exists_last (Option.isSome_of_eq_some hattached) hsettled
  obtain ⟨before, first, after, hsplit, hbegan, hsince⟩ := hchronicle.last front block rfl
  have htrace : trace events (.ofConfig config backend) =
      front.flatMap SyncBlock.marks ++ block.marks := by
    rw [hchronicle.journal.marks, List.flatMap_append, List.flatMap_singleton]
  have hcomplete := hchronicle.journal.complete hquiet block
    (List.mem_append_right _ List.mem_cons_self)
  refine ⟨front, block, before, first, after, hsplit, hbegan, htrace, hcomplete, ?_⟩
  intro huntouched haccepted
  have hlines := @recordedLines_of_last later earlier now request source lines hset hlast
    (.ofConfig config backend)
  have hrecords := Session.records_run config (history events (.ofConfig config backend))
  have hfilled := (hsince.filling huntouched haccepted).through hquiet
  have hkept := hbegan.kept (hsplit ▸ htrace) (hsplit ▸ hsettled)
  rw [← hevents] at hlines
  rw [← hsplit] at hkept
  rw [← session_ofConfig, hkept.1] at hrecords
  have hplaces := filter_plan hrecords (hkept.2.symm.trans hattached) hbegan.plan
    (paths.backendName source)
  rw [← hfilled] at hplaces
  have hsources : ∀ other,
      other ∈ ((run before (.ofConfig config backend)).session.breakpoints.bySource.map
        (·.1)).filter (fun other => paths.backendName other == paths.backendName source) ↔
      paths.backendName other = paths.backendName source ∧
        Session.recordedLines (history events (.ofConfig config backend)) other ≠ [] := by
    intro other
    rw [List.mem_filter, hrecords.mem_sources, beq_iff_eq, and_comm]
  have hascending := hrecords.ascending.filter
    fun other => paths.backendName other == paths.backendName source
  refine ⟨_, _, _, rfl, hlines, rfl, hascending, hsources, hplaces, fun honly => ?_⟩
  rw [← hlines]
  refine hplaces.trans (SourceBreakpoints.flatMap_lines_of_only ?_ ?_ ?_ _)
  · exact hascending.imp ne_of_lt
  · rw [hsources]
    exact and_iff_right rfl
  · intro other hother
    obtain ⟨hname, hsome⟩ := (hsources other).mp hother
    by_contra hne
    exact hsome (honly other hne hname)

/-! ## Two paths of one file -/

/-- Sets one breakpoint. -/
def setRequest (path : String) (line : Int) : Request where
  command := "setBreakpoints"
  arguments := .ofMembers [
    ("source", .ofMembers [("path", .string path)]),
    ("breakpoints", .array [.ofMembers [("line", .int line)]])]

def lowerPath : String := "/srv/mods/deathmatch/resources/play/a.lua"

def upperPath : String := "/srv/mods/deathmatch/resources/play/A.lua"

/-- A resource is attached, and the sync comes through with two breakpoints. -/
def attachedLater : List WorldEvent := [
  .session 0 (.request {
    command := "launch"
    arguments := .ofMembers [("serverpath", .string "/srv")] }),
  .session 0 (.wake 0),
  .process 0,
  .session 1 (.outcome 0 (.ok {
    body := "\x7b\"resource_name\":\"play\",\"resource_path\":\"play\"\x7d".toUTF8.toList })),
  .session 2 (.wake 2),
  .process 2,
  .session 3 (.outcome 2 (.ok {})),
  .process 2,
  .session 4 (.outcome 2 (.ok {})),
  .process 2,
  .session 5 (.outcome 2 (.ok {}))]

/-- A file gets a breakpoint under one path, and then one under another. -/
def respelledRun : List WorldEvent :=
  [.session 0 (.request (setRequest lowerPath 3))] ++
    .session 0 (.request (setRequest upperPath 5)) :: attachedLater

def respelledPaths : ResourceDirectories :=
  .ofDirectories "/srv" "mods/deathmatch/resources" "play"

theorem unset_attachedLater : ∀ moment event, .session moment event ∈ attachedLater →
    Session.recorded? event = none := by
  intro moment event hmem
  simp only [attachedLater, List.mem_cons, List.not_mem_nil, or_false, reduceCtorEq,
    WorldEvent.session.injEq, false_or] at hmem
  rcases hmem with ⟨-, rfl⟩ | ⟨-, rfl⟩ | ⟨-, rfl⟩ | ⟨-, rfl⟩ | ⟨-, rfl⟩ | ⟨-, rfl⟩ | ⟨-, rfl⟩
  all_goals rfl

theorem untouched_respelledRun : Untouched respelledRun := by
  intro change hmem
  simp [respelledRun, attachedLater] at hmem

theorem trace_respelledRun : trace respelledRun (.ofConfig { contexts := .single } {}) = [
    .clear 2 (some [("a.lua", 4), ("a.lua", 2)]), .answered 2 true, .set 2 "a.lua" 4,
    .answered 2 true, .set 2 "a.lua" 2, .answered 2 true] := by
  decide +kernel

/-- The breakpoint under the first path is still there beside the one under the second. -/
theorem breakpointsIn_of_last_set_respelled :
    (∃ (recorded : String → List Int) (place : Int → String × Int) (sources : List String),
      recorded = Session.recordedLines
        (history respelledRun (.ofConfig { contexts := .single } {})) ∧
      recorded upperPath = [5] ∧ sources.Pairwise (· < ·) ∧
      (run respelledRun (.ofConfig { contexts := .single } {})).breakpointsIn "a.lua" =
        sources.flatMap fun other => (recorded other).map place) ∧
    (run respelledRun (.ofConfig { contexts := .single } {})).breakpointsIn "a.lua" =
      [("a.lua", 4), ("a.lua", 2)] := by
  refine ⟨?_, by decide +kernel⟩
  obtain ⟨front, block, before, first, after, hsplit, -, htrace, hcomplete, hbreakpoints⟩ :=
    breakpointsIn_of_last_set { contexts := .single } {} respelledRun _ attachedLater 0
      (setRequest upperPath 5) upperPath [5] respelledPaths rfl (by decide +kernel)
      unset_attachedLater (by decide +kernel) (by decide +kernel)
  have huntouched : Untouched after := by
    intro change hmem
    refine untouched_respelledRun change ?_
    rw [hsplit]
    exact List.mem_append_right _ (List.mem_cons_of_mem _ hmem)
  have haccepted : ∀ accepted ∈ block.answers, accepted = true := by
    intro accepted hmem
    have hmark : SyncMark.answered block.owner accepted ∈
        trace respelledRun (.ofConfig { contexts := .single } {}) := by
      rw [htrace]
      exact List.mem_append_right _ (SyncBlock.mem_marks_of_answer hcomplete hmem)
    rw [trace_respelledRun] at hmark
    simp only [List.mem_cons, SyncMark.answered.injEq, reduceCtorEq, List.not_mem_nil, or_false,
      false_or, or_self] at hmark
    exact hmark.2
  have hname : respelledPaths.backendName upperPath = "a.lua" := by decide +kernel
  obtain ⟨recorded, place, sources, hrecorded, hlines, -, hascending, -, hplaces, -⟩ :=
    hbreakpoints huntouched haccepted
  rw [hname] at hplaces
  exact ⟨recorded, place, sources, hrecorded, hlines, hascending, hplaces⟩

/-- What is set under one path does not replace what was set under another, although both come to
the same file of the backend, every call is accepted and nobody else writes breakpoints. -/
theorem respelled_breakpoints_stay :
    ¬ ∀ (config : BackendConfig) (backend : SimulatedBackend) (earlier later : List WorldEvent)
      (now : Nat) (request : Request) (source : String) (lines : List Int)
      (paths : ResourceDirectories) (world : World),
      world = run (earlier ++ .session now (.request request) :: later)
        (.ofConfig config backend) →
      Session.recorded? (.request request) = some (source, lines) →
      (∀ moment event, .session moment event ∈ later → Session.recorded? event = none) →
      world.session.paths = some paths →
      (∀ entry ∈ world.session.activities, entry.2.role ≠ .syncing) →
      Untouched (earlier ++ .session now (.request request) :: later) →
      (∀ owner, SyncMark.answered owner false ∉
        trace (earlier ++ .session now (.request request) :: later) (.ofConfig config backend)) →
      world.breakpointsIn (paths.backendName source) = lines.map fun line =>
        (paths.backendName source, Session.backendLine line world.session.linesStartAt1) := by
  intro hclaim
  have haccepted : ∀ owner, SyncMark.answered owner false ∉
      trace respelledRun (.ofConfig { contexts := .single } {}) := by
    rw [trace_respelledRun]
    simp
  have hlines := hclaim { contexts := .single } {} _ attachedLater 0 (setRequest upperPath 5)
    upperPath [5] respelledPaths (run respelledRun (.ofConfig { contexts := .single } {})) rfl
    (by decide +kernel) unset_attachedLater (by decide +kernel) (by decide +kernel)
    untouched_respelledRun haccepted
  exact absurd hlines (by decide +kernel)

end World

end DebugBridge
