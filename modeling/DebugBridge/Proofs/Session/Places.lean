import DebugBridge.Proofs.Path.Resource
import DebugBridge.Proofs.Session.Inspection
import DebugBridge.Proofs.Session.SyncCalls

/-!
# Where breakpoints are shown

A sync sends a breakpoint by the backend's name of its file and the backend's number of its line.
A pause that the backend reports there is shown at the line that the editor knows, in a file that
goes by the same name.
-/

namespace DebugBridge

namespace Session

/-! ## Lines -/

/-- Of the numbers that a line can have, only the least one is not told apart from the next when
lines start at one. -/
theorem editorLine_backendLine {line : Int} {linesStartAt1 : Bool} (hleast : leastLine ≤ line)
    (hgreatest : line ≤ greatestLine) (hline : linesStartAt1 = true → line ≠ leastLine) :
    editorLine (backendLine line linesStartAt1) linesStartAt1 = line := by
  cases linesStartAt1 with
  | false => rfl
  | true =>
      have habove : leastLine ≤ line - 1 := by
        have hne := hline rfl
        omega
      have hback : backendLine line true = line - 1 := max_eq_right habove
      rw [hback]
      change min greatestLine (line - 1 + 1) = line
      rw [Int.sub_add_cancel, min_eq_right hgreatest]

/-! ## Breakpoints that are sent -/

section Sent

variable {session : Session} {now : Nat} {event : SessionEvent} {owner : Nat}

theorem clear_mem_stepMarks
    (hclears : Effect.call owner .clearBreakpoints ∈ (step now event session).2) :
    .clear owner session.backendBreakpoints ∈ session.stepMarks now event :=
  List.mem_append_right _ (List.mem_filterMap.mpr ⟨_, hclears, rfl⟩)

theorem call_of_set_mem_stepMarks {file : String} {line : Int}
    (hset : .set owner file line ∈ session.stepMarks now event) :
    Effect.call owner (.setBreakpoint file line) ∈ (step now event session).2 := by
  rcases List.mem_append.mp hset with hanswer | hcall
  · unfold answerMarks at hanswer
    split at hanswer
    · split at hanswer
      · rw [List.mem_singleton] at hanswer
        cases hanswer
      · cases hanswer
    · cases hanswer
  · obtain ⟨effect, heffect, hmark⟩ := List.mem_filterMap.mp hcall
    split at hmark
    · cases hmark
    · cases hmark
      exact heffect
    · cases hmark

theorem call_of_set_mem_syncTrace {file : String} {line : Int} {events : List (Nat × SessionEvent)}
    (hset : .set owner file line ∈ syncTrace events session) :
    Effect.call owner (.setBreakpoint file line) ∈ (run events session).2 := by
  induction events generalizing session with
  | nil => cases hset
  | cons entry events ih =>
      rw [run, Turn.andThen_snd]
      rcases List.mem_append.mp hset with hfirst | hrest
      · exact List.mem_append_left _ (call_of_set_mem_stepMarks hfirst)
      · exact List.mem_append_right _ (ih hrest)

end Sent

end Session

namespace SyncBlock

theorem eq_of_clear_mem_marks {block : SyncBlock} {owner : Nat}
    {known : Option (List (String × Int))} (hclear : .clear owner known ∈ block.marks) :
    block.owner = owner ∧ some block.plan = known := by
  obtain ⟨rest, hmarks, hrest⟩ := block.marks_eq_cons
  rw [hmarks] at hclear
  rcases List.mem_cons.mp hclear with hsame | hmem
  · cases hsame
    exact ⟨rfl, rfl⟩
  · exact absurd hmem (hrest owner known)

/-- A complete block whose clear was accepted has set every breakpoint of its plan. -/
theorem set_mem_marks {block : SyncBlock} {file : String} {line : Int}
    (hcomplete : block.isComplete = true) (hcleared : block.answers.head? = some true)
    (hmem : (file, line) ∈ block.plan) : .set block.owner file line ∈ block.marks := by
  obtain ⟨owner, plan, answers⟩ := block
  obtain ⟨answers, rfl⟩ := List.head?_eq_some_iff.mp hcleared
  exact List.mem_cons_of_mem _ (List.mem_cons_of_mem _
    (set_mem_setMarks (beq_iff_eq.mp hcomplete) hmem))

end SyncBlock

namespace Session

/-! ## The same place -/

/-- The frame at a place of an editor's file. -/
def frameAt (path : String) (line : Int) (columnsStartAt1 : Bool) : Json :=
  .ofMembers [
    ("id", .int frameId),
    ("name", .string ("Frame " ++ toString frameId)),
    ("source", .ofMembers [("name", .string (Path.lastPart path)), ("path", .string path)]),
    ("line", .int line),
    ("column", .int (if columnsStartAt1 then 1 else 0))]

theorem pauseFrame_eq_frameAt (session : Session) (directories : ResourceDirectories)
    (file : String) (line : Int) : session.pauseFrame directories file line =
      frameAt (directories.pausePath file) (editorLine line session.linesStartAt1)
        session.columnsStartAt1 := rfl

/-- Over a run, the sync has the place in its plan.  It has sent it once it is through, unless
the clear before was refused or lost. -/
def Sends (config : BackendConfig) (events : List (Nat × SessionEvent)) (owner : Nat)
    (place : String × Int) : Prop :=
  ∃ (blocks : List SyncBlock) (block : SyncBlock),
    syncTrace events (ofConfig config) = blocks.flatMap SyncBlock.marks ∧ block ∈ blocks ∧
    block.owner = owner ∧ place ∈ block.plan ∧
    (block.isComplete = true → block.answers.head? = some true →
      Effect.call owner (.setBreakpoint place.1 place.2) ∈ (run events (ofConfig config)).2)

/-- Over a run, a line of a file is one place for the editor and the backend: the editor's file has
this path, and the backend calls it by this name in breakpoints and by the other name in pauses. -/
structure SamePlace (config : BackendConfig) (events : List (Nat × SessionEvent))
    (directories : ResourceDirectories) (path name file : String) (line : Int)
    (linesStartAt1 : Bool) : Prop where
  /-- A sync that begins while the editor has a breakpoint at the place sends it. -/
  sent : ∀ earlier now event later owner, events = earlier ++ (now, event) :: later →
    (run earlier (ofConfig config)).1.paths = some directories →
    (run earlier (ofConfig config)).1.linesStartAt1 = linesStartAt1 →
    (∃ breakpoint ∈ (run earlier (ofConfig config)).1.breakpoints.toList,
      breakpoint.sourcePath = path ∧ breakpoint.line = line) →
    Effect.call owner .clearBreakpoints ∈ (step now event (run earlier (ofConfig config)).1).2 →
    Sends config events owner (name, backendLine line linesStartAt1)
  /-- A thread whose last pause was reported at the place is shown at the line, in a file that has
  the same name in breakpoints. -/
  shown : ∀ now request thread, request.command = "stackTrace" →
    (run events (ofConfig config)).1.resumedThread? request = some thread →
    (run events (ofConfig config)).1.paths = some directories →
    (run events (ofConfig config)).1.linesStartAt1 = linesStartAt1 →
    (lastPause thread events (ofConfig config)).currentFile = some file →
    (lastPause thread events (ofConfig config)).currentLine =
      some (backendLine line linesStartAt1) →
    ∃ source, directories.backendName source = name ∧
      (run events (ofConfig config)).1.Answers now request
        (framesBody [frameAt source line (run events (ofConfig config)).1.columnsStartAt1])

section Places

variable {config : BackendConfig} {events : List (Nat × SessionEvent)}
variable {directories : ResourceDirectories} {path name file : String} {line : Int}
variable {linesStartAt1 : Bool}

/-- The plan of a sync has every breakpoint of the moment that it begins. -/
theorem mem_backendBreakpoints {session : Session} {breakpoint : Breakpoint}
    (hpaths : session.paths = some directories)
    (hmem : breakpoint ∈ session.breakpoints.toList) :
    ∃ plan, session.backendBreakpoints = some plan ∧
      (directories.backendName breakpoint.sourcePath,
        backendLine breakpoint.line session.linesStartAt1) ∈ plan := by
  rw [backendBreakpoints, hpaths]
  exact ⟨_, rfl, List.mem_map.mpr ⟨breakpoint, hmem, rfl⟩⟩

theorem sends_of_clear {earlier later : List (Nat × SessionEvent)} {now : Nat}
    {event : SessionEvent} {owner : Nat} {plan : List (String × Int)} {place : String × Int}
    (hevents : events = earlier ++ (now, event) :: later)
    (hplan : (run earlier (ofConfig config)).1.backendBreakpoints = some plan)
    (hplace : place ∈ plan)
    (hclears : Effect.call owner .clearBreakpoints ∈
      (step now event (run earlier (ofConfig config)).1).2) :
    Sends config events owner place := by
  obtain ⟨blocks, hjournal⟩ := journal_run config events
  have hclear : .clear owner (some plan) ∈ blocks.flatMap SyncBlock.marks := by
    rw [← hjournal.marks, hevents, syncTrace_append, ← hplan]
    exact List.mem_append_right _ (List.mem_append_left _ (clear_mem_stepMarks hclears))
  obtain ⟨block, hblock, hmarks⟩ := List.mem_flatMap.mp hclear
  obtain ⟨rfl, hsame⟩ := SyncBlock.eq_of_clear_mem_marks hmarks
  obtain rfl : block.plan = plan := Option.some.inj hsame
  refine ⟨blocks, block, hjournal.marks, hblock, rfl, hplace, fun hcomplete hcleared => ?_⟩
  apply call_of_set_mem_syncTrace
  rw [hjournal.marks]
  exact List.mem_flatMap.mpr ⟨block, hblock, SyncBlock.set_mem_marks hcomplete hcleared hplace⟩

end Places

/-- A breakpoint and the pause at it are shown at the same place, where the resource has a directory
or the source a relative path at least. -/
theorem breakpoint_and_pause_at_same_place (config : BackendConfig)
    (events : List (Nat × SessionEvent)) {server subdir resource path name : String} {line : Int}
    {linesStartAt1 : Bool}
    (hbelow : (ResourceDirectories.ofDirectories server subdir resource).Below path name)
    (hplaced : (ResourceDirectories.ofDirectories server subdir resource).Placed path)
    (hleast : leastLine ≤ line) (hgreatest : line ≤ greatestLine)
    (hline : linesStartAt1 = true → line ≠ leastLine) :
    SamePlace config events (.ofDirectories server subdir resource) path name
      (resource ++ "/" ++ name) line linesStartAt1 where
  sent earlier now event later owner hevents hpaths hlines hset hclears := by
    obtain ⟨breakpoint, hmem, rfl, rfl⟩ := hset
    obtain ⟨plan, hplan, hplace⟩ := mem_backendBreakpoints hpaths hmem
    rw [hbelow.backendName, hlines] at hplace
    exact sends_of_clear hevents hplan hplace hclears
  shown now request thread hcommand hthread hpaths hlines hfile hat := by
    obtain ⟨directories, hattached, hanswers⟩ := framed_run hcommand hthread hfile hat now
    obtain rfl := Option.some.inj (hpaths.symm.trans hattached)
    refine ⟨_, ResourceDirectories.backendName_pausePath _ _ _ hbelow hplaced, ?_⟩
    rw [pauseFrame_eq_frameAt, hlines, editorLine_backendLine hleast hgreatest hline] at hanswers
    exact hanswers

/-! ## Runs to a pause at a breakpoint -/

section Paused

variable (server resource path file : String)

/-- A source gets a breakpoint, and then its resource is attached.  The sync comes through, and the
script pauses on the third line of a file. -/
def pausedRun : List (Nat × SessionEvent) := [
  (0, .request {
    command := "setBreakpoints"
    arguments := .ofMembers [
      ("source", .ofMembers [("path", .string path)]),
      ("breakpoints", .array [.ofMembers [("line", .int 3)]])] }),
  (0, .request {
    command := "launch"
    arguments := .ofMembers [("serverpath", .string server)] }),
  (0, .wake 0),
  (1, .outcome 0 (replyOf
    ("\x7b\"resource_name\":\"play\",\"resource_path\":\"" ++ resource ++ "\"\x7d"))),
  (2, .outcome 0 (replyOf "")),
  (2, .wake 2),
  (3, .outcome 2 (replyOf "")),
  (4, .outcome 2 (replyOf "")),
  (5, .wake 1),
  (6, .outcome 1 (replyOf ("\x7b\"resume_mode\":1,\"current_file\":\"" ++ file ++
    "\",\"current_line\":2\x7d")))]

end Paused

/-- The thread is paused on that line of the file, and its resource has these directories. -/
def PausedAt (session : Session) (pause : RunState) (directories : ResourceDirectories)
    (file : String) : Prop :=
  session.resumedThread? traceRequest = some 1 ∧ session.paths = some directories ∧
    session.linesStartAt1 = true ∧ session.columnsStartAt1 = true ∧
    pause.currentFile = some file ∧ pause.currentLine = some (backendLine 3 true)

instance (session : Session) (pause : RunState) (directories : ResourceDirectories)
    (file : String) : Decidable (PausedAt session pause directories file) :=
  inferInstanceAs (Decidable (_ ∧ _))

/-- The editor spells the file in another case than the backend. -/
def spelledRun : List (Nat × SessionEvent) :=
  pausedRun "/srv" "play" "/srv/mods/deathmatch/resources/./Play/A.lua" "play/a.lua"

theorem breakpoint_and_pause_at_same_place_spelled :
    Sends { contexts := .single } spelledRun 2 ("a.lua", 2) ∧
    ∃ source, (ResourceDirectories.ofDirectories "/srv" "mods/deathmatch/resources"
        "play").backendName source = "a.lua" ∧
      (run spelledRun (ofConfig { contexts := .single })).1.Answers 7 traceRequest
        (framesBody [frameAt source 3 true]) := by
  have hplace := @breakpoint_and_pause_at_same_place { contexts := .single } spelledRun
    "/srv" "mods/deathmatch/resources" "play" "/srv/mods/deathmatch/resources/./Play/A.lua" "a.lua"
    3 true (by decide +kernel) (by decide +kernel) (by decide) (by decide) (by decide)
  constructor
  · have hclears : .clearBreakpoints ∈ callsOf 2 (step 2 (.wake 2)
        (run (spelledRun.take 5) (ofConfig { contexts := .single })).1).2 := by
      decide +kernel
    have hsends := hplace.sent (spelledRun.take 5) 2 (.wake 2) (spelledRun.drop 6) 2 rfl
      (by decide +kernel) (by decide +kernel) (by decide +kernel) (mem_callsOf.mp hclears)
    have hline : backendLine 3 true = 2 := by decide
    rwa [hline] at hsends
  · obtain ⟨hthread, hpaths, hlines, hcolumns, hfile, hat⟩ :
        PausedAt (run spelledRun (ofConfig { contexts := .single })).1
          (lastPause 1 spelledRun (ofConfig { contexts := .single }))
          (.ofDirectories "/srv" "mods/deathmatch/resources" "play") "play/a.lua" := by
      decide +kernel
    have hshown := hplace.shown 7 traceRequest 1 rfl hthread hpaths hlines hfile hat
    rwa [hcolumns] at hshown

/-- The paths of the frames that a message lists. -/
def shownPaths (message : Json) : List String :=
  match (message.member? "body").bind (Json.member? "stackFrames") with
  | some (.array frames) => frames.filterMap fun frame =>
      ((frame.member? "source").bind (Json.member? "path")).bind Json.string?
  | _ => []

theorem shownPaths_success (request : Request) (seq : Int) (path : String) (line : Int)
    (columnsStartAt1 : Bool) :
    shownPaths ((Message.success request
      (some (framesBody [frameAt path line columnsStartAt1]))).toJson seq) = [path] := by
  have hframes : (framesBody [frameAt path line columnsStartAt1]).member? "stackFrames" =
      some (.array [frameAt path line columnsStartAt1]) := by
    simp [framesBody, Json.sortMembers]
  rw [shownPaths, body_success, Option.bind_some, hframes]
  simp [frameAt, Json.sortMembers, Json.string?]

/-- The resource's directory is the empty path. -/
def strayRun : List (Nat × SessionEvent) := pausedRun "a" ".." "/x.lua" "..//x.lua"

/-- Then an absolute path is said to be below it, but the pause is shown at a relative one. -/
theorem breakpoint_and_pause_apart :
    (ResourceDirectories.ofDirectories "a" "." "..").Below "/x.lua" "/x.lua" ∧
      ¬ SamePlace { contexts := .single, resourcesSubdir := "." }
        strayRun (.ofDirectories "a" "." "..") "/x.lua" "/x.lua" (".." ++ "/" ++ "/x.lua") 3
        true := by
  refine ⟨by decide +kernel, fun hplace => ?_⟩
  obtain ⟨hthread, hpaths, hlines, -, hfile, hat⟩ :
      PausedAt (run strayRun (ofConfig { contexts := .single, resourcesSubdir := "." })).1
        (lastPause 1 strayRun (ofConfig { contexts := .single, resourcesSubdir := "." }))
        (.ofDirectories "a" "." "..") "..//x.lua" := by
    decide +kernel
  obtain ⟨source, hname, hanswers⟩ :=
    hplace.shown 7 traceRequest 1 rfl hthread hpaths hlines hfile hat
  have hshown : (messagesIn (step 7 (.request traceRequest)
      (run strayRun (ofConfig { contexts := .single, resourcesSubdir := "." })).1).2).flatMap
        shownPaths = ["x.lua"] := by
    decide +kernel
  rw [hanswers, List.flatMap_singleton, shownPaths_success] at hshown
  rw [List.singleton_inj.mp hshown] at hname
  revert hname
  decide +kernel

end Session

end DebugBridge
