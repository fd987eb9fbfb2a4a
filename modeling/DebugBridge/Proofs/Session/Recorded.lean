import DebugBridge.Proofs.Breakpoint.BySource
import DebugBridge.Proofs.Session.Origins
import DebugBridge.Proofs.Session.SyncJournal

/-!
# Breakpoints that were set

What a session keeps of the requests that set breakpoints: for every source, the lines of the last
request that named it so.  Nothing else changes the breakpoints.
-/

namespace DebugBridge.Session

variable {session : Session} {event : SessionEvent} {out : Session × List Effect}

/-- The source and the lines of a request that sets breakpoints and is not refused. -/
def recorded? : SessionEvent → Option (String × List Int)
  | .request request =>
    if request.command = "setBreakpoints" then
      match decodeArguments Arguments.setBreakpointsDecoder {} request with
      | .ok arguments =>
        (arguments.source.path.filter fun path => !path.isEmpty).map
          fun path => (path, arguments.requestedLines)
      | .error _ => none
    else none
  | _ => none

/-- The lines of each source as an event leaves them. -/
def record (lines : String → List Int) (event : SessionEvent) : String → List Int :=
  match recorded? event with
  | some (source, set) => Function.update lines source set
  | none => lines

/-- For each source, the lines that were set last. -/
def recordedLines (events : List (Nat × SessionEvent)) : String → List Int :=
  events.foldl (fun lines event => record lines event.2) fun _ => []

/-- A request that sets breakpoints is accepted as it is recorded, or refused. -/
theorem setBreakpoints_cases {request : Request} (hcommand : request.command = "setBreakpoints")
    (session : Session) :
    (∃ source lines out, recorded? (.request request) = some (source, lines) ∧
      setBreakpoints request session = .ok out ∧
      out.1.breakpoints = (session.breakpoints.replace source lines).2) ∨
    (recorded? (.request request) = none ∧
      ∃ fault, setBreakpoints request session = .error fault) := by
  cases hdecoded : decodeArguments Arguments.setBreakpointsDecoder {} request with
  | error fault =>
      refine .inr ⟨by simp [recorded?, hcommand, hdecoded], fault, ?_⟩
      rw [setBreakpoints, hdecoded]
      rfl
  | ok arguments =>
      cases hpath : arguments.source.path.filter fun path => !path.isEmpty with
      | none =>
          refine .inr ⟨by simp [recorded?, hcommand, hdecoded, hpath],
            .invalidArguments request.command ("source.path" ++ " is required"), ?_⟩
          rw [setBreakpoints, hdecoded]
          simp only [bind, Except.bind, hpath]
          rfl
      | some source =>
          have hrequired : requireArgument request "source.path"
              (arguments.source.path.filter fun path => !path.isEmpty) = .ok source := by
            rw [hpath]
            rfl
          have haccepted : ∃ out, setBreakpoints request session = .ok out := by
            simp only [setBreakpoints, hdecoded, bind, Except.bind, hrequired]
            exact ⟨_, rfl⟩
          obtain ⟨out, hout⟩ := haccepted
          refine .inl ⟨source, arguments.requestedLines, out, ?_, hout, ?_⟩
          · simp [recorded?, hcommand, hdecoded, hpath]
          · simp only [setBreakpoints, hdecoded, bind, Except.bind, hrequired] at hout
            cases hout
            cases session.paths <;> rfl

/-- Only requests that are recorded set breakpoints. -/
theorem setsBreakpoints_eq (session : Session) (event : SessionEvent) :
    session.setsBreakpoints event = (recorded? event).isSome := by
  cases event with
  | request request =>
      by_cases hcommand : request.command = "setBreakpoints"
      · rcases setBreakpoints_cases hcommand session with
          ⟨source, lines, out, hrecorded, hout, -⟩ | ⟨hrecorded, fault, hfault⟩
        · simp [setsBreakpoints, hcommand, hrecorded, hout, Except.isOk, Except.toBool]
        · simp [setsBreakpoints, hrecorded, hfault, Except.isOk, Except.toBool]
      · simp [setsBreakpoints, recorded?, hcommand]
  | shutdown => rfl
  | release => rfl
  | wake id => rfl
  | outcome id outcome => rfl

/-- Whatever sets no breakpoints keeps those that there are. -/
theorem Reaction.breakpoints_kept (hreaction : Reaction session event out)
    (hwf : WellFormed session) (hsets : session.setsBreakpoints event = false) :
    out.1.breakpoints = session.breakpoints := by
  cases hreaction.backdropMove hwf with
  | kept hafter => exact congrArg Backdrop.breakpoints hafter
  | recounted hevent hcommand hafter => exact congrArg Backdrop.breakpoints hafter
  | breakpointsSet haccepted hafter =>
      rw [haccepted] at hsets
      cases hsets
  | commandStarted hbegun hafter => exact congrArg Backdrop.breakpoints hafter
  | shutDown hevent hended hafter => exact congrArg Backdrop.breakpoints hafter
  | released hafter => exact congrArg Backdrop.breakpoints hafter
  | attached hbegun hpaths hafter => exact congrArg Backdrop.breakpoints hafter
  | commandEnded hended hafter => exact congrArg Backdrop.breakpoints hafter
  | paused hevent hactivity hafter => exact congrArg Backdrop.breakpoints hafter

/-- What one event does to the breakpoints. -/
theorem breakpoints_step (hwf : WellFormed session) (now : Nat) (event : SessionEvent) :
    (step now event session).1.breakpoints =
      match recorded? event with
      | some (source, lines) => (session.breakpoints.replace source lines).2
      | none => session.breakpoints := by
  have hreaction := reaction_react hwf now event
  have hreaped : (step now event session).1.breakpoints = (react now event session).1.breakpoints :=
    congrArg Backdrop.breakpoints (reaped_reap (hreaction.wellFormed hwf).table).backdrop
  rw [hreaped]
  cases hrecorded : recorded? event with
  | none =>
      refine hreaction.breakpoints_kept hwf ?_
      rw [setsBreakpoints_eq, hrecorded]
      rfl
  | some found =>
      obtain ⟨source, lines⟩ := found
      cases event with
      | request request =>
          have hcommand : request.command = "setBreakpoints" := by
            by_contra hother
            simp [recorded?, hother] at hrecorded
          rcases setBreakpoints_cases hcommand session with
            ⟨other, set, out, hsame, hout, hbreakpoints⟩ | ⟨hnone, -⟩
          · rw [hrecorded, Option.some.injEq, Prod.mk.injEq] at hsame
            obtain ⟨rfl, rfl⟩ := hsame
            have hhandler : handler request.command request session = .ok out := by
              rw [hcommand]
              exact hout
            have hreact : react now (.request request) session = out := by
              change handle request session = out
              rw [handle, hhandler]
            rw [hreact]
            exact hbreakpoints
          · rw [hrecorded] at hnone
            cases hnone
      | shutdown => cases hrecorded
      | release => cases hrecorded
      | wake id => cases hrecorded
      | outcome id outcome => cases hrecorded

theorem recordedLines_snoc (events : List (Nat × SessionEvent)) (now : Nat) (event : SessionEvent) :
    recordedLines (events ++ [(now, event)]) = record (recordedLines events) event :=
  List.foldl_append

/-- Events that set nothing leave the lines as they were. -/
theorem recordedLines_append {events later : List (Nat × SessionEvent)}
    (hunset : ∀ event ∈ later, recorded? event.2 = none) :
    recordedLines (events ++ later) = recordedLines events := by
  induction later using List.reverseRecOn with
  | nil => rw [List.append_nil]
  | append_singleton later event ih =>
      obtain ⟨now, event⟩ := event
      have hlast : recorded? event = none :=
        hunset (now, event) (List.mem_append_right _ List.mem_cons_self)
      rw [← List.append_assoc, recordedLines_snoc, record, hlast]
      exact ih fun earlier hmem => hunset earlier (List.mem_append_left _ hmem)

/-- The breakpoints of a session are those that were set last. -/
theorem records_run (config : BackendConfig) (events : List (Nat × SessionEvent)) :
    (run events (.ofConfig config)).1.breakpoints.Records (recordedLines events) := by
  induction events using List.reverseRecOn with
  | nil => exact .none
  | append_singleton events event ih =>
      obtain ⟨now, event⟩ := event
      rw [run_snoc, recordedLines_snoc,
        breakpoints_step (wellFormed_run (WellFormed.ofConfig config) events), record]
      cases recorded? event with
      | none => exact ih
      | some found => exact ih.replace found.1 found.2

end DebugBridge.Session
