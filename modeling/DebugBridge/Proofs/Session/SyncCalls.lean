import DebugBridge.Proofs.Session.SyncJournal

/-!
# Calls of the syncs

The calls that a sync makes in a step are those that can be seen of it, and no other activity writes
breakpoints.  Traces and starts of a run in two parts are those of the parts.
-/

namespace DebugBridge

/-- The call whose outcome the stage waits for. -/
def SyncStage.call? : SyncStage → Option BackendCall
  | .clearing _ => some .clearBreakpoints
  | .setting file line _ => some (.setBreakpoint file line)
  | _ => none

/-- The call that a mark stands for, if it is one of this sync. -/
def SyncMark.callOf? (id : Nat) : SyncMark → Option BackendCall
  | .clear owner _ => if owner = id then some .clearBreakpoints else none
  | .set owner file line => if owner = id then some (.setBreakpoint file line) else none
  | .answered _ _ => none

namespace Session

variable {session : Session} {event : SessionEvent} {out : Session × List Effect}

/-! ## Calls and marks -/

/-- An activity that only writes breakpoints makes the calls that leave marks. -/
theorem callsOf_eq_of_writes (session : Session) {id : Nat} {effects : List Effect}
    (hwrites : ∀ made, Effect.call id made ∈ effects → made.WritesBreakpoints) :
    callsOf id effects = (session.callMarks effects).filterMap (SyncMark.callOf? id) := by
  rw [callsOf, callMarks, List.filterMap_filterMap]
  refine List.filterMap_congr fun effect heffect => ?_
  cases effect with
  | call activity made =>
      by_cases hown : activity = id
      · subst hown
        have hmade := hwrites made heffect
        cases made with
        | clearBreakpoints => simp [SyncMark.callOf?]
        | setBreakpoint file line => simp [SyncMark.callOf?]
        | info suffix => exact hmade.elim
        | runState suffix => exact hmade.elim
        | setResumeMode suffix mode => exact hmade.elim
        | setPendingEval expression => exact hmade.elim
        | evalResult => exact hmade.elim
        | serverCommand command => exact hmade.elim
      · apply Eq.trans (if_neg hown)
        cases made with
        | clearBreakpoints => simp [SyncMark.callOf?, hown]
        | setBreakpoint file line => simp [SyncMark.callOf?, hown]
        | info suffix => rfl
        | runState suffix => rfl
        | setResumeMode suffix mode => rfl
        | setPendingEval expression => rfl
        | evalResult => rfl
        | serverCommand command => rfl
  | send message => rfl
  | log record => rfl
  | ready activity => rfl
  | sleepUntil activity deadline => rfl
  | forget activity => rfl

/-- Every call that writes breakpoints leaves a mark. -/
theorem mark_of_call {id : Nat} {made : BackendCall} {effects : List Effect}
    (hmem : Effect.call id made ∈ effects) (hwrites : made.WritesBreakpoints) :
    ∃ mark ∈ session.callMarks effects, mark.callOf? id = some made := by
  cases made with
  | clearBreakpoints =>
      exact ⟨.clear id session.backendBreakpoints,
        List.mem_filterMap.mpr ⟨_, hmem, rfl⟩, if_pos rfl⟩
  | setBreakpoint file line =>
      exact ⟨.set id file line, List.mem_filterMap.mpr ⟨_, hmem, rfl⟩, if_pos rfl⟩
  | info suffix => exact hwrites.elim
  | runState suffix => exact hwrites.elim
  | setResumeMode suffix mode => exact hwrites.elim
  | setPendingEval expression => exact hwrites.elim
  | evalResult => exact hwrites.elim
  | serverCommand command => exact hwrites.elim

theorem not_call_of_noCall {id : Nat} {made : BackendCall} {effects : List Effect}
    (hwithin : ∀ effect ∈ effects, effect.Within noCall) : Effect.call id made ∉ effects :=
  fun hmem => hwithin (.call id made) hmem

/-- A sync makes no other calls than those that write breakpoints. -/
theorem Reaction.writes_of_call (hreaction : Reaction session event out) (hwf : WellFormed session)
    {id : Nat} {made : BackendCall} (hsync : (session.syncStage? id).isSome = true)
    (hmem : Effect.call id made ∈ out.2) : made.WritesBreakpoints := by
  have hother : ∀ {other : Nat} {activity : Activity}, session.activity? other = some activity →
      activity.role ≠ .syncing → id ≠ other := by
    rintro other activity hactivity hrole rfl
    rw [syncStage?_eq_none_of_role hactivity hrole] at hsync
    cases hsync
  cases hreaction with
  | answered hplain hsilent => exact absurd hmem (not_call_of_noCall hsilent.effects)
  | recounted hcommand hsilent => exact absurd hmem (not_call_of_noCall hsilent.effects)
  | started hplain hfresh hspawns => exact absurd hmem (not_call_of_noCall hspawns.effects)
  | breakpointsSet hcommand haccepted hspawns =>
      exact absurd hmem (not_call_of_noCall hspawns.effects)
  | commandStarted hsets hbegun hget hspawns =>
      exact absurd hmem (not_call_of_noCall hspawns.effects)
  | @shutDown event rest hevent hplain hsilent =>
      rcases List.mem_append.mp hmem with hcancelled | hrest
      · exact absurd hcancelled (not_call_of_noCall
          (within_cancel Activity.endsAtShutdown { session with isShutDown := true }))
      · exact absurd hrest (not_call_of_noCall hsilent.effects)
  | released => cases hmem
  | absent hfor hnone => cases hmem
  | @moved other event activity out hfor hactivity hpolling hsyncing hplain hlocal hpresent =>
      exact absurd (hlocal.effects _ hmem).1 (hother hactivity hsyncing)
  | attached hactivity hbegun hpaths hprelude hget hlocal hpresent =>
      rcases List.mem_append.mp hmem with hfirst | hrest
      · exact absurd hfirst (not_call_of_noCall hprelude.effects)
      · exact absurd (hlocal.effects _ hrest).1 (hother hactivity (by simp [Activity.role]))
  | @commandEnded other event thread out hended hlocal =>
      exact (hlocal.effects _ hmem).2.elim
  | @ticked other event stage out hfor hactivity hlocal =>
      exact absurd (hlocal.effects _ hmem).1 (hother hactivity (by simp [Activity.role]))
  | paused hactivity hreply haccepted hreport hlocal =>
      rcases List.mem_append.mp hmem with hfirst | hrest
      · exact absurd hfirst (hreport.calls id made)
      · exact absurd (hlocal.effects _ hrest).1 (hother hactivity (by simp [Activity.role]))
  | synced hfor hstage hmove =>
      exact ((hmove.frame hwf.table hwf.syncs hstage).effects _ hmem).2

theorem mem_callsOf {id : Nat} {made : BackendCall} {effects : List Effect} :
    made ∈ callsOf id effects ↔ Effect.call id made ∈ effects := by
  rw [callsOf, List.mem_filterMap]
  constructor
  · rintro ⟨effect, hmem, hcall⟩
    cases effect with
    | call activity other =>
        simp only [Option.ite_none_right_eq_some, Option.some.injEq] at hcall
        obtain ⟨rfl, rfl⟩ := hcall
        exact hmem
    | send message => cases hcall
    | log record => cases hcall
    | ready activity => cases hcall
    | sleepUntil activity deadline => cases hcall
    | forget activity => cases hcall
  · intro hmem
    exact ⟨.call id made, hmem, if_pos rfl⟩

/-- The calls of a sync in a step, as they can be seen. -/
theorem callsOf_step_of_sync (hwf : WellFormed session) {id : Nat}
    (hsync : (session.syncStage? id).isSome = true) (now : Nat) (event : SessionEvent) :
    callsOf id (step now event session).2 =
      (session.stepMarks now event).filterMap (SyncMark.callOf? id) := by
  have hwrites : ∀ made, Effect.call id made ∈ (step now event session).2 →
      made.WritesBreakpoints := by
    intro made hmem
    rw [← mem_callsOf, callsOf_step hwf, mem_callsOf] at hmem
    exact (reaction_react hwf now event).writes_of_call hwf hsync hmem
  have hanswers : (session.answerMarks event).filterMap (SyncMark.callOf? id) = [] := by
    cases event with
    | outcome other outcome =>
        rw [answerMarks]
        split
        · rfl
        · rfl
    | request request => rfl
    | shutdown => rfl
    | release => rfl
    | wake other => rfl
  rw [callsOf_eq_of_writes session hwrites, stepMarks, syncMarks, List.filterMap_append, hanswers,
    List.nil_append]

/-- Whatever else calls the backend in a step keeps the breakpoints. -/
theorem call_step_of_keeps {id now : Nat} {made : BackendCall}
    (hmem : made ∈ callsOf id (step now event session).2)
    (hmark : ∀ mark ∈ session.stepMarks now event, mark.callOf? id = none) :
    made.KeepsBreakpoints := by
  intro hwrites
  obtain ⟨mark, hmarkMem, hcall⟩ := @mark_of_call session id made _ (mem_callsOf.mp hmem) hwrites
  rw [hmark mark (List.mem_append_right _ hmarkMem)] at hcall
  cases hcall

/-! ## Runs in two parts -/

theorem syncTrace_append (first second : List (Nat × SessionEvent)) (session : Session) :
    syncTrace (first ++ second) session =
      syncTrace first session ++ syncTrace second (run first session).1 := by
  induction first generalizing session with
  | nil => rfl
  | cons event first ih =>
      rw [List.cons_append, syncTrace, syncTrace, ih, List.append_assoc]
      rfl

theorem syncStarts_append (first second : List (Nat × SessionEvent)) (session : Session) :
    syncStarts (first ++ second) session =
      syncStarts first session + syncStarts second (run first session).1 := by
  induction first generalizing session with
  | nil => exact (Nat.zero_add _).symm
  | cons event first ih =>
      rw [List.cons_append, syncStarts, syncStarts, ih, Nat.add_assoc]
      rfl

end Session

end DebugBridge
