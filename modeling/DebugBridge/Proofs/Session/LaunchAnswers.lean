import DebugBridge.Proofs.Session.Accounting
import DebugBridge.Proofs.Session.Lifetimes

/-!
# Answers to launches

A refused launch is answered at once, an accepted one with the first attach that has a result.  Both
are answered once.  A shutdown takes the attaches away; a launch that had no answer by then, or that
comes later, is accepted and never answered.
-/

namespace DebugBridge.Session

section Answers

variable {first last : Nat} {session : Session} {event : SessionEvent} {request : Request}

/-- Without the result of an attach, what is under way to attach answers nothing. -/
theorem replies_of_unresulted (hattaches : ∀ id activity, first ≤ id → id < last →
      session.activity? id = some activity → ∃ thread, activity.duty = .attach thread)
    (hnone : session.attachResult? event = none) (now : Nat) :
    (if event.isOutcomeWithin first last then repliesIn (step now event session).2 else []) = [] :=
    by
  rcases repliesIn_step_attaches hattaches now event with hsilent | ⟨hcompletes, -⟩
  · exact hsilent
  · rw [← isSome_attachResult?, hnone] at hcompletes
    cases hcompletes

/-- A launch that waits is answered with the first result of an attach. -/
theorem repliesWithin_of_launch (hwf : WellFormed session) (hlast : last ≤ session.nextActivity)
    (hattaches : ∀ id activity, first ≤ id → id < last → session.activity? id = some activity →
      ∃ thread, activity.duty = .attach thread)
    (hwithin : ∀ id activity thread, session.activity? id = some activity →
      activity.duty = .attach thread → first ≤ id ∧ id < last)
    {launched : Launch} (hlaunched : session.launched = some launched)
    (hpending : launched.pending = some request) (events : List (Nat × SessionEvent)) :
    repliesWithin first last events session =
      ((attachResults events session).head?.map request.reply).toList := by
  induction events generalizing session with
  | nil => rfl
  | cons entry events ih =>
      obtain ⟨now, event⟩ := entry
      have hnextWf := wellFormed_step hwf now event
      have hnextLast := Nat.le_trans hlast (nextActivity_le_step hwf now event)
      have hnextAttaches :=
        duties_step (∃ thread, · = .attach thread) hwf hlast hattaches now event
      have hafter := launched_step_of_launched hlaunched now event
      rw [← isSome_attachResult?] at hafter
      rw [repliesWithin, attachResults, journal]
      cases hresult : session.attachResult? event with
      | none =>
          rw [hresult, Option.isSome_none, if_neg Bool.false_ne_true] at hafter
          have hnextWithin : ∀ id activity thread,
              (step now event session).1.activity? id = some activity →
              activity.duty = .attach thread → first ≤ id ∧ id < last := by
            intro id activity thread hafter hduty
            rcases attach_of_step hwf hafter hduty with ⟨before, hbefore, hsame⟩ | ⟨-, hnone, -⟩
            · exact hwithin id before thread hbefore hsame
            · rw [hlaunched] at hnone
              cases hnone
          rw [replies_of_unresulted hattaches hresult now, List.nil_append, Option.toList_none,
            List.nil_append]
          exact ih hnextWf hnextLast hnextAttaches hnextWithin hafter
      | some success =>
          -- The launch is answered here, and nothing waits any more.
          rw [hresult, Option.isSome_some, if_pos rfl] at hafter
          obtain ⟨id, outcome, thread, name, suffix, mode, rfl, hactivity, -⟩ :=
            attachResult?_eq_some hresult
          obtain ⟨hfrom, hto⟩ := hwithin id _ thread hactivity rfl
          have hanswered : repliesIn (step now (.outcome id outcome) session).2 =
              [request.reply success] := by
            rw [repliesIn_step, notices_of_attachResult hresult, pendingLaunch?, hlaunched,
              Option.bind_some, hpending]
            rfl
          have hrest : repliesWithin first last events
              (step now (.outcome id outcome) session).1 = [] := by
            rcases repliesWithin_of_attaches hnextWf hnextLast hnextAttaches hafter events with
              hnone | ⟨_, _, hsome, -⟩
            · exact hnone
            · cases hsome
          rw [hrest, List.append_nil, hanswered]
          simp [SessionEvent.isOutcomeWithin, hfrom, hto]

/-- Where nothing attaches any more, no attach has a result. -/
theorem attachResults_of_nothingAttaches (hwf : WellFormed session)
    (hlaunched : session.launched.isSome = true) (hnothing : NothingAttaches session)
    (events : List (Nat × SessionEvent)) : attachResults events session = [] := by
  induction events generalizing session with
  | nil => rfl
  | cons entry events ih =>
      obtain ⟨now, event⟩ := entry
      rw [attachResults, journal]
      cases hresult : session.attachResult? event with
      | none =>
          exact ih (wellFormed_step hwf now event) (isSome_launched_step hlaunched now event)
            (hnothing.step hwf hlaunched now event)
      | some success =>
          obtain ⟨id, outcome, thread, name, suffix, mode, -, hactivity, -⟩ :=
            attachResult?_eq_some hresult
          exact absurd rfl (hnothing id _ thread hactivity)

end Answers

/-! ## Launches of a run -/

/-- The responses to a launch of a run: at once, and later on for what it started. -/
def launchReplies (config : BackendConfig) (earlier : List (Nat × SessionEvent)) (now : Nat)
    (request : Request) (later : List (Nat × SessionEvent)) : List Reply :=
  let session := (run earlier (ofConfig config)).1
  let start := step now (.request request) session
  repliesIn start.2 ++ repliesWithin session.nextActivity start.1.nextActivity later start.1

section Launches

variable {config : BackendConfig} {earlier : List (Nat × SessionEvent)} {now : Nat}
  {request : Request}

theorem launchReplies_of_refused (hrefused :
      (run earlier (ofConfig config)).1.accepts request = false)
    (later : List (Nat × SessionEvent)) :
    launchReplies config earlier now request later = [request.reply false] := by
  have hnone := (errand?_eq_none_iff (run earlier (ofConfig config)).1 request).mpr (.inr hrefused)
  obtain ⟨honce, hsilent⟩ :=
    answered_at_once (wellFormed_run (WellFormed.ofConfig config) earlier) hnone now later
  rw [launchReplies, honce, hsilent, hrefused]
  rfl

theorem errand_of_accepted {session : Session} (hcommand : request.command = "launch")
    (haccepted : session.accepts request = true) :
    ∃ arguments serverPath, session.errand? request = some (.launch arguments serverPath) := by
  rcases launch_eq request session with ⟨arguments, serverPath, -, -, hsome, -⟩ |
    ⟨-, fault, hrefused⟩
  · refine ⟨arguments, serverPath, ?_⟩
    rw [errand?, hcommand]
    exact hsome
  · rw [accepts, hcommand] at haccepted
    simp only [handler, hrefused] at haccepted
    cases haccepted

/-- An accepted launch is answered with the first result of the run, and not before. -/
theorem launchReplies_of_accepted (hcommand : request.command = "launch")
    (haccepted : (run earlier (ofConfig config)).1.accepts request = true)
    (later : List (Nat × SessionEvent)) :
    launchReplies config earlier now request later =
      ((attachResults (earlier ++ (now, .request request) :: later)
        (ofConfig config)).head?.map request.reply).toList := by
  obtain ⟨arguments, serverPath, herrand⟩ := errand_of_accepted hcommand haccepted
  have hwf := wellFormed_run (WellFormed.ofConfig config) earlier
  have hfree := (launch_of_errand herrand).2.1
  have hbefore := ((attachLedger_run config earlier).launched hfree).2
  -- What attaches was started by this launch.
  have hown : ∀ id activity thread,
      (step now (.request request) (run earlier (ofConfig config)).1).1.activity? id =
        some activity → activity.duty = .attach thread →
      (run earlier (ofConfig config)).1.nextActivity ≤ id ∧
        id < (step now (.request request) (run earlier (ofConfig config)).1).1.nextActivity := by
    intro id activity thread hactivity hduty
    refine ⟨?_, (wellFormed_step hwf now _).table.lt_of_activity? hactivity⟩
    rcases attach_of_step hwf hactivity hduty with ⟨before, hfound, hsame⟩ | ⟨hid, -⟩
    · exact absurd hsame (hbefore id before thread hfound)
    · exact hid
  have hlater := repliesWithin_of_launch (wellFormed_step hwf now (.request request))
    (Nat.le_refl _)
    (fun id activity hfrom _ => duty_of_launched hwf herrand now id activity hfrom) hown
    (launched_step_of_errand herrand now) rfl later
  have hnone : attachResults earlier (ofConfig config) = [] :=
    (launchWaits_run config earlier).none_before hfree
  rw [launchReplies, repliesIn_step_errand herrand, List.nil_append, hlater, attachResults_append,
    hnone]
  rfl

theorem isSome_launched_of_accepted (hcommand : request.command = "launch")
    (haccepted : (run earlier (ofConfig config)).1.accepts request = true) (now : Nat)
    (later : List (Nat × SessionEvent)) :
    (run (earlier ++ (now, .request request) :: later)
      (ofConfig config)).1.launched.isSome = true := by
  obtain ⟨arguments, serverPath, herrand⟩ := errand_of_accepted hcommand haccepted
  rw [run_append, Turn.andThen_fst, run, Turn.andThen_fst]
  exact isSome_launched_run (Option.isSome_of_eq_some (launched_step_of_errand herrand now)) later

/-- At a moment when nothing attaches, a launch has had exactly one response, unless it was accepted
and the session was shut down before an attach had its result.  Then it has had none, and gets none
whatever happens. -/
theorem launch_answered_unless_cut_off (config : BackendConfig)
    (earlier : List (Nat × SessionEvent)) (now : Nat) (request : Request)
    (later : List (Nat × SessionEvent)) (hcommand : request.command = "launch")
    (hnothing : NothingAttaches
      (run (earlier ++ (now, .request request) :: later) (ofConfig config)).1) :
    (launchReplies config earlier now request later ≠ [] →
      ∃ success, launchReplies config earlier now request later = [request.reply success]) ∧
    (launchReplies config earlier now request later = [] ↔
      (run earlier (ofConfig config)).1.accepts request = true ∧
        attachResults (earlier ++ (now, .request request) :: later) (ofConfig config) = []) ∧
    (launchReplies config earlier now request later = [] →
      (run (earlier ++ (now, .request request) :: later) (ofConfig config)).1.isShutDown = true ∧
        ∀ after, launchReplies config earlier now request (later ++ after) = []) := by
  cases haccepted : (run earlier (ofConfig config)).1.accepts request with
  | false =>
      simp [launchReplies_of_refused haccepted]
  | true =>
      have hreplies := @launchReplies_of_accepted config earlier now request hcommand haccepted
      cases hresults : attachResults (earlier ++ (now, .request request) :: later)
          (ofConfig config) with
      | cons success rest =>
          have hone : launchReplies config earlier now request later = [request.reply success] := by
            rw [hreplies, hresults]
            rfl
          simp [hone]
      | nil =>
          have hnone : launchReplies config earlier now request later = [] := by
            rw [hreplies, hresults]
            rfl
          refine ⟨fun hsome => absurd hnone hsome, iff_of_true hnone ⟨rfl, rfl⟩, fun _ => ?_⟩
          have hlaunched := isSome_launched_of_accepted hcommand haccepted now later
          constructor
          · by_contra hopen
            rcases attaches_or_result_run config _ hlaunched (Bool.eq_false_iff.mpr hopen) with
              ⟨id, hattaches⟩ | hresult
            · rw [nothingAttaches_iff.mp hnothing id] at hattaches
              cases hattaches
            · exact hresult hresults
          · intro after
            have hfinal := attachResults_of_nothingAttaches
              (wellFormed_run (WellFormed.ofConfig config) _) hlaunched hnothing after
            rw [hreplies, ← List.cons_append, ← List.append_assoc, attachResults_append, hresults,
              hfinal]
            rfl

/-- A launch that is terminated before its resource has started is left without an answer. -/
theorem launch_answered_unless_cut_off_terminated :
    NothingAttaches (run [(0, .request plainLaunch), (5, .request { command := "terminate" })]
        (ofConfig {})).1 ∧
      ∀ after, launchReplies {} [] 0 plainLaunch
        ((5, .request { command := "terminate" }) :: after) = [] := by
  have hnothing : NothingAttaches
      (run [(0, .request plainLaunch), (5, .request { command := "terminate" })]
        (ofConfig {})).1 :=
    nothingAttaches_of_isEmpty (by decide +kernel)
  obtain ⟨-, hnone, hcut⟩ := launch_answered_unless_cut_off {} [] 0 plainLaunch
    [(5, .request { command := "terminate" })] rfl hnothing
  exact ⟨hnothing, (hcut (hnone.mpr ⟨by decide +kernel, by decide +kernel⟩)).2⟩

end Launches

end DebugBridge.Session
