import DebugBridge.Proofs.Session.Notices
import DebugBridge.Proofs.Session.Origins

/-!
# Journals of a run

A view shows something of each step: from the session before it, the time and the event.  The
journal of a run is what a view shows of all its steps, in their order.
-/

namespace DebugBridge.Session

/-- What follows the last entry is nothing; what follows an earlier one ends in the last. -/
theorem split_snoc {β : Type} {entries earlier later : List β} {last entry : β}
    (hsplit : entries ++ [last] = earlier ++ entry :: later) :
    (earlier = entries ∧ entry = last ∧ later = []) ∨
      ∃ rest, later = rest ++ [last] ∧ entries = earlier ++ entry :: rest := by
  rcases List.eq_nil_or_concat later with rfl | ⟨rest, final, rfl⟩
  · obtain ⟨hsame, hlast⟩ := List.append_inj' hsplit rfl
    exact .inl ⟨hsame.symm, (List.cons.inj hlast).1.symm, rfl⟩
  · rw [List.concat_eq_append] at hsplit ⊢
    rw [← List.cons_append, ← List.append_assoc] at hsplit
    obtain ⟨hsame, hlast⟩ := List.append_inj' hsplit rfl
    exact .inr ⟨rest, by rw [(List.cons.inj hlast).1], hsame⟩

section Journal

variable {α : Type} {view other : Session → Nat → SessionEvent → List α}

/-- What the steps of a run show, one after the other. -/
def journal (view : Session → Nat → SessionEvent → List α) :
    List (Nat × SessionEvent) → Session → List α
  | [], _ => []
  | (now, event) :: events, session =>
    view session now event ++ journal view events (step now event session).1

theorem journal_append (first second : List (Nat × SessionEvent)) (session : Session) :
    journal view (first ++ second) session =
      journal view first session ++ journal view second (run first session).1 := by
  induction first generalizing session with
  | nil => rfl
  | cons event first ih =>
      rw [List.cons_append, journal, ih, journal, List.append_assoc]
      rfl

theorem journal_snoc (events : List (Nat × SessionEvent)) (now : Nat) (event : SessionEvent)
    (session : Session) :
    journal view (events ++ [(now, event)]) session =
      journal view events session ++ view (run events session).1 now event := by
  rw [journal_append]
  simp only [journal, List.append_nil]

/-- An entry of the journal is shown by one step of the run. -/
theorem exists_of_mem_journal {events : List (Nat × SessionEvent)} {session : Session} {entry : α}
    (hentry : entry ∈ journal view events session) :
    ∃ earlier now event later, events = earlier ++ (now, event) :: later ∧
      entry ∈ view (run earlier session).1 now event := by
  induction events using List.reverseRecOn with
  | nil => cases hentry
  | append_singleton events last ih =>
      obtain ⟨now, event⟩ := last
      rw [journal_snoc, List.mem_append] at hentry
      rcases hentry with hold | hnew
      · obtain ⟨earlier, time, cause, later, hsplit, hshown⟩ := ih hold
        refine ⟨earlier, time, cause, later ++ [(now, event)], ?_, hshown⟩
        rw [hsplit, List.append_assoc]
        rfl
      · exact ⟨events, now, event, [], rfl, hnew⟩

/-- Views that agree on every step of a run have one journal of it. -/
theorem journal_congr {events : List (Nat × SessionEvent)} {session : Session}
    (hsame : ∀ earlier now event later, events = earlier ++ (now, event) :: later →
      view (run earlier session).1 now event = other (run earlier session).1 now event) :
    journal view events session = journal other events session := by
  induction events using List.reverseRecOn with
  | nil => rfl
  | append_singleton events last ih =>
      obtain ⟨now, event⟩ := last
      rw [journal_snoc, journal_snoc, hsame events now event [] rfl]
      congr 1
      refine ih fun earlier time cause later hsplit => ?_
      refine hsame earlier time cause (later ++ [(now, event)]) ?_
      rw [hsplit, List.append_assoc]
      rfl

/-- What is read off entry by entry can be read off step by step. -/
theorem apply_journal {β : Type} {f : List α → List β} (hnil : f [] = [])
    (happend : ∀ first second, f (first ++ second) = f first ++ f second)
    (events : List (Nat × SessionEvent)) (session : Session) :
    f (journal view events session) =
      journal (fun session now event => f (view session now event)) events session := by
  induction events generalizing session with
  | nil => exact hnil
  | cons event events ih => rw [journal, happend, ih, journal]

end Journal

/-- What the editor is told over a run. -/
theorem noticesIn_run (events : List (Nat × SessionEvent)) (session : Session) :
    noticesIn (run events session).2 =
      journal (fun session _ event => session.notices event) events session := by
  induction events generalizing session with
  | nil => rfl
  | cons event events ih =>
      obtain ⟨now, event⟩ := event
      rw [run, Turn.andThen_snd, noticesIn_append, noticesIn_step, ih, journal]

end DebugBridge.Session
