import Mathlib.Tactic.Common

/-!
# Milestones of a thread

The beginnings and answers of the commands of one thread, and its stops, in the order in which they
happen.  A log of them is orderly when each stop follows commands of its own, all of them answered.
-/

namespace DebugBridge

inductive Milestone
  | began (id : Nat)
  /-- The command was acknowledged, refused or lost. -/
  | completed (id : Nat)
  | stopped
deriving DecidableEq

namespace Milestone

def isBegan : Milestone → Bool
  | .began _ => true
  | _ => false

def isCompleted : Milestone → Bool
  | .completed _ => true
  | _ => false

/-- The outstanding commands after a milestone. -/
def settle (pending : List Nat) : Milestone → List Nat
  | .began id => pending ++ [id]
  | .completed id => pending.erase id
  | .stopped => pending

/-- The commands begun in a log and not completed since. -/
def outstanding (log : List Milestone) : List Nat := log.foldl settle []

theorem outstanding_append (first second : List Milestone) :
    outstanding (first ++ second) = second.foldl settle (outstanding first) :=
  List.foldl_append

@[simp]
theorem outstanding_snoc_began (log : List Milestone) (id : Nat) :
    outstanding (log ++ [.began id]) = outstanding log ++ [id] :=
  outstanding_append log [.began id]

@[simp]
theorem outstanding_snoc_completed (log : List Milestone) (id : Nat) :
    outstanding (log ++ [.completed id]) = (outstanding log).erase id :=
  outstanding_append log [.completed id]

@[simp]
theorem outstanding_snoc_stopped (log : List Milestone) :
    outstanding (log ++ [.stopped]) = outstanding log :=
  outstanding_append log [.stopped]

/-- A command stays outstanding until it is completed. -/
theorem mem_foldl_settle {log : List Milestone} {pending : List Nat} {id : Nat}
    (hpending : id ∈ pending) (hlog : .completed id ∉ log) : id ∈ log.foldl settle pending := by
  induction log generalizing pending with
  | nil => exact hpending
  | cons milestone log ih =>
      have hrest : .completed id ∉ log := fun hmem => hlog (List.mem_cons_of_mem _ hmem)
      refine ih ?_ hrest
      cases milestone with
      | began other => exact List.mem_append_left _ hpending
      | completed other =>
          have hne : id ≠ other := by
            rintro rfl
            exact hlog List.mem_cons_self
          exact (List.mem_erase_of_ne hne).mpr hpending
      | stopped => exact hpending

/-- Once nothing is outstanding, every command begun has been completed. -/
theorem completed_of_outstanding_nil {log first rest : List Milestone} {id : Nat}
    (hnone : outstanding log = []) (hlog : log = first ++ .began id :: rest) :
    .completed id ∈ rest := by
  by_contra hopen
  have hmem : id ∈ rest.foldl settle (outstanding first ++ [id]) :=
    mem_foldl_settle (List.mem_append_right _ List.mem_cons_self) hopen
  have hfold : rest.foldl settle (outstanding first ++ [id]) = outstanding log := by
    rw [hlog, outstanding_append, List.foldl_cons]
    rfl
  rw [hfold, hnone] at hmem
  cases hmem

/-- Stops follow commands of their own, all of them answered. -/
structure Orderly (log : List Milestone) : Prop where
  /-- No command is outstanding at a stop. -/
  answered : ∀ before after, log = before ++ .stopped :: after → ∀ first id rest,
    before = first ++ .began id :: rest → .completed id ∈ rest
  /-- Before a stop, and after the one before it, a command begins and completes. -/
  renewed : ∀ before after, log = before ++ .stopped :: after → ∃ first id rest,
    before = first ++ .began id :: rest ∧ .completed id ∈ rest ∧ .stopped ∉ rest

theorem Orderly.nil : Orderly [] := by
  constructor <;> simp

/-- What is no stop can follow anything. -/
theorem Orderly.snoc {log : List Milestone} (horderly : Orderly log) {milestone : Milestone}
    (hmilestone : milestone ≠ .stopped) : Orderly (log ++ [milestone]) := by
  have hinner : ∀ {before after : List Milestone},
      log ++ [milestone] = before ++ .stopped :: after →
        ∃ after, log = before ++ .stopped :: after := by
    intro before after hlog
    rcases List.eq_nil_or_concat after with rfl | ⟨after, last, rfl⟩
    · have hlast := (List.append_inj' hlog rfl).2
      simp only [List.cons.injEq, and_true] at hlast
      exact absurd hlast hmilestone
    · refine ⟨after, ?_⟩
      have hsplit : log ++ [milestone] = (before ++ .stopped :: after) ++ [last] := by
        simpa using hlog
      exact (List.append_inj' hsplit rfl).1
  constructor
  · intro before after hlog
    obtain ⟨after, hlog⟩ := hinner hlog
    exact horderly.answered before after hlog
  · intro before after hlog
    obtain ⟨after, hlog⟩ := hinner hlog
    exact horderly.renewed before after hlog

/-- A stop can follow where a command began since the last one and none is outstanding. -/
theorem Orderly.snoc_stopped {log : List Milestone} (horderly : Orderly log)
    (hnone : outstanding log = [])
    (hbegan : ∃ first id rest, log = first ++ .began id :: rest ∧ .stopped ∉ rest) :
    Orderly (log ++ [.stopped]) := by
  have hcases : ∀ {before after : List Milestone},
      log ++ [.stopped] = before ++ .stopped :: after →
        before = log ∨ ∃ after, log = before ++ .stopped :: after := by
    intro before after hlog
    rcases List.eq_nil_or_concat after with rfl | ⟨after, last, rfl⟩
    · exact .inl (List.append_inj' hlog rfl).1.symm
    · refine .inr ⟨after, ?_⟩
      have hsplit : log ++ [.stopped] = (before ++ .stopped :: after) ++ [last] := by
        simpa using hlog
      exact (List.append_inj' hsplit rfl).1
  constructor
  · intro before after hlog
    rcases hcases hlog with rfl | ⟨after, hlog⟩
    · intro first id rest hbefore
      exact completed_of_outstanding_nil hnone hbefore
    · exact horderly.answered before after hlog
  · intro before after hlog
    rcases hcases hlog with rfl | ⟨after, hlog⟩
    · obtain ⟨first, id, rest, hsplit, hquiet⟩ := hbegan
      exact ⟨first, id, rest, hsplit, completed_of_outstanding_nil hnone hsplit, hquiet⟩
    · exact horderly.renewed before after hlog

end Milestone

end DebugBridge
