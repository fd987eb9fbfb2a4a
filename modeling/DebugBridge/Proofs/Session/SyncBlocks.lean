import DebugBridge.Proofs.Session.SyncTurns
import Mathlib.Data.List.ModifyLast

/-!
# Blocks of a sync

What a sync does to the backend is one block: it asks for a clear and, once that is accepted, sets
every breakpoint of its plan, in order and whatever comes of the ones before.  A block holds the
answers so far; they decide which calls have been made.
-/

namespace DebugBridge

/-- What can be seen of the syncs of a session. -/
inductive SyncMark
  /-- A clear is asked for, at a moment with these breakpoints. -/
  | clear (owner : Nat) (known : Option (List (String × Int)))
  | set (owner : Nat) (file : String) (line : Int)
  /-- A call was answered, or was lost. -/
  | answered (owner : Nat) (accepted : Bool)
deriving DecidableEq

/-- Whether the outcome accepts the call that the stage waits for. -/
def SyncStage.accepts (outcome : Outcome) : SyncStage → Bool
  | .clearing _ => (BackendClient.accepted .clearBreakpoints outcome).isOk
  | .setting file line _ => (BackendClient.accepted (.setBreakpoint file line) outcome).isOk
  | _ => false

structure SyncBlock where
  owner : Nat
  /-- The breakpoints that the backend is to have. -/
  plan : List (String × Int)
  /-- The answer to the clear, then those to the breakpoints. -/
  answers : List Bool
deriving DecidableEq

namespace SyncBlock

/-- Breakpoints are set one after the other, each once the one before is answered. -/
def setMarks (owner : Nat) : List (String × Int) → List Bool → List SyncMark
  | [], _ => []
  | (file, line) :: _, [] => [.set owner file line]
  | (file, line) :: rest, accepted :: answers =>
    .set owner file line :: .answered owner accepted :: setMarks owner rest answers

def marks (block : SyncBlock) : List SyncMark :=
  .clear block.owner (some block.plan) ::
    match block.answers with
    | [] => []
    | true :: answers => .answered block.owner true :: setMarks block.owner block.plan answers
    | false :: _ => [.answered block.owner false]

/-- The clear was refused or lost, or every breakpoint has been answered. -/
def isComplete (block : SyncBlock) : Bool :=
  match block.answers with
  | [] => false
  | true :: answers => answers.length == block.plan.length
  | false :: answers => answers.isEmpty

/-- The block as it goes on with an answer. -/
def answer (block : SyncBlock) (accepted : Bool) : SyncBlock :=
  { block with answers := block.answers ++ [accepted] }

/-- The blocks once one more event can be seen: a clear begins a block, and an answer is one to the
last. -/
def extend (blocks : List SyncBlock) : List SyncMark → List SyncBlock
  | .clear owner known :: _ => blocks ++ [{ owner, plan := known.getD [], answers := [] }]
  | .answered _ accepted :: _ => blocks.modifyLast (·.answer accepted)
  | _ => blocks

theorem extend_answered (front : List SyncBlock) (block : SyncBlock) (accepted : Bool)
    (marks : List SyncMark) :
    extend (front ++ [block]) (.answered block.owner accepted :: marks) =
      front ++ [block.answer accepted] :=
  List.modifyLast_concat _ _ _

/-- The block has come as far as its sync in this stage. -/
def WaitsAt (block : SyncBlock) : SyncStage → Prop
  | .clearing left => block.answers = [] ∧ block.plan = left.rest
  | .setting file line left => ∃ done answers, block.answers = true :: answers ∧
      block.plan = done ++ (file, line) :: left.rest ∧ answers.length = done.length
  | _ => False

theorem setMarks_snoc (owner : Nat) (accepted : Bool) (place : String × Int)
    {done rest : List (String × Int)} {answers : List Bool}
    (hlength : answers.length = done.length) :
    setMarks owner (done ++ place :: rest) (answers ++ [accepted]) =
      setMarks owner (done ++ place :: rest) answers ++
        .answered owner accepted :: setMarks owner rest [] := by
  induction done generalizing answers with
  | nil =>
      rw [List.length_eq_zero_iff.mp hlength]
      rfl
  | cons first done ih =>
      cases answers with
      | nil => cases hlength
      | cons answer answers =>
          have hrest := ih (Nat.succ.inj hlength)
          simp only [List.cons_append, setMarks] at hrest ⊢
          rw [hrest]

theorem mem_setMarks {owner : Nat} {plan : List (String × Int)} {answers : List Bool}
    {accepted : Bool} (hlength : answers.length = plan.length) (hmem : accepted ∈ answers) :
    .answered owner accepted ∈ setMarks owner plan answers := by
  induction answers generalizing plan with
  | nil => cases hmem
  | cons answer answers ih =>
      cases plan with
      | nil => cases hlength
      | cons place plan =>
          obtain ⟨file, line⟩ := place
          rcases List.mem_cons.mp hmem with rfl | hrest
          · exact List.mem_cons_of_mem _ List.mem_cons_self
          · exact List.mem_cons_of_mem _ (List.mem_cons_of_mem _ (ih (Nat.succ.inj hlength) hrest))

/-- Every answer to a complete block can be seen. -/
theorem mem_marks_of_answer {block : SyncBlock} {accepted : Bool}
    (hcomplete : block.isComplete = true) (hmem : accepted ∈ block.answers) :
    .answered block.owner accepted ∈ block.marks := by
  obtain ⟨owner, plan, answers⟩ := block
  cases answers with
  | nil => cases hmem
  | cons cleared answers =>
      cases cleared with
      | true =>
          have hlength : answers.length = plan.length := beq_iff_eq.mp hcomplete
          rcases List.mem_cons.mp hmem with rfl | hrest
          · exact List.mem_cons_of_mem _ List.mem_cons_self
          · exact List.mem_cons_of_mem _ (List.mem_cons_of_mem _ (mem_setMarks hlength hrest))
      | false =>
          rw [List.isEmpty_iff.mp hcomplete] at hmem
          rw [List.mem_singleton.mp hmem]
          exact List.mem_cons_of_mem _ List.mem_cons_self

theorem not_clear_of_mem_setMarks {owner other : Nat} {plan : List (String × Int)}
    {answers : List Bool} {known : Option (List (String × Int))} :
    SyncMark.clear other known ∉ setMarks owner plan answers := by
  induction plan generalizing answers with
  | nil => exact List.not_mem_nil
  | cons place plan ih =>
      cases answers with
      | nil => simp [setMarks]
      | cons accepted answers => simp [setMarks, ih]

/-- A block clears once, at its beginning. -/
theorem marks_eq_cons (block : SyncBlock) :
    ∃ rest, block.marks = .clear block.owner (some block.plan) :: rest ∧
      ∀ owner known, SyncMark.clear owner known ∉ rest := by
  refine ⟨_, rfl, fun owner known => ?_⟩
  split
  · exact List.not_mem_nil
  · simp [not_clear_of_mem_setMarks]
  · simp

/-- With an answer to each, all breakpoints were set. -/
theorem set_mem_setMarks {owner : Nat} {plan : List (String × Int)} {answers : List Bool}
    {file : String} {line : Int} (hlength : answers.length = plan.length)
    (hmem : (file, line) ∈ plan) : .set owner file line ∈ setMarks owner plan answers := by
  induction plan generalizing answers with
  | nil => cases hmem
  | cons place plan ih =>
      cases answers with
      | nil => cases hlength
      | cons accepted answers =>
          rcases List.mem_cons.mp hmem with rfl | hrest
          · exact List.mem_cons_self
          · exact List.mem_cons_of_mem _ (List.mem_cons_of_mem _ (ih (Nat.succ.inj hlength) hrest))

section Answers

variable {block : SyncBlock} {stage : SyncStage} {outcome : Outcome}

theorem accepts_of_left? {plan left : SyncPlan}
    (hleft : (SyncStage.clearing plan).left? outcome = some left) :
    (SyncStage.clearing plan).accepts outcome = true ∧ left = plan := by
  simp only [SyncStage.left?, SyncStage.accepts] at hleft ⊢
  cases haccepted : BackendClient.accepted .clearBreakpoints outcome with
  | ok reply =>
      rw [haccepted] at hleft
      cases hleft
      exact ⟨rfl, rfl⟩
  | error fault =>
      rw [haccepted] at hleft
      cases hleft

/-- While there is something left, the answer to one call is followed by the next. -/
theorem WaitsAt.called (hwaits : block.WaitsAt stage) {file : String} {line : Int}
    {rest : List (String × Int)} {total : Nat}
    (hleft : stage.left? outcome = some { rest := (file, line) :: rest, total }) :
    (block.answer (stage.accepts outcome)).marks =
        block.marks ++ [.answered block.owner (stage.accepts outcome), .set block.owner file line] ∧
      (block.answer (stage.accepts outcome)).WaitsAt (.setting file line { rest, total }) := by
  cases stage with
  | clearing plan =>
      obtain ⟨haccepts, rfl⟩ := accepts_of_left? hleft
      obtain ⟨hanswers, hplan⟩ := hwaits
      rw [haccepts]
      constructor
      · simp [marks, answer, hanswers, hplan, setMarks]
      · exact ⟨[], [], by simp [answer, hanswers], hplan, rfl⟩
  | setting place number plan =>
      obtain ⟨done, answers, hanswers, hplan, hlength⟩ := hwaits
      simp only [SyncStage.left?, Option.some.injEq] at hleft
      subst hleft
      generalize SyncStage.accepts outcome _ = accepted
      constructor
      · simp [marks, answer, hanswers, hplan, setMarks_snoc _ _ _ hlength, setMarks]
      · exact ⟨done ++ [(place, number)], answers ++ [accepted], by simp [answer, hanswers],
          by simp [answer, hplan], by simp [hlength]⟩
  | starting => exact hwaits.elim
  | queued => exact hwaits.elim
  | admitted => exact hwaits.elim

/-- With nothing left, an answer completes the block. -/
theorem WaitsAt.ended (hwaits : block.WaitsAt stage)
    (hleft : ∀ left, stage.left? outcome = some left → left.rest = []) :
    (block.answer (stage.accepts outcome)).marks =
        block.marks ++ [.answered block.owner (stage.accepts outcome)] ∧
      (block.answer (stage.accepts outcome)).isComplete = true := by
  cases stage with
  | clearing plan =>
      obtain ⟨hanswers, hplan⟩ := hwaits
      cases haccepted : BackendClient.accepted .clearBreakpoints outcome with
      | error fault =>
          have haccepts : (SyncStage.clearing plan).accepts outcome = false := by
            simp [SyncStage.accepts, haccepted, Except.isOk, Except.toBool]
          rw [haccepts]
          simp [marks, answer, isComplete, hanswers]
      | ok reply =>
          have haccepts : (SyncStage.clearing plan).accepts outcome = true := by
            simp [SyncStage.accepts, haccepted, Except.isOk, Except.toBool]
          have hnone : plan.rest = [] :=
            hleft plan (by simp [SyncStage.left?, haccepted, Except.toOption])
          rw [haccepts]
          simp [marks, answer, isComplete, hanswers, hplan, hnone, setMarks]
  | setting place number plan =>
      obtain ⟨done, answers, hanswers, hplan, hlength⟩ := hwaits
      have hnone : plan.rest = [] := hleft plan rfl
      rw [hnone] at hplan
      constructor
      · simp [marks, answer, hanswers, hplan, setMarks_snoc _ _ _ hlength, setMarks]
      · simp [isComplete, answer, hanswers, hplan, hlength]
  | starting => exact hwaits.elim
  | queued => exact hwaits.elim
  | admitted => exact hwaits.elim

end Answers

end SyncBlock

end DebugBridge
