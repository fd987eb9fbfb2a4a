import DebugBridge.Proofs.Breakpoint.BySource
import DebugBridge.Proofs.Text.ByteOrder
import Mathlib.Data.List.Forall2

/-!
# Sequences of replacements

However often the breakpoints of sources are replaced, every answer has the lines that were asked
for, the identifiers go on from one answer to the next, and what is kept is for each source the
last answer that it got.
-/

namespace DebugBridge.SourceBreakpoints

open Text

/-- The answers to replacements made one after another, and what is kept in the end. -/
def replaceEach (known : SourceBreakpoints) :
    List (String × List Int) → List (List Breakpoint) × SourceBreakpoints
  | [] => ([], known)
  | (source, set) :: calls =>
    let (answer, known) := known.replace source set
    let (answers, last) := replaceEach known calls
    (answer :: answers, last)

/-- The answer to the last of these replacements that was for the source. -/
def lastAnswer (calls : List (String × List Int)) (answers : List (List Breakpoint))
    (source : String) : List Breakpoint :=
  (((calls.zip answers).reverse.find? fun turn => turn.1.1 == source).map (·.2)).getD []

/-- A replacement was answered with a breakpoint for each of its lines, in their order. -/
def Answers (call : String × List Int) (answer : List Breakpoint) : Prop :=
  answer.map (·.line) = call.2 ∧
    ∀ breakpoint ∈ answer, breakpoint.sourcePath = call.1 ∧ breakpoint.verified = true

variable {known : SourceBreakpoints}

theorem replaceEach_cons (known : SourceBreakpoints) (call : String × List Int)
    (calls : List (String × List Int)) :
    known.replaceEach (call :: calls) =
      ((known.replace call.1 call.2).1 :: ((known.replace call.1 call.2).2.replaceEach calls).1,
        ((known.replace call.1 call.2).2.replaceEach calls).2) := rfl

/-! ## Answers -/

theorem ids_numbered (source : String) (id : Nat) (set : List Int) :
    (numbered source id set).map (·.id) = List.range' id set.length := by
  induction set generalizing id with
  | nil => rfl
  | cons line set ih => rw [numbered, List.map_cons, ih, List.length_cons, List.range'_succ]

theorem verified_of_mem_numbered {source : String} {id : Nat} {set : List Int}
    {breakpoint : Breakpoint} (hmem : breakpoint ∈ numbered source id set) :
    breakpoint.verified = true := by
  induction set generalizing id with
  | nil => cases hmem
  | cons line set ih =>
      rcases List.mem_cons.mp hmem with rfl | hrest
      · rfl
      · exact ih hrest

theorem answers_replace (known : SourceBreakpoints) (source : String) (set : List Int) :
    Answers (source, set) (known.replace source set).1 :=
  ⟨lines_numbered source known.nextId set,
    fun _ hmem => ⟨source_of_mem_numbered hmem, verified_of_mem_numbered hmem⟩⟩

theorem answers_replaceEach (known : SourceBreakpoints) (calls : List (String × List Int)) :
    List.Forall₂ Answers calls (known.replaceEach calls).1 := by
  induction calls generalizing known with
  | nil => exact .nil
  | cons call calls ih => exact .cons (answers_replace known call.1 call.2) (ih _)

/-- Identifiers are given out one after another, over all answers. -/
theorem ids_replaceEach (known : SourceBreakpoints) (calls : List (String × List Int)) :
    (known.replaceEach calls).1.flatten.map (·.id) =
      List.range' known.nextId (calls.flatMap (·.2)).length := by
  induction calls generalizing known with
  | nil => rfl
  | cons call calls ih =>
      obtain ⟨source, set⟩ := call
      have hids := ih (known.replace source set).2
      rw [replaceEach_cons, List.flatten_cons, List.map_append, hids, List.flatMap_cons,
        List.length_append, List.range'_append_1.symm]
      exact congrArg (· ++ _) (ids_numbered source known.nextId set)

/-! ## What is kept -/

theorem replaceEach_snoc (known : SourceBreakpoints) (calls : List (String × List Int))
    (source : String) (set : List Int) :
    known.replaceEach (calls ++ [(source, set)]) =
      ((known.replaceEach calls).1 ++ [((known.replaceEach calls).2.replace source set).1],
        ((known.replaceEach calls).2.replace source set).2) := by
  induction calls generalizing known with
  | nil => rfl
  | cons call calls ih =>
      rw [List.cons_append, replaceEach_cons, ih, replaceEach_cons, List.cons_append]

theorem replaceEach_take (known : SourceBreakpoints) (calls : List (String × List Int))
    (count : Nat) :
    (known.replaceEach (calls.take count)).1 = (known.replaceEach calls).1.take count := by
  induction calls generalizing known count with
  | nil => cases count <;> rfl
  | cons call calls ih =>
      cases count with
      | zero => rfl
      | succ count =>
          rw [List.take_succ_cons, replaceEach_cons, replaceEach_cons, List.take_succ_cons, ← ih]

theorem lastAnswer_snoc {calls : List (String × List Int)} {answers : List (List Breakpoint)}
    (hlength : calls.length = answers.length) (source : String) (set : List Int)
    (answer : List Breakpoint) :
    lastAnswer (calls ++ [(source, set)]) (answers ++ [answer]) =
      Function.update (lastAnswer calls answers) source answer := by
  funext other
  rw [lastAnswer, List.zip_append hlength, List.zip_cons_cons, List.zip_nil_left,
    List.reverse_append, List.reverse_singleton, List.singleton_append, Function.update_apply]
  by_cases hother : other = source
  · rw [List.find?_cons_of_pos (by simp [hother]), if_pos hother]
    rfl
  · rw [List.find?_cons_of_neg (by simpa using Ne.symm hother), if_neg hother]
    rfl

/-- What is kept is `held` for each source, and nothing for a source with none. -/
structure Holds (known : SourceBreakpoints) (held : String → List Breakpoint) : Prop where
  ascending : Json.Ascending known.bySource
  found : ∀ source, Json.lookup source known.bySource =
    if held source = [] then none else some (held source)

theorem Holds.replace {held : String → List Breakpoint} (hholds : Holds known held)
    (source : String) (set : List Int) :
    Holds (known.replace source set).2
      (Function.update held source (known.replace source set).1) := by
  refine ⟨ascending_replace hholds.ascending source set, fun other => ?_⟩
  have hempty : (known.replace source set).1 = [] ↔ set = [] := by
    rw [← List.map_eq_nil_iff (f := (·.line)), (answers_replace known source set).1]
  rw [lookup_replace, Function.update_apply]
  by_cases hother : other = source
  · simp only [if_pos hother, hempty]
    rfl
  · rw [if_neg hother, if_neg hother, hholds.found]

theorem holds_replaceEach (calls : List (String × List Int)) :
    Holds (replaceEach {} calls).2 (lastAnswer calls (replaceEach {} calls).1) := by
  induction calls using List.reverseRecOn with
  | nil => exact ⟨List.Pairwise.nil, fun _ => rfl⟩
  | append_singleton calls call ih =>
      rw [replaceEach_snoc, lastAnswer_snoc (answers_replaceEach {} calls).length_eq]
      exact ih.replace call.1 call.2

variable {held : String → List Breakpoint}

theorem Holds.mem_sources (hholds : Holds known held) (source : String) :
    source ∈ known.bySource.map (·.1) ↔ held source ≠ [] := by
  have hfound := hholds.found source
  constructor
  · intro hmem
    obtain ⟨⟨_, breakpoints⟩, hentry, rfl⟩ := List.mem_map.mp hmem
    rw [(Json.lookup_eq_some_iff hholds.ascending).mpr hentry] at hfound
    intro hnone
    rw [if_pos hnone] at hfound
    cases hfound
  · intro hsome
    rw [if_neg hsome] at hfound
    exact List.mem_map.mpr ⟨_, (Json.lookup_eq_some_iff hholds.ascending).mp hfound, rfl⟩

/-- What is kept is listed source by source. -/
theorem Holds.toList (hholds : Holds known held) :
    known.toList = (known.bySource.map (·.1)).flatMap held := by
  rw [SourceBreakpoints.toList, List.flatMap_map]
  refine List.flatMap_congr fun entry hentry => ?_
  obtain ⟨source, breakpoints⟩ := entry
  have hfound := hholds.found source
  rw [(Json.lookup_eq_some_iff hholds.ascending).mpr hentry] at hfound
  split at hfound
  · cases hfound
  · exact Option.some.inj hfound

/-- Over all replacements, every answer is as it was asked for, the identifiers count on from 1000
and fit into 64 bits, and after any number of them the list has, by the bytes of the paths, the last
answer for each source. -/
theorem replaceEach_answers_and_keeps (calls : List (String × List Int))
    (htotal : (calls.flatMap (·.2)).length < 2 ^ 62) :
    let answers := (replaceEach {} calls).1
    List.Forall₂ Answers calls answers ∧
    answers.flatten.map (·.id) = List.range' 1000 (calls.flatMap (·.2)).length ∧
    (answers.flatten.map (·.id)).Nodup ∧
    (∀ breakpoint ∈ answers.flatten, breakpoint.id < 2 ^ 63) ∧
    ∀ count, ∃ sources : List String,
      sources.Pairwise (fun first second => encodeUtf8 first < encodeUtf8 second) ∧
      (∀ source, source ∈ sources ↔
        lastAnswer (calls.take count) (answers.take count) source ≠ []) ∧
      (replaceEach {} (calls.take count)).2.toList =
        sources.flatMap (lastAnswer (calls.take count) (answers.take count)) := by
  intro answers
  have hids : answers.flatten.map (·.id) = List.range' 1000 (calls.flatMap (·.2)).length :=
    ids_replaceEach {} calls
  refine ⟨answers_replaceEach {} calls, hids, hids ▸ List.nodup_range', ?_, fun count => ?_⟩
  · intro breakpoint hmem
    have hid := List.mem_map_of_mem (f := (·.id)) hmem
    rw [hids, List.mem_range'_1] at hid
    omega
  · have hholds := holds_replaceEach (calls.take count)
    rw [replaceEach_take] at hholds
    exact ⟨_, hholds.ascending.imp encodeUtf8_lt, hholds.mem_sources, hholds.toList⟩

theorem replaceEach_answers_and_keeps_cleared :
    let calls := [("/é.lua", [10, 20]), ("/z.lua", [3]), ("/é.lua", []), ("/z.lua", [7, 7])]
    (calls.flatMap (·.2)).length < 2 ^ 62 ∧
      (replaceEach {} calls).1.flatten.map (·.id) = [1000, 1001, 1002, 1003, 1004] ∧
      (replaceEach {} (calls.take 2)).2.toList.map (·.id) = [1002, 1000, 1001] ∧
      (replaceEach {} (calls.take 3)).2.toList.map (·.id) = [1002] := by
  intro calls
  have htotal : (calls.flatMap (·.2)).length < 2 ^ 62 := by decide
  exact ⟨htotal, (replaceEach_answers_and_keeps calls htotal).2.1, by decide, by decide⟩

end DebugBridge.SourceBreakpoints
