import DebugBridge.Breakpoint.BySource
import DebugBridge.Proofs.Json.Members
import Mathlib.Logic.Function.Basic

/-!
# Breakpoints of the sources

The breakpoints that are kept are, for every path by which the editor names a source, those on the
lines that were set for this path last.  Two paths are two sources, whatever files they name.
-/

namespace DebugBridge

namespace SourceBreakpoints

variable {known : SourceBreakpoints} {lines : String → List Int}

theorem lines_numbered (source : String) (id : Nat) (set : List Int) :
    (numbered source id set).map (·.line) = set := by
  induction set generalizing id with
  | nil => rfl
  | cons line set ih => rw [numbered, List.map_cons, ih]

theorem source_of_mem_numbered {source : String} {id : Nat} {set : List Int}
    {breakpoint : Breakpoint} (hmem : breakpoint ∈ numbered source id set) :
    breakpoint.sourcePath = source := by
  induction set generalizing id with
  | nil => cases hmem
  | cons line set ih =>
      rcases List.mem_cons.mp hmem with rfl | hrest
      · rfl
      · exact ih hrest

/-- The breakpoints are those on the lines of each source. -/
structure Records (known : SourceBreakpoints) (lines : String → List Int) : Prop where
  ascending : Json.Ascending known.bySource
  found : ∀ source, (Json.lookup source known.bySource).map (·.map (·.line)) =
    if lines source = [] then none else some (lines source)
  sources : ∀ entry ∈ known.bySource, ∀ breakpoint ∈ entry.2, breakpoint.sourcePath = entry.1

theorem Records.none : Records {} fun _ => [] where
  ascending := List.Pairwise.nil
  found _ := rfl
  sources _ hentry := nomatch hentry

theorem bySource_replace (known : SourceBreakpoints) (source : String) (set : List Int) :
    (known.replace source set).2.bySource =
      if set = [] then erase source known.bySource
      else Json.insertMember source (numbered source known.nextId set) known.bySource := by
  have hempty : (numbered source known.nextId set).isEmpty = set.isEmpty := by
    cases set <;> rfl
  simp only [SourceBreakpoints.replace, hempty, List.isEmpty_iff]

theorem ascending_replace (hascending : Json.Ascending known.bySource) (source : String)
    (set : List Int) : Json.Ascending (known.replace source set).2.bySource := by
  rw [bySource_replace]
  split
  · exact List.Pairwise.sublist (List.Sublist.map _ List.filter_sublist) hascending
  · exact Json.ascending_insertMember _ _ hascending

/-- What is kept for a source after a replacement, and what for every other one. -/
theorem lookup_replace (known : SourceBreakpoints) (source other : String) (set : List Int) :
    Json.lookup other (known.replace source set).2.bySource =
      if other = source then
        if set = [] then none else some (numbered source known.nextId set)
      else Json.lookup other known.bySource := by
  rw [bySource_replace]
  by_cases hset : set = []
  · rw [if_pos hset, if_pos hset, erase, Json.lookup_filter_ne]
  · rw [if_neg hset, if_neg hset, Json.lookup_insertMember]

/-- New lines of one source replace its old ones, and no other source's. -/
theorem Records.replace (hrecords : Records known lines) (source : String) (set : List Int) :
    Records (known.replace source set).2 (Function.update lines source set) := by
  constructor
  · exact ascending_replace hrecords.ascending source set
  · intro other
    rw [lookup_replace, Function.update_apply]
    by_cases hother : other = source
    · rw [if_pos hother, if_pos hother]
      split
      · rfl
      · rw [Option.map_some, lines_numbered]
    · rw [if_neg hother, if_neg hother, hrecords.found]
  · intro entry hentry breakpoint hbreakpoint
    rw [bySource_replace] at hentry
    split at hentry
    · exact hrecords.sources entry (List.mem_of_mem_filter hentry) breakpoint hbreakpoint
    · rcases Json.mem_insertMember hentry with rfl | hold
      · exact source_of_mem_numbered hbreakpoint
      · exact hrecords.sources entry hold breakpoint hbreakpoint

/-- Each source is listed with its lines. -/
theorem Records.lines_of_mem (hrecords : Records known lines) {source : String}
    {breakpoints : List Breakpoint} (hmem : (source, breakpoints) ∈ known.bySource) :
    breakpoints.map (·.line) = lines source ∧ lines source ≠ [] := by
  have hfound := hrecords.found source
  rw [(Json.lookup_eq_some_iff hrecords.ascending).mpr hmem, Option.map_some] at hfound
  split at hfound
  · cases hfound
  · next hsome => exact ⟨Option.some.inj hfound, hsome⟩

theorem Records.mem_sources (hrecords : Records known lines) (source : String) :
    source ∈ known.bySource.map (·.1) ↔ lines source ≠ [] := by
  constructor
  · intro hmem
    obtain ⟨⟨_, breakpoints⟩, hentry, rfl⟩ := List.mem_map.mp hmem
    exact (hrecords.lines_of_mem hentry).2
  · intro hsome
    have hfound := hrecords.found source
    rw [if_neg hsome] at hfound
    obtain ⟨breakpoints, hlookup, -⟩ := Option.map_eq_some_iff.mp hfound
    exact List.mem_map.mpr ⟨_, (Json.lookup_eq_some_iff hrecords.ascending).mp hlookup, rfl⟩

/-- Source by source, the breakpoints are those on its lines. -/
theorem Records.toList_map (hrecords : Records known lines) {β : Type} (place : String → Int → β) :
    known.toList.map (fun breakpoint => place breakpoint.sourcePath breakpoint.line) =
      (known.bySource.map (·.1)).flatMap fun source => (lines source).map (place source) := by
  rw [toList, List.map_flatMap, List.flatMap_map]
  refine List.flatMap_congr fun entry hentry => ?_
  obtain ⟨source, breakpoints⟩ := entry
  rw [← (hrecords.lines_of_mem hentry).1, List.map_map]
  refine List.map_congr_left fun breakpoint hbreakpoint => ?_
  rw [hrecords.sources _ hentry breakpoint hbreakpoint]
  rfl

/-- Of places that are named after their sources, those of one name are those of the sources that
have this name. -/
theorem filter_places (sources : List String) (lines : String → List Int) (nameOf : String → String)
    (lineOf : Int → Int) (name : String) :
    (sources.flatMap fun source =>
        (lines source).map fun line => (nameOf source, lineOf line)).filter
        (fun place => place.1 == name) =
      (sources.filter fun source => nameOf source == name).flatMap fun source =>
        (lines source).map fun line => (name, lineOf line) := by
  induction sources with
  | nil => rfl
  | cons source sources ih =>
      rw [List.flatMap_cons, List.filter_append, ih, List.filter_map]
      by_cases hname : nameOf source = name
      · have hall : (lines source).filter
            ((fun place : String × Int => place.1 == name) ∘
              fun line => (nameOf source, lineOf line)) = lines source :=
          List.filter_eq_self.mpr fun line _ => by simp [hname]
        rw [hall, List.filter_cons_of_pos (by simp [hname]), List.flatMap_cons, hname]
      · have hnone : (lines source).filter
            ((fun place : String × Int => place.1 == name) ∘
              fun line => (nameOf source, lineOf line)) = [] :=
          List.filter_eq_nil_iff.mpr fun line _ => by simp [hname]
        rw [hnone, List.filter_cons_of_neg (by simp [hname]), List.map_nil, List.nil_append]

/-- Where no other source has the name, only one is left. -/
theorem flatMap_lines_of_only {sources : List String} {lines : String → List Int} {source : String}
    (hnodup : sources.Nodup) (hmem : source ∈ sources ↔ lines source ≠ [])
    (honly : ∀ other ∈ sources, other = source) {α : Type} (place : Int → α) :
    (sources.flatMap fun other => (lines other).map place) = (lines source).map place := by
  match sources, hnodup, hmem, honly with
  | [], _, hmem, _ =>
      have hnone : lines source = [] := by
        by_contra hsome
        exact List.not_mem_nil (hmem.mpr hsome)
      rw [hnone]
      rfl
  | [other], _, _, honly =>
      rw [honly other List.mem_cons_self, List.flatMap_singleton]
  | first :: second :: sources, hnodup, _, honly =>
      have hfirst := honly first List.mem_cons_self
      have hsecond := honly second (List.mem_cons_of_mem _ List.mem_cons_self)
      rw [hfirst, hsecond] at hnodup
      exact absurd List.mem_cons_self (List.nodup_cons.mp hnodup).1

end SourceBreakpoints

end DebugBridge
