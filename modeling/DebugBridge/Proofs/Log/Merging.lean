import DebugBridge.Log.Filter
import DebugBridge.Proofs.Url.Parts
import Mathlib.Data.List.Induction
import Mathlib.Data.List.Nodup
import Mathlib.Data.List.TakeWhile
import Mathlib.Tactic.Common
import Mathlib.Tactic.FinCases

/-!
# Merged log filters

A text of directives gives each target the level of its last directive for it.  The environment's
directives come behind those of the configured level, so what they say of a target counts, and of
other targets the configured level; a text of the two that cannot be understood is left out.
-/

namespace DebugBridge.LogFilter

/-- The threshold that a filter has for a target itself; `{}` is the target of directives that
name none. -/
def assigned? (target : LogTarget) (filter : LogFilter) : Option Threshold :=
  (filter.find? fun directive => directive.target == target).map (·.threshold)

/-- The threshold of the last directive for a target. -/
def lastThreshold? (target : LogTarget) (directives : List LogDirective) : Option Threshold :=
  (directives.reverse.find? fun directive => directive.target == target).map (·.threshold)

theorem assigned?_cons (target : LogTarget) (directive : LogDirective) (filter : LogFilter) :
    assigned? target (directive :: filter) =
      if directive.target = target then some directive.threshold else assigned? target filter := by
  by_cases htarget : directive.target = target
  · simp [assigned?, htarget]
  · simp [assigned?, htarget]

theorem assigned?_map_replace (target : LogTarget) (directive : LogDirective)
    (filter : LogFilter) :
    assigned? target (filter.map fun other =>
        if other.target = directive.target then directive else other) =
      if directive.target = target then (assigned? target filter).map fun _ => directive.threshold
      else assigned? target filter := by
  induction filter with
  | nil => simp [assigned?]
  | cons other filter ih =>
      rw [List.map_cons, assigned?_cons, assigned?_cons, ih]
      by_cases hother : other.target = directive.target
      · by_cases htarget : directive.target = target
        · simp [hother, htarget]
        · simp [hother, htarget]
      · by_cases htarget : directive.target = target
        · have hne : other.target ≠ target := fun hsame => hother (hsame.trans htarget.symm)
          simp [htarget, hne]
        · simp [hother, htarget]

theorem isSome_assigned?_iff {target : LogTarget} {filter : LogFilter} :
    (assigned? target filter).isSome = true ↔
      (filter.any fun other => other.target == target) = true := by
  simp [assigned?]

theorem assigned?_add (target : LogTarget) (filter : LogFilter) (directive : LogDirective) :
    assigned? target (filter.add directive) =
      if directive.target = target then some directive.threshold else assigned? target filter := by
  unfold add
  split
  · next hthere =>
      rw [assigned?_map_replace]
      by_cases htarget : directive.target = target
      · obtain ⟨threshold, hthreshold⟩ :=
          Option.isSome_iff_exists.mp (isSome_assigned?_iff.mpr (htarget ▸ hthere))
        rw [if_pos htarget, if_pos htarget, hthreshold, Option.map_some]
      · rw [if_neg htarget, if_neg htarget]
  · next habsent =>
      by_cases htarget : directive.target = target
      · have hnone : assigned? target filter = none := by
          rw [← Option.not_isSome_iff_eq_none, isSome_assigned?_iff, ← htarget]
          exact habsent
        simp only [assigned?, Option.map_eq_none_iff] at hnone
        simp [assigned?, List.find?_append, hnone, htarget]
      · simp [assigned?, List.find?_append, htarget]

/-- Of the directives for a target, the last one counts. -/
theorem assigned?_foldl_add (target : LogTarget) (directives : List LogDirective)
    (filter : LogFilter) :
    assigned? target (directives.foldl add filter) =
      (lastThreshold? target directives).or (assigned? target filter) := by
  induction directives using List.reverseRecOn with
  | nil => rfl
  | append_singleton directives last ih =>
      rw [List.foldl_append, List.foldl_cons, List.foldl_nil, assigned?_add, ih]
      by_cases htarget : last.target = target
      · simp [lastThreshold?, htarget]
      · simp [lastThreshold?, htarget]

theorem lastThreshold?_append (target : LogTarget) (first second : List LogDirective) :
    lastThreshold? target (first ++ second) =
      (lastThreshold? target second).or (lastThreshold? target first) := by
  simp only [lastThreshold?, List.reverse_append, List.find?_append, Option.map_or]

/-! ## Texts of directives -/

/-- The parts of a text that are not empty. -/
def parts (text : String) : List (List Char) :=
  (Url.splitAt (· == ',') text.toList).filter fun part => !part.isEmpty

/-- The directives in a text; nothing when one of its parts is none. -/
def directives? (text : String) : Option (List LogDirective) := (parts text).mapM directive?

theorem parse?_eq (text : String) :
    parse? text = (directives? text).map fun directives => directives.foldl add [] := rfl

theorem parts_append (first second : String) :
    parts (first ++ "," ++ second) = parts first ++ parts second := by
  have hchars : (first ++ "," ++ second).toList = first.toList ++ ',' :: second.toList := by
    simp [String.toList_append]
  rw [parts, hchars, Url.splitAt_eq_splitOnP, List.splitOnP_append_cons _ _ (by rfl),
    List.filter_append, ← Url.splitAt_eq_splitOnP, ← Url.splitAt_eq_splitOnP]
  rfl

theorem directives?_append (first second : String) :
    directives? (first ++ "," ++ second) =
      (directives? first).bind fun base => (directives? second).map fun own => base ++ own := by
  rw [directives?, parts_append, List.mapM_append]
  cases hfirst : (parts first).mapM directive? <;>
    cases hsecond : (parts second).mapM directive? <;>
      simp [directives?, hfirst, hsecond]

theorem parse?_append (first second : String) :
    parse? (first ++ "," ++ second) = (directives? first).bind fun base =>
      (directives? second).map fun own => (base ++ own).foldl add [] := by
  rw [parse?_eq, directives?_append]
  cases directives? first <;> cases directives? second <;> rfl

theorem parse?_eq_none_iff {text : String} : parse? text = none ↔ directives? text = none := by
  rw [parse?_eq, Option.map_eq_none_iff]

/-! ## Each target once -/

theorem targets_add (filter : LogFilter) (directive : LogDirective) :
    (filter.add directive).map (·.target) =
      if directive.target ∈ filter.map (·.target) then filter.map (·.target)
      else filter.map (·.target) ++ [directive.target] := by
  have hthere : (filter.any fun other => other.target == directive.target) = true ↔
      directive.target ∈ filter.map (·.target) := by simp
  unfold add
  by_cases hmember : directive.target ∈ filter.map (·.target)
  · rw [if_pos (hthere.mpr hmember), if_pos hmember, List.map_map]
    refine List.map_congr_left fun other _ => ?_
    by_cases hother : other.target = directive.target
    · simp [hother]
    · simp [hother]
  · rw [if_neg (mt hthere.mp hmember), if_neg hmember, List.map_append, List.map_singleton]

/-- No two directives of the filter are for one target. -/
def Apart (filter : LogFilter) : Prop := (filter.map (·.target)).Nodup

theorem Apart.add {filter : LogFilter} (hapart : filter.Apart) (directive : LogDirective) :
    (filter.add directive).Apart := by
  rw [Apart, targets_add]
  split
  · exact hapart
  · next hnew => exact List.concat_eq_append ▸ List.Nodup.concat hnew hapart

theorem Apart.foldl_add (directives : List LogDirective) {filter : LogFilter}
    (hapart : filter.Apart) : (directives.foldl LogFilter.add filter).Apart := by
  induction directives generalizing filter with
  | nil => exact hapart
  | cons directive directives ih => exact ih (hapart.add directive)

/-- The filter of a text, or another one in its place. -/
theorem apart_getD_parse? (text : String) {other : LogFilter} (hother : other.Apart) :
    ((parse? text).getD other).Apart := by
  rw [parse?_eq]
  cases directives? text with
  | none => exact hother
  | some directives => exact .foldl_add directives List.nodup_nil

theorem apart_ofLevel (level : String) : (ofLevel level).Apart :=
  apart_getD_parse? _ (List.nodup_singleton _)

/-! ## The environment -/

/-- The environment's text without the blanks around it, unless it is all blank. -/
def environmentText? (environment : Option String) : Option String :=
  (environment.map Text.trim).filter fun text => !text.isEmpty

theorem effective_of_none {environment : Option String}
    (hnone : environmentText? environment = none) (level : String) :
    effective level environment = ofLevel level := by
  unfold environmentText? at hnone
  simp only [effective, hnone]

theorem effective_of_some {environment : Option String} {text : String}
    (hsome : environmentText? environment = some text) (level : String) :
    effective level environment =
      (parse? (normalizeLevel level ++ "," ++ text)).getD ((parse? text).getD (ofLevel level)) := by
  unfold environmentText? at hsome
  simp only [effective, hsome]
  cases parse? (normalizeLevel level ++ "," ++ text) <;> rfl

theorem apart_effective (level : String) (environment : Option String) :
    (effective level environment).Apart := by
  cases htext : environmentText? environment with
  | none =>
      rw [effective_of_none htext]
      exact apart_ofLevel level
  | some text =>
      rw [effective_of_some htext]
      exact apart_getD_parse? _ (apart_getD_parse? _ (apart_ofLevel level))

/-! ## Levels -/

/-- The names of levels, and what they are written as. -/
def levelNames : List (String × String) :=
  [("trace", "trace"), ("debug", "debug"), ("info", "info"), ("warn", "warn"), ("warning", "warn"),
    ("error", "error")]

theorem trimChars_eq_nil_iff {chars : List Char} :
    Text.trimChars chars = [] ↔ ∀ c ∈ chars, Text.isBlank c = true := by
  rw [Text.trimChars, Text.dropEndWhile, List.reverse_eq_nil_iff, List.dropWhile_eq_nil_iff]
  constructor
  · intro hrest
    by_contra hchars
    have hne : chars.dropWhile Text.isBlank ≠ [] := mt List.dropWhile_eq_nil_iff.mp hchars
    have hfirst := hrest _ (List.mem_reverse.mpr (List.head_mem hne))
    rw [List.head_dropWhile_not Text.isBlank hne] at hfirst
    exact nomatch hfirst
  · intro hblank c hc
    rw [List.dropWhile_eq_nil_iff.mpr hblank] at hc
    exact nomatch hc

theorem isEmpty_trim_iff {text : String} :
    (Text.trim text).isEmpty = true ↔ ∀ c ∈ text.toList, Text.isBlank c = true := by
  rw [String.isEmpty_iff, Text.trim, ← trimChars_eq_nil_iff, ← String.toList_eq_nil_iff,
    String.toList_ofList]

theorem normalizeLevel_of_blank {level : String}
    (hblank : ∀ c ∈ level.toList, Text.isBlank c = true) : normalizeLevel level = "info" := by
  rw [normalizeLevel, if_pos (isEmpty_trim_iff.mpr hblank)]

theorem normalizeLevel_of_name {level : String} {names : String × String}
    (hnames : names ∈ levelNames) (hname : asciiLower (Text.trim level) = names.1) :
    normalizeLevel level = names.2 := by
  have hempty : ¬(Text.trim level).isEmpty = true := by
    intro hempty
    rw [String.isEmpty_iff.mp hempty] at hname
    fin_cases hnames <;> exact absurd hname (by decide)
  rw [normalizeLevel, if_neg hempty, hname]
  fin_cases hnames <;> rfl

theorem normalizeLevel_of_other {level : String}
    (hseen : ∃ c ∈ level.toList, ¬Text.isBlank c = true)
    (hother : asciiLower (Text.trim level) ∉ levelNames.map (·.1)) :
    normalizeLevel level = Text.trim level := by
  have hempty : ¬(Text.trim level).isEmpty = true := by
    rw [isEmpty_trim_iff]
    push Not
    exact hseen
  simp only [levelNames, List.map_cons, List.map_nil, List.mem_cons, List.not_mem_nil, or_false,
    not_or] at hother
  rw [normalizeLevel, if_neg hempty]
  split <;> simp_all

/-! ## What the filter says -/

/-- With both texts understood, a target has what the environment says of it, and else what the
level says. -/
theorem assigned?_effective {level : String} {environment : Option String} {own base : LogFilter}
    (hown : (environmentText? environment).bind parse? = some own)
    (hbase : parse? (normalizeLevel level) = some base) (target : LogTarget) :
    assigned? target (effective level environment) =
      (assigned? target own).or (assigned? target base) := by
  obtain ⟨text, htext, hparsed⟩ := Option.bind_eq_some_iff.mp hown
  rw [parse?_eq] at hparsed hbase
  obtain ⟨later, hlater, rfl⟩ := Option.map_eq_some_iff.mp hparsed
  obtain ⟨earlier, hearlier, rfl⟩ := Option.map_eq_some_iff.mp hbase
  have hboth : parse? (normalizeLevel level ++ "," ++ text) =
      some ((earlier ++ later).foldl add []) := by
    rw [parse?_append, hearlier, hlater, Option.bind_some, Option.map_some]
  rw [effective_of_some htext, hboth, Option.getD_some]
  simp only [assigned?_foldl_add, lastThreshold?_append, Option.or_assoc]
  rfl

theorem effective_of_own {level : String} {environment : Option String} {own : LogFilter}
    (hown : (environmentText? environment).bind parse? = some own)
    (hbase : parse? (normalizeLevel level) = none) : effective level environment = own := by
  obtain ⟨text, htext, hparsed⟩ := Option.bind_eq_some_iff.mp hown
  have hboth : parse? (normalizeLevel level ++ "," ++ text) = none := by
    rw [parse?_append, parse?_eq_none_iff.mp hbase, Option.bind_none]
  rw [effective_of_some htext, hboth, hparsed, Option.getD_none, Option.getD_some]

theorem effective_of_level {environment : Option String}
    (hown : (environmentText? environment).bind parse? = none) (level : String) :
    effective level environment = ofLevel level := by
  cases htext : environmentText? environment with
  | none => exact effective_of_none htext level
  | some text =>
      rw [htext, Option.bind_some] at hown
      have hboth : parse? (normalizeLevel level ++ "," ++ text) = none := by
        rw [parse?_append, parse?_eq_none_iff.mp hown]
        cases directives? (normalizeLevel level) <;> rfl
      rw [effective_of_some htext, hboth, hown, Option.getD_none, Option.getD_none]

/-- The filter in force, for any level and environment: the environment's directives over those of
the level, or whichever of the two can be understood, or the standard one. -/
theorem environment_over_level (level : String) (environment : Option String) :
    (∀ own base, (environmentText? environment).bind parse? = some own →
      parse? (normalizeLevel level) = some base → ∀ target,
        assigned? target (effective level environment) =
          (assigned? target own).or (assigned? target base)) ∧
    (∀ own, (environmentText? environment).bind parse? = some own →
      parse? (normalizeLevel level) = none → effective level environment = own) ∧
    ((environmentText? environment).bind parse? = none →
      effective level environment = (parse? (normalizeLevel level)).getD standard) ∧
    (effective level environment).Apart ∧
    ((∀ c ∈ level.toList, Text.isBlank c = true) → normalizeLevel level = "info") ∧
    (∀ names ∈ levelNames, asciiLower (Text.trim level) = names.1 →
      normalizeLevel level = names.2) ∧
    ((∃ c ∈ level.toList, ¬Text.isBlank c = true) →
      asciiLower (Text.trim level) ∉ levelNames.map (·.1) →
        normalizeLevel level = Text.trim level) :=
  ⟨fun _ _ hown hbase => assigned?_effective hown hbase,
    fun _ hown hbase => effective_of_own hown hbase,
    fun hown => effective_of_level hown level,
    apart_effective level environment,
    normalizeLevel_of_blank,
    fun _ hnames hname => normalizeLevel_of_name hnames hname,
    normalizeLevel_of_other⟩

/-- The environment changes the level of one target and adds one for spans; the default stays. -/
theorem environment_over_level_merged :
    assigned? { name := some "mta" } (effective "mta=info,Warn" (some " mta=,[call] ")) =
        some (some .trace) ∧
      assigned? { span := some "call" } (effective "mta=info,Warn" (some " mta=,[call] ")) =
        some (some .trace) ∧
      assigned? {} (effective "mta=info,Warn" (some " mta=,[call] ")) = some (some .warn) ∧
      effective " Warning " (some "mta=loud") = [{ target := {}, threshold := some .warn }] := by
  obtain ⟨hmerged, -, -, -⟩ := environment_over_level "mta=info,Warn" (some " mta=,[call] ")
  have hassigned := hmerged
    [{ target := { name := some "mta" }, threshold := some .trace },
      { target := { span := some "call" }, threshold := some .trace }]
    [{ target := { name := some "mta" }, threshold := some .info },
      { target := {}, threshold := some .warn }]
    (by decide +kernel) (by decide +kernel)
  obtain ⟨-, -, hlevel, -⟩ := environment_over_level " Warning " (some "mta=loud")
  have hfallback := hlevel (by decide +kernel)
  refine ⟨?_, ?_, ?_, ?_⟩
  · exact (hassigned _).trans (by decide)
  · exact (hassigned _).trans (by decide)
  · exact (hassigned _).trans (by decide)
  · exact hfallback.trans (by decide +kernel)

end DebugBridge.LogFilter
