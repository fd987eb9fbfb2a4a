import DebugBridge.Proofs.Url.RoundTrip
import Mathlib.Data.List.DropRight

/-!
# Below a URL

What is resolved against a URL of the web with exactly one slash at its end goes below its path.
Slashes at the end of a URL are empty segments at the end of its path, so that the URL with one of
them is the same whichever way it is come by.
-/

namespace DebugBridge.Url

/-! ## Slashes at the end -/

/-- What ends in front of the items that are dropped is kept whole. -/
theorem rdropWhile_append {α : Type} {drops : α → Bool} {front : List α}
    (hfront : front.rdropWhile drops = front) (behind : List α) :
    (front ++ behind).rdropWhile drops = front ++ behind.rdropWhile drops := by
  induction behind using List.reverseRecOn with
  | nil => rw [List.rdropWhile_nil, List.append_nil, hfront]
  | append_singleton behind last ih =>
      rw [← List.append_assoc]
      by_cases hlast : drops last = true
      · rw [List.rdropWhile_concat_pos _ _ _ hlast, List.rdropWhile_concat_pos _ _ _ hlast, ih]
      · rw [List.rdropWhile_concat_neg _ _ _ hlast, List.rdropWhile_concat_neg _ _ _ hlast,
          List.append_assoc]

theorem segmentsText_append (front behind : List (List Char)) :
    segmentsText (front ++ behind) = segmentsText front ++ segmentsText behind :=
  List.flatMap_append

theorem segmentsText_replicate (count : Nat) :
    segmentsText (List.replicate count []) = List.replicate count '/' := by
  induction count with
  | zero => rfl
  | succ count ih =>
      rw [List.replicate_succ, List.replicate_succ, ← ih]
      rfl

/-- Slashes at the end of a path are empty segments. -/
theorem rdropWhile_segmentsText {segments : List (List Char)}
    (hwhole : ∀ segment ∈ segments, ∀ c ∈ segment, isSegmentEnd true c = false) :
    (segmentsText segments).rdropWhile (· == '/') =
      segmentsText (segments.rdropWhile List.isEmpty) := by
  -- From the end: the last segment is a slash of its own, or ends in something else.
  induction segments using List.reverseRecOn with
  | nil => rfl
  | append_singleton front last ih =>
      rw [segmentsText_append]
      obtain ⟨hfront, hlast⟩ := List.forall_mem_append.mp hwhole
      cases last using List.reverseRecOn with
      | nil =>
          rw [List.rdropWhile_concat_pos _ _ _ rfl, ← ih hfront]
          exact List.rdropWhile_concat_pos _ _ _ rfl
      | append_singleton start c =>
          have hend := hlast _ (List.mem_singleton_self _) c (by simp)
          have hc : (c == '/') ≠ true := Bool.eq_false_iff.mp (Bool.or_eq_false_iff.mp hend).1
          have htext : segmentsText [start ++ [c]] = '/' :: start ++ [c] := by
            simp [segmentsText]
          rw [List.rdropWhile_concat_neg List.isEmpty _ _ (by simp), segmentsText_append, htext,
            ← List.append_assoc, List.rdropWhile_concat_neg (· == '/') _ _ hc]

section Web

variable {scheme : String} {authority : Authority} {segments : List (List Char)}

theorem rdropWhile_frontText (hauthority : SettledAuthority scheme authority) :
    (frontText scheme authority).rdropWhile (· == '/') = frontText scheme authority := by
  have hsome := text_ne_nil hauthority
  have hsplit : frontText scheme authority =
      (scheme.toList ++ [':', '/', '/']) ++ authority.text := by
    rw [List.append_assoc]
    rfl
  refine List.rdropWhile_eq_self_iff.mpr fun hfront => ?_
  simp only [hsplit, List.getLast_append_of_right_ne_nil _ _ hsome]
  rcases plain_authority hauthority _ (List.getLast_mem hsome) with hat | hplain
  · rw [hat]
    decide
  · intro hslash
    exact hplain.2 (eq_of_beq hslash ▸ by decide)

variable (hsettled : SettledWeb scheme authority segments)
include hsettled

theorem rdropWhile_chars :
    (ofSegments scheme authority segments).chars.rdropWhile (· == '/') =
      frontText scheme authority ++ segmentsText (segments.rdropWhile List.isEmpty) := by
  rw [chars_ofSegments, rdropWhile_append (rdropWhile_frontText hsettled.authority),
    rdropWhile_segmentsText fun segment hsegment => (hsettled.segments segment hsegment).whole]

/-- The segments with any number of empty ones at the end. -/
theorem settledWeb_replicate {count : Nat}
    (hsome : segments.rdropWhile List.isEmpty ++ List.replicate count [] ≠ []) :
    SettledWeb scheme authority
      (segments.rdropWhile List.isEmpty ++ List.replicate count []) where
  web := hsettled.web
  authority := hsettled.authority
  some := hsome
  segments := by
    refine List.forall_mem_append.mpr ⟨fun segment hsegment => ?_, fun segment hsegment => ?_⟩
    · exact hsettled.segments segment ((List.rdropWhile_prefix _ _).subset hsegment)
    · rw [List.eq_of_mem_replicate hsegment]
      exact settledSegment_nil

/-- Slashes that are put at the end are read as empty segments. -/
theorem parseChars_slashes (count : Nat)
    (hsome : segments.rdropWhile List.isEmpty ++ List.replicate count [] ≠ []) :
    parseChars ((ofSegments scheme authority segments).chars.rdropWhile (· == '/') ++
        List.replicate count '/') =
      .ok (ofSegments scheme authority
        (segments.rdropWhile List.isEmpty ++ List.replicate count [])) := by
  rw [← parseChars_chars (settledWeb_replicate hsettled hsome), rdropWhile_chars hsettled,
    chars_ofSegments, segmentsText_append, segmentsText_replicate, List.append_assoc]

/-- Without a path there is one empty segment. -/
theorem parseChars_frontText :
    parseChars (frontText scheme authority) = .ok (ofSegments scheme authority [[]]) := by
  have hnone : afterAuthority scheme authority [] = afterAuthority scheme authority ['/'] := by
    unfold afterAuthority
    rw [hsettled.web.special]
    rfl
  have hone : SettledWeb scheme authority [[]] :=
    ⟨hsettled.web, hsettled.authority, List.cons_ne_nil _ _,
      List.forall_mem_singleton.mpr settledSegment_nil⟩
  have hread := parseChars_authority hsettled.web hsettled.authority []
    (fun c hc => by cases hc) (List.forall_mem_nil _)
  rw [List.append_nil, hnone] at hread
  rw [hread, ← afterAuthority_segmentsText hone]
  rfl

/-- However many slashes are at the end, the segments in front of them are the same. -/
theorem exists_parseChars_slashes (count : Nat) :
    ∃ others, SettledWeb scheme authority others ∧
      others.rdropWhile List.isEmpty = segments.rdropWhile List.isEmpty ∧
      parseChars ((ofSegments scheme authority segments).chars.rdropWhile (· == '/') ++
          List.replicate count '/') =
        .ok (ofSegments scheme authority others) := by
  by_cases hsome : segments.rdropWhile List.isEmpty ++ List.replicate count [] = []
  · obtain ⟨hnone, hzero⟩ := List.append_eq_nil_iff.mp hsome
    refine ⟨[[]], ⟨hsettled.web, hsettled.authority, List.cons_ne_nil _ _,
      List.forall_mem_singleton.mpr settledSegment_nil⟩, hnone.symm, ?_⟩
    rw [rdropWhile_chars hsettled, hnone, ← segmentsText_replicate, hzero]
    change parseChars (frontText scheme authority ++ [] ++ []) = _
    rw [List.append_nil, List.append_nil, parseChars_frontText hsettled]
  · have hempty : (List.replicate count ([] : List Char)).rdropWhile List.isEmpty = [] := by
      refine List.rdropWhile_eq_nil_iff.mpr fun segment hsegment => ?_
      rw [List.eq_of_mem_replicate hsegment]
      rfl
    refine ⟨_, settledWeb_replicate hsettled hsome, ?_, parseChars_slashes hsettled count hsome⟩
    rw [rdropWhile_append (List.rdropWhile_idempotent _ _), hempty, List.append_nil]

end Web

/-! ## Directories -/

section Directories

variable {scheme : String} {authority : Authority} {segments : List (List Char)}

theorem asDirectory_ofSegments (hweb : IsWeb scheme) :
    (ofSegments scheme authority segments).asDirectory =
      .ok (ofSegments scheme authority (closeSegments segments)) := by
  change (if isSpecial scheme then _ else _) = _
  rw [if_pos hweb.special]
  rfl

/-- The slash may be put behind the text of the URL, for that to be read anew, as well. -/
theorem reread_ofSegments (hsettled : SettledWeb scheme authority segments) :
    asDirectory.reread (ofSegments scheme authority segments) =
      .ok (ofSegments scheme authority (closeSegments segments)) :=
  parseChars_slashes hsettled 1 (List.append_ne_nil_of_right_ne_nil _ (by simp))

/-- Settled segments take the place of the empty one at the end. -/
theorem join_ofSegments (hweb : IsWeb scheme) (before : List (List Char)) {first : List Char}
    {others : List (List Char)} (hsettled : ∀ segment ∈ first :: others, SettledSegment segment) :
    (ofSegments scheme authority (before ++ [[]])).join (first ++ segmentsText others) =
      .ok (ofSegments scheme authority (before ++ first :: others)) := by
  have htext : ∀ c ∈ first ++ segmentsText others, 0x20 < c.toNat ∧ startsTail c = false :=
    fun c hc => plain_segmentsText hsettled c (List.mem_cons_of_mem _ hc)
  have hpath : (first ++ segmentsText others).takeWhile (fun c => !startsTail c) =
      first ++ segmentsText others :=
    List.takeWhile_eq_self_iff.mpr fun c hc => by rw [(htext c hc).2]; rfl
  have hbefore : (shorten (scheme == "file") (before ++ [[]]).reverse).reverse = before := by
    rw [hweb.notFile, List.reverse_append]
    exact List.reverse_reverse before
  unfold join ofSegments
  dsimp only
  rw [clean_of_plain fun c hc => (htext c hc).1, hpath, hbefore,
    resolvePath_segmentsText hweb before hsettled, List.drop_length]
  rfl

end Directories

end DebugBridge.Url
