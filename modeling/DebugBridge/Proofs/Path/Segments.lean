import DebugBridge.Path.Normal
import Mathlib.Data.List.Basic

/-!
# Segments of a path

A path and its segments tell the same.  The segments of a normal form are names, behind steps up
where the path is relative, and nothing may follow the last slash.
-/

namespace DebugBridge.Path

/-! ## Splitting and joining -/

section Split

variable {front rest : List Char}

theorem splitSlashes_ne_nil (path : List Char) : splitSlashes path ≠ [] := by
  cases path with
  | nil => simp [splitSlashes]
  | cons c rest =>
      rw [splitSlashes]
      split
      · simp
      · split <;> simp

theorem splitSlashes_append_slash (front rest : List Char) :
    splitSlashes (front ++ '/' :: rest) = splitSlashes front ++ splitSlashes rest := by
  induction front with
  | nil => simp [splitSlashes]
  | cons c front ih =>
      by_cases hslash : c = '/'
      · simp [splitSlashes, hslash, ih]
      · obtain ⟨segment, segments, hsplit⟩ := List.exists_cons_of_ne_nil (splitSlashes_ne_nil front)
        simp [splitSlashes, hslash, ih, hsplit]

theorem splitSlashes_of_not_mem {segment : List Char} (hslash : '/' ∉ segment) :
    splitSlashes segment = [segment] := by
  induction segment with
  | nil => rfl
  | cons c rest ih =>
      obtain ⟨hc, hrest⟩ := not_or.mp (mt List.mem_cons.mpr hslash)
      rw [splitSlashes, if_neg (Ne.symm hc), ih hrest]

theorem joinSlashes_splitSlashes (path : List Char) : joinSlashes (splitSlashes path) = path := by
  induction path with
  | nil => rfl
  | cons c rest ih =>
      obtain ⟨segment, segments, hsplit⟩ := List.exists_cons_of_ne_nil (splitSlashes_ne_nil rest)
      rw [hsplit] at ih
      rw [splitSlashes, hsplit]
      by_cases hslash : c = '/'
      · rw [if_pos hslash, joinSlashes, ih, hslash, List.nil_append]
        simp
      · rw [if_neg hslash]
        cases segments with
        | nil => exact congrArg (c :: ·) ih
        | cons next segments => exact congrArg (c :: ·) ih

theorem mem_of_mem_splitSlashes {path segment : List Char}
    (hsegment : segment ∈ splitSlashes path) :
    '/' ∉ segment ∧ ∀ c ∈ segment, c ∈ path := by
  induction path generalizing segment with
  | nil =>
      obtain rfl : segment = [] := by simpa [splitSlashes] using hsegment
      simp
  | cons c rest ih =>
      obtain ⟨first, others, hsplit⟩ := List.exists_cons_of_ne_nil (splitSlashes_ne_nil rest)
      rw [hsplit] at ih
      rw [splitSlashes, hsplit] at hsegment
      have hold : ∀ segment ∈ first :: others,
          '/' ∉ segment ∧ ∀ d ∈ segment, d ∈ c :: rest := by
        intro segment hsegment
        obtain ⟨hslash, hchars⟩ := ih hsegment
        exact ⟨hslash, fun d hd => List.mem_cons_of_mem c (hchars d hd)⟩
      split at hsegment
      · rcases List.mem_cons.mp hsegment with rfl | hsegment
        · simp
        · exact hold segment hsegment
      · next hslash =>
          rcases List.mem_cons.mp hsegment with rfl | hsegment
          · obtain ⟨hfirst, hchars⟩ := hold first List.mem_cons_self
            refine ⟨?_, ?_⟩
            · simp [Ne.symm hslash, hfirst]
            · intro d hd
              rcases List.mem_cons.mp hd with rfl | hd
              · exact List.mem_cons_self
              · exact hchars d hd
          · exact hold segment (List.mem_cons_of_mem _ hsegment)

end Split

/-! ## Directories -/

/-- Segments that are all directories. -/
def spellAll (segments : List (List Char)) : List Char := segments.flatMap fun segment =>
  segment ++ ['/']

/-- The directory with these segments. -/
def spell (absolute : Bool) (segments : List (List Char)) : List Char :=
  (if absolute then ['/'] else []) ++ spellAll segments

/-- The path with these segments. -/
def rooted (absolute : Bool) (segments : List (List Char)) : List Char :=
  if absolute then '/' :: joinSlashes segments else joinSlashes segments

section Spell

variable {absolute : Bool} {segments others : List (List Char)}

theorem spellAll_append (segments others : List (List Char)) :
    spellAll (segments ++ others) = spellAll segments ++ spellAll others :=
  List.flatMap_append

theorem joinSlashes_append (segments : List (List Char)) (hothers : others ≠ []) :
    joinSlashes (segments ++ others) = spellAll segments ++ joinSlashes others := by
  induction segments with
  | nil => rfl
  | cons segment segments ih =>
      have hne : segments ++ others ≠ [] := List.append_ne_nil_of_right_ne_nil _ hothers
      obtain ⟨next, rest, hcons⟩ := List.exists_cons_of_ne_nil hne
      rw [List.cons_append, hcons, joinSlashes, ← hcons, ih]
      · simp [spellAll]
      · simp

/-- Behind directories, the rest of a path is split on its own. -/
theorem splitSlashes_spellAll (hslash : ∀ segment ∈ segments, '/' ∉ segment) (rest : List Char) :
    splitSlashes (spellAll segments ++ rest) = segments ++ splitSlashes rest := by
  induction segments with
  | nil => rfl
  | cons segment segments ih =>
      have hspell : spellAll (segment :: segments) ++ rest =
          segment ++ '/' :: (spellAll segments ++ rest) := by simp [spellAll]
      rw [hspell, splitSlashes_append_slash, splitSlashes_of_not_mem (hslash _ List.mem_cons_self),
        ih fun other hother => hslash other (List.mem_cons_of_mem _ hother)]
      rfl

theorem splitSlashes_joinSlashes (hslash : ∀ segment ∈ segments, '/' ∉ segment)
    (hne : segments ≠ []) : splitSlashes (joinSlashes segments) = segments := by
  obtain ⟨front, last, rfl⟩ : ∃ front last, segments = front ++ [last] :=
    ⟨_, _, (List.dropLast_concat_getLast hne).symm⟩
  rw [joinSlashes_append front (List.cons_ne_nil last []), joinSlashes,
    splitSlashes_spellAll fun segment hsegment => hslash segment (List.mem_append_left _ hsegment),
    splitSlashes_of_not_mem (hslash last (List.mem_append_right _ List.mem_cons_self))]

/-- A path of directories and a path below them is that path, spelled. -/
theorem rooted_append (absolute : Bool) (segments : List (List Char)) (hothers : others ≠ []) :
    rooted absolute (segments ++ others) = spell absolute segments ++ joinSlashes others := by
  unfold rooted spell
  rw [joinSlashes_append segments hothers]
  cases absolute <;> rfl

theorem endsInSlash_append_slash (path : List Char) : endsInSlash (path ++ ['/']) = true := by
  simp [endsInSlash]

theorem endsInSlash_append {front rest : List Char} (hrest : rest ≠ []) :
    endsInSlash (front ++ rest) = endsInSlash rest := by
  rw [endsInSlash, endsInSlash, List.getLast?_append_of_ne_nil _ hrest]

theorem endsInSlash_of_not_mem {segment : List Char} (hslash : '/' ∉ segment) :
    endsInSlash segment = false := by
  rw [endsInSlash, beq_eq_false_iff_ne]
  intro hlast
  exact hslash (List.mem_of_getLast? hlast)

theorem endsInSlash_joinSlashes (hslash : ∀ segment ∈ segments, '/' ∉ segment)
    (hnil : ∀ segment ∈ segments, segment ≠ []) : endsInSlash (joinSlashes segments) = false := by
  rcases List.eq_nil_or_concat segments with rfl | ⟨front, last, rfl⟩
  · rfl
  · rw [List.concat_eq_append] at *
    have hlast : last ∈ front ++ [last] := List.mem_append_right _ List.mem_cons_self
    rw [joinSlashes_append front (List.cons_ne_nil last []), joinSlashes,
      endsInSlash_append (hnil last hlast), endsInSlash_of_not_mem (hslash last hlast)]

theorem rooted_ne_nil (hnil : ∀ segment ∈ segments, segment ≠ [])
    (hsome : absolute = true ∨ segments ≠ []) : rooted absolute segments ≠ [] := by
  rcases List.eq_nil_or_concat segments with rfl | ⟨front, last, rfl⟩
  · obtain rfl := hsome.resolve_right (fun hne => hne rfl)
    exact List.cons_ne_nil _ _
  · rw [List.concat_eq_append] at *
    have hlast : last ≠ [] := hnil last (List.mem_append_right _ List.mem_cons_self)
    rw [rooted_append absolute front (List.cons_ne_nil last [])]
    exact List.append_ne_nil_of_right_ne_nil _ hlast

theorem closed_append (front : List Char) {rest : List Char} (hrest : rest ≠ []) :
    closed (front ++ rest) = front ++ closed rest := by
  rw [closed, closed, endsInSlash_append hrest]
  split
  · rfl
  · rw [List.append_assoc]

/-- Closing a path makes a directory of its last segment. -/
theorem closed_rooted (hslash : ∀ segment ∈ segments, '/' ∉ segment)
    (hnil : ∀ segment ∈ segments, segment ≠ []) (hsome : absolute = true ∨ segments ≠ []) :
    closed (rooted absolute segments) = spell absolute segments := by
  rcases List.eq_nil_or_concat segments with rfl | ⟨front, last, rfl⟩
  · obtain rfl := hsome.resolve_right (fun hne => hne rfl)
    rfl
  · rw [List.concat_eq_append] at *
    have hlast : last ∈ front ++ [last] := List.mem_append_right _ List.mem_cons_self
    have hopen : endsInSlash (rooted absolute (front ++ [last])) = false := by
      rw [rooted_append absolute front (List.cons_ne_nil last []), joinSlashes,
        endsInSlash_append (hnil last hlast), endsInSlash_of_not_mem (hslash last hlast)]
    rw [closed, if_neg (by simp [hopen]), rooted_append absolute front (List.cons_ne_nil last [])]
    simp [spell, spellAll, joinSlashes]

end Spell

end DebugBridge.Path
