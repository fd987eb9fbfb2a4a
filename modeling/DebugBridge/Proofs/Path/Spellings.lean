import DebugBridge.Proofs.Path.Resource
import Mathlib.Logic.Relation

/-!
# Spellings of a path

What a path comes to in lower case does not depend on how it is spelled: which slashes separate its
segments and how many of them, whether a segment in between stays in place, and the case of ASCII
letters.
-/

namespace DebugBridge.Path

open Text

/-- One difference between two spellings of a path. -/
inductive Respelled : List Char → List Char → Prop
  | separator (front rest : List Char) : Respelled (front ++ '\\' :: rest) (front ++ '/' :: rest)
  | repeated (front rest : List Char) :
      Respelled (front ++ '/' :: '/' :: rest) (front ++ '/' :: rest)
  | dot (front rest : List Char) :
      Respelled (front ++ '/' :: '.' :: '/' :: rest) (front ++ '/' :: rest)
  | letterCase {path other : List Char}
      (hcase : path.map Char.toLower = other.map Char.toLower) : Respelled path other

/-! ## Characters that do not matter -/

/-- The characters that segments and their resolution depend on. -/
def isMark (c : Char) : Bool := c == '/' || c == '\\' || c == '.' || c == ':'

/-- A change of characters that segments and their resolution do not depend on. -/
structure KeepsShape (f : Char → Char) : Prop where
  mark : ∀ c, f c = c ∨ isMark (f c) = false ∧ isMark c = false
  letter : ∀ c, isLetter (f c) = isLetter c

theorem keepsShape_toLower : KeepsShape Char.toLower where
  mark := toLower_forall (p := fun d c => d = c ∨ isMark d = false ∧ isMark c = false)
    (fun _ => .inl rfl) (by decide)
  letter := toLower_forall (p := fun d c => isLetter d = isLetter c) (fun _ => rfl) (by decide)

section Spellings

variable {f : Char → Char} {path other : List Char}

theorem KeepsShape.eq_mark_iff (hf : KeepsShape f) {d : Char} (hd : isMark d = true) (c : Char) :
    f c = d ↔ c = d := by
  rcases hf.mark c with hsame | ⟨hchanged, hplain⟩
  · rw [hsame]
  · refine iff_of_false ?_ ?_
    · rintro rfl
      exact Bool.false_ne_true (hchanged.symm.trans hd)
    · rintro rfl
      exact Bool.false_ne_true (hplain.symm.trans hd)

theorem KeepsShape.slash (hf : KeepsShape f) (c : Char) : f c = '/' ↔ c = '/' :=
  hf.eq_mark_iff rfl c

theorem KeepsShape.beq_slash (hf : KeepsShape f) (c : Char) : (f c == '/') = (c == '/') := by
  rw [Bool.eq_iff_iff, beq_iff_eq, beq_iff_eq, hf.slash]

/-- A text of marks is the image of itself alone. -/
theorem KeepsShape.map_eq_iff (hf : KeepsShape f) {marks : List Char}
    (hmarks : marks.all isMark = true) (segment : List Char) :
    segment.map f = marks ↔ segment = marks := by
  induction marks generalizing segment with
  | nil => exact List.map_eq_nil_iff
  | cons d marks ih =>
      rw [List.all_cons, Bool.and_eq_true] at hmarks
      cases segment with
      | nil => simp
      | cons c segment =>
          rw [List.map_cons, List.cons.injEq, List.cons.injEq, hf.eq_mark_iff hmarks.1,
            ih hmarks.2]

theorem splitSlashes_map (hf : KeepsShape f) (path : List Char) :
    splitSlashes (path.map f) = (splitSlashes path).map (List.map f) := by
  induction path with
  | nil => rfl
  | cons c rest ih =>
      obtain ⟨segment, segments, hsplit⟩ := List.exists_cons_of_ne_nil (splitSlashes_ne_nil rest)
      rw [hsplit] at ih
      simp only [List.map_cons, splitSlashes, hf.slash, ih, hsplit]
      split <;> rfl

theorem joinSlashes_map (hf : KeepsShape f) (segments : List (List Char)) :
    joinSlashes (segments.map (List.map f)) = (joinSlashes segments).map f := by
  have hslash : f '/' = '/' := (hf.slash '/').mpr rfl
  induction segments with
  | nil => rfl
  | cons segment segments ih =>
      cases segments with
      | nil => rfl
      | cons next segments =>
          simp only [List.map_cons, joinSlashes, List.map_append, hslash] at ih ⊢
          rw [ih]

theorem isDriveName_map (hf : KeepsShape f) (segment : List Char) :
    isDriveName (segment.map f) = isDriveName segment := by
  have hcolon : ∀ c, f c = ':' ↔ c = ':' := hf.eq_mark_iff rfl
  match segment with
  | [] => rfl
  | [c] => rfl
  | [c, d] =>
      by_cases hd : d = ':'
      · subst hd
        have hfixed : f ':' = ':' := (hcolon ':').mpr rfl
        rw [List.map_cons, List.map_cons, List.map_nil, hfixed]
        exact hf.letter c
      · have hmapped : f d ≠ ':' := mt (hcolon d).mp hd
        rw [List.map_cons, List.map_cons, List.map_nil, isDriveName, isDriveName]
        · simpa using hd
        · simpa using hmapped
  | _ :: _ :: _ :: _ => simp [isDriveName]

theorem resolveSegment_map (hf : KeepsShape f) (absolute : Bool) (kept : List (List Char))
    (segment : List Char) :
    resolveSegment absolute (kept.map (List.map f)) (segment.map f) =
      (resolveSegment absolute kept segment).map (List.map f) := by
  have hself : ∀ segment, segment.map f = ['.'] ↔ segment = ['.'] := hf.map_eq_iff rfl
  have hup : ∀ segment, segment.map f = ['.', '.'] ↔ segment = ['.', '.'] := hf.map_eq_iff rfl
  unfold resolveSegment
  simp only [List.map_eq_nil_iff, hself, hup]
  split
  · rfl
  · split
    · cases kept with
      | nil => cases absolute <;> rfl
      | cons last before =>
          simp only [List.map_cons, isDriveName_map hf, hup]
          split
          · rfl
          · split
            · cases absolute <;> rfl
            · rfl
    · rfl

theorem resolve_map (hf : KeepsShape f) (absolute : Bool) (segments : List (List Char)) :
    resolve absolute (segments.map (List.map f)) =
      (resolve absolute segments).map (List.map f) := by
  have hfold : ∀ kept : List (List Char),
      (segments.map (List.map f)).foldl (resolveSegment absolute) (kept.map (List.map f)) =
        (segments.foldl (resolveSegment absolute) kept).map (List.map f) := by
    induction segments with
    | nil => exact fun _ => rfl
    | cons segment segments ih =>
        intro kept
        rw [List.map_cons, List.foldl_cons, List.foldl_cons, resolveSegment_map hf, ih]
  have hall := hfold []
  rw [List.map_nil] at hall
  rw [resolve, resolve, hall, List.map_reverse]

theorem unifySlashes_map (hf : KeepsShape f) (path : List Char) :
    unifySlashes (path.map f) = (unifySlashes path).map f := by
  have hslash : f '/' = '/' := (hf.slash '/').mpr rfl
  have hback : ∀ c, f c = '\\' ↔ c = '\\' := hf.eq_mark_iff rfl
  rw [unifySlashes, unifySlashes, List.map_map, List.map_map]
  refine List.map_congr_left fun c _ => ?_
  simp only [Function.comp_apply, hback]
  split
  · exact hslash.symm
  · rfl

theorem isAbsolute_map (hf : KeepsShape f) (path : List Char) :
    isAbsolute (path.map f) = isAbsolute path := by
  cases path with
  | nil => rfl
  | cons c rest => simp [isAbsolute, hf.beq_slash]

theorem endsInSlash_map (hf : KeepsShape f) (path : List Char) :
    endsInSlash (path.map f) = endsInSlash path := by
  unfold endsInSlash
  rw [List.getLast?_map]
  cases path.getLast? with
  | none => rfl
  | some c => simp [hf.beq_slash]

/-- The normal form changes in its characters only. -/
theorem normalChars_map (hf : KeepsShape f) (path : List Char) :
    normalChars (path.map f) = (normalChars path).map f := by
  have hslash : f '/' = '/' := (hf.slash '/').mpr rfl
  have hrooted : ∀ absolute segments, rooted absolute (segments.map (List.map f)) =
      (rooted absolute segments).map f := by
    intro absolute segments
    cases absolute with
    | true => rw [rooted, rooted, if_pos rfl, if_pos rfl, joinSlashes_map hf, List.map_cons, hslash]
    | false => exact joinSlashes_map hf segments
  have hclosed : ∀ path : List Char, closed (path.map f) = (closed path).map f := by
    intro path
    rw [closed, closed, endsInSlash_map hf]
    split
    · rfl
    · rw [List.map_append, List.map_cons, hslash, List.map_nil]
  rw [normalChars_eq, normalChars_eq, unifySlashes_map hf, isAbsolute_map hf, splitSlashes_map hf,
    resolve_map hf, endsInSlash_map hf, List.length_map, hrooted, hclosed]
  split <;> rfl

/-! ## One normal form -/

/-- Spellings of one path have one normal form in lower case. -/
theorem Respelled.lower (hrespelled : Respelled path other) :
    lowerAfter [] (normalChars path) = lowerAfter [] (normalChars other) := by
  cases hrespelled with
  | separator front rest =>
      have hunified :
          unifySlashes (front ++ '\\' :: rest) = unifySlashes (front ++ '/' :: rest) := by
        simp [unifySlashes]
      rw [normalChars_congr hunified]
  | repeated front rest => rw [normalChars_slash_slash]
  | dot front rest =>
      have hdot := normalChars_slash_stay (.inr rfl) front rest
      exact congrArg (lowerAfter []) hdot
  | letterCase hcase =>
      have hlower : ∀ path : List Char,
          lowerAfter [] (normalChars (path.map Char.toLower)) =
            lowerAfter [] (normalChars path) := by
        intro path
        rw [normalChars_map keepsShape_toLower]
        exact lowerAfter_map_toLower [] (normalChars path)
      rw [← hlower path, hcase, hlower other]

theorem lower_of_spellings (hspellings : Relation.EqvGen Respelled path other) :
    lowerAfter [] (normalChars path) = lowerAfter [] (normalChars other) := by
  induction hspellings with
  | rel path other hrespelled => exact hrespelled.lower
  | refl path => rfl
  | symm path other _ ih => exact ih.symm
  | trans path middle other _ _ hfirst hsecond => exact hfirst.trans hsecond

end Spellings

end DebugBridge.Path
