import DebugBridge.Proofs.Path.RoundTrip

/-!
# Canonical paths

A normal form is the one way to write the place that a path leads to: segment after segment, with
nothing to resolve left in it.  It leads to where the path leads, with one exception.  A relative
path that comes to nothing and ends in a slash keeps the slash, and so becomes the root.
-/

namespace DebugBridge.Path

open ResourceDirectories (not_descends_slash)

/-! ## Where segments lead -/

/-- Behind the segments that are kept, further segments lead to a result.  They are taken from the
first to the last.  A step up takes back the name before it; it has no effect at a drive and at the
root, and it is kept where a relative path has no name to take back. -/
inductive LeadsTo (absolute : Bool) :
    (kept segments result : List (List Char)) → Prop
  | done {kept : List (List Char)} : LeadsTo absolute kept [] kept
  | stay {kept segments result : List (List Char)} {segment : List Char}
      (hsegment : segment = [] ∨ segment = ['.'])
      (hrest : LeadsTo absolute kept segments result) :
      LeadsTo absolute kept (segment :: segments) result
  | descend {kept segments result : List (List Char)} {segment : List Char}
      (hnil : segment ≠ []) (hself : segment ≠ ['.']) (hparent : segment ≠ parent)
      (hrest : LeadsTo absolute (kept ++ [segment]) segments result) :
      LeadsTo absolute kept (segment :: segments) result
  | leave {kept segments result : List (List Char)} {last : List Char}
      (hdrive : isDriveName last = false) (hlast : last ≠ parent)
      (hrest : LeadsTo absolute kept segments result) :
      LeadsTo absolute (kept ++ [last]) (parent :: segments) result
  | drive {kept segments result : List (List Char)} {last : List Char}
      (hdrive : isDriveName last = true)
      (hrest : LeadsTo absolute (kept ++ [last]) segments result) :
      LeadsTo absolute (kept ++ [last]) (parent :: segments) result
  | root {segments result : List (List Char)} (habsolute : absolute = true)
      (hrest : LeadsTo absolute [] segments result) :
      LeadsTo absolute [] (parent :: segments) result
  | climb {kept segments result : List (List Char)} (hrelative : absolute = false)
      (hkept : ∀ segment ∈ kept, segment = parent)
      (hrest : LeadsTo absolute (kept ++ [parent]) segments result) :
      LeadsTo absolute kept (parent :: segments) result

section LeadsTo

variable {absolute : Bool} {kept segments result : List (List Char)} {segment last : List Char}

theorem resolveSegment_leave (absolute : Bool) (before : List (List Char))
    (hdrive : isDriveName last = false) (hlast : last ≠ parent) :
    resolveSegment absolute (last :: before) parent = before := by
  have hname : last ≠ ['.', '.'] := hlast
  simp [resolveSegment, parent, hdrive, hname]

theorem resolveSegment_drive (absolute : Bool) (before : List (List Char))
    (hdrive : isDriveName last = true) :
    resolveSegment absolute (last :: before) parent = last :: before := by
  simp [resolveSegment, parent, hdrive]

/-- There is one result at most. -/
theorem LeadsTo.foldl_eq (hleads : LeadsTo absolute kept segments result) :
    segments.foldl (resolveSegment absolute) kept.reverse = result.reverse := by
  induction hleads with
  | done => rfl
  | stay hsegment hrest ih => rw [List.foldl_cons, resolveSegment_stay absolute _ hsegment, ih]
  | descend hnil hself hparent hrest ih =>
      rw [List.reverse_append] at ih
      rw [List.foldl_cons, resolveSegment_descend absolute _ hnil hself hparent]
      exact ih
  | leave hdrive hlast hrest ih =>
      rw [List.foldl_cons, List.reverse_append, List.reverse_singleton, List.singleton_append,
        resolveSegment_leave absolute _ hdrive hlast, ih]
  | drive hdrive hrest ih =>
      rw [List.reverse_append, List.reverse_singleton, List.singleton_append] at ih ⊢
      rw [List.foldl_cons, resolveSegment_drive absolute _ hdrive, ih]
  | root habsolute hrest ih =>
      subst habsolute
      exact ih
  | @climb kept segments result hrelative hkept hrest ih =>
      subst hrelative
      have hparents : ∀ segment ∈ kept.reverse, segment = parent := fun segment hsegment =>
        hkept segment (List.mem_reverse.mp hsegment)
      rw [List.reverse_append] at ih
      rw [List.foldl_cons, resolveSegment_parent hparents]
      exact ih

/-- Behind a step up that is kept, all is steps up, and the path is relative. -/
theorem Resolved.of_parent (hresolved : Resolved absolute (kept ++ [parent])) :
    absolute = false ∧ ∀ segment ∈ kept ++ [parent], segment = parent := by
  obtain ⟨steps, names, heq, hnames, hroot⟩ := hresolved
  rcases List.eq_nil_or_concat names with rfl | ⟨front, last, rfl⟩
  · rw [List.append_nil] at heq
    refine ⟨?_, fun segment hsegment => List.eq_of_mem_replicate (heq ▸ hsegment)⟩
    cases absolute with
    | false => rfl
    | true =>
        rw [hroot rfl] at heq
        simp at heq
  · rw [List.concat_eq_append, ← List.append_assoc] at heq
    have hlast : parent = last := (List.cons.inj (List.append_inj_right' heq rfl)).1
    exact absurd hlast.symm (hnames last (by simp)).ne_parent

/-- A step up has an effect behind everything that is resolved. -/
theorem Resolved.step_up (hkept : Resolved absolute kept)
    (hrest : ∀ kept, Resolved absolute kept → ∃ result, LeadsTo absolute kept segments result) :
    ∃ result, LeadsTo absolute kept (parent :: segments) result := by
  rcases List.eq_nil_or_concat kept with rfl | ⟨before, last, rfl⟩
  · cases absolute with
    | true =>
        obtain ⟨result, hleads⟩ := hrest [] hkept
        exact ⟨result, .root rfl hleads⟩
    | false =>
        obtain ⟨result, hleads⟩ := hrest [parent] ⟨1, [], rfl, by simp, by simp⟩
        exact ⟨result, .climb rfl (by simp) hleads⟩
  · rw [List.concat_eq_append] at *
    cases hdrive : isDriveName last with
    | true =>
        obtain ⟨result, hleads⟩ := hrest _ hkept
        exact ⟨result, .drive hdrive hleads⟩
    | false =>
        by_cases hlast : last = parent
        · subst hlast
          obtain ⟨rfl, hparents⟩ := hkept.of_parent
          obtain ⟨result, hleads⟩ := hrest _ hkept.climb
          exact ⟨result, .climb rfl hparents hleads⟩
        · obtain ⟨result, hleads⟩ := hrest before hkept.pop
          exact ⟨result, .leave hdrive hlast hleads⟩

/-- There is a result. -/
theorem exists_leadsTo (hplain : ∀ segment ∈ segments, '/' ∉ segment ∧ '\\' ∉ segment)
    (hkept : Resolved absolute kept) : ∃ result, LeadsTo absolute kept segments result := by
  induction segments generalizing kept with
  | nil => exact ⟨kept, .done⟩
  | cons segment segments ih =>
      obtain ⟨hsegment, hmore⟩ := List.forall_mem_cons.mp hplain
      have hrest : ∀ kept, Resolved absolute kept →
          ∃ result, LeadsTo absolute kept segments result := fun kept hkept => ih hmore hkept
      by_cases hskipped : segment = [] ∨ segment = ['.']
      · obtain ⟨result, hleads⟩ := hrest kept hkept
        exact ⟨result, .stay hskipped hleads⟩
      · obtain ⟨hnil, hself⟩ := not_or.mp hskipped
        by_cases hup : segment = parent
        · subst hup
          exact hkept.step_up hrest
        · obtain ⟨result, hleads⟩ :=
            hrest _ (hkept.push ⟨hnil, hself, hup, hsegment.1, hsegment.2⟩)
          exact ⟨result, .descend hnil hself hup hleads⟩

theorem leadsTo_iff (hplain : ∀ segment ∈ segments, '/' ∉ segment ∧ '\\' ∉ segment) :
    LeadsTo absolute [] segments result ↔ resolve absolute segments = result := by
  have hunique : ∀ other, LeadsTo absolute [] segments other →
      resolve absolute segments = other := by
    intro other hleads
    have hfold : segments.foldl (resolveSegment absolute) [] = other.reverse := hleads.foldl_eq
    rw [resolve, hfold, List.reverse_reverse]
  refine ⟨hunique result, ?_⟩
  rintro rfl
  obtain ⟨other, hleads⟩ := exists_leadsTo hplain ⟨0, [], rfl, by simp, fun _ => rfl⟩
  rw [hunique other hleads]
  exact hleads

end LeadsTo

/-! ## Reading a path -/

section Reading

variable {absolute : Bool} {segments : List (List Char)} {path : List Char}

theorem named_append (segments others : List (List Char)) :
    named (segments ++ others) = named segments ++ named others := List.filter_append ..

theorem named_eq_self (hnil : ∀ segment ∈ segments, segment ≠ []) : named segments = segments :=
  List.filter_eq_self.mpr fun segment hsegment => by simpa using hnil segment hsegment

theorem named_splitSlashes_slash (rest : List Char) :
    named (splitSlashes ('/' :: rest)) = named (splitSlashes rest) := by
  have hsplit : splitSlashes ('/' :: rest) = [[]] ++ splitSlashes rest :=
    splitSlashes_append_slash [] rest
  rw [hsplit, named_append]
  rfl

/-- The segments of a path are what it was joined from. -/
theorem named_splitSlashes_rooted (absolute : Bool)
    (hplain : ∀ segment ∈ segments, '/' ∉ segment ∧ segment ≠ []) :
    named (splitSlashes (rooted absolute segments)) = segments := by
  have hjoined : named (splitSlashes (joinSlashes segments)) = segments := by
    by_cases hempty : segments = []
    · rw [hempty]
      rfl
    · rw [splitSlashes_joinSlashes (fun segment hsegment => (hplain segment hsegment).1) hempty,
        named_eq_self fun segment hsegment => (hplain segment hsegment).2]
  cases absolute with
  | true => exact (named_splitSlashes_slash _).trans hjoined
  | false => exact hjoined

theorem named_splitSlashes_spell (absolute : Bool)
    (hplain : ∀ segment ∈ segments, '/' ∉ segment ∧ segment ≠ []) :
    named (splitSlashes (spell absolute segments)) = segments := by
  have hspelled : named (splitSlashes (spellAll segments)) = segments := by
    have hsplit := splitSlashes_spellAll (fun segment hsegment => (hplain segment hsegment).1) []
    rw [List.append_nil] at hsplit
    rw [hsplit, named_append, named_eq_self fun segment hsegment => (hplain segment hsegment).2]
    exact List.append_nil _
  cases absolute with
  | true => exact (named_splitSlashes_slash _).trans hspelled
  | false => exact hspelled

theorem isAbsolute_rooted (hplain : ∀ segment ∈ segments, '/' ∉ segment ∧ segment ≠ []) :
    isAbsolute (rooted absolute segments) = absolute := by
  cases absolute with
  | true => rfl
  | false =>
      cases segments with
      | nil => rfl
      | cons segment segments =>
          obtain ⟨hslash, hnil⟩ := hplain segment List.mem_cons_self
          obtain ⟨c, rest, rfl⟩ := List.exists_cons_of_ne_nil hnil
          have hc : c ≠ '/' := by
            rintro rfl
            exact hslash List.mem_cons_self
          cases segments <;> simp [rooted, joinSlashes, isAbsolute, hc]

theorem isAbsolute_spell (hplain : ∀ segment ∈ segments, '/' ∉ segment ∧ segment ≠ []) :
    isAbsolute (spell absolute segments) = absolute := by
  have hnothing : isAbsolute [] = false := rfl
  have hspell := @isAbsolute_spell_append absolute segments [] hplain hnothing
  rwa [List.append_nil] at hspell

/-- The normal form of a path is joined from the segments that the path leads to, as a directory if
the path ends in a slash.  Where there is neither a root nor a segment, the slash is all of it. -/
theorem normalChars_cases (path : List Char) :
    let unified := unifySlashes path
    let segments := resolve (isAbsolute unified) (splitSlashes unified)
    normalChars path = ['/'] ∧ isAbsolute unified = false ∧ segments = [] ∧
        endsInSlash unified = true ∨
      (isAbsolute unified = true ∨ segments ≠ [] ∨ endsInSlash unified = false) ∧
        (normalChars path = rooted (isAbsolute unified) segments ∨
          normalChars path = spell (isAbsolute unified) segments) := by
  intro unified segments
  have hresolved := (resolved_resolve (isAbsolute unified)
    (plain_splitSlashes (backslash_not_mem_unifySlashes path))).plain
  have hlong : isAbsolute unified = false → endsInSlash unified = true → 1 < unified.length :=
    one_lt_length_of_relative
  have heq : normalChars path =
      if endsInSlash unified && 1 < unified.length then
        closed (rooted (isAbsolute unified) segments)
      else rooted (isAbsolute unified) segments := rfl
  by_cases hsome : isAbsolute unified = true ∨ segments ≠ []
  · have hclosed := closed_rooted (fun segment hsegment => (hresolved segment hsegment).1)
      (fun segment hsegment => (hresolved segment hsegment).2) hsome
    refine .inr ⟨hsome.imp_right .inl, ?_⟩
    rw [heq]
    split
    · exact .inr hclosed
    · exact .inl rfl
  · obtain ⟨hrelative, hnone⟩ := not_or.mp hsome
    rw [Bool.not_eq_true] at hrelative
    rw [ne_eq, not_not] at hnone
    rw [heq]
    cases hends : endsInSlash unified with
    | true =>
        refine .inl ⟨?_, hrelative, hnone, rfl⟩
        rw [hrelative, hnone, if_pos (by simp [hlong hrelative hends])]
        rfl
    | false => exact .inr ⟨.inr (.inr rfl), .inl rfl⟩

/-- The segments of a normal form are what the path's own resolve to. -/
theorem named_splitSlashes_normalChars (path : List Char) :
    named (splitSlashes (normalChars path)) =
      resolve (isAbsolute (unifySlashes path)) (splitSlashes (unifySlashes path)) := by
  have hplain := (resolved_resolve (isAbsolute (unifySlashes path))
    (plain_splitSlashes (backslash_not_mem_unifySlashes path))).plain
  rcases normalChars_cases path with ⟨hroot, -, hnone, -⟩ | ⟨-, hopen | hclosed⟩
  · rw [hroot, hnone]
    rfl
  · rw [hopen, named_splitSlashes_rooted _ hplain]
  · rw [hclosed, named_splitSlashes_spell _ hplain]

/-- A normal form is absolute if the path is, or if a slash is all that is left of the path. -/
theorem isAbsolute_normalChars (path : List Char) :
    isAbsolute (normalChars path) = true ↔
      isAbsolute (unifySlashes path) = true ∨
        endsInSlash (unifySlashes path) = true ∧
          resolve false (splitSlashes (unifySlashes path)) = [] := by
  have hplain := (resolved_resolve (isAbsolute (unifySlashes path))
    (plain_splitSlashes (backslash_not_mem_unifySlashes path))).plain
  rcases normalChars_cases path with ⟨hroot, hrelative, hnone, hends⟩ | ⟨hsome, hform⟩
  · rw [hrelative] at hnone
    rw [hroot]
    exact iff_of_true rfl (.inr ⟨hends, hnone⟩)
  · have habsolute : isAbsolute (normalChars path) = isAbsolute (unifySlashes path) := by
      rcases hform with hopen | hclosed
      · rw [hopen, isAbsolute_rooted hplain]
      · rw [hclosed, isAbsolute_spell hplain]
    rw [habsolute]
    refine ⟨.inl, ?_⟩
    rintro (hroot | ⟨hends, hnone⟩)
    · exact hroot
    · cases hroot : isAbsolute (unifySlashes path) with
      | true => rfl
      | false =>
          rw [hroot, hends, hnone] at hsome
          simp at hsome

end Reading

/-! ## The place of a normal form -/

/-- A normal form leads where the path leads: its segments are the one result that the segments of
the path lead to.  And it is absolute exactly if the path is, unless the path ends in a slash and
leads to nothing, where a relative path becomes absolute. -/
theorem normalForm_leadsTo (path : String) (segments : List (List Char)) :
    (LeadsTo (isAbsolute (unifySlashes path.toList)) []
        (splitSlashes (unifySlashes path.toList)) segments ↔
      named (splitSlashes (normalForm path).toList) = segments) ∧
    (isAbsolute (normalForm path).toList = true ↔
      isAbsolute (unifySlashes path.toList) = true ∨
        endsInSlash (unifySlashes path.toList) = true ∧
          LeadsTo false [] (splitSlashes (unifySlashes path.toList)) []) := by
  have hplain := plain_splitSlashes (backslash_not_mem_unifySlashes path.toList)
  have hchars : (normalForm path).toList = normalChars path.toList := String.toList_ofList
  rw [hchars, named_splitSlashes_normalChars, isAbsolute_normalChars, leadsTo_iff hplain,
    leadsTo_iff hplain]
  exact ⟨Iff.rfl, Iff.rfl⟩

/-- A relative directory that comes to nothing becomes the root. -/
example : normalForm "a/../" = "/" ∧ normalForm "a/.." = "" := by decide

/-! ## Canonical form -/

section Canonical

variable {segments : List (List Char)} {path : List Char}

theorem Descends.isName (hdescends : Descends segments) :
    ∀ segment ∈ segments, segment = [] ∨ IsName segment := by
  induction segments with
  | nil => simp
  | cons segment segments ih =>
      rw [List.forall_mem_cons]
      refine ⟨?_, ih hdescends.tail⟩
      cases segments with
      | nil => exact hdescends
      | cons next segments => exact .inr hdescends.1

theorem Descends.parent_not_mem (hdescends : Descends segments) : parent ∉ segments := by
  intro hparent
  rcases hdescends.isName parent hparent with hnil | hname
  · cases hnil
  · exact hname.ne_parent rfl

theorem Descends.self_not_mem (hdescends : Descends segments) : ['.'] ∉ segments := by
  intro hself
  rcases hdescends.isName ['.'] hself with hnil | hname
  · cases hnil
  · exact hname.ne_self rfl

/-- Behind the first steps up there are no more. -/
theorem Climbs.parent_not_mem (hclimbs : Climbs segments) :
    parent ∉ segments.dropWhile (· == parent) := by
  induction segments with
  | nil => simp
  | cons segment segments ih =>
      rcases hclimbs with ⟨rfl, hclimbs⟩ | hdescends
      · rw [List.dropWhile_cons_of_pos (by simp)]
        exact ih hclimbs
      · exact fun hparent =>
          hdescends.parent_not_mem ((List.dropWhile_sublist _).subset hparent)

theorem Climbs.self_not_mem (hclimbs : Climbs segments) : ['.'] ∉ segments := by
  induction segments with
  | nil => simp
  | cons segment segments ih =>
      rcases hclimbs with ⟨rfl, hclimbs⟩ | hdescends
      · have hne : ['.'] ≠ parent := by decide
        exact List.not_mem_cons_of_ne_of_not_mem hne (ih hclimbs)
      · exact hdescends.self_not_mem

theorem splitSlashes_slash (rest : List Char) :
    splitSlashes ('/' :: rest) = [] :: splitSlashes rest := splitSlashes_append_slash [] rest

theorem Normal.self_not_mem (hnormal : Normal path) : ['.'] ∉ splitSlashes path := by
  cases hnormal with
  | @absolute rest hdescends =>
      rw [splitSlashes_slash]
      exact List.not_mem_cons_of_ne_of_not_mem (by decide) hdescends.self_not_mem
  | relative hrelative hclimbs => exact hclimbs.self_not_mem

/-- Steps up stand in front, and only in a relative path. -/
theorem Normal.parent_not_mem (hnormal : Normal path) :
    parent ∉ (splitSlashes path).dropWhile (· == parent) ∧
      (parent ∉ splitSlashes path ∨ isAbsolute path = false) := by
  cases hnormal with
  | @absolute rest hdescends =>
      have hnone : parent ∉ splitSlashes ('/' :: rest) := by
        rw [splitSlashes_slash]
        exact List.not_mem_cons_of_ne_of_not_mem (by decide) hdescends.parent_not_mem
      exact ⟨fun hparent => hnone ((List.dropWhile_sublist _).subset hparent), .inl hnone⟩
  | relative hrelative hclimbs => exact ⟨hclimbs.parent_not_mem, .inr hrelative⟩

theorem Normal.no_slash_slash (hnormal : Normal path) : ¬ ['/', '/'] <:+: path := by
  rintro ⟨front, behind, rfl⟩
  rw [List.append_assoc] at hnormal
  have hslash : Normal (front ++ '/' :: ('/' :: behind)) := hnormal
  rcases hslash.below with hdescends | ⟨hclimbs, -, -⟩
  · exact not_descends_slash behind hdescends
  · rw [splitSlashes_slash] at hclimbs
    rcases hclimbs with ⟨hnil, -⟩ | hdescends
    · cases hnil
    · rw [← splitSlashes_slash] at hdescends
      exact not_descends_slash behind hdescends

end Canonical

/-- A normal form has slashes of one kind, no two of them in a row, no segment that stays in place,
and steps up only in front of a relative path.  It is its own normal form. -/
theorem normalForm_canonical (path : String) :
    '\\' ∉ (normalForm path).toList ∧
    ¬ ['/', '/'] <:+: (normalForm path).toList ∧
    ['.'] ∉ splitSlashes (normalForm path).toList ∧
    parent ∉ (splitSlashes (normalForm path).toList).dropWhile (· == parent) ∧
    (parent ∉ splitSlashes (normalForm path).toList ∨
      isAbsolute (normalForm path).toList = false) ∧
    normalForm (normalForm path) = normalForm path := by
  have hnormal : Normal (normalForm path).toList := by
    rw [normalForm, String.toList_ofList]
    exact normal_normalChars path.toList
  obtain ⟨hfront, hrelative⟩ := hnormal.parent_not_mem
  refine ⟨hnormal.plain, hnormal.no_slash_slash, hnormal.self_not_mem, hfront, hrelative, ?_⟩
  have hagain : normalForm (normalForm path) =
      String.ofList (normalChars (normalForm path).toList) := rfl
  rw [hagain, normalChars_of_normal hnormal, String.ofList_toList]

end DebugBridge.Path
