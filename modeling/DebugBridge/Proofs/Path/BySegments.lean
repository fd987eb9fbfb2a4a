import DebugBridge.Proofs.Path.Canonical
import DebugBridge.Proofs.Path.Spellings

/-!
# Names by segments

Whether a file is below a resource is decided by comparing texts, and comes to the same as comparing
segments: whole ones, in lower case.  So two spellings of one path have one name.
-/

namespace DebugBridge.Path

open Text ResourceDirectories

/-! ## Outlines -/

/-- A path read as segments in lower case, and what stands at its two ends. -/
structure Outline where
  absolute : Bool
  segments : List (List Char)
  /-- Whether the path ends in a slash. -/
  directory : Bool
deriving DecidableEq

def outline (path : List Char) : Outline where
  absolute := isAbsolute path
  segments := (named (splitSlashes path)).map (lowerAfter [])
  directory := endsInSlash path

/-- The name that the last segments of a file make.  Without any, only a directory has a name. -/
def Outline.tailName (file : Outline) : (left : List (List Char)) → Option (List Char)
  | [] => if file.directory then some [] else none
  | left => some (joinSlashes left ++ if file.directory then ['/'] else [])

/-- The name of a file below a directory, from the segments that are left behind the directory's. -/
def Outline.nameBelow (directory file : Outline) : Option (List Char) :=
  if file.absolute = directory.absolute ∧ directory.segments <+: file.segments then
    file.tailName (file.segments.drop directory.segments.length)
  else none

/-- The path of an outline. -/
def Outline.chars (outline : Outline) : List Char :=
  if outline.directory then spell outline.absolute outline.segments
  else rooted outline.absolute outline.segments

/-- The outline is read back from its path. -/
structure Outline.Legible (outline : Outline) : Prop where
  plain : ∀ segment ∈ outline.segments, '/' ∉ segment ∧ segment ≠ []
  ends : endsInSlash outline.chars = outline.directory

section Outlines

variable {absolute : Bool} {segments left : List (List Char)} {path front : List Char}

theorem lowerAfter_spell (absolute : Bool) (segments : List (List Char)) :
    lowerAfter [] (spell absolute segments) = spell absolute (segments.map (lowerAfter [])) := by
  have hspelled : lowerAfter [] (spellAll segments) = spellAll (segments.map (lowerAfter [])) := by
    induction segments with
    | nil => rfl
    | cons segment segments ih =>
        have hcons : spellAll (segment :: segments) = segment ++ '/' :: spellAll segments := by
          simp [spellAll]
        rw [hcons, lowerAfter_append_slash, ih]
        simp [spellAll]
  cases absolute with
  | true => exact (lowerAfter_slash _).trans (congrArg ('/' :: ·) hspelled)
  | false => exact hspelled

theorem lowerAfter_rooted (absolute : Bool) (segments : List (List Char)) :
    lowerAfter [] (rooted absolute segments) = rooted absolute (segments.map (lowerAfter [])) := by
  cases absolute with
  | true =>
      exact (lowerAfter_slash _).trans (congrArg ('/' :: ·) (lowerAfter_joinSlashes segments))
  | false => exact lowerAfter_joinSlashes segments

theorem plain_map_lowerAfter (hplain : ∀ segment ∈ segments, '/' ∉ segment ∧ segment ≠ []) :
    ∀ segment ∈ segments.map (lowerAfter []), '/' ∉ segment ∧ segment ≠ [] := by
  intro segment hsegment
  obtain ⟨before, hbefore, rfl⟩ := List.mem_map.mp hsegment
  obtain ⟨hslash, hnil⟩ := hplain before hbefore
  exact ⟨mt slash_mem_lowerAfter_iff.mp hslash, mt lowerAfter_eq_nil_iff.mp hnil⟩

theorem endsInSlash_spell (hsome : absolute = true ∨ segments ≠ []) :
    endsInSlash (spell absolute segments) = true := by
  obtain ⟨front, hspell⟩ := exists_spell hsome
  rw [hspell, endsInSlash_append_slash]

theorem endsInSlash_rooted (hplain : ∀ segment ∈ segments, '/' ∉ segment ∧ segment ≠ [])
    (hopen : absolute = false ∨ segments ≠ []) :
    endsInSlash (rooted absolute segments) = false := by
  have hjoined := endsInSlash_joinSlashes (fun segment hsegment => (hplain segment hsegment).1)
    (fun segment hsegment => (hplain segment hsegment).2)
  cases absolute with
  | false => exact hjoined
  | true =>
      have hsome : rooted false segments ≠ [] :=
        rooted_ne_nil (fun segment hsegment => (hplain segment hsegment).2)
          (.inr (hopen.resolve_left Bool.noConfusion))
      exact (@endsInSlash_append ['/'] _ hsome).trans hjoined

/-- A path that is spelled out as a directory. -/
theorem outline_spell (hplain : ∀ segment ∈ segments, '/' ∉ segment ∧ segment ≠ [])
    (hsome : absolute = true ∨ segments ≠ []) :
    outline (spell absolute segments) = ⟨absolute, segments.map (lowerAfter []), true⟩ := by
  rw [outline, isAbsolute_spell hplain, named_splitSlashes_spell _ hplain, endsInSlash_spell hsome]

theorem outline_rooted (hplain : ∀ segment ∈ segments, '/' ∉ segment ∧ segment ≠ [])
    (hopen : absolute = false ∨ segments ≠ []) :
    outline (rooted absolute segments) = ⟨absolute, segments.map (lowerAfter []), false⟩ := by
  rw [outline, isAbsolute_rooted hplain, named_splitSlashes_rooted _ hplain,
    endsInSlash_rooted hplain hopen]

/-- Normal forms are directories that are spelled out, and files. -/
theorem exists_normalChars_eq (path : List Char) :
    ∃ absolute segments, (∀ segment ∈ segments, '/' ∉ segment ∧ segment ≠ []) ∧
      (normalChars path = spell absolute segments ∧ (absolute = true ∨ segments ≠ []) ∨
        normalChars path = rooted absolute segments ∧ (absolute = false ∨ segments ≠ [])) := by
  have hplain := (resolved_resolve (isAbsolute (unifySlashes path))
    (plain_splitSlashes (backslash_not_mem_unifySlashes path))).plain
  rcases normalChars_cases path with ⟨hroot, -⟩ | ⟨-, hform⟩
  · exact ⟨true, [], by simp, .inl ⟨hroot, .inl rfl⟩⟩
  · refine ⟨isAbsolute (unifySlashes path), _, hplain, ?_⟩
    by_cases hnone : resolve (isAbsolute (unifySlashes path))
        (splitSlashes (unifySlashes path)) = []
    · rw [hnone] at hform ⊢
      cases habsolute : isAbsolute (unifySlashes path) with
      | true =>
          rw [habsolute] at hform
          exact .inl ⟨hform.elim id id, .inl rfl⟩
      | false =>
          rw [habsolute] at hform
          exact .inr ⟨hform.elim id id, .inl rfl⟩
    · exact hform.elim (fun hopen => .inr ⟨hopen, .inr hnone⟩)
        fun hclosed => .inl ⟨hclosed, .inr hnone⟩

/-- The lower case of a normal form is spelled by its outline. -/
theorem chars_outline (path : List Char) :
    (outline (normalChars path)).chars = lowerAfter [] (normalChars path) ∧
      (outline (normalChars path)).Legible := by
  obtain ⟨absolute, segments, hplain, ⟨hform, hsome⟩ | ⟨hform, hopen⟩⟩ := exists_normalChars_eq path
  · have hlower := plain_map_lowerAfter hplain
    have hsomeLower : absolute = true ∨ segments.map (lowerAfter []) ≠ [] :=
      hsome.imp_right (mt List.map_eq_nil_iff.mp)
    rw [hform, outline_spell hplain hsome]
    exact ⟨(lowerAfter_spell absolute segments).symm, hlower, endsInSlash_spell hsomeLower⟩
  · have hlower := plain_map_lowerAfter hplain
    have hopenLower : absolute = false ∨ segments.map (lowerAfter []) ≠ [] :=
      hopen.imp_right (mt List.map_eq_nil_iff.mp)
    rw [hform, outline_rooted hplain hopen]
    exact ⟨(lowerAfter_rooted absolute segments).symm, hlower,
      endsInSlash_rooted hlower hopenLower⟩

end Outlines

/-! ## Below a directory -/

section Below

variable {directory file : Outline} {left : List (List Char)} {rest : List Char}

theorem stripStart_eq_some_iff {start text rest : List Char} :
    stripStart start text = some rest ↔ text = start ++ rest := by
  constructor
  · exact append_of_stripStart
  · rintro rfl
    exact stripStart_append start rest

theorem spellAll_eq (hleft : left ≠ []) : spellAll left = joinSlashes left ++ ['/'] := by
  rcases List.eq_nil_or_concat left with rfl | ⟨front, last, rfl⟩
  · exact absurd rfl hleft
  · rw [List.concat_eq_append, joinSlashes_append front (List.cons_ne_nil last []), spellAll_append]
    simp [spellAll, joinSlashes]

/-- Behind the segments of a directory. -/
theorem nameBelow_of_append (habsolute : file.absolute = directory.absolute)
    (hsegments : file.segments = directory.segments ++ left) :
    directory.nameBelow file = file.tailName left := by
  have hprefix : directory.segments <+: file.segments := ⟨left, hsegments.symm⟩
  have hdrop : file.segments.drop directory.segments.length = left := by
    rw [hsegments, List.drop_left]
  rw [Outline.nameBelow, if_pos ⟨habsolute, hprefix⟩, hdrop]

theorem exists_append_of_nameBelow (hname : directory.nameBelow file = some rest) :
    file.absolute = directory.absolute ∧ ∃ left, file.segments = directory.segments ++ left := by
  unfold Outline.nameBelow at hname
  split at hname
  · next hbelow =>
      obtain ⟨left, hleft⟩ := hbelow.2
      exact ⟨hbelow.1, left, hleft.symm⟩
  · cases hname

/-- What is left behind the segments of a directory stands behind the directory. -/
theorem chars_of_nameBelow (hname : directory.nameBelow file = some rest) :
    file.chars = spell directory.absolute directory.segments ++ rest := by
  obtain ⟨habsolute, left, hsegments⟩ := exists_append_of_nameBelow hname
  rw [nameBelow_of_append habsolute hsegments] at hname
  rw [Outline.chars, habsolute, hsegments]
  cases left with
  | nil =>
      cases hdirectory : file.directory with
      | false => simp [Outline.tailName, hdirectory] at hname
      | true =>
          obtain rfl : [] = rest := by simpa [Outline.tailName, hdirectory] using hname
          rw [if_pos rfl, List.append_nil, List.append_nil]
  | cons segment others =>
      have hsome : segment :: others ≠ [] := List.cons_ne_nil segment others
      obtain rfl := Option.some.inj hname
      rw [rooted_append _ _ hsome]
      cases file.directory with
      | false => simp
      | true =>
          have hspell : spell directory.absolute (directory.segments ++ segment :: others) =
              spell directory.absolute directory.segments ++ spellAll (segment :: others) := by
            simp [spell, spellAll_append]
          rw [if_pos rfl, if_pos rfl, hspell, spellAll_eq hsome]

/-- A file whose path begins with a directory that is spelled out has the directory's segments. -/
theorem segments_of_append (hdirectory : directory.Legible) (hfile : file.Legible)
    (hsome : directory.absolute = true ∨ directory.segments ≠ [])
    (hwhole : file.chars = spell directory.absolute directory.segments ++ rest) :
    file.absolute = directory.absolute ∧
      file.segments = directory.segments ++ named (splitSlashes rest) := by
  have hread : isAbsolute file.chars = file.absolute ∧
      named (splitSlashes file.chars) = file.segments := by
    unfold Outline.chars
    cases file.directory with
    | true => exact ⟨isAbsolute_spell hfile.plain, named_splitSlashes_spell _ hfile.plain⟩
    | false => exact ⟨isAbsolute_rooted hfile.plain, named_splitSlashes_rooted _ hfile.plain⟩
  obtain ⟨front, hfront⟩ := exists_spell hsome
  have hsplit : named (splitSlashes (spell directory.absolute directory.segments ++ rest)) =
      directory.segments ++ named (splitSlashes rest) := by
    have hown := named_splitSlashes_spell directory.absolute hdirectory.plain
    rw [hfront, splitSlashes_append_slash, named_append] at hown
    rw [hfront, List.append_assoc, List.singleton_append, splitSlashes_append_slash, named_append,
      ← hown]
    exact congrArg (· ++ _) (List.append_nil _).symm
  have habsolute : isAbsolute (spell directory.absolute directory.segments ++ rest) =
      directory.absolute := by
    have hown := @isAbsolute_spell directory.absolute _ hdirectory.plain
    rw [hfront] at hown ⊢
    rw [← hown]
    cases front <;> rfl
  rw [hwhole, hsplit, habsolute] at hread
  exact ⟨hread.1.symm, hread.2.symm⟩

/-- The text of a directory is taken off a path exactly if whole segments are. -/
theorem stripStart_spell (hdirectory : directory.Legible) (hfile : file.Legible)
    (hsome : directory.absolute = true ∨ directory.segments ≠ []) :
    stripStart (spell directory.absolute directory.segments) file.chars =
      directory.nameBelow file := by
  apply Option.ext
  intro rest
  rw [stripStart_eq_some_iff]
  refine ⟨fun hwhole => ?_, chars_of_nameBelow⟩
  obtain ⟨habsolute, hsegments⟩ := segments_of_append hdirectory hfile hsome hwhole
  have hname := nameBelow_of_append habsolute hsegments
  cases hbelow : directory.nameBelow file with
  | some name =>
      have hsame := hwhole.symm.trans (chars_of_nameBelow hbelow)
      rw [List.append_cancel_left hsame]
  | none =>
      -- A file with the directory's own segments and no slash at its end is too short.
      rw [hbelow] at hname
      obtain ⟨hleft, hopen⟩ : named (splitSlashes rest) = [] ∧ file.directory = false := by
        cases hleft : named (splitSlashes rest) with
        | nil =>
            rw [hleft] at hname
            exact ⟨rfl, by simpa [Outline.tailName] using hname⟩
        | cons segment left =>
            rw [hleft] at hname
            cases hname
      rw [hleft, List.append_nil] at hsegments
      have hchars : file.chars = rooted directory.absolute directory.segments := by
        rw [Outline.chars, hopen, if_neg Bool.false_ne_true, habsolute, hsegments]
      have hclosed := closed_rooted
        (fun segment hsegment => (hdirectory.plain segment hsegment).1)
        (fun segment hsegment => (hdirectory.plain segment hsegment).2) hsome
      have hends := hfile.ends
      rw [hopen, hchars] at hends
      rw [closed, if_neg (by simp [hends])] at hclosed
      rw [hchars, ← hclosed, List.append_assoc] at hwhole
      have hlength := congrArg List.length hwhole
      simp at hlength

/-- Nothing is taken off where the directory is nothing. -/
theorem nameBelow_nothing (hrelative : directory.absolute = false)
    (hnone : directory.segments = []) :
    (directory.nameBelow file).getD file.chars = file.chars := by
  cases hbelow : directory.nameBelow file with
  | none => rfl
  | some name =>
      have hwhole := chars_of_nameBelow hbelow
      rw [hrelative, hnone] at hwhole
      exact hwhole.symm

end Below

end DebugBridge.Path

namespace DebugBridge.ResourceDirectories

open DebugBridge.Path Text

/-- The text that the directory of a resource takes off a file is what its segments take off. -/
theorem stripStart_resourcePath (server subdir resource path : String) :
    ((stripStart (lowerAfter [] (ofDirectories server subdir resource).resourcePath)
        (lowerAfter [] (normalChars path.toList))).getD (lowerAfter [] (normalChars path.toList))) =
      ((outline (ofDirectories server subdir resource).resourcePath).nameBelow
        (outline (normalChars path.toList))).getD (lowerAfter [] (normalChars path.toList)) := by
  obtain ⟨hchars, hfile⟩ := chars_outline path.toList
  obtain ⟨absolute, segments, hresolved, hdirectory⟩ :=
    exists_resourcePath_eq server subdir resource
  rw [hdirectory, ← hchars]
  by_cases hsome : absolute = true ∨ segments ≠ []
  · have hlower := plain_map_lowerAfter hresolved.plain
    have hsomeLower : absolute = true ∨ segments.map (lowerAfter []) ≠ [] :=
      hsome.imp_right (mt List.map_eq_nil_iff.mp)
    have hlegible : Outline.Legible ⟨absolute, segments.map (lowerAfter []), true⟩ :=
      ⟨hlower, endsInSlash_spell hsomeLower⟩
    have hstrip : stripStart (spell absolute (segments.map (lowerAfter [])))
        (outline (normalChars path.toList)).chars = _ :=
      stripStart_spell hlegible hfile hsomeLower
    rw [outline_spell hresolved.plain hsome, lowerAfter_spell, hstrip]
  · obtain ⟨hrelative, hnone⟩ := not_or.mp hsome
    rw [Bool.not_eq_true] at hrelative
    rw [hrelative, not_not.mp hnone, nameBelow_nothing rfl rfl]
    rfl

/-- The backend's name of a file is what is left behind the segments of the resource's directory,
and the whole normal form, in lower case, where they are not its first segments or where nothing is
left.  Spellings that differ in separators, in their number, in dots between them or in the case of
ASCII letters have one name. -/
theorem backendName_by_segments (server subdir resource : String) :
    (∀ path : String, (ofDirectories server subdir resource).backendName path =
      match (outline (ofDirectories server subdir resource).resourcePath).nameBelow
        (outline (normalForm path).toList) with
      | some name => String.ofList name
      | none => lowercase (normalForm path)) ∧
    (∀ path other : String, Relation.EqvGen Respelled path.toList other.toList →
      (ofDirectories server subdir resource).backendName path =
        (ofDirectories server subdir resource).backendName other) := by
  refine ⟨fun path => ?_, fun path other hspellings => ?_⟩
  · have hnormal : (normalForm path).toList = normalChars path.toList := String.toList_ofList
    rw [backendName_eq, stripStart_resourcePath, lowercase, hnormal]
    cases (outline (ofDirectories server subdir resource).resourcePath).nameBelow
      (outline (normalChars path.toList)) <;> rfl
  · rw [backendName_eq, backendName_eq, lower_of_spellings hspellings]

/-- A drive letter in the other case, slashes of both kinds, two of them in a row, and a dot. -/
theorem backendName_by_segments_respelled :
    Relation.EqvGen Respelled "c:/MTA\\Mods//Debug/./Lib.lua".toList
      "C:/mta/mods/debug/lib.lua".toList ∧
    (ofDirectories "C:/mta" "mods" "Debug").backendName "c:/MTA\\Mods//Debug/./Lib.lua" =
      "lib.lua" ∧
    (ofDirectories "C:/mta" "mods" "Debug").backendName "C:/mta/mods/debug/lib.lua" = "lib.lua" ∧
    (ofDirectories "C:/mta" "mods" "Debug").backendName "C:/mta/mods/debugger/lib.lua" =
      "c:/mta/mods/debugger/lib.lua" := by
  have hseparator := Respelled.separator "c:/MTA".toList "Mods//Debug/./Lib.lua".toList
  have hrepeated := Respelled.repeated "c:/MTA/Mods".toList "Debug/./Lib.lua".toList
  have hdot := Respelled.dot "c:/MTA/Mods/Debug".toList "Lib.lua".toList
  have hcase : Respelled "c:/MTA/Mods/Debug/Lib.lua".toList "C:/mta/mods/debug/lib.lua".toList :=
    .letterCase (by decide)
  have hspellings : Relation.EqvGen Respelled "c:/MTA\\Mods//Debug/./Lib.lua".toList
      "C:/mta/mods/debug/lib.lua".toList :=
    .trans _ _ _ (.rel _ _ hseparator) (.trans _ _ _ (.rel _ _ hrepeated)
      (.trans _ _ _ (.rel _ _ hdot) (.rel _ _ hcase)))
  obtain ⟨hnames, hsame⟩ := backendName_by_segments "C:/mta" "mods" "Debug"
  have hname : (ofDirectories "C:/mta" "mods" "Debug").backendName "C:/mta/mods/debug/lib.lua" =
      "lib.lua" := by
    rw [hnames]
    decide +kernel
  refine ⟨hspellings, (hsame _ _ hspellings).trans hname, hname, ?_⟩
  rw [hnames]
  decide +kernel

end DebugBridge.ResourceDirectories
