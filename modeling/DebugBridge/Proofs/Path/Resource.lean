import DebugBridge.Path.Resource
import DebugBridge.Proofs.Path.Normal
import DebugBridge.Proofs.Text.Lowercase

/-!
# There and back

A breakpoint goes to the backend under its path below the resource, and a pause comes back under
its path below the resources root.  The path that the pause is shown at has the name that the
breakpoint went by, unless the resource's directory is no path at all.
-/

namespace DebugBridge.Path

open Text

/-! ## Lower case -/

section Lower

variable {path segment : List Char} {segments : List (List Char)}

theorem lowerAfter_joinSlashes (segments : List (List Char)) :
    lowerAfter [] (joinSlashes segments) = joinSlashes (segments.map (lowerAfter [])) := by
  induction segments with
  | nil => rfl
  | cons segment segments ih =>
      cases segments with
      | nil => rfl
      | cons next segments =>
          have hcons : joinSlashes (segment :: next :: segments) =
              segment ++ '/' :: joinSlashes (next :: segments) := rfl
          rw [hcons, lowerAfter_append_slash, ih]
          rfl

theorem slash_mem_lowerAfter_iff : '/' ∈ lowerAfter [] segment ↔ '/' ∈ segment :=
  mark_mem_lowerAfter_iff [] (by decide)

/-- The segments of a path in lower case are the segments in lower case. -/
theorem splitSlashes_lowerAfter (path : List Char) :
    splitSlashes (lowerAfter [] path) = (splitSlashes path).map (lowerAfter []) := by
  have hslash : ∀ segment ∈ (splitSlashes path).map (lowerAfter []), '/' ∉ segment := by
    intro segment hsegment
    obtain ⟨before, hbefore, rfl⟩ := List.mem_map.mp hsegment
    exact mt slash_mem_lowerAfter_iff.mp (mem_of_mem_splitSlashes hbefore).1
  calc
    splitSlashes (lowerAfter [] path)
      = splitSlashes (lowerAfter [] (joinSlashes (splitSlashes path))) := by
        rw [joinSlashes_splitSlashes]
    _ = splitSlashes (joinSlashes ((splitSlashes path).map (lowerAfter []))) := by
        rw [lowerAfter_joinSlashes]
    _ = (splitSlashes path).map (lowerAfter []) := by
        refine splitSlashes_joinSlashes hslash ?_
        simpa using splitSlashes_ne_nil path

/-- Only the step up is lowered to it. -/
theorem lowerAfter_eq_parent_iff : lowerAfter [] segment = parent ↔ segment = parent := by
  constructor
  · intro hlower
    have hmarks : ∀ d ∈ lowerAfter [] segment, d ∈ marks := by
      rw [hlower]
      simp [parent, marks]
    rw [← eq_of_lowerAfter_marks hmarks, hlower]
  · rintro rfl
    decide

theorem IsName.lower (hname : IsName segment) : IsName (lowerAfter [] segment) where
  ne_nil := mt lowerAfter_eq_nil_iff.mp hname.ne_nil
  ne_self hself := by
    have hmarks : ∀ d ∈ lowerAfter [] segment, d ∈ marks := by
      rw [hself]
      simp [marks]
    exact hname.ne_self ((eq_of_lowerAfter_marks hmarks).symm.trans hself)
  ne_parent := mt lowerAfter_eq_parent_iff.mp hname.ne_parent
  slash := mt slash_mem_lowerAfter_iff.mp hname.slash
  backslash := mt (mark_mem_lowerAfter_iff [] (by decide)).mp hname.backslash

theorem Descends.lower (hdescends : Descends segments) :
    Descends (segments.map (lowerAfter [])) := by
  induction segments with
  | nil => trivial
  | cons segment segments ih =>
      cases segments with
      | nil =>
          rcases hdescends with rfl | hname
          · exact .inl rfl
          · exact .inr hname.lower
      | cons next segments => exact ⟨hdescends.1.lower, ih hdescends.2⟩

theorem Climbs.lower (hclimbs : Climbs segments) : Climbs (segments.map (lowerAfter [])) := by
  induction segments with
  | nil => trivial
  | cons segment segments ih =>
      rcases hclimbs with ⟨rfl, hclimbs⟩ | hdescends
      · exact .inl ⟨lowerAfter_eq_parent_iff.mpr rfl, ih hclimbs⟩
      · exact hdescends.lower.climbs

theorem lowerAfter_slash (rest : List Char) :
    lowerAfter [] ('/' :: rest) = '/' :: lowerAfter [] rest :=
  lowerAfter_append_slash [] [] rest

theorem isAbsolute_lowerAfter (path : List Char) :
    isAbsolute (lowerAfter [] path) = isAbsolute path := by
  cases path with
  | nil => rfl
  | cons c rest =>
      by_cases hslash : c = '/'
      · rw [hslash, lowerAfter_slash]
        rfl
      · obtain ⟨piece, hpiece, hlower⟩ := lowerAfter_cons [] c rest
        obtain ⟨d, others, rfl⟩ := List.exists_cons_of_ne_nil hpiece.ne_nil
        have hd : d ≠ '/' := by
          rintro rfl
          exact hslash ((hpiece.mark '/' (by decide)).mp List.mem_cons_self)
        rw [hlower]
        simp [isAbsolute, hd, hslash]

/-- The lower case of a normal form is one. -/
theorem Normal.lower (hnormal : Normal path) : Normal (lowerAfter [] path) := by
  cases hnormal with
  | absolute hdescends =>
      rw [lowerAfter_slash]
      refine .absolute ?_
      rw [splitSlashes_lowerAfter]
      exact hdescends.lower
  | relative hrelative hclimbs =>
      refine .relative ((isAbsolute_lowerAfter path).trans hrelative) ?_
      rw [splitSlashes_lowerAfter]
      exact hclimbs.lower

end Lower

/-! ## Below a directory -/

section Below

variable {front rest path other : List Char}

/-- What is below a directory of a normal form are names, or all of the directory are steps up. -/
theorem Normal.below (hnormal : Normal (front ++ '/' :: rest)) :
    Descends (splitSlashes rest) ∨
      Climbs (splitSlashes rest) ∧ isAbsolute (front ++ '/' :: rest) = false ∧
        ∀ segment ∈ splitSlashes front, segment = parent := by
  generalize hwhole : front ++ '/' :: rest = whole at hnormal
  cases hnormal with
  | @absolute tail hdescends =>
      left
      cases front with
      | nil =>
          obtain ⟨-, rfl⟩ := List.cons.inj hwhole
          exact hdescends
      | cons c front =>
          have htail : front ++ '/' :: rest = tail := (List.cons.inj hwhole).2
          rw [← htail, splitSlashes_append_slash] at hdescends
          exact hdescends.of_append
  | relative hrelative hclimbs =>
      rw [← hwhole, splitSlashes_append_slash] at hclimbs
      exact hclimbs.of_append.imp_right fun ⟨hrest, hfront⟩ => ⟨hrest, hrelative, hfront⟩

theorem normalChars_congr (hunified : unifySlashes path = unifySlashes other) :
    normalChars path = normalChars other := by
  rw [normalChars_eq, normalChars_eq, hunified]

theorem unifySlashes_append (front rest : List Char) :
    unifySlashes (front ++ rest) = unifySlashes front ++ unifySlashes rest :=
  List.map_append

theorem normalChars_unifySlashes (path : List Char) :
    normalChars (unifySlashes path) = normalChars path :=
  normalChars_congr (unifySlashes_eq_self (backslash_not_mem_unifySlashes path))

/-- Between two slashes, a segment that stays in place does not matter. -/
theorem normalChars_slash_stay {segment : List Char} (hsegment : segment = [] ∨ segment = ['.'])
    (front rest : List Char) :
    normalChars (front ++ '/' :: (segment ++ '/' :: rest)) =
      normalChars (front ++ '/' :: rest) := by
  have hstays : '/' ∉ segment ∧ unifySlashes segment = segment := by
    rcases hsegment with rfl | rfl <;> decide
  have hunified : ∀ front tail : List Char, unifySlashes (front ++ '/' :: tail) =
      unifySlashes front ++ '/' :: unifySlashes tail := fun front tail => unifySlashes_append _ _
  rw [normalChars_eq, normalChars_eq, hunified, hunified, hunified, hstays.2]
  generalize unifySlashes front = start
  generalize unifySlashes rest = tail
  have habsolute : isAbsolute (start ++ '/' :: (segment ++ '/' :: tail)) =
      isAbsolute (start ++ '/' :: tail) := by
    cases start <;> rfl
  have hresolve : ∀ absolute,
      resolve absolute (splitSlashes (start ++ '/' :: (segment ++ '/' :: tail))) =
        resolve absolute (splitSlashes (start ++ '/' :: tail)) := by
    intro absolute
    rw [splitSlashes_append_slash, splitSlashes_append_slash, splitSlashes_append_slash,
      splitSlashes_of_not_mem hstays.1, resolve, resolve, List.foldl_append, List.singleton_append,
      List.foldl_cons, resolveSegment_stay absolute _ hsegment, List.foldl_append]
  have hends : endsInSlash (start ++ '/' :: (segment ++ '/' :: tail)) =
      endsInSlash (start ++ '/' :: tail) := by
    have hsplit : start ++ '/' :: (segment ++ '/' :: tail) =
        (start ++ '/' :: segment) ++ '/' :: tail := by simp
    rw [hsplit, endsInSlash_append (List.cons_ne_nil _ _),
      endsInSlash_append (List.cons_ne_nil _ _)]
  rw [habsolute, hresolve, hends]
  by_cases hlong : 1 < (start ++ '/' :: tail).length
  · have hlonger : 1 < (start ++ '/' :: (segment ++ '/' :: tail)).length := by
      simp only [List.length_append, List.length_cons] at hlong ⊢
      omega
    simp only [hlong, hlonger]
  · obtain ⟨rfl, rfl⟩ : start = [] ∧ tail = [] := by
      cases start <;> cases tail <;> simp at hlong ⊢
    rcases hsegment with rfl | rfl <;> rfl

/-- Of two slashes in a row, one does not matter. -/
theorem normalChars_slash_slash (front rest : List Char) :
    normalChars (front ++ '/' :: '/' :: rest) = normalChars (front ++ '/' :: rest) :=
  normalChars_slash_stay (.inl rfl) front rest

/-- Slashes behind the slash of a directory do not matter. -/
theorem normalChars_dropWhile (front rest : List Char) :
    normalChars (front ++ '/' :: rest.dropWhile isSlash) = normalChars (front ++ '/' :: rest) := by
  induction rest with
  | nil => rfl
  | cons c rest ih =>
      by_cases hslash : isSlash c = true
      · rw [List.dropWhile_cons_of_pos hslash, ih, ← normalChars_slash_slash]
        apply normalChars_congr
        have hc : c = '/' ∨ c = '\\' := by simpa [isSlash] using hslash
        rcases hc with rfl | rfl
        · rfl
        · simp [unifySlashes]
      · rw [List.dropWhile_cons_of_neg hslash]

end Below

end DebugBridge.Path

namespace DebugBridge.ResourceDirectories

open DebugBridge.Path Text

section Strip

variable {start text rest : List Char}

theorem stripStart_append (start rest : List Char) :
    stripStart start (start ++ rest) = some rest := by
  induction start with
  | nil => rfl
  | cons c start ih => simp [stripStart, ih]

theorem append_of_stripStart (hstripped : stripStart start text = some rest) :
    text = start ++ rest := by
  induction start generalizing text with
  | nil => exact Option.some.inj hstripped
  | cons c start ih =>
      cases text with
      | nil => cases hstripped
      | cons d text =>
          rw [stripStart] at hstripped
          split at hstripped
          · next hsame => rw [hsame, ih hstripped, List.cons_append]
          · cases hstripped

end Strip

/-- The path is below the resource, and this is its name there. -/
def Below (directories : ResourceDirectories) (path name : String) : Prop :=
  stripStart (lowerAfter [] directories.resourcePath) (lowerAfter [] (normalChars path.toList)) =
    some name.toList

/-- The resource has a directory, or what is said to be below it is a relative path at least. -/
def Placed (directories : ResourceDirectories) (path : String) : Prop :=
  directories.resourcePath ≠ [] ∨
    normalChars path.toList ≠ [] ∧ isAbsolute (normalChars path.toList) = false

instance (directories : ResourceDirectories) (path name : String) :
    Decidable (directories.Below path name) := inferInstanceAs (Decidable (_ = _))

instance (directories : ResourceDirectories) (path : String) :
    Decidable (directories.Placed path) := inferInstanceAs (Decidable (_ ∨ _))

theorem backendName_eq (directories : ResourceDirectories) (path : String) :
    directories.backendName path = String.ofList
      ((stripStart (lowerAfter [] directories.resourcePath)
        (lowerAfter [] (normalChars path.toList))).getD
          (lowerAfter [] (normalChars path.toList))) := rfl

theorem Below.backendName {directories : ResourceDirectories} {path name : String}
    (hbelow : directories.Below path name) : directories.backendName path = name := by
  rw [backendName_eq, hbelow, Option.getD_some, String.ofList_toList]

/-! ## Directories -/

section Directories

variable {path front rest : List Char} {absolute : Bool} {segments : List (List Char)}

theorem exists_closed (path : List Char) : ∃ front, closed path = front ++ ['/'] := by
  unfold closed
  split
  · next hends =>
      obtain ⟨front, rfl⟩ := List.getLast?_eq_some_iff.mp (beq_iff_eq.mp hends)
      exact ⟨front, rfl⟩
  · exact ⟨path, rfl⟩

theorem asDirectory_closed (path : List Char) : asDirectory (closed path) = closed path := by
  obtain ⟨front, hclosed⟩ := exists_closed path
  rw [hclosed, asDirectory, if_neg (by simp), closed, if_pos (endsInSlash_append_slash front)]

/-- A path that ends in a slash has a directory for its normal form. -/
theorem exists_asDirectory (front : List Char) (hfront : front ≠ []) :
    ∃ start, asDirectory (normalChars (front ++ ['/'])) = start ++ ['/'] := by
  have hunified : unifySlashes (front ++ ['/']) = unifySlashes front ++ ['/'] :=
    unifySlashes_append front ['/']
  have hlong : 1 < (unifySlashes front ++ ['/']).length := by
    have hpos := List.length_pos_of_ne_nil hfront
    simp only [unifySlashes, List.length_append, List.length_map, List.length_singleton]
    omega
  rw [normalChars_eq, hunified, endsInSlash_append_slash, Bool.true_and,
    if_pos (by simpa using hlong), asDirectory_closed]
  exact exists_closed _

/-- The directory of a path whose segments resolve to something. -/
theorem asDirectory_of_resolved (hplain : '\\' ∉ path) (habsolute : isAbsolute path = absolute)
    (hsegments : resolve absolute (splitSlashes path) = segments)
    (hsome : absolute = true ∨ segments ≠ []) :
    asDirectory (normalChars path) = spell absolute segments := by
  have hresolved := (resolved_resolve absolute (plain_splitSlashes hplain)).plain
  rw [hsegments] at hresolved
  have hclosed := closed_rooted (fun segment hsegment => (hresolved segment hsegment).1)
    (fun segment hsegment => (hresolved segment hsegment).2) hsome
  have hopen : rooted absolute segments ≠ [] :=
    rooted_ne_nil (fun segment hsegment => (hresolved segment hsegment).2) hsome
  rw [normalChars_eq, unifySlashes_eq_self hplain, habsolute, hsegments]
  split
  · rw [asDirectory_closed, hclosed]
  · rw [asDirectory, if_neg (by simpa using hopen), hclosed]

/-- A relative path that resolves to nothing is a slash or nothing. -/
theorem asDirectory_of_unresolved (hplain : '\\' ∉ path) (hrelative : isAbsolute path = false)
    (hnone : resolve false (splitSlashes path) = []) :
    asDirectory (normalChars path) = ['/'] ∨ asDirectory (normalChars path) = [] := by
  rw [normalChars_eq, unifySlashes_eq_self hplain, hrelative, hnone]
  split
  · exact .inl rfl
  · exact .inr rfl

end Directories

/-! ## There and back -/

section Back

variable {directory name front path : List Char}

/-- Text that is lowered already. -/
theorem lowerAfter_of_append (hwhole : lowerAfter [] path = front ++ name) :
    lowerAfter [] name = name := by
  refine lowerAfter_of_settled [] fun c hc => settled_of_mem_lowerAfter [] path c ?_
  rw [hwhole]
  exact List.mem_append_right _ hc

/-- What is below a directory that is spelled out has its lower case for its name there. -/
theorem strip_of_directory (hdirectory : directory = front ++ ['/']) (name : List Char) :
    stripStart (lowerAfter [] directory) (lowerAfter [] (directory ++ name)) =
      some (lowerAfter [] name) := by
  have hsingle : lowerAfter [] (front ++ ['/']) = lowerAfter [] front ++ ['/'] :=
    lowerAfter_append_slash [] front []
  have hwhole : lowerAfter [] (front ++ '/' :: name) =
      lowerAfter [] front ++ ['/'] ++ lowerAfter [] name := by
    rw [lowerAfter_append_slash, List.append_assoc]
    rfl
  rw [hdirectory, hsingle, List.append_assoc, List.singleton_append, hwhole, stripStart_append]

/-- Below a directory, a name goes on from where the directory is. -/
theorem descends_of_below {absolute : Bool} {segments : List (List Char)}
    (hresolved : Resolved absolute segments) (hdirectory : spell absolute segments = front ++ ['/'])
    (hwhole : lowerAfter [] path = lowerAfter [] (front ++ ['/']) ++ name)
    (hnormal : Normal path) :
    Descends (splitSlashes name) ∨
      Climbs (splitSlashes name) ∧ absolute = false ∧ ∀ segment ∈ segments, segment = parent := by
  have hsingle : lowerAfter [] (front ++ ['/']) = lowerAfter [] front ++ ['/'] :=
    lowerAfter_append_slash [] front []
  rw [hsingle, List.append_assoc, List.singleton_append] at hwhole
  have hlowered := hnormal.lower
  rw [hwhole] at hlowered
  refine hlowered.below.imp_right fun ⟨hclimbs, hrelative, hparents⟩ => ?_
  cases absolute with
  | true =>
      have hroot : spell true segments = '/' :: spellAll segments := rfl
      rw [hroot] at hdirectory
      cases front with
      | nil => cases hrelative
      | cons c front =>
          obtain ⟨rfl, -⟩ := List.cons.inj hdirectory
          rw [lowerAfter_slash] at hrelative
          cases hrelative
  | false =>
      have hsplit := splitSlashes_spellAll (fun segment hmem => (hresolved.plain segment hmem).1) []
      have hspell : spell false segments = spellAll segments := rfl
      rw [List.append_nil, ← hspell, hdirectory, splitSlashes_append_slash] at hsplit
      have hsegments : splitSlashes front = segments := List.append_cancel_right hsplit
      refine ⟨hclimbs, rfl, fun segment hmem => lowerAfter_eq_parent_iff.mp ?_⟩
      rw [splitSlashes_lowerAfter, hsegments] at hparents
      exact hparents _ (List.mem_map_of_mem hmem)

theorem exists_spell {absolute : Bool} {segments : List (List Char)}
    (hsome : absolute = true ∨ segments ≠ []) :
    ∃ front, spell absolute segments = front ++ ['/'] := by
  rcases List.eq_nil_or_concat segments with rfl | ⟨init, last, rfl⟩
  · obtain rfl := hsome.resolve_right fun hne => hne rfl
    exact ⟨[], rfl⟩
  · exact ⟨spell absolute init ++ last, by simp [spell, spellAll]⟩

/-- A name does not begin with a slash. -/
theorem not_descends_slash (rest : List Char) : ¬ Descends (splitSlashes ('/' :: rest)) := by
  have hsplit : splitSlashes ('/' :: rest) = [] :: splitSlashes rest := by simp [splitSlashes]
  obtain ⟨next, others, hcons⟩ := List.exists_cons_of_ne_nil (splitSlashes_ne_nil rest)
  rw [hsplit, hcons]
  exact fun hdescends => hdescends.1.ne_nil rfl

/-- The name of a path in a directory, and the path itself outside. -/
def nameIn (directory path : List Char) : List Char :=
  (stripStart (lowerAfter [] directory) (lowerAfter [] path)).getD (lowerAfter [] path)

section Nameless

variable {place : List Char}

/-- Where the place resolves to nothing, a name behind it is all that is left. -/
theorem nameIn_of_unresolved (hplain : '\\' ∉ place) (hplace : place ≠ [])
    (hrelative : isAbsolute place = false) (hnone : resolve false (splitSlashes place) = [])
    (hwhole : lowerAfter [] path = lowerAfter [] (asDirectory (normalChars place)) ++ name)
    (hnormal : Normal path)
    (hsome : asDirectory (normalChars place) ≠ [] ∨ path ≠ [] ∧ isAbsolute path = false) :
    nameIn (asDirectory (normalChars place)) (normalChars (place ++ '/' :: name)) = name := by
  have hlower := lowerAfter_of_append hwhole
  have hbelow : isAbsolute (place ++ '/' :: name) = false := by
    obtain ⟨c, others, rfl⟩ := List.exists_cons_of_ne_nil hplace
    exact hrelative
  rcases asDirectory_of_unresolved hplain hrelative hnone with hslash | hnil
  · rw [hslash] at hwhole ⊢
    have hroot : lowerAfter [] ['/'] = ['/'] := lowerAfter_slash []
    rw [hroot, List.singleton_append] at hwhole
    have hlowered : Normal ([] ++ '/' :: name) := hwhole ▸ hnormal.lower
    have hdescends : Descends (splitSlashes name) :=
      hlowered.below.resolve_right fun hall => Bool.noConfusion hall.2.1
    rw [normalChars_append_slash hplain hbelow hnone (.inl hdescends)]
    cases name with
    | nil =>
        rw [if_pos ⟨rfl, rfl, rfl⟩, nameIn, hroot]
        rfl
    | cons c name =>
        have hc : '/' ≠ c := by
          rintro rfl
          exact not_descends_slash name hdescends
        have hspell : spell false [] ++ c :: name = c :: name := rfl
        rw [if_neg (by simp), hspell, nameIn, hroot, hlower, stripStart, if_neg hc]
        rfl
  · rw [hnil] at hwhole hsome ⊢
    obtain ⟨hpath, hpathRelative⟩ := hsome.resolve_left fun hne => hne rfl
    have hname : lowerAfter [] path = name := hwhole
    have hnameNil : name ≠ [] := by
      rw [← hname]
      exact mt lowerAfter_eq_nil_iff.mp hpath
    have hclimbs : Climbs (splitSlashes name) := by
      have hlowered : Normal name := hname ▸ hnormal.lower
      cases hlowered with
      | absolute hdescends =>
          rw [← isAbsolute_lowerAfter, hname] at hpathRelative
          cases hpathRelative
      | relative hrelative hclimbs => exact hclimbs
    have hrest := normalChars_append_slash hplain hbelow hnone (.inr ⟨hclimbs, rfl, by simp⟩)
    have hspell : spell false [] ++ name = name := rfl
    rw [if_neg fun hall => hnameNil hall.2.2, hspell] at hrest
    rw [hrest, nameIn, hlower]
    rfl

/-- Behind the place of a directory, the name of a path below the directory leads to that name. -/
theorem nameIn_normalChars (hplain : '\\' ∉ place) (hplace : place ≠ [])
    (hwhole : lowerAfter [] path = lowerAfter [] (asDirectory (normalChars place)) ++ name)
    (hnormal : Normal path)
    (hsome : asDirectory (normalChars place) ≠ [] ∨ path ≠ [] ∧ isAbsolute path = false) :
    nameIn (asDirectory (normalChars place)) (normalChars (place ++ '/' :: name)) = name := by
  by_cases hresolves :
      isAbsolute place = true ∨ resolve (isAbsolute place) (splitSlashes place) ≠ []
  · have hdirectory := asDirectory_of_resolved hplain rfl rfl hresolves
    have hbelow : isAbsolute (place ++ '/' :: name) = isAbsolute place := by
      obtain ⟨c, others, rfl⟩ := List.exists_cons_of_ne_nil hplace
      rfl
    obtain ⟨front, hfront⟩ := exists_spell hresolves
    have hempty : ¬ (isAbsolute place = false ∧
        resolve (isAbsolute place) (splitSlashes place) = [] ∧ name = []) := by
      rintro ⟨hrelative, hnone, -⟩
      rcases hresolves with habsolute | hne
      · rw [hrelative] at habsolute
        cases habsolute
      · exact hne hnone
    rw [hdirectory] at hwhole ⊢
    have hrest := descends_of_below (resolved_resolve _ (plain_splitSlashes hplain)) hfront
      (hfront ▸ hwhole) hnormal
    rw [normalChars_append_slash hplain hbelow rfl hrest, if_neg hempty, nameIn,
      strip_of_directory hfront name, lowerAfter_of_append hwhole]
    rfl
  · obtain ⟨hrelative, hnone⟩ := not_or.mp hresolves
    rw [Bool.not_eq_true] at hrelative
    rw [hrelative, ne_eq, not_not] at hnone
    exact nameIn_of_unresolved hplain hplace hrelative hnone hwhole hnormal hsome

end Nameless

end Back

section Directories

variable (server subdir resource : String)

/-- The resources root is a directory. -/
theorem exists_resourcesRoot :
    ∃ front, (ofDirectories server subdir resource).resourcesRoot = front ++ ['/'] :=
  exists_asDirectory (server.toList ++ '/' :: subdir.toList) (by simp)

/-- The path of a pause in a file of the resource that the backend names by the resource, and then
by the file's name in the resource. -/
theorem backendName_pausePath {path name : String}
    (hbelow : (ofDirectories server subdir resource).Below path name)
    (hplaced : (ofDirectories server subdir resource).Placed path) :
    (ofDirectories server subdir resource).backendName
      ((ofDirectories server subdir resource).pausePath (resource ++ "/" ++ name)) = name := by
  obtain ⟨front, hroot⟩ := exists_resourcesRoot server subdir resource
  let place := unifySlashes (front ++ '/' :: resource.toList)
  have hplain : '\\' ∉ place := backslash_not_mem_unifySlashes _
  have hplace : place ≠ [] := by simp [place, unifySlashes]
  have hdirectory : (ofDirectories server subdir resource).resourcePath =
      asDirectory (normalChars place) := by
    have hwritten : (ofDirectories server subdir resource).resourcePath = asDirectory (normalChars
        ((ofDirectories server subdir resource).resourcesRoot ++ resource.toList)) := rfl
    rw [hwritten, hroot, normalChars_unifySlashes, List.append_assoc]
    rfl
  have hwhole := append_of_stripStart hbelow
  have hname : '\\' ∉ name.toList := fun hmem =>
    (normal_normalChars path.toList).lower.plain (hwhole ▸ List.mem_append_right _ hmem)
  have hfile : ((ofDirectories server subdir resource).pausePath
      (resource ++ "/" ++ name)).toList = normalChars (place ++ '/' :: name.toList) := by
    have hwritten : ((ofDirectories server subdir resource).pausePath
        (resource ++ "/" ++ name)).toList = normalChars
          ((ofDirectories server subdir resource).resourcesRoot ++
            (resource ++ "/" ++ name).toList.dropWhile isSlash) := String.toList_ofList
    rw [hwritten, hroot, List.append_assoc, List.singleton_append, normalChars_dropWhile]
    apply normalChars_congr
    have hparts : front ++ '/' :: (resource ++ "/" ++ name).toList =
        (front ++ '/' :: resource.toList) ++ '/' :: name.toList := by simp
    have hslash : unifySlashes ('/' :: name.toList) = '/' :: name.toList :=
      unifySlashes_eq_self (by simpa using hname)
    have hagain : unifySlashes place = place := unifySlashes_eq_self hplain
    rw [hparts, unifySlashes_append, unifySlashes_append place, hslash, hagain]
  rw [backendName_eq, hfile, normalChars_of_normal (normal_normalChars _), hdirectory]
  rw [hdirectory] at hwhole
  have hsome : asDirectory (normalChars place) ≠ [] ∨
      normalChars path.toList ≠ [] ∧ isAbsolute (normalChars path.toList) = false :=
    hdirectory ▸ hplaced
  have hback := nameIn_normalChars hplain hplace hwhole (normal_normalChars _) hsome
  rw [nameIn] at hback
  rw [hback, String.ofList_toList]

end Directories

end DebugBridge.ResourceDirectories
