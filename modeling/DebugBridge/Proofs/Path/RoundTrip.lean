import DebugBridge.Proofs.Path.Resource

/-!
# From the backend's name to the editor's path and back

Whatever a resource's directories are, a path that stays below the resource is resolved on its own
behind them.  The editor's path of such a path is named by its normal form, in lower case.
-/

namespace DebugBridge.Path

/-- A path read as a relative one: its slashes are of one kind, and none is in front. -/
def relativeChars (path : List Char) : List Char := (unifySlashes path).dropWhile (· == '/')

/-! ## Behind a directory -/

section Behind

variable {absolute : Bool} {kept segments others : List (List Char)} {segment path : List Char}

/-- A step up that is kept is never taken back. -/
theorem parent_mem_resolveSegment (hparent : parent ∈ kept) :
    parent ∈ resolveSegment false kept segment := by
  unfold resolveSegment
  split
  · exact hparent
  · split
    · cases kept with
      | nil => cases hparent
      | cons last before =>
          simp only
          split
          · exact hparent
          · split
            · exact List.mem_cons_of_mem _ hparent
            · next hlast => exact (List.mem_cons.mp hparent).resolve_left (Ne.symm hlast)
    · exact List.mem_cons_of_mem _ hparent

theorem parent_mem_foldl (hparent : parent ∈ kept) :
    parent ∈ segments.foldl (resolveSegment false) kept := by
  induction segments generalizing kept with
  | nil => exact hparent
  | cons segment segments ih => exact ih (parent_mem_resolveSegment hparent)

/-- A segment that does not lead above a directory does the same behind every directory. -/
theorem resolveSegment_append (base : List (List Char))
    (hbelow : parent ∉ resolveSegment false kept segment) :
    resolveSegment absolute (kept ++ base) segment =
      resolveSegment false kept segment ++ base := by
  unfold resolveSegment at hbelow ⊢
  split
  · rfl
  · next hskipped =>
      rw [if_neg hskipped] at hbelow
      split
      · next hup =>
          rw [if_pos hup] at hbelow
          cases kept with
          | nil =>
              have hclimbs : parent ∈ [segment] := by simp [hup, parent]
              exact absurd hclimbs hbelow
          | cons last before =>
              simp only [List.cons_append] at hbelow ⊢
              split
              · rfl
              · next hdrive =>
                  rw [if_neg hdrive] at hbelow
                  split
                  · next hlast =>
                      have hclimbs : parent ∈ segment :: last :: before := by simp [hup, parent]
                      rw [if_pos hlast, if_neg Bool.false_ne_true] at hbelow
                      exact absurd hclimbs hbelow
                  · rfl
      · rfl

theorem foldl_append_base (base : List (List Char))
    (hbelow : parent ∉ segments.foldl (resolveSegment false) kept) :
    segments.foldl (resolveSegment absolute) (kept ++ base) =
      segments.foldl (resolveSegment false) kept ++ base := by
  induction segments generalizing kept with
  | nil => rfl
  | cons segment segments ih =>
      have hfirst : parent ∉ resolveSegment false kept segment := mt parent_mem_foldl hbelow
      rw [List.foldl_cons, resolveSegment_append base hfirst, ih hbelow, List.foldl_cons]

/-- What is resolved stays as it is. -/
theorem Resolved.resolve_eq (hresolved : Resolved absolute segments) :
    resolve absolute segments = segments := by
  obtain ⟨steps, names, rfl, hnames, hroot⟩ := hresolved
  have hnamed : named (List.replicate steps parent ++ names) =
      List.replicate steps parent ++ names := by
    refine List.filter_eq_self.mpr fun segment hsegment => ?_
    rcases List.mem_append.mp hsegment with hstep | hname
    · rw [List.eq_of_mem_replicate hstep]
      rfl
    · simpa using (hnames segment hname).ne_nil
  have hfold : (List.replicate steps parent ++ names).foldl (resolveSegment absolute) [] =
      (List.replicate steps parent ++ names).reverse := by
    cases absolute with
    | true =>
        obtain rfl := hroot rfl
        have hdescends := Descends.of_names hnames (.inl rfl)
        rw [List.append_nil] at hdescends
        have hall := foldl_descends hdescends true []
        have hnames : named names = names := hnamed
        rw [List.append_nil, hnames] at hall
        exact hall
    | false =>
        have hclimbs := Climbs.of_names steps hnames (.inl rfl)
        rw [List.append_nil] at hclimbs
        have hall := foldl_climbs hclimbs (List.forall_mem_nil _)
        rwa [List.append_nil, hnamed] at hall
  rw [resolve, hfold, List.reverse_reverse]

/-- Behind a directory that is resolved, what stays below it is resolved on its own. -/
theorem resolve_append (hresolved : Resolved absolute segments)
    (hbelow : parent ∉ resolve false others) :
    resolve absolute (segments ++ others) = segments ++ resolve false others := by
  have hbase : segments.foldl (resolveSegment absolute) [] = segments.reverse := by
    rw [← List.reverse_eq_iff]
    exact hresolved.resolve_eq
  have hkept : parent ∉ others.foldl (resolveSegment false) [] := by
    simpa [resolve] using hbelow
  have hfold : others.foldl (resolveSegment absolute) segments.reverse =
      others.foldl (resolveSegment false) [] ++ segments.reverse :=
    foldl_append_base segments.reverse hkept
  rw [resolve, List.foldl_append, hbase, hfold, List.reverse_append, List.reverse_reverse, resolve]

theorem isAbsolute_spell_append (hplain : ∀ segment ∈ segments, '/' ∉ segment ∧ segment ≠ [])
    (hrelative : isAbsolute path = false) :
    isAbsolute (spell absolute segments ++ path) = absolute := by
  cases absolute with
  | true => rfl
  | false =>
      cases segments with
      | nil => exact hrelative
      | cons segment segments =>
          obtain ⟨hslash, hnil⟩ := hplain segment List.mem_cons_self
          obtain ⟨c, rest, rfl⟩ := List.exists_cons_of_ne_nil hnil
          have hc : c ≠ '/' := by
            rintro rfl
            exact hslash List.mem_cons_self
          simp [spell, spellAll, isAbsolute, hc]

theorem resolve_spell_append (hresolved : Resolved absolute segments)
    (hbelow : parent ∉ resolve false (splitSlashes path)) :
    resolve absolute (splitSlashes (spell absolute segments ++ path)) =
      segments ++ resolve false (splitSlashes path) := by
  have hslash : ∀ segment ∈ segments, '/' ∉ segment := fun segment hsegment =>
    (hresolved.plain segment hsegment).1
  have hsplit := splitSlashes_spellAll hslash path
  rw [← resolve_append hresolved hbelow, ← hsplit]
  cases absolute with
  | true =>
      -- The slash of the root has nothing in front of it.
      have hroot : splitSlashes (spell true segments ++ path) =
          [] :: splitSlashes (spellAll segments ++ path) := by
        simp [spell, splitSlashes]
      rw [hroot, resolve, List.foldl_cons, resolveSegment_nil, resolve]
  | false => rfl

theorem Resolved.backslash (hresolved : Resolved absolute segments) :
    ∀ segment ∈ segments, '\\' ∉ segment := by
  obtain ⟨steps, names, rfl, hnames, -⟩ := hresolved
  intro segment hsegment
  rcases List.mem_append.mp hsegment with hstep | hname
  · rw [List.eq_of_mem_replicate hstep]
    decide
  · exact (hnames segment hname).backslash

/-- The normal form of a path that stays below a directory is spelled behind the directory. -/
theorem normalChars_spell_append (hresolved : Resolved absolute segments) (hplain : '\\' ∉ path)
    (hrelative : isAbsolute path = false) (hsome : resolve false (splitSlashes path) ≠ [])
    (hbelow : parent ∉ resolve false (splitSlashes path)) :
    normalChars (spell absolute segments ++ path) =
      spell absolute segments ++ normalChars path := by
  have hpath : path ≠ [] := by
    rintro rfl
    exact hsome rfl
  have hunified : unifySlashes (spell absolute segments ++ path) =
      spell absolute segments ++ path := by
    apply unifySlashes_eq_self
    cases absolute <;> simpa [spell, spellAll, hplain] using hresolved.backslash
  have hkept := (resolved_resolve false (plain_splitSlashes hplain)).plain
  have hopen : joinSlashes (resolve false (splitSlashes path)) ≠ [] := by
    have hrooted : rooted false (resolve false (splitSlashes path)) ≠ [] :=
      rooted_ne_nil (fun segment hsegment => (hkept segment hsegment).2) (.inr hsome)
    exact hrooted
  have hlong : endsInSlash path = true → 1 < path.length := one_lt_length_of_relative hrelative
  rw [normalChars_eq, normalChars_eq, hunified, unifySlashes_eq_self hplain, hrelative,
    isAbsolute_spell_append hresolved.plain hrelative, resolve_spell_append hresolved hbelow,
    rooted_append absolute segments hsome, endsInSlash_append hpath, closed_append _ hopen]
  cases hends : endsInSlash path with
  | false => rfl
  | true =>
      have hlonger : 1 < (spell absolute segments ++ path).length := by
        have := hlong hends
        rw [List.length_append]
        omega
      simp only [hlong hends, hlonger, decide_true, Bool.and_self, if_true]
      rfl

end Behind

/-! ## Relative paths -/

section Relative

variable (path : List Char)

theorem backslash_not_mem_relativeChars : '\\' ∉ relativeChars path := fun hmem =>
  backslash_not_mem_unifySlashes path ((List.dropWhile_sublist _).subset hmem)

theorem isAbsolute_relativeChars : isAbsolute (relativeChars path) = false := by
  unfold isAbsolute
  cases hhead : (relativeChars path).head? with
  | none => rfl
  | some c =>
      have hc := List.head?_dropWhile_not (· == '/') (unifySlashes path)
      have hsame : ((unifySlashes path).dropWhile (· == '/')).head? = some c := hhead
      rw [hsame] at hc
      simpa using hc

end Relative

end DebugBridge.Path

namespace DebugBridge.ResourceDirectories

open DebugBridge.Path Text

section Directories

variable (server subdir resource : String)

/-- The directory of a resource is spelled out, or is nothing. -/
theorem exists_resourcePath_eq :
    ∃ absolute segments, Resolved absolute segments ∧
      (ofDirectories server subdir resource).resourcePath = spell absolute segments := by
  let place := unifySlashes
    ((ofDirectories server subdir resource).resourcesRoot ++ resource.toList)
  have hplain : '\\' ∉ place := backslash_not_mem_unifySlashes _
  have hresolved := resolved_resolve (isAbsolute place) (plain_splitSlashes hplain)
  have hdirectory : (ofDirectories server subdir resource).resourcePath =
      asDirectory (normalChars place) := by
    rw [normalChars_unifySlashes]
    rfl
  rw [hdirectory]
  by_cases hsome : isAbsolute place = true ∨ resolve (isAbsolute place) (splitSlashes place) ≠ []
  · exact ⟨_, _, hresolved, asDirectory_of_resolved hplain rfl rfl hsome⟩
  · obtain ⟨hrelative, hnone⟩ := not_or.mp hsome
    rw [Bool.not_eq_true] at hrelative
    rw [hrelative, ne_eq, not_not] at hnone
    have hnothing : ∀ absolute, Resolved absolute [] := fun absolute =>
      ⟨0, [], rfl, by simp, fun _ => rfl⟩
    rcases asDirectory_of_unresolved hplain hrelative hnone with hslash | hnil
    · exact ⟨true, [], hnothing true, hslash⟩
    · exact ⟨false, [], hnothing false, hnil⟩

/-- What is below a directory is named there by its own lower case. -/
theorem strip_of_spell (absolute : Bool) (segments : List (List Char)) (name : List Char) :
    stripStart (lowerAfter [] (spell absolute segments))
      (lowerAfter [] (spell absolute segments ++ name)) = some (lowerAfter [] name) := by
  by_cases hsome : absolute = true ∨ segments ≠ []
  · obtain ⟨front, hfront⟩ := exists_spell hsome
    exact strip_of_directory hfront name
  · obtain ⟨hrelative, hnone⟩ := not_or.mp hsome
    rw [Bool.not_eq_true] at hrelative
    rw [hrelative, not_not.mp hnone]
    rfl

/-- The editor's path of a path that stays below the resource is named by the normal form of that
path, in lower case. -/
theorem backendName_editorPath (path : String)
    (hsome : resolve false (splitSlashes (relativeChars path.toList)) ≠ [])
    (hbelow : parent ∉ resolve false (splitSlashes (relativeChars path.toList))) :
    (ofDirectories server subdir resource).backendName
        ((ofDirectories server subdir resource).editorPath path) =
      lowercase (normalForm (String.ofList (relativeChars path.toList))) := by
  obtain ⟨absolute, segments, hresolved, hdirectory⟩ :=
    exists_resourcePath_eq server subdir resource
  have hfile : ((ofDirectories server subdir resource).editorPath path).toList =
      spell absolute segments ++ relativeChars path.toList := by
    rw [← hdirectory]
    exact String.toList_ofList
  have hnormal := normalChars_spell_append hresolved (backslash_not_mem_relativeChars _)
    (isAbsolute_relativeChars _) hsome hbelow
  have hlower : lowercase (normalForm (String.ofList (relativeChars path.toList))) =
      String.ofList (lowerAfter [] (normalChars (relativeChars path.toList))) := by
    rw [lowercase, normalForm, String.toList_ofList, String.toList_ofList]
  rw [backendName_eq, hfile, hnormal, hdirectory, strip_of_spell, Option.getD_some, hlower]

end Directories

/-- Steps up inside the resource, slashes of both kinds, and capital sigmas, of which only the last
letter of a whole segment is a final one. -/
theorem backendName_editorPath_of_sigmas :
    resolve false (splitSlashes (relativeChars "\\//Lib\\..\\ΟΔΟΣ/.//ΣΑΣ.Lua".toList)) ≠ [] ∧
    parent ∉ resolve false (splitSlashes (relativeChars "\\//Lib\\..\\ΟΔΟΣ/.//ΣΑΣ.Lua".toList)) ∧
    (ofDirectories "C:/MTA" "mods\\deathmatch" "Debug/").backendName
        ((ofDirectories "C:/MTA" "mods\\deathmatch" "Debug/").editorPath
          "\\//Lib\\..\\ΟΔΟΣ/.//ΣΑΣ.Lua") = "οδος/σασ.lua" := by
  have hsome :
      resolve false (splitSlashes (relativeChars "\\//Lib\\..\\ΟΔΟΣ/.//ΣΑΣ.Lua".toList)) ≠ [] := by
    decide
  have hbelow : parent ∉
      resolve false (splitSlashes (relativeChars "\\//Lib\\..\\ΟΔΟΣ/.//ΣΑΣ.Lua".toList)) := by
    decide
  refine ⟨hsome, hbelow, (backendName_editorPath _ _ _ _ hsome hbelow).trans ?_⟩
  decide +kernel

end DebugBridge.ResourceDirectories
