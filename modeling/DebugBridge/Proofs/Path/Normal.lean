import DebugBridge.Proofs.Path.Segments

/-!
# Normal forms

What a normal form looks like, that it stays as it is, and what becomes of a path behind a directory
once the directory is resolved.
-/

namespace DebugBridge.Path

/-! ## Shapes -/

/-- The step up. -/
def parent : List Char := ['.', '.']

/-- A segment that names a file or a directory. -/
structure IsName (segment : List Char) : Prop where
  ne_nil : segment ≠ []
  ne_self : segment ≠ ['.']
  ne_parent : segment ≠ parent
  slash : '/' ∉ segment
  backslash : '\\' ∉ segment

/-- Names, and perhaps nothing behind the last slash. -/
def Descends : List (List Char) → Prop
  | [] => True
  | [segment] => segment = [] ∨ IsName segment
  | segment :: next :: segments => IsName segment ∧ Descends (next :: segments)

/-- Steps up, and then names. -/
def Climbs : List (List Char) → Prop
  | [] => True
  | segment :: segments => segment = parent ∧ Climbs segments ∨ Descends (segment :: segments)

/-- What normal forms look like. -/
inductive Normal : List Char → Prop
  | absolute {rest : List Char} (hdescends : Descends (splitSlashes rest)) : Normal ('/' :: rest)
  | relative {path : List Char} (hrelative : isAbsolute path = false)
      (hclimbs : Climbs (splitSlashes path)) : Normal path

section Shapes

variable {segment : List Char} {segments others : List (List Char)}

theorem Descends.tail (hdescends : Descends (segment :: segments)) : Descends segments := by
  cases segments with
  | nil => trivial
  | cons next segments => exact hdescends.2

theorem Descends.climbs (hdescends : Descends segments) : Climbs segments := by
  cases segments with
  | nil => trivial
  | cons segment segments => exact .inr hdescends

theorem Descends.of_append (hdescends : Descends (segments ++ others)) : Descends others := by
  induction segments with
  | nil => exact hdescends
  | cons segment segments ih => exact ih hdescends.tail

/-- Names may only be followed by names, and steps up only follow steps up. -/
theorem Climbs.of_append (hclimbs : Climbs (segments ++ others)) :
    Descends others ∨ Climbs others ∧ ∀ segment ∈ segments, segment = parent := by
  induction segments with
  | nil => exact .inr ⟨hclimbs, by simp⟩
  | cons segment segments ih =>
      rcases hclimbs with ⟨rfl, hclimbs⟩ | hdescends
      · refine (ih hclimbs).imp_right fun ⟨hothers, hall⟩ => ⟨hothers, ?_⟩
        rw [List.forall_mem_cons]
        exact ⟨rfl, hall⟩
      · exact .inl (hdescends.tail).of_append

theorem Descends.of_names (hnames : ∀ segment ∈ segments, IsName segment)
    (hothers : others = [] ∨ others = [[]]) : Descends (segments ++ others) := by
  induction segments with
  | nil =>
      rcases hothers with rfl | rfl
      · trivial
      · exact .inl rfl
  | cons segment segments ih =>
      rw [List.forall_mem_cons] at hnames
      have hrest := ih hnames.2
      rw [List.cons_append]
      cases hcons : segments ++ others with
      | nil => exact .inr hnames.1
      | cons next rest => exact ⟨hnames.1, hcons ▸ hrest⟩

theorem Climbs.of_names (steps : Nat) (hnames : ∀ segment ∈ segments, IsName segment)
    (hothers : others = [] ∨ others = [[]]) :
    Climbs (List.replicate steps parent ++ segments ++ others) := by
  induction steps with
  | zero => exact (Descends.of_names hnames hothers).climbs
  | succ steps ih => exact .inl ⟨rfl, ih⟩

/-- Segments of a normal form hold no slash of either kind. -/
theorem Descends.plain (hdescends : Descends segments) :
    ∀ segment ∈ segments, '/' ∉ segment ∧ '\\' ∉ segment := by
  induction segments with
  | nil => simp
  | cons segment segments ih =>
      rw [List.forall_mem_cons]
      refine ⟨?_, ih hdescends.tail⟩
      have hsegment : segment = [] ∨ IsName segment := by
        cases segments with
        | nil => exact hdescends
        | cons next segments => exact .inr hdescends.1
      rcases hsegment with rfl | hname
      · simp
      · exact ⟨hname.slash, hname.backslash⟩

theorem Climbs.plain (hclimbs : Climbs segments) :
    ∀ segment ∈ segments, '/' ∉ segment ∧ '\\' ∉ segment := by
  induction segments with
  | nil => simp
  | cons segment segments ih =>
      rcases hclimbs with ⟨rfl, hclimbs⟩ | hdescends
      · rw [List.forall_mem_cons]
        exact ⟨by decide, ih hclimbs⟩
      · exact hdescends.plain

/-- The segments that are not empty. -/
def named (segments : List (List Char)) : List (List Char) :=
  segments.filter fun segment => !segment.isEmpty

theorem ne_nil_of_mem_named (hsegment : segment ∈ named segments) : segment ≠ [] := by
  simpa using (List.mem_filter.mp hsegment).2

theorem named_cons (hne : segment ≠ []) :
    named (segment :: segments) = segment :: named segments := by
  rw [named, List.filter_cons_of_pos (by simpa using hne), named]

/-- Only the last segment may be empty. -/
theorem Descends.named_eq (hdescends : Descends segments) :
    segments = named segments ∨ segments = named segments ++ [[]] := by
  induction segments with
  | nil => exact .inl rfl
  | cons segment segments ih =>
      cases segments with
      | nil =>
          rcases hdescends with rfl | hname
          · exact .inr rfl
          · left
            rw [named_cons hname.ne_nil]
            rfl
      | cons next segments =>
          rw [named_cons hdescends.1.ne_nil, List.cons_append]
          exact (ih hdescends.2).imp (congrArg (segment :: ·)) (congrArg (segment :: ·))

theorem Climbs.named_eq (hclimbs : Climbs segments) :
    segments = named segments ∨ segments = named segments ++ [[]] := by
  induction segments with
  | nil => exact .inl rfl
  | cons segment segments ih =>
      rcases hclimbs with ⟨rfl, hclimbs⟩ | hdescends
      · have hne : parent ≠ [] := by decide
        rw [named_cons hne, List.cons_append]
        exact (ih hclimbs).imp (congrArg (parent :: ·)) (congrArg (parent :: ·))
      · exact hdescends.named_eq

end Shapes

/-! ## Resolving -/

section Resolve

variable {absolute : Bool} {kept segments : List (List Char)} {segment : List Char}

theorem resolveSegment_stay (absolute : Bool) (kept : List (List Char))
    (hsegment : segment = [] ∨ segment = ['.']) :
    resolveSegment absolute kept segment = kept := by
  simp [resolveSegment, hsegment]

theorem resolveSegment_descend (absolute : Bool) (kept : List (List Char)) (hnil : segment ≠ [])
    (hself : segment ≠ ['.']) (hparent : segment ≠ parent) :
    resolveSegment absolute kept segment = segment :: kept := by
  have hup : segment ≠ ['.', '.'] := hparent
  simp [resolveSegment, hnil, hself, hup]

theorem resolveSegment_nil (absolute : Bool) (kept : List (List Char)) :
    resolveSegment absolute kept [] = kept := resolveSegment_stay absolute kept (.inl rfl)

theorem resolveSegment_name (hname : IsName segment) (absolute : Bool)
    (kept : List (List Char)) : resolveSegment absolute kept segment = segment :: kept :=
  resolveSegment_descend absolute kept hname.ne_nil hname.ne_self hname.ne_parent

/-- A relative path goes up and up. -/
theorem resolveSegment_parent (hkept : ∀ segment ∈ kept, segment = parent) :
    resolveSegment false kept parent = parent :: kept := by
  cases kept with
  | nil => rfl
  | cons last before =>
      obtain rfl := hkept last List.mem_cons_self
      rfl

theorem foldl_descends (hdescends : Descends segments) (absolute : Bool)
    (kept : List (List Char)) :
    segments.foldl (resolveSegment absolute) kept = (named segments).reverse ++ kept := by
  induction segments generalizing kept with
  | nil => rfl
  | cons segment segments ih =>
      rw [List.foldl_cons, ih hdescends.tail]
      by_cases hnil : segment = []
      · subst hnil
        rw [resolveSegment_nil]
        rfl
      · have hname : IsName segment := by
          cases segments with
          | nil => exact hdescends.resolve_left hnil
          | cons next segments => exact hdescends.1
        rw [resolveSegment_name hname, named_cons hnil]
        simp

theorem foldl_climbs (hclimbs : Climbs segments) (hkept : ∀ segment ∈ kept, segment = parent) :
    segments.foldl (resolveSegment false) kept = (named segments).reverse ++ kept := by
  induction segments generalizing kept with
  | nil => rfl
  | cons segment segments ih =>
      rcases hclimbs with ⟨rfl, hclimbs⟩ | hdescends
      · have hne : parent ≠ [] := by decide
        have hnext : ∀ segment ∈ parent :: kept, segment = parent := by
          rw [List.forall_mem_cons]
          exact ⟨rfl, hkept⟩
        rw [List.foldl_cons, resolveSegment_parent hkept, ih hclimbs hnext, named_cons hne]
        simp
      · exact foldl_descends hdescends false kept

/-- What is left of a path: steps up if it is relative, and names. -/
def Resolved (absolute : Bool) (segments : List (List Char)) : Prop :=
  ∃ steps names, segments = List.replicate steps parent ++ names ∧
    (∀ segment ∈ names, IsName segment) ∧ (absolute = true → steps = 0)

theorem Resolved.push (hresolved : Resolved absolute segments) (hname : IsName segment) :
    Resolved absolute (segments ++ [segment]) := by
  obtain ⟨steps, names, rfl, hnames, hroot⟩ := hresolved
  refine ⟨steps, names ++ [segment], List.append_assoc _ _ _, ?_, hroot⟩
  rw [List.forall_mem_append]
  exact ⟨hnames, by simpa using hname⟩

theorem Resolved.pop (hresolved : Resolved absolute (segments ++ [segment])) :
    Resolved absolute segments := by
  obtain ⟨steps, names, heq, hnames, hroot⟩ := hresolved
  rcases List.eq_nil_or_concat names with rfl | ⟨front, last, rfl⟩
  · cases steps with
    | zero => simp at heq
    | succ steps =>
        rw [List.append_nil, List.replicate_succ'] at heq
        refine ⟨steps, [], ?_, by simp, fun habsolute => ?_⟩
        · rw [List.append_nil]
          exact (List.append_inj_left' heq rfl)
        · exact absurd (hroot habsolute) (Nat.succ_ne_zero steps)
  · rw [List.concat_eq_append, ← List.append_assoc] at heq
    refine ⟨steps, front, List.append_inj_left' heq rfl, fun name hname => ?_, hroot⟩
    exact hnames name (by simp [hname])

/-- Behind steps up, one more. -/
theorem Resolved.climb (hresolved : Resolved false (segments ++ [parent])) :
    Resolved false (segments ++ [parent] ++ [parent]) := by
  obtain ⟨steps, names, heq, hnames, -⟩ := hresolved
  rcases List.eq_nil_or_concat names with rfl | ⟨front, last, rfl⟩
  · rw [heq, List.append_nil, ← List.replicate_succ']
    exact ⟨steps + 1, [], (List.append_nil _).symm, by simp, by simp⟩
  · rw [List.concat_eq_append, ← List.append_assoc] at heq
    have hlast := List.append_inj_right' heq rfl
    have hname := hnames last (by simp)
    exact absurd (List.cons.inj hlast).1.symm hname.ne_parent

theorem resolved_resolveSegment (hkept : Resolved absolute kept.reverse)
    (hplain : '/' ∉ segment ∧ '\\' ∉ segment) :
    Resolved absolute (resolveSegment absolute kept segment).reverse := by
  unfold resolveSegment
  split
  · exact hkept
  · next hskipped =>
      obtain ⟨hnil, hself⟩ := not_or.mp hskipped
      split
      · next hup =>
          cases kept with
          | nil =>
              cases absolute with
              | true => exact hkept
              | false => exact ⟨1, [], by simp [hup, parent], by simp, by simp⟩
          | cons last before =>
              rw [List.reverse_cons] at hkept
              simp only
              split
              · rw [List.reverse_cons]
                exact hkept
              · split
                · next hlast =>
                    cases absolute with
                    | true =>
                        rw [if_pos rfl, List.reverse_cons]
                        exact hkept
                    | false =>
                        rw [hlast] at hkept
                        rw [if_neg Bool.false_ne_true, List.reverse_cons, List.reverse_cons, hup,
                          hlast]
                        exact hkept.climb
                · exact hkept.pop
      · next hup =>
          rw [List.reverse_cons]
          exact hkept.push ⟨hnil, hself, hup, hplain.1, hplain.2⟩

theorem resolved_resolve (absolute : Bool)
    (hplain : ∀ segment ∈ segments, '/' ∉ segment ∧ '\\' ∉ segment) :
    Resolved absolute (resolve absolute segments) := by
  have hfold : ∀ kept : List (List Char), Resolved absolute kept.reverse →
      Resolved absolute (segments.foldl (resolveSegment absolute) kept).reverse := by
    induction segments with
    | nil => exact fun _ hkept => hkept
    | cons segment segments ih =>
        rw [List.forall_mem_cons] at hplain
        exact fun kept hkept => ih hplain.2 _ (resolved_resolveSegment hkept hplain.1)
  exact hfold [] ⟨0, [], rfl, by simp, fun _ => rfl⟩

theorem Resolved.plain (hresolved : Resolved absolute segments) :
    ∀ segment ∈ segments, '/' ∉ segment ∧ segment ≠ [] := by
  obtain ⟨steps, names, rfl, hnames, -⟩ := hresolved
  intro segment hsegment
  rcases List.mem_append.mp hsegment with hstep | hname
  · rw [List.eq_of_mem_replicate hstep]
    decide
  · exact ⟨(hnames segment hname).slash, (hnames segment hname).ne_nil⟩

end Resolve

/-! ## Normal forms -/

section NormalForms

variable {absolute : Bool} {front path rest : List Char} {segments : List (List Char)}

theorem unifySlashes_eq_self (hplain : '\\' ∉ path) : unifySlashes path = path := by
  have hsame : ∀ c ∈ path, (if c = '\\' then '/' else c) = id c := by
    intro c hc
    refine if_neg ?_
    rintro rfl
    exact hplain hc
  rw [unifySlashes, List.map_congr_left hsame, List.map_id]

theorem backslash_not_mem_unifySlashes (path : List Char) : '\\' ∉ unifySlashes path := by
  rw [unifySlashes, List.mem_map]
  rintro ⟨c, -, hc⟩
  split at hc
  · exact absurd hc (by decide)
  · next hne => exact hne hc

/-- The segments of a path whose slashes are all of one kind. -/
theorem plain_splitSlashes (hplain : '\\' ∉ path) :
    ∀ segment ∈ splitSlashes path, '/' ∉ segment ∧ '\\' ∉ segment := by
  intro segment hsegment
  obtain ⟨hslash, hchars⟩ := mem_of_mem_splitSlashes hsegment
  exact ⟨hslash, fun hback => hplain (hchars _ hback)⟩

theorem mem_joinSlashes {c : Char} (hc : c ∈ joinSlashes segments) :
    c = '/' ∨ ∃ segment ∈ segments, c ∈ segment := by
  induction segments with
  | nil => cases hc
  | cons segment segments ih =>
      cases segments with
      | nil => exact .inr ⟨segment, List.mem_cons_self, hc⟩
      | cons next segments =>
          rw [joinSlashes, List.mem_append, List.mem_cons] at hc
          · rcases hc with hc | rfl | hc
            · exact .inr ⟨segment, List.mem_cons_self, hc⟩
            · exact .inl rfl
            · rcases ih hc with hslash | ⟨other, hother, hmem⟩
              · exact .inl hslash
              · exact .inr ⟨other, List.mem_cons_of_mem _ hother, hmem⟩
          · simp

theorem backslash_not_mem_of_climbs (hclimbs : Climbs (splitSlashes path)) : '\\' ∉ path := by
  intro hback
  rw [← joinSlashes_splitSlashes path] at hback
  rcases mem_joinSlashes hback with heq | ⟨segment, hsegment, hmem⟩
  · exact absurd heq (by decide)
  · exact (hclimbs.plain segment hsegment).2 hmem

theorem Normal.plain (hnormal : Normal path) : '\\' ∉ path := by
  cases hnormal with
  | absolute hdescends =>
      rw [List.mem_cons, not_or]
      exact ⟨by decide, backslash_not_mem_of_climbs hdescends.climbs⟩
  | relative hrelative hclimbs => exact backslash_not_mem_of_climbs hclimbs

/-- A path of segments is normal, and so is the directory of the same name. -/
theorem normal_rooted (hresolved : Resolved absolute segments) :
    Normal (rooted absolute segments) ∧ Normal (closed (rooted absolute segments)) := by
  have hplain := hresolved.plain
  obtain ⟨steps, names, rfl, hnames, hroot⟩ := hresolved
  have hslash : ∀ segment ∈ List.replicate steps parent ++ names, '/' ∉ segment :=
    fun segment hsegment => (hplain segment hsegment).1
  have hnil : ∀ segment ∈ List.replicate steps parent ++ names, segment ≠ [] :=
    fun segment hsegment => (hplain segment hsegment).2
  by_cases hempty : List.replicate steps parent ++ names = []
  · rw [hempty]
    cases absolute with
    | true => exact ⟨.absolute (.inl rfl), .absolute (.inl rfl)⟩
    | false => exact ⟨.relative rfl (.inr (.inl rfl)), .absolute (.inl rfl)⟩
  · rw [closed_rooted hslash hnil (.inr hempty)]
    have hjoined := splitSlashes_joinSlashes hslash hempty
    have hspelled := splitSlashes_spellAll hslash []
    rw [List.append_nil] at hspelled
    cases absolute with
    | true =>
        obtain rfl := hroot rfl
        refine ⟨.absolute ?_, ?_⟩
        · rw [hjoined, ← List.append_nil (List.replicate 0 parent ++ names)]
          exact Descends.of_names hnames (.inl rfl)
        · refine Normal.absolute (?_ : Descends (splitSlashes (spellAll _)))
          rw [hspelled]
          exact Descends.of_names hnames (.inr rfl)
    | false =>
        obtain ⟨first, others, hcons⟩ := List.exists_cons_of_ne_nil hempty
        have hfirst := hplain first (hcons ▸ List.mem_cons_self)
        obtain ⟨c, cs, rfl⟩ := List.exists_cons_of_ne_nil hfirst.2
        have hc : c ≠ '/' := fun heq => hfirst.1 (heq ▸ List.mem_cons_self)
        refine ⟨.relative ?_ ?_, .relative ?_ ?_⟩
        · cases others <;> simp [rooted, hcons, joinSlashes, isAbsolute, hc]
        · rw [rooted, if_neg Bool.false_ne_true, hjoined,
            ← List.append_nil (List.replicate steps parent ++ names)]
          exact Climbs.of_names steps hnames (.inl rfl)
        · simp [spell, hcons, spellAll, isAbsolute, hc]
        · rw [spell, if_neg Bool.false_ne_true, List.nil_append, hspelled]
          exact Climbs.of_names steps hnames (.inr rfl)

theorem normalChars_eq (path : List Char) :
    normalChars path =
      if endsInSlash (unifySlashes path) && 1 < (unifySlashes path).length then
        closed (rooted (isAbsolute (unifySlashes path))
          (resolve (isAbsolute (unifySlashes path)) (splitSlashes (unifySlashes path))))
      else rooted (isAbsolute (unifySlashes path))
        (resolve (isAbsolute (unifySlashes path)) (splitSlashes (unifySlashes path))) := rfl

theorem normal_normalChars (path : List Char) : Normal (normalChars path) := by
  have hresolved := resolved_resolve (isAbsolute (unifySlashes path))
    (plain_splitSlashes (backslash_not_mem_unifySlashes path))
  obtain ⟨hopen, hclosed⟩ := normal_rooted hresolved
  rw [normalChars_eq]
  split
  · exact hclosed
  · exact hopen

theorem endsInSlash_spellAll (segments : List (List Char)) :
    endsInSlash ('/' :: spellAll segments) = true := by
  rcases List.eq_nil_or_concat segments with rfl | ⟨front, last, rfl⟩
  · rfl
  · have hspell : '/' :: spellAll (front ++ [last]) =
        ('/' :: spellAll front ++ last) ++ ['/'] := by
      simp [spellAll]
    rw [List.concat_eq_append, hspell, endsInSlash_append_slash]

/-- The path below a directory is resolved behind it. -/
theorem resolve_append_slash (hdirectory : resolve absolute (splitSlashes front) = segments)
    (hrest : Descends (splitSlashes rest) ∨
      Climbs (splitSlashes rest) ∧ absolute = false ∧ ∀ segment ∈ segments, segment = parent) :
    resolve absolute (splitSlashes (front ++ '/' :: rest)) =
      segments ++ named (splitSlashes rest) := by
  have hkept : (splitSlashes front).foldl (resolveSegment absolute) [] = segments.reverse := by
    rw [← hdirectory, resolve, List.reverse_reverse]
  have hfold : (splitSlashes rest).foldl (resolveSegment absolute) segments.reverse =
      (named (splitSlashes rest)).reverse ++ segments.reverse := by
    rcases hrest with hdescends | ⟨hclimbs, rfl, hparents⟩
    · exact foldl_descends hdescends absolute _
    · exact foldl_climbs hclimbs fun segment hsegment =>
        hparents segment (List.mem_reverse.mp hsegment)
  rw [resolve, splitSlashes_append_slash, List.foldl_append, hkept, hfold, List.reverse_append,
    List.reverse_reverse, List.reverse_reverse]

/-- Behind a slash, what ends in a name ends in no slash. -/
theorem endsInSlash_of_named (hclimbs : Climbs (splitSlashes rest))
    (hnamed : splitSlashes rest = named (splitSlashes rest)) (hrest : rest ≠ [])
    (front : List Char) : endsInSlash (front ++ '/' :: rest) = false := by
  have hlast : endsInSlash (joinSlashes (named (splitSlashes rest))) = false :=
    endsInSlash_joinSlashes
      (fun segment hsegment => (hclimbs.plain segment (List.mem_filter.mp hsegment).1).1)
      fun segment hsegment => ne_nil_of_mem_named hsegment
  have hsame := @endsInSlash_append (front ++ ['/']) rest hrest
  rw [← hnamed, joinSlashes_splitSlashes] at hlast
  rw [List.append_assoc, List.singleton_append, hlast] at hsame
  exact hsame

/-- What ends in a slash is its names, a slash behind each. -/
theorem spellAll_named (hnamed : splitSlashes rest = named (splitSlashes rest) ++ [[]]) :
    spellAll (named (splitSlashes rest)) = rest := by
  have hjoined := joinSlashes_splitSlashes rest
  rw [hnamed, joinSlashes_append _ (List.cons_ne_nil [] [])] at hjoined
  simpa [joinSlashes] using hjoined

/-- What is below a resolved directory is spelled behind it.  If the directory is nothing at all
and nothing is below it, its slash is left. -/
theorem normalChars_append_slash (hplain : '\\' ∉ front)
    (habsolute : isAbsolute (front ++ '/' :: rest) = absolute)
    (hdirectory : resolve absolute (splitSlashes front) = segments)
    (hrest : Descends (splitSlashes rest) ∨
      Climbs (splitSlashes rest) ∧ absolute = false ∧ ∀ segment ∈ segments, segment = parent) :
    normalChars (front ++ '/' :: rest) =
      if absolute = false ∧ segments = [] ∧ rest = [] then ['/']
      else spell absolute segments ++ rest := by
  have hclimbs : Climbs (splitSlashes rest) := hrest.elim Descends.climbs And.left
  have hunified : unifySlashes (front ++ '/' :: rest) = front ++ '/' :: rest := by
    apply unifySlashes_eq_self
    simp [hplain, backslash_not_mem_of_climbs hclimbs]
  have hresolved := (resolved_resolve absolute (plain_splitSlashes hplain)).plain
  rw [hdirectory] at hresolved
  rw [normalChars_eq, hunified, habsolute, resolve_append_slash hdirectory hrest]
  rcases hclimbs.named_eq with hnamed | hnamed
  · -- The path ends in a name.
    have hsome : named (splitSlashes rest) ≠ [] := hnamed ▸ splitSlashes_ne_nil rest
    have hrestNil : rest ≠ [] := by
      rintro rfl
      exact hsome rfl
    rw [endsInSlash_of_named hclimbs hnamed hrestNil, Bool.false_and, if_neg Bool.false_ne_true,
      rooted_append absolute segments hsome, ← hnamed, joinSlashes_splitSlashes,
      if_neg fun hall => hrestNil hall.2.2]
  · -- The path ends in a slash.
    have hspelled := spellAll_named hnamed
    have hends : endsInSlash (front ++ '/' :: rest) = true := by
      rw [endsInSlash_append (List.cons_ne_nil _ _), ← hspelled, endsInSlash_spellAll]
    have hall : ∀ segment ∈ segments ++ named (splitSlashes rest),
        '/' ∉ segment ∧ segment ≠ [] := by
      rw [List.forall_mem_append]
      refine ⟨hresolved, fun segment hsegment => ⟨?_, ne_nil_of_mem_named hsegment⟩⟩
      exact (hclimbs.plain segment (List.mem_filter.mp hsegment).1).1
    rw [hends, Bool.true_and]
    by_cases hempty : absolute = false ∧ segments = [] ∧ rest = []
    · obtain ⟨rfl, rfl, rfl⟩ := hempty
      cases front with
      | nil => cases habsolute
      | cons c front =>
          rw [if_pos (by simp), if_pos ⟨rfl, rfl, rfl⟩]
          rfl
    · rw [if_neg hempty]
      have hsome : absolute = true ∨ segments ++ named (splitSlashes rest) ≠ [] := by
        cases absolute with
        | true => exact .inl rfl
        | false =>
            refine .inr fun hnone => hempty ⟨rfl, ?_⟩
            obtain ⟨hsegments, hnames⟩ := List.append_eq_nil_iff.mp hnone
            exact ⟨hsegments, by rw [← hspelled, hnames]; rfl⟩
      have hclosed := closed_rooted (fun segment hsegment => (hall segment hsegment).1)
        (fun segment hsegment => (hall segment hsegment).2) hsome
      rw [hclosed, spell, spellAll_append, hspelled, ← List.append_assoc]
      split
      · rfl
      · next hshort =>
          -- The path is a slash and nothing else.
          obtain ⟨rfl, rfl⟩ : front = [] ∧ rest = [] := by
            cases front <;> cases rest <;> simp at hshort ⊢
          subst habsolute hdirectory
          rfl

/-- A relative path that ends in a slash is more than the slash. -/
theorem one_lt_length_of_relative (hrelative : isAbsolute path = false)
    (hends : endsInSlash path = true) : 1 < path.length := by
  cases path with
  | nil => cases hends
  | cons c rest =>
      cases rest with
      | nil =>
          have hsame : endsInSlash [c] = isAbsolute [c] := rfl
          rw [hends, hrelative] at hsame
          cases hsame
      | cons next rest => simp

/-- A relative path is below the directory that it is relative to. -/
theorem normalChars_dot_slash (hplain : '\\' ∉ path) (hrelative : isAbsolute path = false)
    (hsome : path ≠ []) : normalChars ('.' :: '/' :: path) = normalChars path := by
  have hunified := unifySlashes_eq_self hplain
  have hdotted : unifySlashes ('.' :: '/' :: path) = '.' :: '/' :: path := by
    apply unifySlashes_eq_self
    simp [hplain]
  have hresolve : resolve false (splitSlashes ('.' :: '/' :: path)) =
      resolve false (splitSlashes path) := rfl
  have hends : endsInSlash ('.' :: '/' :: path) = endsInSlash path :=
    @endsInSlash_append ['.', '/'] path hsome
  have hlong : endsInSlash path = true → 1 < path.length := one_lt_length_of_relative hrelative
  have hdottedRelative : isAbsolute ('.' :: '/' :: path) = false := rfl
  rw [normalChars_eq, normalChars_eq, hdotted, hunified, hends, hrelative, hdottedRelative,
    hresolve]
  cases hslash : endsInSlash path with
  | true => simp [hlong hslash]
  | false => simp

/-- Normal forms stay as they are. -/
theorem normalChars_of_normal (hnormal : Normal path) : normalChars path = path := by
  have hplain := hnormal.plain
  cases hnormal with
  | absolute hdescends =>
      have hroot := @normalChars_append_slash true [] _ [] List.not_mem_nil rfl rfl
        (.inl hdescends)
      rw [if_neg (by simp)] at hroot
      exact hroot
  | relative hrelative hclimbs =>
      by_cases hnil : path = []
      · rw [hnil]
        rfl
      · have hbelow := @normalChars_append_slash false ['.'] path [] (by decide) rfl rfl
          (.inr ⟨hclimbs, rfl, by simp⟩)
        rw [if_neg fun hall => hnil hall.2.2] at hbelow
        rw [← normalChars_dot_slash hplain hrelative hnil]
        exact hbelow

end NormalForms

end DebugBridge.Path
