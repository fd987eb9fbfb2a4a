import DebugBridge.Proofs.Url.Parts
import DebugBridge.Proofs.Url.Percent
import DebugBridge.Url.Read

/-!
# Segments of a path

The segments that are read of a path are settled: nothing in them is left to encode, none is a step
to another place, and none holds a slash.  Settled segments are read back from their text.
-/

namespace DebugBridge.Url

open Text

/-! ## Escaped dots -/

theorem unescapeDots_cons {c : Char} {rest : List Char}
    (hlower : ∀ tail, c :: rest ≠ '%' :: '2' :: 'e' :: tail)
    (hupper : ∀ tail, c :: rest ≠ '%' :: '2' :: 'E' :: tail) :
    unescapeDots (c :: rest) = c :: unescapeDots rest := by
  rw [unescapeDots]
  · rintro tail rfl rfl
    exact hlower tail rfl
  · rintro tail rfl rfl
    exact hupper tail rfl

theorem unescapeDots_of_ne {c : Char} (hc : c ≠ '%') (rest : List Char) :
    unescapeDots (c :: rest) = c :: unescapeDots rest :=
  unescapeDots_cons (fun _ hsame => hc (List.cons_eq_cons.mp hsame).1)
    fun _ hsame => hc (List.cons_eq_cons.mp hsame).1

/-- The escape of any other byte stays. -/
theorem unescapeDots_percentByte {b : UInt8} (hb : b ≠ 0x2e) (rest : List Char) :
    unescapeDots (percentByte b ++ rest) = percentByte b ++ unescapeDots rest := by
  have hdigits : ∀ n < 16, hexDigit n ≠ '%' ∧ hexDigit n ≠ 'e' ∧ (hexDigit n = '2' → n = 2) ∧
      (hexDigit n = 'E' → n = 14) := by
    decide
  have hsmall := b.toNat_lt
  obtain ⟨hhigh, -, htwo, -⟩ := hdigits (b.toNat / 16) (by omega)
  obtain ⟨hlow, hlower, -, hupper⟩ := hdigits (b.toNat % 16) (by omega)
  have hother : hexDigit (b.toNat / 16) = '2' → hexDigit (b.toNat % 16) ≠ 'E' := by
    intro hhighTwo hlowUpper
    have hdiv := htwo hhighTwo
    have hmod := hupper hlowUpper
    have hvalue : b.toNat = (0x2e : UInt8).toNat := by
      change b.toNat = 46
      omega
    exact hb (UInt8.toNat_inj.mp hvalue)
  simp only [percentByte, List.cons_append, List.nil_append]
  rw [unescapeDots_cons, unescapeDots_of_ne hhigh, unescapeDots_of_ne hlow]
  · intro tail hsame
    simp only [List.cons.injEq] at hsame
    exact hlower hsame.2.2.1
  · intro tail hsame
    simp only [List.cons.injEq] at hsame
    exact hother hsame.2.1 hsame.2.2.1

theorem unescapeDots_escape {c : Char} (hc : c ≠ '.') (rest : List Char) :
    unescapeDots ((String.utf8EncodeChar c).flatMap percentByte ++ rest) =
      (String.utf8EncodeChar c).flatMap percentByte ++ unescapeDots rest := by
  have hbytes : ∀ b ∈ String.utf8EncodeChar c, b ≠ 0x2e := fun b hb =>
    ne_of_mem_utf8EncodeChar (d := '.') (by decide) hc hb
  generalize String.utf8EncodeChar c = bytes at hbytes ⊢
  induction bytes with
  | nil => rfl
  | cons b bytes ih =>
      obtain ⟨hb, hmore⟩ := List.forall_mem_cons.mp hbytes
      rw [List.flatMap_cons, List.append_assoc, unescapeDots_percentByte hb, ih hmore,
        List.append_assoc]

/-- The head of an encoded text is a percent sign or the head of the text. -/
theorem head_percentEncode {c : Char} (hc : c ≠ '%') {text tail : List Char}
    (hencoded : percentEncode inPathSet text = c :: tail) :
    ∃ rest, text = c :: rest ∧ percentEncode inPathSet rest = tail := by
  cases text with
  | nil => cases hencoded
  | cons d rest =>
      rw [percentEncode_cons] at hencoded
      split at hencoded
      · obtain ⟨b, bytes, hbytes⟩ :=
          List.exists_cons_of_ne_nil (String.utf8EncodeChar_ne_nil (c := d))
        rw [hbytes, List.flatMap_cons] at hencoded
        exact absurd (List.cons_eq_cons.mp hencoded).1.symm hc
      · obtain ⟨rfl, hrest⟩ := List.cons_eq_cons.mp hencoded
        exact ⟨rest, rfl, hrest⟩

/-- Encoding makes and breaks no escape of a dot. -/
theorem unescapeDots_percentEncode (text : List Char) :
    unescapeDots (percentEncode inPathSet text) = percentEncode inPathSet (unescapeDots text) := by
  fun_induction unescapeDots text with
  | case1 rest ih =>
      have hencoded : percentEncode inPathSet ('%' :: '2' :: 'e' :: rest) =
          '%' :: '2' :: 'e' :: percentEncode inPathSet rest := by
        simp only [percentEncode_cons]
        rfl
      rw [hencoded, unescapeDots, ih, percentEncode_cons]
      rfl
  | case2 rest ih =>
      have hencoded : percentEncode inPathSet ('%' :: '2' :: 'E' :: rest) =
          '%' :: '2' :: 'E' :: percentEncode inPathSet rest := by
        simp only [percentEncode_cons]
        rfl
      rw [hencoded, unescapeDots, ih, percentEncode_cons]
      rfl
  | case3 c rest hlower hupper ih =>
      rw [percentEncode_cons, percentEncode_cons, ← ih]
      split
      · next hset =>
          refine unescapeDots_escape ?_ _
          rintro rfl
          exact absurd hset (by decide)
      · -- An escape of a dot that begins here did so before: where a character is encoded, the next
        -- one is a percent sign.
        have hescape : ∀ last ∈ ['e', 'E'], ∀ tail,
            c :: percentEncode inPathSet rest = '%' :: '2' :: last :: tail →
              ∃ tail, c :: rest = '%' :: '2' :: last :: tail := by
          intro last hlast tail hsame
          obtain ⟨rfl, hencoded⟩ := List.cons_eq_cons.mp hsame
          obtain ⟨behind, rfl, hbehind⟩ := head_percentEncode (by decide) hencoded
          have hplain : last ≠ '%' := by
            rintro rfl
            exact absurd hlast (by decide)
          obtain ⟨others, rfl, -⟩ := head_percentEncode hplain hbehind
          exact ⟨others, rfl⟩
        refine unescapeDots_cons (fun tail hsame => ?_) fun tail hsame => ?_
        · obtain ⟨tail, htext⟩ := hescape 'e' (by decide) tail hsame
          obtain ⟨rfl, rfl⟩ := List.cons_eq_cons.mp htext
          exact hlower tail rfl rfl
        · obtain ⟨tail, htext⟩ := hescape 'E' (by decide) tail hsame
          obtain ⟨rfl, rfl⟩ := List.cons_eq_cons.mp htext
          exact hupper tail rfl rfl
  | case4 => rfl

theorem percentEncode_eq_iff {inSet : Char → Bool} {text plain : List Char} (hplain : '%' ∉ plain)
    (hfree : ∀ c ∈ plain, inSet c = false) : percentEncode inSet text = plain ↔ text = plain := by
  constructor
  · rintro rfl
    rw [percentEncode_of_not_mem hplain]
  · rintro rfl
    exact percentEncode_of_free hfree

theorem isSingleDot_percentEncode (segment : List Char) :
    isSingleDot (percentEncode inPathSet segment) = isSingleDot segment := by
  rw [isSingleDot, isSingleDot, unescapeDots_percentEncode]
  exact decide_eq_decide.mpr
    (percentEncode_eq_iff (by decide) (List.all_iff_forall_prop.mp (by decide)))

theorem isDoubleDot_percentEncode (segment : List Char) :
    isDoubleDot (percentEncode inPathSet segment) = isDoubleDot segment := by
  rw [isDoubleDot, isDoubleDot, unescapeDots_percentEncode]
  exact decide_eq_decide.mpr
    (percentEncode_eq_iff (by decide) (List.all_iff_forall_prop.mp (by decide)))

/-! ## Settled segments -/

/-- A segment that reading leaves as it is. -/
structure SettledSegment (segment : List Char) : Prop where
  encoded : ∀ c ∈ segment, inPathSet c = false
  whole : ∀ c ∈ segment, isSegmentEnd true c = false
  notSingle : isSingleDot segment = false
  notDouble : isDoubleDot segment = false

instance (segment : List Char) : Decidable (SettledSegment segment) :=
  decidable_of_iff ((segment.all fun c => inPathSet c = false) = true ∧
      (segment.all fun c => isSegmentEnd true c = false) = true ∧ isSingleDot segment = false ∧
        isDoubleDot segment = false)
    ⟨fun ⟨encoded, whole, single, double⟩ => ⟨List.all_iff_forall_prop.mp encoded,
        List.all_iff_forall_prop.mp whole, single, double⟩,
      fun ⟨encoded, whole, single, double⟩ => ⟨List.all_iff_forall_prop.mpr encoded,
        List.all_iff_forall_prop.mpr whole, single, double⟩⟩

theorem settledSegment_nil : SettledSegment [] := by decide

theorem keptSegment_eq (before : List (List Char)) (segment : List Char) :
    keptSegment false before segment = percentEncode inPathSet segment := by
  unfold keptSegment
  split <;> rfl

/-- What is kept of a segment that is no step is settled. -/
theorem settledSegment_kept {segment : List Char}
    (hwhole : ∀ c ∈ segment, isSegmentEnd true c = false) (hsingle : isSingleDot segment = false)
    (hdouble : isDoubleDot segment = false) (before : List (List Char)) :
    SettledSegment (keptSegment false before segment) := by
  have hescape : ∀ c ∈ escapeChars, isSegmentEnd true c = false :=
    List.all_iff_forall_prop.mp (by decide)
  rw [keptSegment_eq]
  refine ⟨free_percentEncode free_path segment, fun c hc => ?_, ?_, ?_⟩
  · rcases mem_percentEncode hc with hc | ⟨hc, -⟩
    · exact hescape c hc
    · exact hwhole c hc
  · rw [isSingleDot_percentEncode, hsingle]
  · rw [isDoubleDot_percentEncode, hdouble]

theorem settled_resolve {kept segments : List (List Char)}
    (hkept : ∀ segment ∈ kept, SettledSegment segment)
    (hwhole : ∀ segment ∈ segments, ∀ c ∈ segment, isSegmentEnd true c = false) :
    ∀ segment ∈ resolve false kept segments, SettledSegment segment := by
  have hclosed : ∀ kept : List (List Char), (∀ segment ∈ kept, SettledSegment segment) →
      ∀ isLast : Bool, ∀ segment ∈ if isLast then [] :: kept else kept, SettledSegment segment := by
    intro kept hkept isLast
    split
    · exact List.forall_mem_cons.mpr ⟨settledSegment_nil, hkept⟩
    · exact hkept
  induction segments generalizing kept with
  | nil =>
      rw [resolve]
      exact fun segment hsegment => hkept segment (List.mem_reverse.mp hsegment)
  | cons segment rest ih =>
      obtain ⟨hfirst, hmore⟩ := List.forall_mem_cons.mp hwhole
      rw [resolve]
      dsimp only
      split
      · refine ih (hclosed _ (fun segment hsegment => hkept segment ?_) _) hmore
        cases kept with
        | nil => exact hsegment
        | cons last before => exact List.mem_cons_of_mem _ hsegment
      · next hdouble =>
          split
          · exact ih (hclosed _ hkept _) hmore
          · next hsingle =>
              refine ih (List.forall_mem_cons.mpr ⟨?_, hkept⟩) hmore
              exact settledSegment_kept hfirst (Bool.eq_false_iff.mpr hsingle)
                (Bool.eq_false_iff.mpr hdouble) kept

/-- The last segment always leaves one. -/
theorem resolve_ne_nil (kept : List (List Char)) {segments : List (List Char)}
    (hsegments : segments ≠ []) : resolve false kept segments ≠ [] := by
  have hlast : ∀ kept : List (List Char), kept ≠ [] → resolve false kept [] ≠ [] := by
    intro kept hkept
    rw [resolve]
    exact List.reverse_ne_nil_iff.mpr hkept
  induction segments generalizing kept with
  | nil => exact absurd rfl hsegments
  | cons segment rest ih =>
      rw [resolve]
      dsimp only
      cases rest with
      | nil =>
          split
          · exact hlast _ (List.cons_ne_nil _ _)
          · split
            · exact hlast _ (List.cons_ne_nil _ _)
            · exact hlast _ (List.cons_ne_nil _ _)
      | cons next rest =>
          split
          · exact ih _ (List.cons_ne_nil _ _)
          · split
            · exact ih _ (List.cons_ne_nil _ _)
            · exact ih _ (List.cons_ne_nil _ _)

theorem resolve_settled (kept : List (List Char)) {segments : List (List Char)}
    (hsegments : ∀ segment ∈ segments, SettledSegment segment) :
    resolve false kept segments = kept.reverse ++ segments := by
  induction segments generalizing kept with
  | nil => rw [resolve, List.append_nil]
  | cons segment rest ih =>
      obtain ⟨hfirst, hmore⟩ := List.forall_mem_cons.mp hsegments
      rw [resolve]
      dsimp only
      rw [hfirst.notDouble, hfirst.notSingle, keptSegment_eq, percentEncode_of_free hfirst.encoded]
      simp [ih _ hmore]

theorem splitAt_segmentsText {first : List Char} (hfirst : SettledSegment first)
    {others : List (List Char)} (hothers : ∀ segment ∈ others, SettledSegment segment) :
    splitAt (isSegmentEnd true) (first ++ segmentsText others) = first :: others := by
  induction others generalizing first with
  | nil =>
      rw [segmentsText, List.flatMap_nil, List.append_nil]
      exact splitAt_of_free hfirst.whole
  | cons second others ih =>
      obtain ⟨hsecond, hmore⟩ := List.forall_mem_cons.mp hothers
      have htext : segmentsText (second :: others) = '/' :: (second ++ segmentsText others) := rfl
      rw [htext, splitAt_append hfirst.whole rfl, ih hsecond hmore]

/-! ## Paths of the web -/

/-- A scheme whose URLs have an authority and a path of segments. -/
structure IsWeb (scheme : String) : Prop where
  special : isSpecial scheme = true
  notFile : (scheme == "file") = false

section Web

variable {scheme : String} (hweb : IsWeb scheme)
include hweb

theorem resolvePath_of_web (base : List (List Char)) (text : List Char) :
    resolvePath scheme base text =
      resolve false base.reverse (splitAt (isSegmentEnd true) text) := by
  rw [resolvePath, hweb.notFile, hweb.special]
  rfl

theorem settled_resolvePath (base : List (List Char))
    (hbase : ∀ segment ∈ base, SettledSegment segment) (text : List Char) :
    resolvePath scheme base text ≠ [] ∧
      ∀ segment ∈ resolvePath scheme base text, SettledSegment segment := by
  rw [resolvePath_of_web hweb]
  refine ⟨resolve_ne_nil _ (splitAt_ne_nil text), settled_resolve ?_ ?_⟩
  · exact fun segment hsegment => hbase segment (List.mem_reverse.mp hsegment)
  · exact fun segment hsegment c hc => (mem_of_mem_splitAt hsegment c hc).2

/-- Settled segments are read behind others as they are. -/
theorem resolvePath_segmentsText (base : List (List Char)) {first : List Char}
    {others : List (List Char)} (hsettled : ∀ segment ∈ first :: others, SettledSegment segment) :
    resolvePath scheme base (first ++ segmentsText others) = base ++ first :: others := by
  obtain ⟨hfirst, hothers⟩ := List.forall_mem_cons.mp hsettled
  rw [resolvePath_of_web hweb, splitAt_segmentsText hfirst hothers, resolve_settled _ hsettled,
    List.reverse_reverse]

end Web

end DebugBridge.Url
