import DebugBridge.Proofs.Json.Written
import Mathlib.Data.List.DropRight

/-!
# Values skipped

Whatever is read as a value can be skipped, and the skipping reader stops at the same place.  The
skipping reader keeps the brackets that are open on a stack; a value leaves the stack as it was.
-/

namespace DebugBridge.Json

/-! ## Blanks and names -/

section Lexemes

variable {input rest left : List UInt8}

theorem length_skipBlanks_le (input : List UInt8) : (skipBlanks input).length ≤ input.length :=
  List.length_dropWhile_le _ _

@[simp]
theorem skipBlanks_skipBlanks (input : List UInt8) :
    skipBlanks (skipBlanks input) = skipBlanks input := List.dropWhile_idempotent _ _

theorem length_lt_of_skipBlanks {b : UInt8} (hstart : skipBlanks input = b :: rest) :
    rest.length < input.length := by
  have hle := length_skipBlanks_le input
  rw [hstart, List.length_cons] at hle
  omega

theorem length_le_of_readIdent {expected : List UInt8}
    (hread : readIdent expected input = .ok ((), left)) : left.length ≤ input.length := by
  induction expected generalizing input with
  | nil =>
      cases hread
      exact Nat.le_refl _
  | cons b expected ih =>
      cases input with
      | nil => cases hread
      | cons c input =>
          rw [readIdent] at hread
          split at hread
          · exact Nat.le_succ_of_le (ih hread)
          · cases hread

theorem length_lt_of_readColon (hread : readColon input = .ok ((), left)) :
    left.length < input.length := by
  unfold readColon at hread
  split at hread
  · cases hread
  · next b rest hstart =>
      split at hread
      · cases hread
        exact length_lt_of_skipBlanks hstart
      · cases hread

/-- A numeral takes at least one byte. -/
theorem length_lt_of_readNumeral {numeral : Numeral}
    (hread : readNumeral input = .ok (numeral, left)) : left.length < input.length := by
  obtain ⟨hinput, -⟩ := readNumeral_eq_ok hread
  rw [hinput, List.length_append]
  have hsome : 0 < numeral.spelling.length := by
    refine List.length_pos_iff.mpr fun hnone => ?_
    have hreads := numeral.reads
    rw [hnone] at hreads
    cases hreads
  omega

end Lexemes

/-! ## Steps of skipping -/

section Steps

variable {fuel : Nat} {brackets : List Bracket} {b : UInt8} {input rest left : List UInt8}

theorem skipFrom_value_skipBlanks (fuel : Nat) (brackets : List Bracket) (input : List UInt8) :
    skipFrom fuel .value brackets (skipBlanks input) = skipFrom fuel .value brackets input := by
  cases fuel with
  | zero => rfl
  | succ fuel => rw [skipFrom, skipFrom, skipBlanks_skipBlanks]

theorem skipFrom_list (hstart : skipBlanks input = openBracket :: rest) :
    skipFrom (fuel + 1) .value brackets input =
      skipFrom fuel (.item false) (.list :: brackets) rest := by
  rw [skipFrom, hstart]
  exact if_pos rfl

theorem skipFrom_object (hstart : skipBlanks input = openBrace :: rest) :
    skipFrom (fuel + 1) .value brackets input =
      skipFrom fuel (.item false) (.object :: brackets) rest := by
  rw [skipFrom, hstart]
  rfl

theorem skipFrom_scalar (hstart : skipBlanks input = b :: rest) (hlist : b ≠ openBracket)
    (hobject : b ≠ openBrace) (hscalar : skipScalar b rest = .ok ((), left)) :
    skipFrom (fuel + 1) .value brackets input = skipFrom fuel (.item true) brackets left := by
  rw [skipFrom, hstart]
  simp only [if_neg hlist, if_neg hobject, hscalar]

theorem skipFrom_endList {afterItem : Bool} (hstart : skipBlanks input = closeBracket :: rest) :
    skipFrom (fuel + 1) (.item afterItem) (.list :: brackets) input =
      skipFrom fuel (.item true) brackets rest := by
  rw [skipFrom, hstart]
  exact if_pos rfl

theorem skipFrom_endObject {afterItem : Bool} (hstart : skipBlanks input = closeBrace :: rest) :
    skipFrom (fuel + 1) (.item afterItem) (.object :: brackets) input =
      skipFrom fuel (.item true) brackets rest := by
  rw [skipFrom, hstart]
  exact if_pos rfl

end Steps

/-! ## Items and members -/

section Items

variable {first : Bool} {input rest : List UInt8}

theorem nextItem_eq_false (hnext : nextItem first input = .ok (false, rest)) :
    ∃ tail, skipBlanks input = closeBracket :: tail ∧ rest = closeBracket :: tail := by
  unfold nextItem at hnext
  split at hnext
  · cases hnext
  · next b tail hstart =>
      split at hnext
      · next hclose =>
          cases hnext
          exact ⟨tail, hclose ▸ hstart, by rw [hclose]⟩
      · repeat' split at hnext
        all_goals cases hnext

theorem nextMember_eq_false (hnext : nextMember first input = .ok (false, rest)) :
    ∃ tail, skipBlanks input = closeBrace :: tail ∧ rest = closeBrace :: tail := by
  unfold nextMember at hnext
  split at hnext
  · cases hnext
  · next b tail hstart =>
      split at hnext
      · next hclose =>
          cases hnext
          exact ⟨tail, hclose ▸ hstart, by rw [hclose]⟩
      · repeat' split at hnext
        all_goals cases hnext

/-- The next item of a list is the first one, or it stands behind a comma. -/
theorem nextItem_eq_true (hnext : nextItem first input = .ok (true, rest)) :
    ∃ b tail, skipBlanks input = b :: tail ∧ b ≠ closeBracket ∧
      (first = true ∧ rest = b :: tail ∨ first = false ∧ b = comma ∧ rest = skipBlanks tail) := by
  unfold nextItem at hnext
  split at hnext
  · cases hnext
  · next b tail hstart =>
      refine ⟨b, tail, hstart, ?_⟩
      split at hnext
      · cases hnext
      · next hclose =>
          refine ⟨hclose, ?_⟩
          split at hnext
          · next hfirst =>
              cases hnext
              exact .inl ⟨hfirst, rfl⟩
          · next hfirst =>
              repeat' split at hnext
              all_goals cases hnext
              next hcomma _ _ _ hmore _ =>
                exact .inr ⟨Bool.eq_false_iff.mpr hfirst, hcomma, hmore.symm⟩

/-- The next member of an object is the first one, or it stands behind a comma. -/
theorem nextMember_eq_true (hnext : nextMember first input = .ok (true, rest)) :
    ∃ b tail, skipBlanks input = b :: tail ∧ b ≠ closeBrace ∧ rest = quoteMark :: rest.tail ∧
      (first = true ∧ rest = b :: tail ∨ first = false ∧ b = comma ∧ rest = skipBlanks tail) := by
  unfold nextMember at hnext
  split at hnext
  · cases hnext
  · next b tail hstart =>
      refine ⟨b, tail, hstart, ?_⟩
      split at hnext
      · cases hnext
      · next hclose =>
          refine ⟨hclose, ?_⟩
          split at hnext
          · next hfirst =>
              split at hnext
              · next hquote =>
                  cases hnext
                  exact ⟨by rw [hquote]; rfl, .inl ⟨hfirst, rfl⟩⟩
              · cases hnext
          · next hfirst =>
              repeat' split at hnext
              all_goals cases hnext
              next hcomma _ _ _ hmore hquote =>
                exact ⟨by rw [hquote]; rfl,
                  .inr ⟨Bool.eq_false_iff.mpr hfirst, hcomma, hmore.symm⟩⟩

/-- The next item of a list is skipped from where it is read. -/
theorem skipFrom_nextItem (hnext : nextItem first input = .ok (true, rest)) :
    rest.length ≤ input.length ∧ ∀ fuel brackets,
      skipFrom (fuel + 1) (.item !first) (.list :: brackets) input =
        skipFrom fuel .value (.list :: brackets) rest := by
  obtain ⟨b, tail, hstart, hclose, ⟨rfl, rfl⟩ | ⟨rfl, rfl, rfl⟩⟩ := nextItem_eq_true hnext
  · refine ⟨hstart ▸ length_skipBlanks_le input, fun fuel brackets => ?_⟩
    rw [skipFrom, hstart]
    exact if_neg hclose
  · have hlength := length_lt_of_skipBlanks hstart
    have hblanks := length_skipBlanks_le tail
    refine ⟨by omega, fun fuel brackets => ?_⟩
    rw [skipFrom, hstart, skipFrom_value_skipBlanks]
    rfl

/-- The name of the next member is skipped from where it is read. -/
theorem skipFrom_nextMember {name : String} {behind left : List UInt8}
    (hnext : nextMember first input = .ok (true, rest))
    (hname : readString rest.tail = .ok (name, behind))
    (hcolon : readColon behind = .ok ((), left)) :
    left.length < input.length ∧ ∀ fuel brackets,
      skipFrom (fuel + 1) (.item !first) (.object :: brackets) input =
        skipFrom fuel .value (.object :: brackets) left := by
  obtain ⟨hskip, hshorter⟩ := skipString_of_readString hname
  have hleft := length_lt_of_readColon hcolon
  have hskipName : ∀ input, skipBlanks input = rest → rest = quoteMark :: rest.tail →
      skipName input = .ok ((), left) := by
    intro input hstart hquote
    rw [skipName, hstart, hquote]
    simp only [if_true, hskip, hcolon]
  obtain ⟨b, tail, hstart, hclose, hquote, hwhere⟩ := nextMember_eq_true hnext
  have hbehind : rest.tail.length < rest.length := by
    rw [hquote]
    exact Nat.lt_succ_self _
  rcases hwhere with ⟨rfl, rfl⟩ | ⟨rfl, rfl, hrest⟩
  · have hlength := length_skipBlanks_le input
    rw [hstart] at hlength
    have hname := hskipName (b :: tail) (by rw [← hstart, skipBlanks_skipBlanks]) hquote
    refine ⟨by omega, fun fuel brackets => ?_⟩
    rw [skipFrom, hstart]
    simp [hclose, hname]
  · have hlength := length_lt_of_skipBlanks hstart
    have hblanks := length_skipBlanks_le tail
    rw [← hrest] at hblanks
    have hname := hskipName tail hrest.symm hquote
    refine ⟨by omega, fun fuel brackets => ?_⟩
    rw [skipFrom, hstart]
    simp [hclose, hname]

end Items

/-! ## Values -/

/-- The skipping reader comes from the beginning of a value to its end, with fuel left. -/
def SkipsValue (input left : List UInt8) : Prop :=
  left.length < input.length ∧ ∀ brackets fuel, 2 * input.length < fuel →
    ∃ less, 2 * left.length + 1 < less ∧
      skipFrom fuel .value brackets input = skipFrom less (.item true) brackets left

/-- The skipping reader comes from within a bracket to the end of it. -/
def SkipsItems (bracket : Bracket) (first : Bool) (input left : List UInt8) : Prop :=
  left.length < input.length ∧ ∀ brackets fuel, 2 * input.length + 1 < fuel →
    ∃ less, 2 * left.length + 1 < less ∧
      skipFrom fuel (.item !first) (bracket :: brackets) input =
        skipFrom less (.item true) brackets left

section Values

variable {bracket : Bracket} {first : Bool} {b : UInt8} {input rest middle left : List UInt8}

theorem skipsItems_end (hstart : skipBlanks input = b :: left)
    (hstep : ∀ fuel brackets, skipFrom (fuel + 1) (.item !first) (bracket :: brackets) input =
      skipFrom fuel (.item true) brackets left) : SkipsItems bracket first input left := by
  have hlength := length_lt_of_skipBlanks hstart
  refine ⟨hlength, fun brackets fuel hfuel => ?_⟩
  obtain ⟨fuel, rfl⟩ : ∃ less, fuel = less + 1 := Nat.exists_eq_succ_of_ne_zero (by omega)
  exact ⟨fuel, by omega, hstep fuel brackets⟩

theorem SkipsItems.cons (hlength : rest.length ≤ input.length)
    (hstep : ∀ fuel brackets, skipFrom (fuel + 1) (.item !first) (bracket :: brackets) input =
      skipFrom fuel .value (bracket :: brackets) rest)
    (hvalue : SkipsValue rest middle) (hmore : SkipsItems bracket false middle left) :
    SkipsItems bracket first input left := by
  obtain ⟨hshorter, hskipValue⟩ := hvalue
  obtain ⟨hleft, hskipMore⟩ := hmore
  refine ⟨by omega, fun brackets fuel hfuel => ?_⟩
  obtain ⟨fuel, rfl⟩ : ∃ less, fuel = less + 1 := Nat.exists_eq_succ_of_ne_zero (by omega)
  -- Two steps for each byte are enough for a value, and one more for the step to it.
  obtain ⟨less, hless, hvalueSkipped⟩ := hskipValue (bracket :: brackets) fuel (by omega)
  obtain ⟨last, hlast, hskipped⟩ := hskipMore brackets less hless
  refine ⟨last, hlast, ?_⟩
  rw [hstep, hvalueSkipped]
  exact hskipped

/-- A value without brackets is skipped in one step. -/
theorem skipsValue_scalar (hstart : skipBlanks input = b :: rest)
    (hlist : b ≠ openBracket) (hobject : b ≠ openBrace)
    (hscalar : skipScalar b rest = .ok ((), left)) (hlength : left.length ≤ rest.length) :
    SkipsValue input left := by
  have hshorter := length_lt_of_skipBlanks hstart
  refine ⟨by omega, fun brackets fuel hfuel => ?_⟩
  obtain ⟨fuel, rfl⟩ : ∃ less, fuel = less + 1 := Nat.exists_eq_succ_of_ne_zero (by omega)
  exact ⟨fuel, by omega, skipFrom_scalar hstart hlist hobject hscalar⟩

theorem SkipsItems.value (hinside : SkipsItems bracket true rest left)
    (hstart : skipBlanks input = b :: rest)
    (hopen : ∀ fuel brackets, skipFrom (fuel + 1) .value brackets input =
      skipFrom fuel (.item false) (bracket :: brackets) rest) : SkipsValue input left := by
  obtain ⟨hleft, hskip⟩ := hinside
  have hshorter := length_lt_of_skipBlanks hstart
  refine ⟨by omega, fun brackets fuel hfuel => ?_⟩
  obtain ⟨fuel, rfl⟩ : ∃ less, fuel = less + 1 := Nat.exists_eq_succ_of_ne_zero (by omega)
  rw [hopen]
  exact hskip brackets fuel (by omega)

/-- Whatever is read as a value can be skipped. -/
def Skippable {α : Type} (reader : List UInt8 → Result α) : Prop :=
  ∀ input value left, reader input = .ok (value, left) → SkipsValue input left

section Lists

variable {α : Type} {reader : List UInt8 → Result α} {loops : Nat}

theorem skipsItems_list (hreader : Skippable reader) {items : List α}
    (hreads : ReadsItems reader loops first input items middle)
    (hend : endList middle = .ok ((), left)) : SkipsItems .list first input left := by
  induction hreads with
  | last hnext =>
      obtain ⟨tail, hstart, rfl⟩ := nextItem_eq_false hnext
      cases hend
      exact skipsItems_end hstart fun _ _ => skipFrom_endList hstart
  | next hnext hitem hmore ih =>
      obtain ⟨hlength, hstep⟩ := skipFrom_nextItem hnext
      exact .cons hlength hstep (hreader _ _ _ hitem) (ih hend)

theorem skipsItems_object (hreader : Skippable reader) {members : List (String × α)}
    (hreads : ReadsMembers reader loops first input members middle)
    (hend : endObject middle = .ok ((), left)) : SkipsItems .object first input left := by
  induction hreads with
  | last hnext =>
      obtain ⟨tail, hstart, rfl⟩ := nextMember_eq_false hnext
      cases hend
      exact skipsItems_end hstart fun _ _ => skipFrom_endObject hstart
  | next hnext hname hcolon hvalue hmore ih =>
      obtain ⟨hlength, hstep⟩ := skipFrom_nextMember hnext hname hcolon
      exact .cons (Nat.le_of_lt hlength) hstep (hreader _ _ _ hvalue) (ih hend)

end Lists

theorem skipScalar_numeral {numeral : Numeral} (hsigned : b = minus ∨ isDigit b = true)
    (hread : readNumeral (b :: rest) = .ok (numeral, left)) :
    skipScalar b rest = .ok ((), left) ∧ b ≠ openBracket ∧ b ≠ openBrace := by
  obtain ⟨-, hskip⟩ := readNumeral_eq_ok hread
  rcases hsigned with rfl | hdigit
  · exact ⟨hskip, by decide, by decide⟩
  · have hne : ∀ c : UInt8, isDigit c = false → b ≠ c := by
      rintro c hc rfl
      rw [hc] at hdigit
      cases hdigit
    rw [skipSigned, if_neg (hne minus rfl)] at hskip
    simp only [skipScalar, if_neg (hne 0x6e rfl), if_neg (hne 0x74 rfl), if_neg (hne 0x66 rfl),
      if_neg (hne minus rfl), hdigit, if_true]
    exact ⟨hskip, hne openBracket rfl, hne openBrace rfl⟩

/-- A value is skipped if the values one bracket deeper are. -/
theorem skipsValue_of_readsAs {depth fuel : Nat} {written : Written}
    (hinner : ∀ inner, depth = inner + 1 → Skippable (readWritten inner fuel))
    (hreads : ReadsAs depth fuel input written left) : SkipsValue input left := by
  cases hreads with
  | null hstart hread =>
      exact skipsValue_scalar hstart (by decide) (by decide) hread (length_le_of_readIdent hread)
  | yes hstart hread =>
      exact skipsValue_scalar hstart (by decide) (by decide) hread (length_le_of_readIdent hread)
  | no hstart hread =>
      exact skipsValue_scalar hstart (by decide) (by decide) hread (length_le_of_readIdent hread)
  | number hstart hsigned hread =>
      obtain ⟨hskip, hlist, hobject⟩ := skipScalar_numeral hsigned hread
      exact skipsValue_scalar hstart hlist hobject hskip
        (Nat.le_of_lt_succ (length_lt_of_readNumeral hread))
  | string hstart hread =>
      obtain ⟨hskip, hshorter⟩ := skipString_of_readString hread
      exact skipsValue_scalar hstart (by decide) (by decide) hskip (Nat.le_of_lt hshorter)
  | array hdepth hstart hitems hend =>
      exact (skipsItems_list (hinner _ hdepth) hitems hend).value hstart
        fun _ _ => skipFrom_list hstart
  | object hdepth hstart hmembers hend =>
      exact (skipsItems_object (hinner _ hdepth) hmembers hend).value hstart
        fun _ _ => skipFrom_object hstart

theorem skippable_readWritten (depth fuel : Nat) : Skippable (readWritten depth fuel) := by
  induction depth with
  | zero =>
      intro input written left hread
      refine skipsValue_of_readsAs (fun inner hinner => ?_) (readsAs_of_readWritten hread)
      cases hinner
  | succ depth ih =>
      intro input written left hread
      refine skipsValue_of_readsAs (fun inner hinner => ?_) (readsAs_of_readWritten hread)
      cases hinner
      exact ih

/-- What is read is skipped as far. -/
theorem skip_of_readWritten {depth fuel : Nat} {written : Written}
    (hread : readWritten depth fuel input = .ok (written, left)) : skip input = .ok ((), left) := by
  obtain ⟨less, hless, hskip⟩ := (skippable_readWritten depth fuel input written left hread).2 []
    (2 * input.length + 2) (by omega)
  rw [skip, hskip]
  obtain ⟨less, rfl⟩ : ∃ fewer, less = fewer + 1 := Nat.exists_eq_succ_of_ne_zero (by omega)
  rfl

end Values

end DebugBridge.Json
