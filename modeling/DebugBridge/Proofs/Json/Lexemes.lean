import DebugBridge.Json.Read
import DebugBridge.Proofs.Json.Numbers
import Mathlib.Data.List.TakeWhile

/-!
# Lexemes read and skipped

What a reader takes for a number or a string, the skipping reader takes as well, and no more of it.
What a number is read as depends on its own bytes only: the text may be cut anywhere behind them.
-/

namespace DebugBridge.Json

/-! ## Numbers -/

/-- The reader takes some bytes.  It takes the same ones, for the same value, wherever the text is
cut behind them, and the skipping reader takes them, too. -/
def TakesAt {α : Type} (reader : List UInt8 → Result α) (skipper : List UInt8 → Result Unit)
    (input : List UInt8) : Prop :=
  ∀ value left, reader input = .ok (value, left) →
    ∃ taken, input = taken ++ left ∧
      (∀ more, more <+: left → reader (taken ++ more) = .ok (value, more)) ∧
      skipper input = .ok ((), left)

def skipNothing (input : List UInt8) : Result Unit := .ok ((), input)

def skipDigits (input : List UInt8) : Result Unit := .ok ((), input.dropWhile isDigit)

section TakesAt

variable {α : Type} {reader next : List UInt8 → Result α}
  {skipper skipNext : List UInt8 → Result Unit} {input rest : List UInt8}

theorem takesAt_error {failure : Failure} (herror : reader input = .error failure) :
    TakesAt reader skipper input := by
  intro value left hread
  rw [herror] at hread
  cases hread

/-- Behind bytes that decide how to go on. -/
theorem TakesAt.behind (first : List UInt8) (htakes : TakesAt next skipNext rest)
    (hreader : ∀ more, more <+: rest → reader (first ++ more) = next more)
    (hskipper : skipper (first ++ rest) = skipNext rest) :
    TakesAt reader skipper (first ++ rest) := by
  intro value left hread
  rw [hreader rest (List.prefix_refl _)] at hread
  obtain ⟨taken, rfl, hcut, hskip⟩ := htakes _ _ hread
  refine ⟨first ++ taken, (List.append_assoc ..).symm, fun more hmore => ?_, hskipper.trans hskip⟩
  rw [List.append_assoc, hreader _ (List.prefix_append_right_inj _ |>.mpr hmore)]
  exact hcut more hmore

/-- What takes bytes after what another reader has taken. -/
theorem TakesAt.andThen {β : Type} {first : List UInt8 → Result β}
    {following : β → List UInt8 → Result α} {skipFirst : List UInt8 → Result Unit}
    (hfirst : TakesAt first skipFirst input)
    (hnext : ∀ found left, TakesAt (following found) skipNext left)
    (hreader : ∀ input, reader input = match first input with
      | .error failure => .error failure
      | .ok (found, left) => following found left)
    (hskipper : ∀ left, skipFirst input = .ok ((), left) → skipper input = skipNext left) :
    TakesAt reader skipper input := by
  intro value left hread
  rw [hreader] at hread
  split at hread
  · cases hread
  · next found middle hfound =>
      obtain ⟨taken, rfl, hcut, hskip⟩ := hfirst _ _ hfound
      obtain ⟨more, rfl, hcutMore, hskipMore⟩ := hnext found middle _ _ hread
      refine ⟨taken ++ more, (List.append_assoc ..).symm, fun rest hrest => ?_,
        (hskipper _ hskip).trans hskipMore⟩
      rw [List.append_assoc, hreader, hcut _ (List.prefix_append_right_inj _ |>.mpr hrest)]
      exact hcutMore rest hrest

/-- The reader takes no bytes at all. -/
theorem takesAt_nothing {value : α}
    (hreader : ∀ more, more <+: input → reader more = .ok (value, more))
    (hskipper : skipper input = .ok ((), input)) : TakesAt reader skipper input := by
  intro found left hread
  rw [hreader input (List.prefix_refl _)] at hread
  cases hread
  exact ⟨[], rfl, hreader, hskipper⟩

end TakesAt

section Numbers

variable (positive : Bool) (significand : Nat) (start : Int) (input : List UInt8)

theorem takesAt_readFloat : TakesAt (readFloat positive significand start) skipNothing input := by
  cases hscale : scale (.ofNat significand) start 4 with
  | none => exact takesAt_error (by rw [readFloat, hscale])
  | some x => exact takesAt_nothing (fun more _ => by rw [readFloat, hscale]) rfl

/-- No digit follows the digits. -/
theorem not_digit_behind_digits {input more : List UInt8}
    (hmore : more <+: input.dropWhile isDigit) : ∀ b ∈ more.head?, isDigit b = false := by
  intro b hb
  cases more with
  | nil => cases hb
  | cons c more =>
      cases hb
      obtain ⟨rest, hrest⟩ := hmore
      have hhead := List.head?_dropWhile_not isDigit input
      rw [← hrest] at hhead
      exact hhead

theorem takesAt_readExponentDigits (zero positiveExponent : Bool) (exponent : Nat) :
    TakesAt (readExponentDigits positive zero positiveExponent exponent) skipDigits input := by
  induction input generalizing exponent with
  | nil => exact takesAt_nothing (fun more hmore => by rw [List.prefix_nil.mp hmore]; rfl) rfl
  | cons b rest ih =>
      cases hb : isDigit b with
      | false =>
          have hreader : ∀ more, more <+: b :: rest →
              readExponentDigits positive zero positiveExponent exponent more =
                .ok (some exponent, more) := by
            intro more hmore
            cases more with
            | nil => rfl
            | cons c more =>
                obtain ⟨rfl, -⟩ := List.cons_prefix_cons.mp hmore
                rw [readExponentDigits, hb]
                rfl
          refine takesAt_nothing hreader ?_
          rw [skipDigits, List.dropWhile_cons_of_neg (by simp [hb])]
      | true =>
          have hskip : skipDigits ([b] ++ rest) = skipDigits rest := by
            rw [skipDigits, List.singleton_append, List.dropWhile_cons_of_pos hb, skipDigits]
          have hother : ¬(!isDigit b) = true := by simp [hb]
          by_cases hfits : exponent * 10 + digitValue b < 0x80000000
          · refine (ih (exponent * 10 + digitValue b)).behind [b] (fun more _ => ?_) hskip
            rw [List.singleton_append, readExponentDigits, if_neg hother, if_pos hfits]
          · by_cases hlarge : (!zero && positiveExponent) = true
            · exact takesAt_error
                (by rw [readExponentDigits, if_neg hother, if_neg hfits, if_pos hlarge])
            · -- The digits that are left are dropped at once, so no cut lies between them.
              intro value left hread
              rw [readExponentDigits, if_neg hother, if_neg hfits, if_neg hlarge] at hread
              cases hread
              refine ⟨b :: rest.takeWhile isDigit, ?_, fun more hmore => ?_, hskip⟩
              · rw [List.cons_append, List.takeWhile_append_dropWhile]
              · rw [List.cons_append, readExponentDigits, if_neg hother, if_neg hfits,
                  if_neg hlarge, dropWhile_digits (fun c => List.mem_takeWhile_imp)
                    (not_digit_behind_digits hmore)]

/-- The number with an exponent that has been read; nothing stands for one of too many bits. -/
def withExponent (positiveExponent : Bool) : Option Nat → List UInt8 → Result Number
  | none, rest => .ok (.float (if positive then .zero else .negate .zero), rest)
  | some exponent, rest => readFloat positive significand
      (if positiveExponent then start + exponent else start - exponent) rest

theorem takesAt_withExponent (positiveExponent : Bool) (exponent : Option Nat) :
    TakesAt (withExponent positive significand start positiveExponent exponent) skipNothing
      input := by
  cases exponent with
  | none => exact takesAt_nothing (fun _ _ => rfl) rfl
  | some exponent => exact takesAt_readFloat _ _ _ _

/-- The number with an exponent that is still to be read. -/
def readWithExponent (positiveExponent : Bool) (exponent : Nat) (input : List UInt8) :
    Result Number :=
  match readExponentDigits positive (significand == 0) positiveExponent exponent input with
  | .error failure => .error failure
  | .ok (found, rest) => withExponent positive significand start positiveExponent found rest

theorem takesAt_readWithExponent (positiveExponent : Bool) (exponent : Nat) :
    TakesAt (readWithExponent positive significand start positiveExponent exponent) skipDigits
      input :=
  (takesAt_readExponentDigits positive input (significand == 0) positiveExponent exponent).andThen
    (fun found rest => takesAt_withExponent positive significand start rest positiveExponent found)
    (fun input => by
      rw [readWithExponent]
      cases readExponentDigits positive (significand == 0) positiveExponent exponent input <;> rfl)
    fun _ hskip => hskip

theorem readUnsignedExponent_cons (positiveExponent : Bool) {b : UInt8} (hb : isDigit b = true)
    (rest : List UInt8) :
    readUnsignedExponent positive significand start positiveExponent (b :: rest) =
      readWithExponent positive significand start positiveExponent (digitValue b) rest := by
  simp only [readUnsignedExponent, readWithExponent, hb]
  cases readExponentDigits positive (significand == 0) positiveExponent (digitValue b) rest with
  | error failure => rfl
  | ok result =>
      obtain ⟨found, rest⟩ := result
      cases found <;> rfl

/-- The digits of an exponent, skipped. -/
def skipUnsignedExponent : List UInt8 → Result Unit
  | [] => .error (.brokenAt .invalidNumber 0)
  | b :: rest =>
    if isDigit b then skipDigits rest else .error (.brokenAt .invalidNumber rest.length)

theorem takesAt_readUnsignedExponent (positiveExponent : Bool) :
    TakesAt (readUnsignedExponent positive significand start positiveExponent)
      skipUnsignedExponent input := by
  cases input with
  | nil => exact takesAt_error rfl
  | cons b rest =>
      cases hb : isDigit b with
      | false => exact takesAt_error (by rw [readUnsignedExponent, hb]; rfl)
      | true =>
          have hdigits := takesAt_readWithExponent positive significand start rest
            positiveExponent (digitValue b)
          refine hdigits.behind [b] (fun more _ => ?_) ?_
          · exact readUnsignedExponent_cons positive significand start positiveExponent hb more
          · rw [List.singleton_append, skipUnsignedExponent, if_pos hb]

theorem skipExponent_of_unsigned (hunsigned : ∀ b ∈ input.head?, b ≠ 0x2b ∧ b ≠ 0x2d) :
    skipExponent input = skipUnsignedExponent input := by
  unfold skipExponent
  split
  · exact absurd rfl (hunsigned _ rfl).1
  · exact absurd rfl (hunsigned _ rfl).2
  · cases input <;> rfl

theorem takesAt_readExponent :
    TakesAt (readExponent positive significand start) skipExponent input := by
  have hunsigned := takesAt_readUnsignedExponent positive significand start
  by_cases hplus : input.head? = some 0x2b
  · obtain ⟨rest, rfl⟩ := List.head?_eq_some_iff.mp hplus
    exact (hunsigned rest true).behind [0x2b] (fun _ _ => rfl) (by cases rest <;> rfl)
  · by_cases hminus : input.head? = some 0x2d
    · obtain ⟨rest, rfl⟩ := List.head?_eq_some_iff.mp hminus
      exact (hunsigned rest false).behind [0x2d] (fun _ _ => rfl) (by cases rest <;> rfl)
    · have hnone : ∀ more, more <+: input → ∀ b ∈ more.head?, b ≠ 0x2b ∧ b ≠ 0x2d := by
        rintro more ⟨rest, rfl⟩ b hb
        have hhead : (more ++ rest).head? = some b := by
          rw [List.head?_append, hb]
          rfl
        rw [hhead] at hplus hminus
        exact ⟨fun hsame => hplus (congrArg some hsame), fun hsame => hminus (congrArg some hsame)⟩
      refine (hunsigned input true).behind [] (fun more hmore => ?_) ?_
      · exact readExponent_of_unsigned _ _ _ (hnone more hmore)
      · exact skipExponent_of_unsigned _ (hnone input (List.prefix_refl _))

/-- An exponent, or what else stands behind the digits. -/
def readExponentOr (other : List UInt8 → Result Number) : List UInt8 → Result Number
  | [] => other []
  | b :: rest =>
    if isExponentMark b then readExponent positive significand start rest else other (b :: rest)

def skipExponentOr : List UInt8 → Result Unit
  | [] => skipNothing []
  | b :: rest => if isExponentMark b then skipExponent rest else skipNothing (b :: rest)

theorem takesAt_readExponentOr {other : List UInt8 → Result Number}
    (hother : TakesAt other skipNothing input) :
    TakesAt (readExponentOr positive significand start other) skipExponentOr input := by
  cases input with
  | nil => exact hother.behind [] (fun more hmore => by rw [List.prefix_nil.mp hmore]; rfl) rfl
  | cons b rest =>
      cases hmark : isExponentMark b with
      | true =>
          refine (takesAt_readExponent positive significand start rest).behind [b]
            (fun more _ => ?_) ?_
          · rw [List.singleton_append, readExponentOr, if_pos hmark]
          · rw [List.singleton_append, skipExponentOr, if_pos hmark]
      | false =>
          refine hother.behind [] (fun more hmore => ?_) ?_
          · cases more with
            | nil => rfl
            | cons c more =>
                obtain ⟨rfl, -⟩ := List.cons_prefix_cons.mp hmore
                rw [List.nil_append, readExponentOr, hmark]
                rfl
          · rw [List.nil_append, skipExponentOr, hmark]
            rfl

theorem takesAt_readFraction :
    TakesAt (readFraction positive significand start) skipFraction input := by
  cases hempty : (input.takeWhile isDigit).isEmpty with
  | true =>
      simp only [TakesAt, readFraction, hempty, if_true]
      intro value left hread
      split at hread <;> cases hread
  | false =>
      have hdigits : ∀ b ∈ input.takeWhile isDigit, isDigit b = true :=
        fun b => List.mem_takeWhile_imp
      have hwhole : input.takeWhile isDigit ++ input.dropWhile isDigit = input :=
        List.takeWhile_append_dropWhile
      generalize hexponent : start - ((input.takeWhile isDigit).length -
        (absorb significand (input.takeWhile isDigit)).2.length : Nat) = exponent
      have hrest := takesAt_readExponentOr positive
        (absorb significand (input.takeWhile isDigit)).1 exponent (input.dropWhile isDigit)
        (takesAt_readFloat positive (absorb significand (input.takeWhile isDigit)).1 exponent _)
      rw [← hwhole]
      refine hrest.behind _ (fun more hmore => ?_) ?_
      · have hother := not_digit_behind_digits hmore
        simp only [readFraction, takeWhile_digits hdigits hother, dropWhile_digits hdigits hother,
          hempty, hexponent]
        cases more <;> rfl
      · simp only [hwhole, skipFraction, hempty]
        cases input.dropWhile isDigit <;> rfl

theorem takesAt_readNumberTail (dropped : Nat) :
    TakesAt (readNumberTail positive significand dropped) skipNumberTail input := by
  have hother : TakesAt (fun rest =>
      if dropped = 0 then .ok (integer positive significand, rest)
      else readFloat positive significand dropped rest) skipNothing input := by
    by_cases hwhole : dropped = 0
    · exact takesAt_nothing (fun more _ => if_pos hwhole) rfl
    · simp only [if_neg hwhole]
      exact takesAt_readFloat positive significand dropped input
  by_cases hpoint : input.head? = some 0x2e
  · obtain ⟨rest, rfl⟩ := List.head?_eq_some_iff.mp hpoint
    exact (takesAt_readFraction positive significand dropped rest).behind [0x2e]
      (fun _ _ => rfl) rfl
  · have hexponent := takesAt_readExponentOr positive significand dropped input hother
    refine hexponent.behind [] (fun more hmore => ?_) ?_
    · cases more with
      | nil => rfl
      | cons b more =>
          obtain ⟨rest, rfl⟩ := hmore
          have hb : b ≠ 0x2e := fun hsame => hpoint (congrArg some hsame)
          simp only [List.nil_append, readNumberTail, readExponentOr, if_neg hb]
    · cases input with
      | nil => rfl
      | cons b rest =>
          have hb : b ≠ 0x2e := fun hsame => hpoint (congrArg some hsame)
          simp only [List.nil_append, skipNumberTail, skipExponentOr, if_neg hb]
          rfl

/-- What is read as a number can be skipped as one, and is a number on its own. -/
theorem takesAt_readNumber : TakesAt (readNumber positive) skipNumber input := by
  cases input with
  | nil => exact takesAt_error rfl
  | cons b rest =>
      by_cases hzero : b = 0x30
      · subst hzero
        cases hdigit : rest.head?.any isDigit with
        | true => exact takesAt_error (by simp only [readNumber, hdigit, if_true]; rfl)
        | false =>
            refine (takesAt_readNumberTail positive 0 rest 0).behind [0x30]
              (fun more hmore => ?_) ?_
            · have hother : more.head?.any isDigit = false := by
                obtain ⟨behind, rfl⟩ := hmore
                cases more with
                | nil => rfl
                | cons c more => exact hdigit
              simp only [List.singleton_append, readNumber, hother, if_true]
              rfl
            · simp only [List.singleton_append, skipNumber, hdigit, if_true]
              rfl
      · cases hdigit : isDigit b with
        | false => exact takesAt_error (by simp only [readNumber, if_neg hzero, hdigit]; rfl)
        | true =>
            have hdigits : ∀ c ∈ (b :: rest).takeWhile isDigit, isDigit c = true :=
              fun c => List.mem_takeWhile_imp
            have hwhole : (b :: rest).takeWhile isDigit ++ (b :: rest).dropWhile isDigit =
                b :: rest := List.takeWhile_append_dropWhile
            have htail := takesAt_readNumberTail positive
              (absorb 0 ((b :: rest).takeWhile isDigit)).1 ((b :: rest).dropWhile isDigit)
              (absorb 0 ((b :: rest).takeWhile isDigit)).2.length
            have hfirst : (b :: rest).takeWhile isDigit = b :: rest.takeWhile isDigit :=
              List.takeWhile_cons_of_pos hdigit
            rw [← hwhole]
            refine htail.behind _ (fun more hmore => ?_) ?_
            · have hother := not_digit_behind_digits hmore
              have htake := takeWhile_digits hdigits hother
              have hdrop := dropWhile_digits hdigits hother
              rw [hfirst, List.cons_append] at htake hdrop ⊢
              simp only [readNumber, if_neg hzero, hdigit, if_true, htake, hdrop]
            · rw [hwhole, skipNumber, if_neg hzero, if_pos hdigit,
                List.dropWhile_cons_of_pos hdigit]

end Numbers

/-! ## Strings -/

/-- Where the skipping reader is when the reader is inside a string. -/
def StringState.skipped : StringState → StringState
  | .hex _ digits => .hex none digits
  | .afterHigh _ => .plain
  | .afterHighEscape _ => .escape
  | state => state

section Strings

variable {b : UInt8} {rest left : List UInt8} {text : String}

theorem skipStringFrom_hex {high : Option Nat} {digits : List UInt8} {unit : Nat}
    (hall : ¬ digits.length < 3) (hunit : hexNumber? (b :: digits) = some unit) :
    skipStringFrom (.hex high digits) (b :: rest) = skipStringFrom .plain rest := by
  rw [skipStringFrom, if_neg hall, hunit]
  rfl

/-- A step that both readers make. -/
theorem skipped_cons {state next : StringState}
    (hstep : skipStringFrom state (b :: rest) = skipStringFrom next rest)
    (hnext : skipStringFrom next rest = .ok ((), left) ∧ left.length < rest.length) :
    skipStringFrom state (b :: rest) = .ok ((), left) ∧ left.length < (b :: rest).length :=
  ⟨hstep.trans hnext.1, Nat.lt_succ_of_lt hnext.2⟩

theorem skipStringFrom_of_readStringFrom {state : StringState} {read input : List UInt8}
    (hread : readStringFrom state read input = .ok (text, left)) :
    skipStringFrom state.skipped input = .ok ((), left) ∧ left.length < input.length := by
  -- Where the reader goes on, both take one byte; in the other cases it fails.
  fun_induction readStringFrom state read input with
  | case2 read rest value hvalue =>
      cases hread
      exact ⟨rfl, Nat.lt_succ_self _⟩
  | case4 read rest hquote ih => exact skipped_cons rfl (ih hread)
  | case6 read b rest hquote hbackslash hcontrol ih =>
      refine skipped_cons ?_ (ih hread)
      rw [StringState.skipped, skipStringFrom, if_neg hquote, if_neg hbackslash, if_neg hcontrol]
      all_goals simp
  | case7 read rest ih => exact skipped_cons rfl (ih hread)
  | case8 read b rest hunicode meant hmeant ih =>
      refine skipped_cons ?_ (ih hread)
      rw [StringState.skipped, skipStringFrom, if_neg hunicode, hmeant]
      rfl
      all_goals simp
  | case10 high digits read b rest hfew ih =>
      refine skipped_cons ?_ (ih hread)
      rw [StringState.skipped, skipStringFrom, if_pos hfew]
      rfl
  | case13 digits read b rest hall unit hunit htrail hlead ih =>
      exact skipped_cons (skipStringFrom_hex hall hunit) (ih hread)
  | case14 digits read b rest hall unit hunit htrail hlead ih =>
      exact skipped_cons (skipStringFrom_hex hall hunit) (ih hread)
  | case15 digits read b rest hall unit high hunit htrail code ih =>
      exact skipped_cons (skipStringFrom_hex hall hunit) (ih hread)
  | case17 high read rest ih => exact skipped_cons rfl (ih hread)
  | case19 high read rest ih => exact skipped_cons rfl (ih hread)
  | _ => cases hread

/-- A string that is read can be skipped. -/
theorem skipString_of_readString {input : List UInt8}
    (hread : readString input = .ok (text, left)) :
    skipStringFrom .plain input = .ok ((), left) ∧ left.length < input.length :=
  skipStringFrom_of_readStringFrom hread

end Strings

end DebugBridge.Json
