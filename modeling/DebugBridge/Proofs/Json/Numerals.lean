import DebugBridge.Proofs.Json.Lexemes

/-!
# Numbers as they are written

The spelling of a number is kept beside the number.  It tells integers from all others: only a plain
decimal is read as an integer, so that a fraction, an exponent or a negative zero makes a number a
binary64 one, whatever its value.
-/

namespace DebugBridge.Json

open Text

/-- The number is read from its spelling. -/
structure Numeral where
  spelling : List UInt8
  value : Number
  reads : readSigned spelling = .ok (value, [])

/-! ## Reading -/

def skipSigned : List UInt8 → Result Unit
  | [] => .error (.brokenAt .invalidNumber 0)
  | b :: rest => if b = minus then skipNumber rest else skipNumber (b :: rest)

theorem takesAt_readSigned (input : List UInt8) : TakesAt readSigned skipSigned input := by
  cases input with
  | nil => exact takesAt_error rfl
  | cons b rest =>
      by_cases hminus : b = minus
      · subst hminus
        exact (takesAt_readNumber false rest).behind [minus] (fun _ _ => rfl) rfl
      · refine (takesAt_readNumber true (b :: rest)).behind [] (fun more hmore => ?_)
          (if_neg hminus)
        cases more with
        | nil => rfl
        | cons c more =>
            obtain ⟨rfl, -⟩ := List.cons_prefix_cons.mp hmore
            exact if_neg hminus

/-- What stands in front of what is left. -/
def consumed (input left : List UInt8) : List UInt8 := input.take (input.length - left.length)

@[simp]
theorem consumed_append (taken left : List UInt8) : consumed (taken ++ left) left = taken := by
  rw [consumed, List.length_append, Nat.add_sub_cancel, List.take_left]

theorem readSigned_consumed {input left : List UInt8} {value : Number}
    (hread : readSigned input = .ok (value, left)) :
    readSigned (consumed input left) = .ok (value, []) := by
  obtain ⟨taken, rfl, hcut, -⟩ := takesAt_readSigned input value left hread
  rw [consumed_append, ← List.append_nil taken]
  exact hcut [] List.nil_prefix

def readNumeral (input : List UInt8) : Result Numeral :=
  match hread : readSigned input with
  | .error failure => .error failure
  | .ok (value, left) => .ok (⟨consumed input left, value, readSigned_consumed hread⟩, left)

/-- The numeral's number is what the reader of numbers reads. -/
theorem readSigned_eq_readNumeral (input : List UInt8) :
    readSigned input = (readNumeral input).map fun read => (read.1.value, read.2) := by
  unfold readNumeral
  split
  · next failure hread => exact hread
  · next value left hread => exact hread

/-- A numeral stands in the text where it is read. -/
theorem readNumeral_eq_ok {input left : List UInt8} {numeral : Numeral}
    (hread : readNumeral input = .ok (numeral, left)) :
    input = numeral.spelling ++ left ∧ skipSigned input = .ok ((), left) := by
  unfold readNumeral at hread
  split at hread
  · cases hread
  · next value rest hsigned =>
      cases hread
      obtain ⟨taken, rfl, -, hskip⟩ := takesAt_readSigned input value _ hsigned
      exact ⟨congrArg (· ++ _) (consumed_append taken _).symm, hskip⟩

/-! ## Integers -/

/-- An integer in digits. -/
def decimal (value : Int) : List UInt8 := bytesOf (toString value).toList

/-- The integer fits into 64 bits, signed or unsigned. -/
def FitsWord (value : Int) : Prop := -0x8000000000000000 ≤ value ∧ value < 0x10000000000000000

section Integers

variable {positive : Bool} {significand : Nat} {start : Int} {input rest left : List UInt8}
  {value : Int}

theorem not_int_of_readUnsignedExponent {positiveExponent : Bool} :
    readUnsignedExponent positive significand start positiveExponent input ≠
      .ok (.int value, left) := by
  intro hread
  unfold readUnsignedExponent at hread
  split at hread
  · cases hread
  · split at hread
    · cases hread
    · split at hread
      · cases hread
      · cases hread
      · exact not_int_of_readFloat hread

theorem not_int_of_readExponent :
    readExponent positive significand start input ≠ .ok (.int value, left) := by
  unfold readExponent
  split
  · exact not_int_of_readUnsignedExponent
  · exact not_int_of_readUnsignedExponent
  · exact not_int_of_readUnsignedExponent

theorem not_int_of_readFraction :
    readFraction positive significand start input ≠ .ok (.int value, left) := by
  intro hread
  simp only [readFraction] at hread
  split at hread
  · split at hread
    · cases hread
    · cases hread
  · split at hread
    · split at hread
      · exact not_int_of_readExponent hread
      · exact not_int_of_readFloat hread
    · exact not_int_of_readFloat hread

/-- Nothing stands behind the digits of an integer that is the whole text, and none is left out. -/
theorem readNumberTail_eq_int {dropped : Nat}
    (hread : readNumberTail positive significand dropped input = .ok (.int value, [])) :
    dropped = 0 ∧ input = [] ∧ .int value = integer positive significand := by
  unfold readNumberTail at hread
  split at hread
  · split at hread
    · exact absurd hread not_int_of_readFraction
    · split at hread
      · exact absurd hread not_int_of_readExponent
      · split at hread
        · exact absurd (congrArg Prod.snd (Except.ok.inj hread)) (List.cons_ne_nil _ _)
        · exact absurd hread not_int_of_readFloat
  · split at hread
    · next hwhole =>
        refine ⟨hwhole, rfl, ?_⟩
        injection hread with hread
        exact (congrArg Prod.fst hread).symm
    · exact absurd hread not_int_of_readFloat

theorem digitValue_lt {d : UInt8} (hd : isDigit d = true) : digitValue d < 10 := by
  simp only [isDigit, Bool.and_eq_true, decide_eq_true_eq, UInt8.le_iff_toNat_le] at hd
  have hnine : d.toNat ≤ 57 := hd.2
  rw [digitValue]
  omega

theorem bytesOf_digitChar {d : UInt8} (hd : isDigit d = true) :
    bytesOf [Nat.digitChar (digitValue d)] = [d] := by
  have hrange : 48 ≤ d.toNat ∧ d.toNat ≤ 57 := by
    simp only [isDigit, Bool.and_eq_true, decide_eq_true_eq, UInt8.le_iff_toNat_le] at hd
    exact hd
  have hcode : ∀ n < 10, (Nat.digitChar n).toNat = 48 + n := by decide
  have hvalue : (Nat.digitChar (digitValue d)).toNat = d.toNat := by
    rw [hcode _ (digitValue_lt hd), digitValue]
    omega
  rw [bytesOf_cons, bytesOf_nil, List.append_nil, utf8EncodeChar_of_le (by omega), hvalue,
    UInt8.ofNat_toNat]

/-- Digits that are all taken make the decimal of the number longer. -/
theorem digits_of_absorb {digits : List UInt8} (hdigits : ∀ b ∈ digits, isDigit b = true)
    {n m : Nat} (hpositive : 0 < n) (hfits : n < 0x10000000000000000)
    (habsorb : absorb n digits = (m, [])) :
    bytesOf (Nat.toDigits 10 n) ++ digits = bytesOf (Nat.toDigits 10 m) ∧
      m < 0x10000000000000000 := by
  induction digits generalizing n with
  | nil =>
      obtain ⟨rfl, -⟩ := Prod.mk.inj habsorb
      exact ⟨List.append_nil _, hfits⟩
  | cons d digits ih =>
      obtain ⟨hd, hmore⟩ := List.forall_mem_cons.mp hdigits
      have hsmall : digitValue d < 10 := digitValue_lt hd
      rw [absorb] at habsorb
      split at habsorb
      · next hlarger =>
          obtain ⟨hlonger, hbound⟩ := ih hmore (by omega) hlarger habsorb
          refine ⟨?_, hbound⟩
          have hnext : Nat.toDigits 10 (n * 10 + digitValue d) =
              Nat.toDigits 10 n ++ [Nat.digitChar (digitValue d)] := by
            rw [Nat.mul_comm n 10, ← Nat.toDigits_append_toDigits (by decide) hpositive hsmall,
              Nat.toDigits_of_lt_base hsmall]
          calc bytesOf (Nat.toDigits 10 n) ++ d :: digits
              = bytesOf (Nat.toDigits 10 n ++ [Nat.digitChar (digitValue d)]) ++ digits := by
                rw [bytesOf_append, bytesOf_digitChar hd, List.append_assoc, List.singleton_append]
            _ = bytesOf (Nat.toDigits 10 (n * 10 + digitValue d)) ++ digits := by rw [hnext]
            _ = bytesOf (Nat.toDigits 10 m) := hlonger
      · cases habsorb

/-- A number that is read as an integer is a plain decimal. -/
theorem readNumber_eq_int (hread : readNumber positive input = .ok (.int value, [])) :
    ∃ n : Nat, n < 0x10000000000000000 ∧ input = bytesOf (toString n).toList ∧
      .int value = integer positive n := by
  cases input with
  | nil => cases hread
  | cons b rest =>
      by_cases hzero : b = 0x30
      · subst hzero
        simp only [readNumber, if_true] at hread
        split at hread
        · cases hread
        · obtain ⟨-, rfl, hvalue⟩ := readNumberTail_eq_int hread
          exact ⟨0, by decide, rfl, hvalue⟩
      · cases hdigit : isDigit b with
        | false =>
            simp only [readNumber, if_neg hzero, hdigit] at hread
            cases hread
        | true =>
            simp only [readNumber, if_neg hzero, hdigit, if_true] at hread
            obtain ⟨hdropped, hbehind, hvalue⟩ := readNumberTail_eq_int hread
            have hwhole : (b :: rest).takeWhile isDigit = b :: rest := by
              have hsplit := List.takeWhile_append_dropWhile (p := isDigit) (l := b :: rest)
              rwa [hbehind, List.append_nil] at hsplit
            have hdigits : ∀ c ∈ b :: rest, isDigit c = true := by
              rw [← hwhole]
              exact fun c => List.mem_takeWhile_imp
            rw [hwhole] at hdropped hvalue
            have hpositive : 0 < digitValue b := by
              refine Nat.pos_of_ne_zero fun hnone => hzero ?_
              have hbyte := bytesOf_digitChar hdigit
              rw [hnone] at hbyte
              exact (List.cons.inj hbyte).1.symm
            have hsmall := digitValue_lt hdigit
            -- From here on the digits are absorbed behind a number that is not zero.
            have habsorb : absorb (digitValue b) rest = ((absorb 0 (b :: rest)).1, []) := by
              rw [absorb, Nat.zero_mul, Nat.zero_add, if_pos (by omega)] at hdropped ⊢
              exact Prod.ext rfl (List.length_eq_zero_iff.mp hdropped)
            obtain ⟨hdecimal, hfits⟩ := digits_of_absorb (List.forall_mem_cons.mp hdigits).2
              hpositive (by omega) habsorb
            rw [Nat.toDigits_of_lt_base hsmall, bytesOf_digitChar hdigit,
              List.singleton_append] at hdecimal
            refine ⟨_, hfits, hdecimal.trans ?_, hvalue⟩
            rw [Nat.toString_eq_ofList_toDigits, String.toList_ofList]

end Integers

theorem decimal_negSucc (n : Nat) :
    decimal (Int.negSucc n) = minus :: bytesOf (toString (n + 1)).toList := by
  rw [decimal, toList_toString_negSucc]
  rfl

theorem readSigned_eq_int {input : List UInt8} {value : Int}
    (hread : readSigned input = .ok (.int value, [])) : input = decimal value ∧ FitsWord value := by
  cases input with
  | nil => cases hread
  | cons b rest =>
      by_cases hminus : b = minus
      · subst hminus
        have hunsigned : readNumber false rest = .ok (.int value, []) := hread
        obtain ⟨n, -, rfl, hvalue⟩ := readNumber_eq_int hunsigned
        rw [integer, if_neg Bool.false_ne_true] at hvalue
        split at hvalue
        · cases hvalue
        · next hinside =>
            obtain ⟨n, rfl⟩ : ∃ m, n = m + 1 := Nat.exists_eq_succ_of_ne_zero (by omega)
            obtain rfl : value = Int.negSucc n := Number.int.inj hvalue
            exact ⟨(decimal_negSucc n).symm, by omega, by omega⟩
      · rw [readSigned, if_neg hminus] at hread
        obtain ⟨n, hfits, hinput, hvalue⟩ := readNumber_eq_int hread
        obtain rfl : value = n := Number.int.inj hvalue
        exact ⟨hinput, by omega, by omega⟩

/-- A number is an integer just if it is spelled as one that fits. -/
theorem Numeral.value_eq_int_iff (numeral : Numeral) (value : Int) :
    numeral.value = .int value ↔ numeral.spelling = decimal value ∧ FitsWord value := by
  obtain ⟨spelling, found, hreads⟩ := numeral
  constructor
  · rintro (rfl : found = .int value)
    exact readSigned_eq_int hreads
  · rintro ⟨rfl : spelling = decimal value, hfits⟩
    have hread := readSigned_decimal hfits
    exact congrArg Prod.fst (Except.ok.inj (hreads.symm.trans hread))

end DebugBridge.Json
