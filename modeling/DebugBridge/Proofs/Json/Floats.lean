import DebugBridge.Proofs.Decimal.Shortest
import DebugBridge.Proofs.Json.Numbers

/-!
# Floating-point numbers read back

The text of every finite number is taken by the reader, though not always as the same number.  The
reader computes a significand of at most 64 bits times a power of ten, with one rounding for each
factor and one for the product, so that it could refuse none but the greatest numbers; their texts
are read as well.
-/

namespace DebugBridge.Json

open Binary64 Text

/-! ## Powers of ten -/

section Powers

theorem tenPower_lt_overflow : (10 : ℚ) ^ 308 < overflow := by
  have hunit : (0 : ℚ) < 2 ^ (971 : Int) := by positivity
  calc (10 : ℚ) ^ 308 = (10 ^ 44) ^ 7 := pow_mul 10 44 7
    _ ≤ (9 / 8 * 2 ^ 146) ^ 7 := pow_le_pow_left₀ (by positivity) (by norm_num) 7
    _ = (9 / 8) ^ 7 * 2 ^ (1022 : Int) := by
        rw [mul_pow]
        exact congrArg _ (pow_mul 2 146 7).symm
    _ = (9 / 8) ^ 7 * 2 ^ 51 * 2 ^ (971 : Int) := by
        rw [mul_assoc]
        exact congrArg _ (zpow_add₀ two_ne_zero 51 971)
    _ < overflow := mul_lt_mul_of_pos_right (by norm_num) hunit

theorem overflow_lt_tenPower : overflow < (10 : ℚ) ^ 309 := by
  have htwo : (2 : ℚ) ^ (1024 : Int) = (2 ^ 128) ^ 8 := by
    rw [← pow_mul, ← zpow_natCast]
    rfl
  have hten : (10 : ℚ) ^ 309 = (10 ^ 38) ^ 8 * 10 ^ 5 := by
    rw [← pow_mul, ← pow_add]
  calc overflow < 2 ^ (1024 : Int) := overflow_lt
    _ = (2 ^ 128) ^ 8 := htwo
    _ ≤ (10 ^ 38 * 4) ^ 8 := pow_le_pow_left₀ (by norm_num) (by norm_num) 8
    _ = (10 ^ 38) ^ 8 * 4 ^ 8 := mul_pow _ _ _
    _ ≤ (10 ^ 38) ^ 8 * 10 ^ 5 := mul_le_mul_of_nonneg_left (by norm_num) (by positivity)
    _ = 10 ^ 309 := hten.symm

theorem isFinite_ofNat {n : Nat} (hsmall : (n : ℚ) < overflow) : (ofNat n).isFinite = true :=
  isFinite_ofRatio false n Nat.one_pos (by rwa [Nat.cast_one, div_one])

theorem size_ofNat {n : Nat} (hn : 0 < n) (hsmall : (n : ℚ) < overflow) :
    1 ≤ (ofNat n).size ∧ (ofNat n).size ≤ n * (1 + 1 / 2 ^ 53) := by
  have hone : (1 : ℚ) ≤ n := by exact_mod_cast hn
  have hratio := @size_ofRatio false n 1 Nat.one_pos
  rw [Nat.cast_one, div_one] at hratio
  exact hratio hone hsmall

theorem ofNat_zero : ofNat 0 = .zero := ofRatio_zero false 1

theorem size_ofNat_le {n : Nat} (hsmall : (n : ℚ) < overflow) :
    (ofNat n).size ≤ n * (1 + 1 / 2 ^ 53) := by
  rcases Nat.eq_zero_or_pos n with rfl | hn
  · have hmagnitude : (ofNat 0).magnitude = .finite 0 (-1074) := by
      rw [ofNat_zero]
      rfl
    rw [size_of_magnitude hmagnitude]
    norm_num
  · exact (size_ofNat hn hsmall).2

theorem tenPower_lt {k : Nat} (hk : k ≤ 308) : ((10 ^ k : Nat) : ℚ) < overflow := by
  push_cast
  exact lt_of_le_of_lt (pow_le_pow_right₀ (by norm_num) hk) tenPower_lt_overflow

theorem isFinite_powerOfTen {k : Nat} (hk : k ≤ 308) : (powerOfTen k).isFinite = true :=
  isFinite_ofNat (tenPower_lt hk)

theorem size_powerOfTen {k : Nat} (hk : k ≤ 308) :
    1 ≤ (powerOfTen k).size ∧ (powerOfTen k).size ≤ 10 ^ k * (1 + 1 / 2 ^ 53) := by
  have hsize := size_ofNat (Nat.pow_pos (by decide : 0 < 10)) (tenPower_lt hk)
  push_cast at hsize
  exact hsize

/-- What fits into 64 bits is far from the limit. -/
theorem word_lt_overflow {n : Nat} (hn : n < 0x10000000000000000) : (n : ℚ) < overflow := by
  have hword : (n : ℚ) < 10 ^ 308 := by
    calc (n : ℚ) < 10 ^ 20 := by
          have hless : n < 10 ^ 20 := by omega
          exact_mod_cast hless
      _ ≤ 10 ^ 308 := pow_le_pow_right₀ (by norm_num) (by decide)
  exact hword.trans tenPower_lt_overflow

end Powers

/-! ## Scaling -/

section Scaling

theorem size_powerOfTen_zero : (powerOfTen 0).size = 1 := by
  have hmagnitude : (powerOfTen 0).magnitude = .finite 0x10000000000000 (-52) := rfl
  rw [size_of_magnitude hmagnitude]
  norm_num

/-- No number gets too large from dividing. -/
theorem exists_scale_of_nonpos {x : Binary64} (hx : x.isFinite = true) {e : Int} (he : e ≤ 0)
    (steps : Nat) : ∃ y, scale x e steps = some y := by
  induction steps generalizing x e with
  | zero => exact ⟨x, rfl⟩
  | succ steps ih =>
      rw [scale]
      split
      · split
        · obtain rfl : e = 0 := by omega
          have hsame : (x.times (powerOfTen 0)).isFinite = true := by
            refine isFinite_times hx (isFinite_powerOfTen (Nat.zero_le _)) ?_
            rw [size_powerOfTen_zero, mul_one]
            exact size_lt_overflow x
          exact ⟨_, if_pos hsame⟩
        · exact ⟨_, rfl⟩
      · split
        · exact ⟨x, rfl⟩
        · rw [if_neg (by omega)]
          exact ih (isFinite_dividedBy hx (size_powerOfTen (Nat.le_refl _)).1) (by omega)

/-- What is scaled comes to less than the limit, both factors and the product being rounded. -/
def Fits (significand : Nat) (e : Int) : Prop :=
  significand < 0x10000000000000000 ∧
    (e ≤ 0 ∨ (significand : ℚ) * 10 ^ e * (1 + 1 / 2 ^ 53) ^ 2 < overflow)

/-- No significand but zero fits with a power of ten that is too great itself. -/
theorem le_of_fits {significand k : Nat} (hsome : 0 < significand)
    (hsmall : (significand : ℚ) * 10 ^ k * (1 + 1 / 2 ^ 53) ^ 2 < overflow) : k ≤ 308 := by
  by_contra hk
  have hone : (1 : ℚ) ≤ significand := by exact_mod_cast hsome
  have hlarge : overflow < significand * 10 ^ k * (1 + 1 / 2 ^ 53) ^ 2 := by
    calc overflow < (10 : ℚ) ^ 309 := overflow_lt_tenPower
      _ ≤ 10 ^ k := pow_le_pow_right₀ (by norm_num) (by omega)
      _ ≤ significand * 10 ^ k := le_mul_of_one_le_left (by positivity) hone
      _ ≤ significand * 10 ^ k * (1 + 1 / 2 ^ 53) ^ 2 :=
        le_mul_of_one_le_right (by positivity) (by norm_num)
  exact absurd hsmall hlarge.not_gt

theorem isFinite_product {significand k : Nat} (hword : significand < 0x10000000000000000)
    (hk : k ≤ 308) (hsmall : (significand : ℚ) * 10 ^ k * (1 + 1 / 2 ^ 53) ^ 2 < overflow) :
    ((ofNat significand).times (powerOfTen k)).isFinite = true := by
  refine isFinite_times (isFinite_ofNat (word_lt_overflow hword)) (isFinite_powerOfTen hk) ?_
  calc (ofNat significand).size * (powerOfTen k).size
      ≤ significand * (1 + 1 / 2 ^ 53) * (10 ^ k * (1 + 1 / 2 ^ 53)) :=
        mul_le_mul (size_ofNat_le (word_lt_overflow hword)) (size_powerOfTen hk).2
          (size_nonneg _) (by positivity)
    _ = significand * 10 ^ k * (1 + 1 / 2 ^ 53) ^ 2 := by ring
    _ < overflow := hsmall

/-- A product that fits is a number. -/
theorem exists_scale {significand : Nat} {e : Int} (hfits : Fits significand e) (steps : Nat) :
    ∃ y, scale (.ofNat significand) e steps = some y := by
  obtain ⟨hword, hcases⟩ := hfits
  rcases le_or_gt e 0 with hnonpos | hpos
  · exact exists_scale_of_nonpos (isFinite_ofNat (word_lt_overflow hword)) hnonpos steps
  · have hsmall := hcases.resolve_left (by omega)
    obtain ⟨k, rfl⟩ := Int.eq_ofNat_of_zero_le hpos.le
    rw [zpow_natCast] at hsmall
    cases steps with
    | zero => exact ⟨_, rfl⟩
    | succ steps =>
        rw [scale, if_pos hpos.le, Int.natAbs_natCast]
        split
        · next hk => exact ⟨_, if_pos (isFinite_product hword hk hsmall)⟩
        · next hk =>
            split
            · exact ⟨_, rfl⟩
            · next hother =>
                have hsome : 0 < significand :=
                  Nat.pos_of_ne_zero fun hzero => hother (hzero ▸ ofNat_zero)
                exact absurd (le_of_fits hsome hsmall) hk

/-- Only numbers come of scaling. -/
theorem isFinite_of_scale {x y : Binary64} (hx : x.isFinite = true) {e : Int} {steps : Nat}
    (hscale : scale x e steps = some y) : y.isFinite = true := by
  induction steps generalizing x e with
  | zero => exact Option.some.inj hscale ▸ hx
  | succ steps ih =>
      rw [scale] at hscale
      split at hscale
      · next hmoderate =>
          split at hscale
          · dsimp only at hscale
            split at hscale
            · next hfinite => exact Option.some.inj hscale ▸ hfinite
            · cases hscale
          · exact Option.some.inj hscale ▸
              isFinite_dividedBy hx (size_powerOfTen hmoderate).1
      · split at hscale
        · exact Option.some.inj hscale ▸ hx
        · split at hscale
          · cases hscale
          · exact ih (isFinite_dividedBy hx (size_powerOfTen (Nat.le_refl _)).1) hscale

end Scaling

/-! ## Digits -/

section Digits

theorem length_bytesOf {chars : List Char} (hchars : ∀ c ∈ chars, c.isDigit = true) :
    (bytesOf chars).length = chars.length := by
  induction chars with
  | nil => rfl
  | cons c chars ih =>
      obtain ⟨hc, hmore⟩ := List.forall_mem_cons.mp hchars
      rw [bytesOf_cons, (utf8EncodeChar_digit hc).1, List.singleton_append, List.length_cons,
        List.length_cons, ih hmore]

theorem absorb_lt {n : Nat} (hn : n < 0x10000000000000000) (digits : List UInt8) :
    (absorb n digits).1 < 0x10000000000000000 := by
  induction digits generalizing n with
  | nil => exact hn
  | cons d digits ih =>
      rw [absorb]
      split
      · next hfits => exact ih hfits
      · exact hn

theorem length_absorb_le (n : Nat) (digits : List UInt8) :
    (absorb n digits).2.length ≤ digits.length := by
  induction digits generalizing n with
  | nil => exact Nat.le_refl _
  | cons d digits ih =>
      rw [absorb]
      split
      · exact Nat.le_succ_of_le (ih _)
      · exact Nat.le_refl _

theorem mul_tenPower_le_ofDigitChars (chars : List Char) (n : Nat) :
    n * 10 ^ chars.length ≤ Nat.ofDigitChars 10 chars n := by
  induction chars generalizing n with
  | nil => exact Nat.le_of_eq (Nat.mul_one n)
  | cons c chars ih =>
      rw [Nat.ofDigitChars_cons, List.length_cons, Nat.pow_succ']
      calc n * (10 * 10 ^ chars.length) = 10 * n * 10 ^ chars.length := by ring
        _ ≤ (10 * n + (c.toNat - '0'.toNat)) * 10 ^ chars.length :=
          Nat.mul_le_mul_right _ (Nat.le_add_right _ _)
        _ ≤ _ := ih _

/-- Digits that are left out make the number less. -/
theorem absorb_le {chars : List Char} (hchars : ∀ c ∈ chars, c.isDigit = true) (n : Nat) :
    (absorb n (bytesOf chars)).1 * 10 ^ (absorb n (bytesOf chars)).2.length ≤
      Nat.ofDigitChars 10 chars n := by
  induction chars generalizing n with
  | nil => exact Nat.le_of_eq (Nat.mul_one n)
  | cons c chars ih =>
      obtain ⟨hc, hmore⟩ := List.forall_mem_cons.mp hchars
      have hbyte := (utf8EncodeChar_digit hc).1
      rw [bytesOf_cons, hbyte, List.singleton_append, absorb, digitValue_bytesOf hc]
      split
      · rw [Nat.ofDigitChars_cons, Nat.mul_comm 10 n]
        exact ih hmore _
      · have hwhole := mul_tenPower_le_ofDigitChars (c :: chars) n
        rwa [List.length_cons, ← length_bytesOf hmore] at hwhole

/-- An exponent of 31 bits is read whole. -/
theorem readExponentDigits_digits (positive zero positiveExponent : Bool) {chars : List Char}
    (hchars : ∀ c ∈ chars, c.isDigit = true) {n : Nat}
    (hfits : Nat.ofDigitChars 10 chars n < 0x80000000) :
    readExponentDigits positive zero positiveExponent n (bytesOf chars) =
      .ok (some (Nat.ofDigitChars 10 chars n), []) := by
  induction chars generalizing n with
  | nil => rfl
  | cons c chars ih =>
      obtain ⟨hc, hmore⟩ := List.forall_mem_cons.mp hchars
      obtain ⟨hbyte, hdigit⟩ := utf8EncodeChar_digit hc
      rw [Nat.ofDigitChars_cons] at hfits ⊢
      have hgrows := le_ofDigitChars chars (10 * n + (c.toNat - '0'.toNat))
      rw [bytesOf_cons, hbyte, List.singleton_append, readExponentDigits, hdigit,
        digitValue_bytesOf hc, Nat.mul_comm n 10, if_neg (by simp), if_pos (by omega)]
      exact ih hmore hfits

end Digits

/-! ## Layouts -/

section Layouts

variable (positive : Bool)

theorem exists_readFloat {significand : Nat} {e : Int} (hfits : Fits significand e) :
    ∃ number, readFloat positive significand e [] = .ok (number, []) := by
  obtain ⟨y, hscale⟩ := exists_scale hfits 4
  rw [readFloat, hscale]
  exact ⟨_, rfl⟩

/-- A printed exponent. -/
def exponentBytes (negative : Bool) (n : Nat) : List UInt8 :=
  0x65 :: (if negative then 0x2d else 0x2b) :: bytesOf (toString n).toList

theorem head_exponentBytes (negative : Bool) (n : Nat) :
    ∀ b ∈ (exponentBytes negative n).head?, isDigit b = false := by
  rintro b ⟨⟩
  rfl

theorem head_point (rest : List UInt8) :
    ∀ b ∈ (0x2e :: rest : List UInt8).head?, isDigit b = false := by
  rintro b ⟨⟩
  rfl

theorem readUnsignedExponent_toString (significand : Nat) (start : Int) (positiveExponent : Bool)
    {n : Nat} (hn : n < 0x80000000) :
    readUnsignedExponent positive significand start positiveExponent
        (bytesOf (toString n).toList) =
      readFloat positive significand (if positiveExponent then start + n else start - n) [] := by
  have hdigits := @isDigit_of_mem_toString n
  have hvalue := ofDigitChars_toString n
  cases hchars : (toString n).toList with
  | nil => exact absurd hchars (toList_toString_ne_nil n)
  | cons c chars =>
      rw [hchars] at hdigits hvalue
      obtain ⟨hc, hmore⟩ := List.forall_mem_cons.mp hdigits
      obtain ⟨hbyte, hdigit⟩ := utf8EncodeChar_digit hc
      rw [Nat.ofDigitChars_cons, Nat.mul_zero, Nat.zero_add] at hvalue
      rw [bytesOf_cons, hbyte, List.singleton_append, readUnsignedExponent, hdigit,
        digitValue_bytesOf hc,
        readExponentDigits_digits positive _ positiveExponent hmore (hvalue.symm ▸ hn), hvalue]
      rfl

theorem readExponent_printed (significand : Nat) (start : Int) (negative : Bool) {n : Nat}
    (hn : n < 0x80000000) :
    readExponent positive significand start (exponentBytes negative n).tail =
      readFloat positive significand (if negative then start - n else start + n) [] := by
  cases negative with
  | true => exact readUnsignedExponent_toString positive significand start false hn
  | false => exact readUnsignedExponent_toString positive significand start true hn

theorem exists_readNumberTail_exponent {significand : Nat}
    (hword : significand < 0x10000000000000000) {negative : Bool} {n : Nat} (hn : n < 0x80000000)
    (hsmall : negative = false →
      (significand : ℚ) * 10 ^ (n : Int) * (1 + 1 / 2 ^ 53) ^ 2 < overflow) :
    ∃ number, readNumberTail positive significand 0 (exponentBytes negative n) =
      .ok (number, []) := by
  have hread : readNumberTail positive significand 0 (exponentBytes negative n) =
      readExponent positive significand 0 (exponentBytes negative n).tail := rfl
  rw [hread, readExponent_printed positive significand 0 negative hn]
  refine exists_readFloat positive ⟨hword, ?_⟩
  cases negative with
  | true => exact .inl (by simp only [if_true]; omega)
  | false =>
      rw [if_neg Bool.false_ne_true, zero_add]
      exact .inr (hsmall rfl)

section Fraction

variable {significand : Nat} {chars : List Char}

theorem exists_readFraction (hword : significand < 0x10000000000000000) (hsome : chars ≠ [])
    (hchars : ∀ c ∈ chars, c.isDigit = true) :
    ∃ number, readFraction positive significand 0 (bytesOf chars) = .ok (number, []) := by
  have hdigits := isDigit_of_mem_bytesOf hchars
  have htake := @takeWhile_digits _ [] hdigits (by simp)
  have hdrop := @dropWhile_digits _ [] hdigits (by simp)
  rw [List.append_nil] at htake hdrop
  have hempty : (bytesOf chars).isEmpty = false :=
    List.isEmpty_eq_false_iff.mpr (bytesOf_ne_nil hsome)
  simp only [readFraction, htake, hdrop, hempty]
  exact exists_readFloat positive ⟨absorb_lt hword _, .inl (by omega)⟩

/-- The digits that are left out count as zeros. -/
theorem fits_absorb (hword : significand < 0x10000000000000000)
    (hchars : ∀ c ∈ chars, c.isDigit = true) {n : Nat}
    (hsmall : (Nat.ofDigitChars 10 chars significand : ℚ) * 10 ^ ((n : Int) - chars.length) *
      (1 + 1 / 2 ^ 53) ^ 2 < overflow) :
    Fits (absorb significand (bytesOf chars)).1
      (0 - ((bytesOf chars).length - (absorb significand (bytesOf chars)).2.length : Nat) + n) := by
  refine ⟨absorb_lt hword _, .inr (lt_of_le_of_lt ?_ hsmall)⟩
  have hleft := length_absorb_le significand (bytesOf chars)
  have hvalue : ((absorb significand (bytesOf chars)).1 : ℚ) *
      10 ^ (absorb significand (bytesOf chars)).2.length ≤
        Nat.ofDigitChars 10 chars significand := by
    exact_mod_cast absorb_le hchars significand
  rw [length_bytesOf hchars] at hleft ⊢
  generalize absorb significand (bytesOf chars) = taken at hleft hvalue ⊢
  have hexponent : (0 : Int) - (chars.length - taken.2.length : Nat) + n =
      taken.2.length + ((n : Int) - chars.length) := by omega
  rw [hexponent, zpow_add₀ (by norm_num), zpow_natCast, ← mul_assoc]
  gcongr

theorem exists_readFraction_exponent (hword : significand < 0x10000000000000000)
    (hsome : chars ≠ []) (hchars : ∀ c ∈ chars, c.isDigit = true) {negative : Bool} {n : Nat}
    (hn : n < 0x80000000)
    (hsmall : negative = false → (Nat.ofDigitChars 10 chars significand : ℚ) *
      10 ^ ((n : Int) - chars.length) * (1 + 1 / 2 ^ 53) ^ 2 < overflow) :
    ∃ number, readFraction positive significand 0 (bytesOf chars ++ exponentBytes negative n) =
      .ok (number, []) := by
  have hdigits := isDigit_of_mem_bytesOf hchars
  have htake := takeWhile_digits hdigits (head_exponentBytes negative n)
  have hdrop := dropWhile_digits hdigits (head_exponentBytes negative n)
  have hempty : (bytesOf chars).isEmpty = false :=
    List.isEmpty_eq_false_iff.mpr (bytesOf_ne_nil hsome)
  have hread : readFraction positive significand 0 (bytesOf chars ++ exponentBytes negative n) =
      readExponent positive (absorb significand (bytesOf chars)).1
        (0 - ((bytesOf chars).length - (absorb significand (bytesOf chars)).2.length : Nat))
        (exponentBytes negative n).tail := by
    simp only [readFraction, htake, hdrop, hempty]
    rfl
  rw [hread, readExponent_printed positive _ _ negative hn]
  refine exists_readFloat positive ?_
  cases negative with
  | true => exact ⟨absorb_lt hword _, .inl (by simp only [if_true]; omega)⟩
  | false => exact fits_absorb hword hchars (hsmall rfl)

end Fraction

theorem ofDigitChars_lt {chars : List Char} (hchars : ∀ c ∈ chars, c.isDigit = true) (n : Nat) :
    Nat.ofDigitChars 10 chars n < (n + 1) * 10 ^ chars.length := by
  induction chars generalizing n with
  | nil => simp
  | cons c chars ih =>
      obtain ⟨hc, hmore⟩ := List.forall_mem_cons.mp hchars
      have hnine : c.toNat - '0'.toNat ≤ 9 := by
        have hrange := (Char.isDigit_iff_toNat.mp hc).2
        have hcodes : '9'.toNat = 57 ∧ '0'.toNat = 48 := by decide
        omega
      rw [Nat.ofDigitChars_cons, List.length_cons, Nat.pow_succ', ← Nat.mul_assoc]
      refine lt_of_lt_of_le (ih hmore _) (Nat.mul_le_mul_right _ ?_)
      omega

theorem word_of_length_le {chars : List Char} (hchars : ∀ c ∈ chars, c.isDigit = true)
    (hlength : chars.length ≤ 16) : Nat.ofDigitChars 10 chars 0 < 0x10000000000000000 := by
  calc Nat.ofDigitChars 10 chars 0 < (0 + 1) * 10 ^ chars.length := ofDigitChars_lt hchars 0
    _ ≤ (0 + 1) * 10 ^ 16 := Nat.mul_le_mul_left _ (Nat.pow_le_pow_right (by decide) hlength)
    _ ≤ 0x10000000000000000 := by decide

/-- Few digits, a point and more digits. -/
theorem exists_readNumber_point {whole fraction : List Char} (hleads : Leads whole)
    (hwhole : ∀ c ∈ whole, c.isDigit = true) (hlength : whole.length ≤ 16)
    (hsome : fraction ≠ []) (hfraction : ∀ c ∈ fraction, c.isDigit = true) :
    ∃ number, readNumber positive (bytesOf (whole ++ '.' :: fraction)) = .ok (number, []) := by
  have hword := word_of_length_le hwhole hlength
  have hbytes : bytesOf ('.' :: fraction) = 0x2e :: bytesOf fraction := rfl
  rw [bytesOf_append, hbytes, readNumber_digits positive hleads hwhole hword (head_point _)]
  exact exists_readFraction positive hword hsome hfraction

section Written

variable {c : Char} {more : List Char}

theorem exists_readNumber_pointed (hc : c ≠ '0') (hdigits : ∀ d ∈ c :: more, d.isDigit = true)
    {point : Int} (hpoint : point ≤ 16) :
    ∃ number, readNumber positive (bytesOf (pointed (c :: more) point).toList) =
      .ok (number, []) := by
  unfold pointed
  split
  · have hread := exists_readNumber_point positive (.inl rfl : Leads ['0']) isDigit_of_mem_zero
      (by decide) (List.append_ne_nil_of_right_ne_nil _ (List.cons_ne_nil c more))
      (List.forall_mem_append.mpr ⟨@isDigit_of_mem_zeros point.natAbs, hdigits⟩)
    simpa [String.toList_append, String.toList_ofList] using hread
  · next hpositive =>
    split
    · next hshort =>
        have hlength : ((c :: more) ++
            (zeros (point - (c :: more).length).toNat).toList).length ≤ 16 := by
          rw [List.length_append, zeros, String.toList_ofList, List.length_replicate]
          omega
        have hread := exists_readNumber_point positive (.inr ⟨c, _, rfl, hc⟩)
          (List.forall_mem_append.mpr ⟨hdigits, isDigit_of_mem_zeros⟩) hlength
          (List.cons_ne_nil _ _) isDigit_of_mem_zero
        simpa [String.toList_append, String.toList_ofList] using hread
    · next hlong =>
        obtain ⟨k, hk⟩ : ∃ k, point.toNat = k + 1 := ⟨point.toNat - 1, by omega⟩
        have hbehind : (c :: more).drop point.toNat ≠ [] := by
          rw [Ne, List.drop_eq_nil_iff]
          omega
        have hread := exists_readNumber_point positive
          (.inr ⟨c, more.take k, by rw [hk, List.take_succ_cons], hc⟩ :
            Leads ((c :: more).take point.toNat))
          (fun d hd => hdigits d (List.mem_of_mem_take hd))
          (by rw [List.length_take]; omega) hbehind
          (fun d hd => hdigits d (List.mem_of_mem_drop hd))
        simpa [String.toList_append, String.toList_ofList] using hread

theorem bytesOf_exponent (point : Int) :
    bytesOf ((if point - 1 < 0 then "e-" else "e+") ++
        toString (point - 1).natAbs).toList =
      exponentBytes (decide (point - 1 < 0)) (point - 1).natAbs := by
  by_cases hnegative : point - 1 < 0
  · simp only [hnegative, if_true, decide_true, String.toList_append, bytesOf_append]
    rfl
  · simp only [hnegative, if_false, decide_false, String.toList_append, bytesOf_append]
    rfl

/-- A number in scientific form is read unless it is too large. -/
theorem exists_readNumber_scientific (hc : c ≠ '0')
    (hdigits : ∀ d ∈ c :: more, d.isDigit = true) {point : Int}
    (hpoint : (point - 1).natAbs < 0x80000000)
    (hsmall : 1 ≤ point → (Nat.ofDigitChars 10 (c :: more) 0 : ℚ) *
      10 ^ (point - (c :: more).length) * (1 + 1 / 2 ^ 53) ^ 2 < overflow) :
    ∃ number, readNumber positive (bytesOf (scientific (c :: more) point).toList) =
      .ok (number, []) := by
  obtain ⟨hfirst, hmore⟩ := List.forall_mem_cons.mp hdigits
  have hleads : Leads [c] := .inr ⟨c, [], rfl, hc⟩
  have hone : ∀ d ∈ [c], d.isDigit = true := List.forall_mem_singleton.mpr hfirst
  have hword := word_of_length_le hone (Nat.le_of_lt_succ (by simp))
  have hsmall : decide (point - 1 < 0) = false →
      (Nat.ofDigitChars 10 more (Nat.ofDigitChars 10 [c] 0) : ℚ) *
        10 ^ (((point - 1).natAbs : Int) - more.length) * (1 + 1 / 2 ^ 53) ^ 2 < overflow := by
    intro hnegative
    have hpositive := of_decide_eq_false hnegative
    have hexponent : ((point - 1).natAbs : Int) - more.length = point - (c :: more).length := by
      rw [List.length_cons]
      omega
    rw [hexponent]
    exact hsmall (by omega)
  unfold scientific
  cases more with
  | nil =>
      have htext : bytesOf (String.singleton c ++ (if point - 1 < 0 then "e-" else "e+") ++
          toString (point - 1).natAbs).toList =
            bytesOf [c] ++ exponentBytes (decide (point - 1 < 0)) (point - 1).natAbs := by
        rw [String.append_assoc, String.toList_append, bytesOf_append, bytesOf_exponent,
          String.toList_singleton]
      dsimp only
      rw [htext, readNumber_digits positive hleads hone hword (head_exponentBytes _ _)]
      refine exists_readNumberTail_exponent positive hword hpoint fun hnegative => ?_
      simpa using hsmall hnegative
  | cons d more =>
      have htext : bytesOf (String.singleton c ++ "." ++ String.ofList (d :: more) ++
          (if point - 1 < 0 then "e-" else "e+") ++ toString (point - 1).natAbs).toList =
            bytesOf [c] ++ 0x2e :: (bytesOf (d :: more) ++
              exponentBytes (decide (point - 1 < 0)) (point - 1).natAbs) := by
        rw [String.append_assoc, String.toList_append, bytesOf_append, bytesOf_exponent,
          String.toList_append, String.toList_append, bytesOf_append, bytesOf_append,
          String.toList_singleton, String.toList_ofList, String.toList_ofList, List.append_assoc,
          List.append_assoc]
        rfl
      dsimp only
      rw [htext, readNumber_digits positive hleads hone hword (head_point _)]
      exact exists_readFraction_exponent positive hword (List.cons_ne_nil d more) hmore hpoint
        hsmall

end Written

end Layouts

/-! ## Finite numbers -/

section Finite

/-- The text of `m * 2 ^ q`, its sign apart. -/
def shortText (m : Nat) (q : Int) : String :=
  let short := shortest m q
  let digits := (toString short.digits).toList
  let point := digits.length + short.exponent
  if -5 < point ∧ point ≤ 16 then pointed digits point else scientific digits point

theorem length_toString_le {n k : Nat} (hk : 0 < k) (hn : n < 10 ^ k) :
    (toString n).toList.length ≤ k := by
  rw [Nat.toString_eq_ofList_toDigits, String.toList_ofList]
  exact (Nat.length_toDigits_le_iff (by decide) hk).mpr hn

/-- The two greatest numbers come close to the limit when they are read, but not over it. -/
theorem exists_readNumber_greatest (positive : Bool) {m : Nat} (hm : m < 2 ^ 53)
    (hgreat : 2 ^ 53 < m + 3) :
    ∃ number, readNumber positive (bytesOf (shortText m 971).toList) = .ok (number, []) := by
  have hread : ∀ positive : Bool, ∀ less < 2,
      ((readNumber positive (bytesOf (shortText (2 ^ 53 - 1 - less) 971).toList)).toOption.any
        fun read => read.2.isEmpty) = true := by
    decide +kernel
  have hless := hread positive (2 ^ 53 - 1 - m) (by omega)
  rw [Nat.sub_sub_self (by omega)] at hless
  cases hresult : readNumber positive (bytesOf (shortText m 971).toList) with
  | error failure =>
      rw [hresult] at hless
      cases hless
  | ok read =>
      obtain ⟨number, rest⟩ := read
      rw [hresult] at hless
      obtain rfl : rest = [] := List.isEmpty_iff.mp hless
      exact ⟨number, rfl⟩

/-- The decimal of a finite number is not too long to be read. -/
theorem length_shortest_le {m : Nat} {q : Int} (hm : m < 2 ^ 53) (hhigh : q ≤ 971)
    {short : Shortest} (hmoderate : Moderate m q short) :
    (toString short.digits).toList.length ≤ 656 := by
  refine length_toString_le (by decide) ?_
  have hhalf : ((m : ℚ) + 1 / 2) * 2 ^ q ≤ overflow := by
    have hfew : (m : ℚ) + 1 ≤ 2 ^ 53 := by exact_mod_cast hm
    exact mul_le_mul (by linarith) (zpow_le_zpow_right₀ one_le_two hhigh) (by positivity)
      (by norm_num)
  have hmoderateTen : (10 : ℚ) ^ 301 < 10 ^ 309 := pow_lt_pow_right₀ (by norm_num) (by decide)
  have hvalue : (short.digits : ℚ) * 10 ^ short.exponent < 10 ^ 309 :=
    lt_of_le_of_lt hmoderate.value
      (max_lt (lt_of_le_of_lt hhalf overflow_lt_tenPower) hmoderateTen)
  have hunit : (1 : ℚ) ≤ 10 ^ (short.exponent + 347) :=
    one_le_zpow₀ (by norm_num) (by linarith [hmoderate.low])
  have hdigits : (short.digits : ℚ) < 10 ^ 656 := by
    calc (short.digits : ℚ) ≤ short.digits * 10 ^ (short.exponent + 347) :=
          le_mul_of_one_le_right (by positivity) hunit
      _ = short.digits * 10 ^ short.exponent * 10 ^ (347 : Int) := by
          rw [zpow_add₀ (by norm_num), mul_assoc]
      _ < 10 ^ 309 * 10 ^ (347 : Int) := mul_lt_mul_of_pos_right hvalue (by positivity)
      _ = 10 ^ 656 := by rw [zpow_ofNat, ← pow_add]
  exact_mod_cast hdigits

theorem exists_readNumber_shortText (positive : Bool) {m : Nat} {q : Int} (hpos : 0 < m)
    (hm : m < 2 ^ 53) (hlow : -1074 ≤ q) (hhigh : q ≤ 971) :
    ∃ number, readNumber positive (bytesOf (shortText m q).toList) = .ok (number, []) := by
  by_cases hgreat : q = 971 ∧ 2 ^ 53 < m + 3
  · obtain ⟨rfl, hgreat⟩ := hgreat
    exact exists_readNumber_greatest positive hm hgreat
  · have hmoderate := moderate_shortest hpos hm hlow hhigh
    have hlength := length_shortest_le hm hhigh hmoderate
    have hsmall := rounded_twice_lt hm hhigh fun hq => not_lt.mp fun hmore => hgreat ⟨hq, hmore⟩
    rw [shortText]
    generalize shortest m q = short at hmoderate hlength
    have hdigits := @isDigit_of_mem_toString short.digits
    have hvalue := ofDigitChars_toString short.digits
    rcases leads_toString short.digits with hzero | ⟨c, more, hchars, hc⟩
    · rw [hzero] at hvalue
      exact absurd hvalue hmoderate.some.ne
    · simp only [hchars] at hdigits hvalue hlength ⊢
      split
      · next hpoint => exact exists_readNumber_pointed positive hc hdigits hpoint.2
      · refine exists_readNumber_scientific positive hc hdigits ?_ fun _ => ?_
        · have hlow := hmoderate.low
          have hhigh := hmoderate.high
          omega
        · rw [hvalue, add_sub_cancel_left]
          refine lt_of_le_of_lt ?_ hsmall
          exact mul_le_mul_of_nonneg_right hmoderate.value (by positivity)

end Finite

/-- The text of the number is taken by the reader. -/
def Number.Readable (number : Number) : Prop :=
  ∃ read, readSigned (bytesOf number.print.toList) = .ok (read, [])

theorem Number.readable_int {value : Int}
    (hfits : -0x8000000000000000 ≤ value ∧ value < 0x10000000000000000) :
    (Number.int value).Readable := ⟨_, readSigned_decimal hfits⟩

/-- A number is read with either sign or with none. -/
theorem exists_readSigned {text : String}
    (hread : ∀ positive, ∃ number, readNumber positive (bytesOf text.toList) = .ok (number, []))
    (x : Binary64) :
    ∃ number, readSigned (bytesOf (x.sign ++ text).toList) = .ok (number, []) := by
  rw [String.toList_append, bytesOf_append]
  unfold Binary64.sign
  split
  · obtain ⟨number, hnumber⟩ := hread false
    exact ⟨number, hnumber⟩
  · obtain ⟨number, hnumber⟩ := hread true
    refine ⟨number, ?_⟩
    change readSigned (bytesOf text.toList) = _
    cases hbytes : bytesOf text.toList with
    | nil =>
        rw [hbytes] at hnumber
        cases hnumber
    | cons b rest =>
        rw [hbytes] at hnumber
        have hminus : b ≠ minus := by
          rintro rfl
          cases hnumber
        rw [readSigned, if_neg hminus]
        exact hnumber

theorem Number.readable_float {x : Binary64} (hfinite : x.isFinite = true) :
    (Number.float x).Readable := by
  obtain ⟨m, q, hmagnitude, hm, hlow, hhigh⟩ := magnitude_of_isFinite hfinite
  rcases Nat.eq_zero_or_pos m with rfl | hpos
  · have hprint : (Number.float x).print = x.sign ++ "0.0" := by
      simp only [print, compact, writeWith, hmagnitude]
    rw [Number.Readable, hprint]
    exact exists_readSigned (fun positive => by cases positive <;> exact ⟨_, rfl⟩) x
  · have hprint : (Number.float x).print = x.sign ++ shortText m q := by
      obtain ⟨k, rfl⟩ := Nat.exists_eq_succ_of_ne_zero hpos.ne'
      simp only [print, compact, writeWith, hmagnitude]
      rfl
    rw [Number.Readable, hprint]
    exact exists_readSigned
      (fun positive => exists_readNumber_shortText positive hpos hm hlow hhigh) x

/-! ## What is read -/

section Read

/-- The number can be held: an integer of 64 bits, or a finite number. -/
def Number.Held : Number → Prop
  | .int value => -0x8000000000000000 ≤ value ∧ value < 0x10000000000000000
  | .float value => value.isFinite = true

theorem Number.Held.readable {number : Number} (hheld : number.Held) : number.Readable := by
  cases number with
  | int value => exact readable_int hheld
  | float value => exact readable_float hheld

variable {positive : Bool} {significand : Nat} {e : Int} {input rest : List UInt8}
  {number : Number}

theorem Number.held_of_readFloat (hword : significand < 0x10000000000000000)
    (hread : readFloat positive significand e input = .ok (number, rest)) : number.Held := by
  unfold readFloat at hread
  split at hread
  · cases hread
  · next x hscale =>
      have hfinite := isFinite_of_scale (isFinite_ofNat (word_lt_overflow hword)) hscale
      cases hread
      change (if positive then x else x.negate).isFinite = true
      cases positive with
      | true => exact hfinite
      | false => exact (isFinite_negate x).trans hfinite

theorem Number.held_of_readUnsignedExponent (hword : significand < 0x10000000000000000)
    {positiveExponent : Bool}
    (hread : readUnsignedExponent positive significand e positiveExponent input =
      .ok (number, rest)) : number.Held := by
  unfold readUnsignedExponent at hread
  split at hread
  · cases hread
  · split at hread
    · cases hread
    · split at hread
      · cases hread
      · cases hread
        cases positive <;> exact rfl
      · exact held_of_readFloat hword hread

theorem Number.held_of_readExponent (hword : significand < 0x10000000000000000)
    (hread : readExponent positive significand e input = .ok (number, rest)) : number.Held := by
  unfold readExponent at hread
  split at hread
  · exact held_of_readUnsignedExponent hword hread
  · exact held_of_readUnsignedExponent hword hread
  · exact held_of_readUnsignedExponent hword hread

theorem Number.held_of_readFraction (hword : significand < 0x10000000000000000)
    (hread : readFraction positive significand e input = .ok (number, rest)) : number.Held := by
  have habsorb := absorb_lt hword (input.takeWhile isDigit)
  simp only [readFraction] at hread
  split at hread
  · split at hread
    · cases hread
    · cases hread
  · split at hread
    · split at hread
      · exact held_of_readExponent habsorb hread
      · exact held_of_readFloat habsorb hread
    · exact held_of_readFloat habsorb hread

theorem Number.held_integer (hword : significand < 0x10000000000000000) :
    (integer positive significand).Held := by
  unfold integer
  split
  · exact ⟨by omega, by omega⟩
  · split
    · exact (isFinite_negate _).trans (isFinite_ofNat (word_lt_overflow hword))
    · exact ⟨by omega, by omega⟩

theorem Number.held_of_readNumberTail (hword : significand < 0x10000000000000000) {dropped : Nat}
    (hread : readNumberTail positive significand dropped input = .ok (number, rest)) :
    number.Held := by
  have hplain : (if dropped = 0 then .ok (integer positive significand, input)
      else readFloat positive significand dropped input) = .ok (number, rest) → number.Held := by
    intro hread
    split at hread
    · cases hread
      exact held_integer hword
    · exact held_of_readFloat hword hread
  unfold readNumberTail at hread
  split at hread
  · split at hread
    · exact held_of_readFraction hword hread
    · split at hread
      · exact held_of_readExponent hword hread
      · exact hplain hread
  · exact hplain hread

/-- Only numbers that can be held are read. -/
theorem Number.held_of_readNumber
    (hread : readNumber positive input = .ok (number, rest)) : number.Held := by
  unfold readNumber at hread
  split at hread
  · cases hread
  · split at hread
    · split at hread
      · cases hread
      · exact held_of_readNumberTail (by decide) hread
    · split at hread
      · exact held_of_readNumberTail (absorb_lt (by decide) _) hread
      · cases hread

end Read

end DebugBridge.Json
