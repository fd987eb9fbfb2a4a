import DebugBridge.Decimal.Rounding
import Mathlib.Algebra.Order.Field.Power
import Mathlib.Data.Rat.Cast.Order
import Mathlib.Tactic.FieldSimp
import Mathlib.Tactic.GCongr
import Mathlib.Tactic.Linarith
import Mathlib.Tactic.NormNum
import Mathlib.Tactic.Positivity
import Mathlib.Tactic.Ring

/-!
# Rounding and overflow

The binary64 number made of a ratio is finite unless the ratio reaches half a unit above the
greatest number, and a ratio from one on is off by no more than its `2 ^ 53`-rd part.  Products and
quotients are rounded ratios, so they overflow just where these do.
-/

namespace DebugBridge.Binary64

/-- The value of a number, its sign apart; zero for what is no number. -/
def size (x : Binary64) : ℚ :=
  match x.magnitude with
  | .finite m q => m * 2 ^ q
  | _ => 0

/-- Ratios from here on have no finite number. -/
def overflow : ℚ := (2 ^ 53 - 1 / 2) * 2 ^ (971 : Int)

theorem overflow_pos : 0 < overflow := by
  rw [overflow]
  norm_num

theorem overflow_lt : overflow < 2 ^ (1024 : Int) := by
  have hunit : (0 : ℚ) < 2 ^ (971 : Int) := by positivity
  calc overflow < 2 ^ (53 : Int) * 2 ^ (971 : Int) :=
        mul_lt_mul_of_pos_right (by norm_num) hunit
    _ = 2 ^ (1024 : Int) := (zpow_add₀ two_ne_zero 53 971).symm

theorem powUp_pos {base : Nat} (hbase : 0 < base) (e : Int) : 0 < powUp base e := by
  unfold powUp
  split
  · exact Nat.pow_pos hbase
  · exact Nat.one_pos

theorem powUp_div_powUp (base : Nat) (e : Int) :
    (powUp base e : ℚ) / powUp base (-e) = (base : ℚ) ^ e := by
  unfold powUp
  obtain ⟨n, rfl | rfl⟩ := e.eq_nat_or_neg
  · by_cases hn : n = 0
    · simp [hn]
    · rw [if_pos (by omega), if_neg (by omega), Int.toNat_natCast]
      simp
  · by_cases hn : n = 0
    · simp [hn]
    · rw [if_neg (by omega), if_pos (by omega), neg_neg, Int.toNat_natCast, zpow_neg, zpow_natCast]
      simp

/-! ## Fields -/

section Fields

theorem exponentField_eq (x : Binary64) : x.exponentField = x.bits.toNat / 2 ^ 52 % 2 ^ 11 := by
  rw [exponentField, UInt64.toNat_and, UInt64.toNat_shiftRight, ← Nat.shiftRight_eq_div_pow,
    ← Nat.and_two_pow_sub_one_eq_mod]
  rfl

theorem fractionField_eq (x : Binary64) : x.fractionField = x.bits.toNat % 2 ^ 52 := by
  rw [fractionField, UInt64.toNat_and, ← Nat.and_two_pow_sub_one_eq_mod]
  rfl

theorem toNat_ofFields (negative : Bool) {exponent fraction : Nat} (hexponent : exponent < 2 ^ 11)
    (hfraction : fraction < 2 ^ 52) :
    (ofFields negative exponent fraction).bits.toNat =
      (if negative then 1 else 0) * 2 ^ 63 + (exponent * 2 ^ 52 + fraction) := by
  have hexponentBits : (exponent.toUInt64 <<< 52).toNat = exponent <<< 52 := by
    rw [UInt64.toNat_shiftLeft, Nat.shiftLeft_eq, Nat.shiftLeft_eq]
    simp
    omega
  have hfractionBits : fraction.toUInt64.toNat = fraction := by
    simp
    omega
  have hsign : (if negative then (0x8000000000000000 : UInt64) else 0).toNat =
      (if negative then 1 else 0) <<< 63 := by cases negative <;> rfl
  rw [ofFields, UInt64.toNat_or, UInt64.toNat_or, hexponentBits, hfractionBits, hsign,
    Nat.or_assoc, ← Nat.shiftLeft_add_eq_or_of_lt hfraction, ← Nat.shiftLeft_add_eq_or_of_lt
      (by rw [Nat.shiftLeft_eq]; omega), Nat.shiftLeft_eq, Nat.shiftLeft_eq]

theorem magnitude_ofFields (negative : Bool) {exponent fraction : Nat}
    (hexponent : exponent < 2047) (hfraction : fraction < 2 ^ 52) :
    (ofFields negative exponent fraction).magnitude =
      if exponent = 0 then .finite fraction (-1074)
      else .finite (fraction + 2 ^ 52) ((exponent : Int) - 1075) := by
  have hbits := toNat_ofFields negative (by omega : exponent < 2 ^ 11) hfraction
  have hexponentField : (ofFields negative exponent fraction).exponentField = exponent := by
    rw [exponentField_eq, hbits]
    split <;> omega
  have hfractionField : (ofFields negative exponent fraction).fractionField = fraction := by
    rw [fractionField_eq, hbits]
    split <;> omega
  rw [magnitude, hexponentField, hfractionField, if_neg (by omega)]
  rfl

/-- A number that is finite has a significand of 53 bits and no great exponent. -/
theorem magnitude_of_isFinite {x : Binary64} (hfinite : x.isFinite = true) :
    ∃ m q, x.magnitude = .finite m q ∧ m < 2 ^ 53 ∧ -1074 ≤ q ∧ q ≤ 971 := by
  have hother : x.exponentField ≠ 0x7ff := by simpa [isFinite] using hfinite
  have hexponent : x.exponentField < 2 ^ 11 := by
    rw [exponentField_eq]
    exact Nat.mod_lt _ (by decide)
  have hfraction : x.fractionField < 2 ^ 52 := by
    rw [fractionField_eq]
    exact Nat.mod_lt _ (by decide)
  rw [magnitude, if_neg hother]
  split
  · exact ⟨_, _, rfl, by omega, by omega, by omega⟩
  · exact ⟨_, _, rfl, by omega, by omega, by omega⟩

theorem isFinite_of_magnitude {x : Binary64} {m : Nat} {q : Int}
    (hmagnitude : x.magnitude = .finite m q) : x.isFinite = true := by
  unfold magnitude at hmagnitude
  split at hmagnitude
  · split at hmagnitude <;> cases hmagnitude
  · next hother => simpa [isFinite] using hother

theorem size_of_magnitude {x : Binary64} {m : Nat} {q : Int}
    (hmagnitude : x.magnitude = .finite m q) : x.size = m * 2 ^ q := by
  rw [size, hmagnitude]

theorem size_nonneg (x : Binary64) : 0 ≤ x.size := by
  unfold size
  split
  · positivity
  · exact le_refl 0

/-- The greatest number stays below. -/
theorem size_lt_overflow (x : Binary64) : x.size < overflow := by
  by_cases hfinite : x.isFinite = true
  · obtain ⟨m, q, hmagnitude, hm, -, hq⟩ := magnitude_of_isFinite hfinite
    have hm : (m : ℚ) ≤ 2 ^ 53 - 1 := by
      rw [le_sub_iff_add_le]
      exact_mod_cast hm
    calc x.size = m * 2 ^ q := size_of_magnitude hmagnitude
      _ ≤ (2 ^ 53 - 1) * 2 ^ (971 : Int) := by
          gcongr
          · norm_num
      _ < overflow := by
          rw [overflow]
          gcongr
          norm_num
  · have hzero : x.size = 0 := by
      rw [size]
      split
      · next hmagnitude => exact absurd (isFinite_of_magnitude hmagnitude) hfinite
      · rfl
    rw [hzero]
    exact overflow_pos

/-- The sign is no matter. -/
theorem isFinite_negate (x : Binary64) : x.negate.isFinite = x.isFinite := by
  have hsame : x.negate.exponentField = x.exponentField := by
    rw [negate, exponentField, exponentField, UInt64.toNat_and, UInt64.toNat_and,
      UInt64.toNat_shiftRight, UInt64.toNat_shiftRight, UInt64.toNat_xor,
      Nat.shiftRight_xor_distrib, Nat.and_xor_distrib_right]
    exact Nat.xor_zero _
  rw [isFinite, isFinite, hsame]

end Fields

/-! ## Ratios -/

section Ratios

/-- The integer is half a unit away at most. -/
theorem abs_roundQuotient_sub_le (n : Nat) {d : Nat} (hd : 0 < d) :
    |(roundQuotient n d : ℚ) - n / d| ≤ 1 / 2 := by
  have hdenominator : (0 : ℚ) < d := by exact_mod_cast hd
  have hwhole : (n : ℚ) / d = (n / d : Nat) + (n % d : Nat) / d := by
    rw [eq_comm, ← mul_left_inj' hdenominator.ne', add_mul, div_mul_cancel₀ _ hdenominator.ne',
      div_mul_cancel₀ _ hdenominator.ne', mul_comm]
    exact_mod_cast Nat.div_add_mod n d
  have hpart : (0 : ℚ) ≤ (n % d : Nat) / d := by positivity
  have hless : ((n % d : Nat) : ℚ) / d < 1 := by
    rw [div_lt_one hdenominator]
    exact_mod_cast Nat.mod_lt n hd
  have hhalf : ((n % d : Nat) : ℚ) / d ≤ 1 / 2 ↔ 2 * (n % d) ≤ d := by
    rw [div_le_div_iff₀ hdenominator two_pos, one_mul, mul_comm]
    exact_mod_cast Iff.rfl
  have hother : 1 / 2 ≤ ((n % d : Nat) : ℚ) / d ↔ d ≤ 2 * (n % d) := by
    rw [div_le_div_iff₀ two_pos hdenominator, one_mul, mul_comm]
    exact_mod_cast Iff.rfl
  have hdown : 2 * (n % d) ≤ d → |((n / d : Nat) : ℚ) - n / d| ≤ 1 / 2 := by
    intro hfew
    rw [hwhole, sub_add_cancel_left, abs_neg, abs_of_nonneg hpart]
    exact hhalf.mpr hfew
  have hup : d ≤ 2 * (n % d) → |((n / d + 1 : Nat) : ℚ) - n / d| ≤ 1 / 2 := by
    intro hmany
    rw [hwhole, Nat.cast_add, Nat.cast_one, add_sub_add_left_eq_sub,
      abs_of_nonneg (by linarith)]
    linarith [hother.mpr hmany]
  unfold roundQuotient
  dsimp only
  split
  · exact hdown (by omega)
  · split
    · exact hup (by omega)
    · split
      · exact hdown (by omega)
      · exact hup (by omega)

/-- The ratio is rounded to `r * 2 ^ q`, with 53 bits unless that takes too small a unit. -/
structure Rounds (v : ℚ) (r : Nat) (q : Int) : Prop where
  least : -1074 ≤ q
  below : v / 2 ^ q < 2 ^ 53
  enough : q = -1074 ∨ 2 ^ 52 ≤ v / 2 ^ q
  near : |(r : ℚ) - v / 2 ^ q| ≤ 1 / 2

namespace Rounds

variable {v : ℚ} {r : Nat} {q : Int}

theorem le (hrounds : Rounds v r q) : r ≤ 2 ^ 53 := by
  have hnear := (abs_le.mp hrounds.near).2
  have hbelow := hrounds.below
  have hless : (r : ℚ) < (2 ^ 53 + 1 : Nat) := by
    push_cast
    linarith
  exact Nat.lt_succ_iff.mp (by exact_mod_cast hless)

theorem eq_least (hrounds : Rounds v r q) (hfew : r < 2 ^ 52) : q = -1074 := by
  refine hrounds.enough.resolve_right fun hmany => ?_
  have hnear := (abs_le.mp hrounds.near).1
  have hfew : (r : ℚ) + 1 ≤ 2 ^ 52 := by exact_mod_cast hfew
  linarith

theorem near_scaled (hrounds : Rounds v r q) : |r * 2 ^ q - v| ≤ 2 ^ q / 2 := by
  have hunit : (0 : ℚ) < 2 ^ q := by positivity
  have hscaled : (r : ℚ) * 2 ^ q - v = (r - v / 2 ^ q) * 2 ^ q := by
    rw [sub_mul, div_mul_cancel₀ _ hunit.ne']
  rw [hscaled, abs_mul, abs_of_pos hunit]
  calc |(r : ℚ) - v / 2 ^ q| * 2 ^ q ≤ 1 / 2 * 2 ^ q :=
        mul_le_mul_of_nonneg_right hrounds.near hunit.le
    _ = 2 ^ q / 2 := by ring

/-- Rounding does not lead over the limit. -/
theorem lt_overflow (hrounds : Rounds v r q) (hsmall : v < overflow) :
    (r : ℚ) * 2 ^ q < overflow := by
  have hunit : (0 : ℚ) < 2 ^ q := by positivity
  have hless : (r : ℚ) ≤ 2 ^ 53 := by exact_mod_cast hrounds.le
  rcases lt_trichotomy q 971 with hlow | rfl | hhigh
  · calc (r : ℚ) * 2 ^ q ≤ 2 ^ 53 * 2 ^ q := mul_le_mul_of_nonneg_right hless hunit.le
      _ = 2 ^ (53 + q) := (zpow_add₀ two_ne_zero 53 q).symm
      _ ≤ 2 ^ ((52 : Int) + 971) := zpow_le_zpow_right₀ one_le_two (by omega)
      _ = 2 ^ (52 : Int) * 2 ^ (971 : Int) := zpow_add₀ two_ne_zero 52 971
      _ < overflow := mul_lt_mul_of_pos_right (by norm_num) (by positivity)
  · rw [overflow, ← div_lt_iff₀ hunit] at hsmall
    have hnear := (abs_le.mp hrounds.near).2
    have hfew : r < 2 ^ 53 := by
      have hfew : (r : ℚ) < 2 ^ 53 := by linarith
      exact_mod_cast hfew
    refine mul_lt_mul_of_pos_right ?_ hunit
    have hfew : (r : ℚ) + 1 ≤ 2 ^ 53 := by exact_mod_cast hfew
    linarith
  · have hmany := hrounds.enough.resolve_left (by omega)
    rw [le_div_iff₀ hunit] at hmany
    have hgreat : overflow < v := by
      calc overflow < 2 ^ (1024 : Int) := overflow_lt
        _ ≤ 2 ^ (52 + q) := zpow_le_zpow_right₀ one_le_two (by omega)
        _ = 2 ^ 52 * 2 ^ q := zpow_add₀ two_ne_zero 52 q
        _ ≤ v := hmany
    exact absurd hsmall hgreat.not_gt

/-- From one on the unit is small. -/
theorem unit_le (hrounds : Rounds v r q) (hone : 1 ≤ v) : 2 ^ 52 * 2 ^ q ≤ v := by
  rcases hrounds.enough with rfl | hmany
  · refine le_trans ?_ hone
    rw [show (2 : ℚ) ^ 52 = 2 ^ (52 : Int) from rfl, ← zpow_add₀ two_ne_zero]
    exact zpow_le_one_of_nonpos₀ one_le_two (by decide)
  · rwa [le_div_iff₀ (by positivity)] at hmany

theorem le_mul (hrounds : Rounds v r q) (hone : 1 ≤ v) :
    (r : ℚ) * 2 ^ q ≤ v * (1 + 1 / 2 ^ 53) := by
  have hnear := (abs_le.mp hrounds.near_scaled).2
  have hunit := hrounds.unit_le hone
  linarith

theorem one_le (hrounds : Rounds v r q) (hone : 1 ≤ v) : 1 ≤ (r : ℚ) * 2 ^ q := by
  obtain ⟨k, rfl | rfl⟩ := q.eq_nat_or_neg
  · have hnear := (abs_le.mp hrounds.near_scaled).1
    have hunit := hrounds.unit_le hone
    have hpower : (1 : ℚ) ≤ 2 ^ (k : Int) := one_le_zpow₀ one_le_two (by omega)
    linarith
  · -- One is a point of the grid then.
    have hnear := (abs_le.mp hrounds.near).1
    have hpower : (0 : ℚ) < 2 ^ k := by positivity
    rw [zpow_neg, zpow_natCast, div_inv_eq_mul] at hnear
    have hmany : 2 ^ k ≤ r := by
      have hmore : ((2 ^ k : Nat) : ℚ) < (r + 1 : Nat) := by
        push_cast
        nlinarith
      exact Nat.lt_succ_iff.mp (by exact_mod_cast hmore)
    rw [zpow_neg, zpow_natCast, ← div_eq_mul_inv, one_le_div hpower]
    exact_mod_cast hmany

end Rounds

theorem ofScaled_carry (negative : Bool) (q : Int) :
    ofScaled negative (2 ^ 53) q = ofScaled negative (2 ^ 52) (q + 1) := by
  simp [ofScaled]

theorem ofScaled_of_lt (negative : Bool) {m : Nat} (hfew : m < 2 ^ 52) (q : Int) :
    ofScaled negative m q = ofFields negative 0 m := by
  simp only [ofScaled, if_neg (by omega : ¬m = 0x20000000000000),
    if_pos (by omega : m < 0x10000000000000)]

theorem ofScaled_of_le (negative : Bool) {m : Nat} (hmany : 2 ^ 52 ≤ m) (hm : m < 2 ^ 53) {q : Int}
    (hq : q ≤ 971) :
    ofScaled negative m q = ofFields negative (q + 1075).toNat (m - 2 ^ 52) := by
  simp only [ofScaled, if_neg (by omega : ¬m = 0x20000000000000),
    if_neg (by omega : ¬m < 0x10000000000000), if_neg (by omega : ¬971 < q)]
  rfl

theorem magnitude_ofScaled_of_le (negative : Bool) {m : Nat} (hmany : 2 ^ 52 ≤ m)
    (hm : m < 2 ^ 53) {q : Int} (hleast : -1074 ≤ q) (hq : q ≤ 971) :
    (ofScaled negative m q).magnitude = .finite m q := by
  rw [ofScaled_of_le negative hmany hm hq,
    magnitude_ofFields negative (by omega) (by omega : m - 2 ^ 52 < 2 ^ 52), if_neg (by omega),
    Nat.sub_add_cancel hmany]
  congr 1
  omega

/-- What is scaled has its value, if there is a number for that. -/
theorem size_ofScaled (negative : Bool) {m : Nat} {q : Int} (hm : m ≤ 2 ^ 53) (hleast : -1074 ≤ q)
    (hfew : m < 2 ^ 52 → q = -1074) (hsmall : (m : ℚ) * 2 ^ q < overflow) :
    (ofScaled negative m q).isFinite = true ∧ (ofScaled negative m q).size = m * 2 ^ q := by
  suffices hmagnitude : ∃ m' q', (ofScaled negative m q).magnitude = .finite m' q' ∧
      (m' : ℚ) * 2 ^ q' = m * 2 ^ q by
    obtain ⟨m', q', hmagnitude, hvalue⟩ := hmagnitude
    exact ⟨isFinite_of_magnitude hmagnitude, (size_of_magnitude hmagnitude).trans hvalue⟩
  by_cases hless : m < 2 ^ 52
  · refine ⟨m, -1074, ?_, by rw [hfew hless]⟩
    rw [ofScaled_of_lt negative hless, magnitude_ofFields negative (by decide) hless, if_pos rfl]
  · have hless : (2 : ℚ) ^ (52 + q) < 2 ^ (1024 : Int) := by
      have hmany : (2 : ℚ) ^ 52 ≤ m := by exact_mod_cast Nat.le_of_not_lt hless
      calc (2 : ℚ) ^ (52 + q) = 2 ^ 52 * 2 ^ q := zpow_add₀ two_ne_zero 52 q
        _ ≤ m * 2 ^ q := mul_le_mul_of_nonneg_right hmany (by positivity)
        _ < 2 ^ (1024 : Int) := hsmall.trans overflow_lt
    have hq := (zpow_lt_zpow_iff_right₀ (by norm_num : (1 : ℚ) < 2)).mp hless
    by_cases hcarry : m = 2 ^ 53
    · have hcarried : q ≠ 971 := by
        rintro rfl
        rw [hcarry, overflow] at hsmall
        norm_num at hsmall
      refine ⟨2 ^ 52, q + 1, ?_, ?_⟩
      · rw [hcarry, ofScaled_carry]
        exact magnitude_ofScaled_of_le negative (Nat.le_refl _) (by decide) (by omega) (by omega)
      · rw [hcarry, zpow_add_one₀ two_ne_zero]
        push_cast
        ring
    · exact ⟨m, q, magnitude_ofScaled_of_le negative (by omega) (by omega) hleast (by omega), rfl⟩

theorem scaled_div (n d : Nat) (q : Int) :
    ((n * powUp 2 (-q) : Nat) : ℚ) / (d * powUp 2 q : Nat) = n / d / 2 ^ q := by
  have hunit := powUp_div_powUp 2 q
  push_cast at hunit ⊢
  rw [← hunit, div_div_eq_mul_div, mul_div_mul_comm, mul_div_assoc]

/-- A ratio lies within a factor of two of the power that its binary orders tell. -/
theorem order_bounds {n d : Nat} (hn : 0 < n) (hd : 0 < d) :
    (2 : ℚ) ^ ((n.log2 : Int) - d.log2 - 1) < n / d ∧
      (n : ℚ) / d < 2 ^ ((n.log2 : Int) - d.log2 + 1) := by
  have hdenominator : (0 : ℚ) < d := by exact_mod_cast hd
  have hlow : (2 : ℚ) ^ (n.log2 : Int) ≤ n := by exact_mod_cast Nat.log2_self_le hn.ne'
  have hhigh : (n : ℚ) < 2 ^ ((n.log2 : Int) + 1) := by exact_mod_cast Nat.lt_log2_self
  have hunder : (2 : ℚ) ^ (d.log2 : Int) ≤ d := by exact_mod_cast Nat.log2_self_le hd.ne'
  have hover : (d : ℚ) < 2 ^ ((d.log2 : Int) + 1) := by exact_mod_cast Nat.lt_log2_self
  constructor
  · have hnumerator : (0 : ℚ) < n := by exact_mod_cast hn
    rw [sub_sub, zpow_sub₀ two_ne_zero]
    calc (2 : ℚ) ^ (n.log2 : Int) / 2 ^ ((d.log2 : Int) + 1) ≤ n / 2 ^ ((d.log2 : Int) + 1) := by
          gcongr
      _ < n / d := by gcongr
  · rw [sub_add_eq_add_sub, zpow_sub₀ two_ne_zero]
    gcongr

/-- A ratio is rounded once. -/
theorem exists_rounds (negative : Bool) {n d : Nat} (hn : 0 < n) (hd : 0 < d) :
    ∃ r q, ofRatio negative n d = ofScaled negative r q ∧ Rounds (n / d) r q := by
  obtain ⟨hlow, hhigh⟩ := order_bounds hn hd
  have hdivisor : ∀ q, 0 < d * powUp 2 q := fun q => Nat.mul_pos hd (powUp_pos (by decide) q)
  have hnear := fun q => abs_roundQuotient_sub_le (n * powUp 2 (-q)) (hdivisor q)
  simp only [scaled_div] at hnear
  have hbelow : ∀ q : Int, (n.log2 : Int) - d.log2 - 52 ≤ q → (n : ℚ) / d / 2 ^ q < 2 ^ 53 := by
    intro q hq
    rw [div_lt_iff₀ (by positivity)]
    calc (n : ℚ) / d < 2 ^ ((n.log2 : Int) - d.log2 + 1) := hhigh
      _ ≤ 2 ^ (53 + q) := zpow_le_zpow_right₀ one_le_two (by omega)
      _ = 2 ^ 53 * 2 ^ q := zpow_add₀ two_ne_zero 53 q
  have hfits : ∀ q, n * powUp 2 (-q) / (d * powUp 2 q) < 0x20000000000000 ↔
      (n : ℚ) / d / 2 ^ q < 2 ^ 53 := by
    intro q
    rw [Nat.div_lt_iff_lt_mul (hdivisor q), ← scaled_div,
      div_lt_iff₀ (by exact_mod_cast hdivisor q)]
    exact_mod_cast Iff.rfl
  unfold ofRatio
  dsimp only
  generalize hq : max ((n.log2 : Int) - d.log2 - 53) (-1074) = q
  split
  · next hless =>
      refine ⟨_, q, rfl, by omega, (hfits q).mp hless, ?_, hnear q⟩
      rw [or_iff_not_imp_left]
      intro hnormal
      have horder : q = (n.log2 : Int) - d.log2 - 53 := by omega
      rw [le_div_iff₀ (by positivity)]
      calc (2 : ℚ) ^ 52 * 2 ^ q = 2 ^ (52 + q) := (zpow_add₀ two_ne_zero 52 q).symm
        _ = 2 ^ ((n.log2 : Int) - d.log2 - 1) := by
            congr 1
            omega
        _ ≤ n / d := hlow.le
  · next hmany =>
      have hmany : (2 : ℚ) ^ 53 ≤ n / d / 2 ^ q := not_lt.mp ((hfits q).not.mp hmany)
      refine ⟨_, q + 1, rfl, by omega, hbelow (q + 1) (by omega), .inr ?_, hnear (q + 1)⟩
      rw [zpow_add_one₀ two_ne_zero, ← div_div]
      linarith

theorem ofRatio_zero (negative : Bool) (d : Nat) :
    ofRatio negative 0 d = ofFields negative 0 0 := by
  have hround : ∀ d, roundQuotient 0 d = 0 := by
    intro d
    simp [roundQuotient]
  unfold ofRatio
  simp only [Nat.zero_mul, Nat.zero_div, hround]
  rfl

/-- A ratio that is small enough has a finite number. -/
theorem isFinite_ofRatio (negative : Bool) (n : Nat) {d : Nat} (hd : 0 < d)
    (hsmall : (n : ℚ) / d < overflow) : (ofRatio negative n d).isFinite = true := by
  rcases Nat.eq_zero_or_pos n with rfl | hn
  · rw [ofRatio_zero]
    cases negative <;> rfl
  · obtain ⟨r, q, hratio, hrounds⟩ := exists_rounds negative hn hd
    rw [hratio]
    exact (size_ofScaled negative hrounds.le hrounds.least hrounds.eq_least
      (hrounds.lt_overflow hsmall)).1

/-- A ratio from one on keeps its value, but for its `2 ^ 53`-rd part. -/
theorem size_ofRatio (negative : Bool) {n d : Nat} (hd : 0 < d) (hone : 1 ≤ (n : ℚ) / d)
    (hsmall : (n : ℚ) / d < overflow) :
    1 ≤ (ofRatio negative n d).size ∧
      (ofRatio negative n d).size ≤ n / d * (1 + 1 / 2 ^ 53) := by
  have hn : 0 < n := by
    refine Nat.pos_of_ne_zero fun hzero => ?_
    rw [hzero] at hone
    norm_num at hone
  obtain ⟨r, q, hratio, hrounds⟩ := exists_rounds negative hn hd
  rw [hratio, (size_ofScaled negative hrounds.le hrounds.least hrounds.eq_least
    (hrounds.lt_overflow hsmall)).2]
  exact ⟨hrounds.one_le hone, hrounds.le_mul hone⟩

end Ratios

/-! ## Arithmetic -/

section Arithmetic

variable {x y : Binary64}

/-- A product of numbers is finite, if it is small enough. -/
theorem isFinite_times (hx : x.isFinite = true) (hy : y.isFinite = true)
    (hsmall : x.size * y.size < overflow) : (x.times y).isFinite = true := by
  obtain ⟨m, q, hm, -⟩ := magnitude_of_isFinite hx
  obtain ⟨n, r, hn, -⟩ := magnitude_of_isFinite hy
  rw [size_of_magnitude hm, size_of_magnitude hn] at hsmall
  simp only [times, hm, hn]
  refine isFinite_ofRatio false _ (powUp_pos (by decide) _) ?_
  have hunit := powUp_div_powUp 2 (q + r)
  push_cast at hunit ⊢
  rw [mul_div_assoc, hunit, zpow_add₀ two_ne_zero]
  calc (m : ℚ) * n * (2 ^ q * 2 ^ r) = m * 2 ^ q * (n * 2 ^ r) := by ring
    _ < overflow := hsmall

/-- A quotient is finite, if the divisor is not less than one. -/
theorem isFinite_dividedBy (hx : x.isFinite = true) (hone : 1 ≤ y.size) :
    (x.dividedBy y).isFinite = true := by
  have hy : y.isFinite = true := by
    by_contra hother
    rw [size] at hone
    split at hone
    · next hmagnitude => exact hother (isFinite_of_magnitude hmagnitude)
    · norm_num at hone
  obtain ⟨m, q, hm, -⟩ := magnitude_of_isFinite hx
  obtain ⟨n, r, hn, -⟩ := magnitude_of_isFinite hy
  have hless := size_lt_overflow x
  rw [size_of_magnitude hm] at hless
  rw [size_of_magnitude hn] at hone
  have hdivisor : 0 < n := by
    refine Nat.pos_of_ne_zero fun hzero => ?_
    rw [hzero] at hone
    norm_num at hone
  simp only [dividedBy, hm, hn]
  refine isFinite_ofRatio false _ (Nat.mul_pos hdivisor (powUp_pos (by decide) _)) ?_
  have hunit := powUp_div_powUp 2 (q - r)
  rw [neg_sub] at hunit
  push_cast at hunit ⊢
  rw [mul_div_mul_comm, hunit, zpow_sub₀ two_ne_zero, div_mul_div_comm,
    div_lt_iff₀ (by positivity)]
  calc (m : ℚ) * 2 ^ q < overflow := hless
    _ ≤ overflow * (n * 2 ^ r) := le_mul_of_one_le_right overflow_pos.le hone

end Arithmetic

end DebugBridge.Binary64
