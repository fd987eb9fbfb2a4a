import DebugBridge.Proofs.Decimal.Rounding

/-!
# Shortest decimals

The shortest decimal of a number lies among the reals that round to it, so that it exceeds the
number by half a unit at most, and its exponent is moderate.
-/

namespace DebugBridge.Binary64

/-- A point that is chosen rounds to the number. -/
theorem between_of_gridPoint {m c : Nat} {q k : Int} (hpoint : gridPoint m q k = some c) :
    (roundingRange m q).low * (powUp 2 (q - 2) * powUp 10 (-k)) ≤
        c * (powUp 2 (2 - q) * powUp 10 k) ∧
      c * (powUp 2 (2 - q) * powUp 10 k) ≤
        (roundingRange m q).high * (powUp 2 (q - 2) * powUp 10 (-k)) := by
  unfold gridPoint at hpoint
  extract_lets range up down inside below above at hpoint
  have hinside : inside c = true := by
    split at hpoint
    · next hbelow habove =>
        split at hpoint
        · exact Option.some.inj hpoint ▸ hbelow
        · split at hpoint
          · exact Option.some.inj hpoint ▸ habove
          · split at hpoint
            · exact Option.some.inj hpoint ▸ hbelow
            · exact Option.some.inj hpoint ▸ habove
    · next hbelow _ => exact Option.some.inj hpoint ▸ hbelow
    · next _ habove => exact Option.some.inj hpoint ▸ habove
    · cases hpoint
  simp only [inside] at hinside
  split at hinside
  · simpa using hinside
  · have hstrict := (Bool.and_eq_true _ _).mp hinside
    exact ⟨(of_decide_eq_true hstrict.1).le, (of_decide_eq_true hstrict.2).le⟩

/-- A point of the grid is half a unit above the number at most. -/
theorem gridPoint_le {m c : Nat} {q k : Int} (hm : 0 < m) (hpoint : gridPoint m q k = some c) :
    0 < c ∧ (c : ℚ) * 10 ^ k ≤ (m + 1 / 2) * 2 ^ q := by
  obtain ⟨hlow, hhigh⟩ := between_of_gridPoint hpoint
  have hup : 0 < powUp 2 (q - 2) * powUp 10 (-k) :=
    Nat.mul_pos (powUp_pos (by decide) _) (powUp_pos (by decide) _)
  have hdown : 0 < powUp 2 (2 - q) * powUp 10 k :=
    Nat.mul_pos (powUp_pos (by decide) _) (powUp_pos (by decide) _)
  constructor
  · have hsome : 0 < (roundingRange m q).low := by
      simp only [roundingRange]
      split <;> omega
    exact Nat.pos_of_mul_pos_right (lt_of_lt_of_le (Nat.mul_pos hsome hup) hlow)
  · have hten := powUp_div_powUp 10 k
    have htwo := powUp_div_powUp 2 (q - 2)
    rw [neg_sub] at htwo
    have hbound : (c : ℚ) * (powUp 2 (2 - q) * powUp 10 k) ≤
        (4 * m + 2) * (powUp 2 (q - 2) * powUp 10 (-k)) := by exact_mod_cast hhigh
    have hleft : (0 : ℚ) < powUp 2 (2 - q) := by exact_mod_cast powUp_pos (by decide) _
    have hright : (0 : ℚ) < powUp 10 (-k) := by exact_mod_cast powUp_pos (by decide) _
    push_cast at hten htwo
    calc (c : ℚ) * 10 ^ k
        = c * (powUp 2 (2 - q) * powUp 10 k) / (powUp 2 (2 - q) * powUp 10 (-k)) := by
          rw [← hten]
          field_simp
      _ ≤ (4 * m + 2) * (powUp 2 (q - 2) * powUp 10 (-k)) /
            (powUp 2 (2 - q) * powUp 10 (-k)) := by gcongr
      _ = (4 * m + 2) * 2 ^ (q - 2) := by
          rw [← htwo]
          field_simp
      _ = (m + 1 / 2) * 2 ^ q := by
          rw [zpow_sub₀ two_ne_zero]
          ring

/-- The search ends at a point of one of its grids, or gives up behind the last one. -/
theorem searchGrids_cases {m : Nat} (hm : 0 < m) (q : Int) (steps : Nat) (k : Int) :
    0 < (searchGrids m q steps k).digits ∧ k - steps ≤ (searchGrids m q steps k).exponent ∧
      (searchGrids m q steps k).exponent ≤ k ∧
      (((searchGrids m q steps k).digits : ℚ) * 10 ^ (searchGrids m q steps k).exponent ≤
          (m + 1 / 2) * 2 ^ q ∨
        searchGrids m q steps k = ⟨m, k - steps⟩) := by
  induction steps generalizing k with
  | zero => exact ⟨hm, by simp [searchGrids], by simp [searchGrids], .inr (by simp [searchGrids])⟩
  | succ steps ih =>
      rw [searchGrids]
      split
      · next c hpoint =>
          obtain ⟨hc, hle⟩ := gridPoint_le hm hpoint
          exact ⟨hc, by push_cast; omega, le_refl k, .inl hle⟩
      · obtain ⟨hsome, hlow, hhigh, hcases⟩ := ih (k - 1)
        have hsteps : k - 1 - steps = k - (steps + 1 : Nat) := by omega
        rw [hsteps] at hlow hcases
        exact ⟨hsome, hlow, by omega, hcases⟩

/-- Where the search begins and ends, for the numbers there are. -/
theorem searched_bounds {m : Nat} {q : Int} (hm : m < 2 ^ 53) (hlow : -1074 ≤ q) (hhigh : q ≤ 971) :
    -322 ≤ ((m.log2 : Int) + q + 1) * 30103 / 100000 + 2 ∧
      ((m.log2 : Int) + q + 1) * 30103 / 100000 + 2 ≤ 310 := by
  have horder : m.log2 < 53 := by
    rcases Nat.eq_zero_or_pos m with rfl | hpos
    · decide
    · exact (Nat.log2_lt hpos.ne').mpr hm
  omega

/-- What the decimals of finite numbers come to. -/
structure Moderate (m : Nat) (q : Int) (short : Shortest) : Prop where
  some : 0 < short.digits
  low : -347 ≤ short.exponent
  high : short.exponent ≤ 310
  value : (short.digits : ℚ) * 10 ^ short.exponent ≤
    max (((m : ℚ) + 1 / 2) * 2 ^ q) (10 ^ 301)

theorem moderate_shortest {m : Nat} {q : Int} (hpos : 0 < m) (hm : m < 2 ^ 53) (hlow : -1074 ≤ q)
    (hhigh : q ≤ 971) : Moderate m q (shortest m q) := by
  obtain ⟨hstart, hend⟩ := searched_bounds hm hlow hhigh
  have hsearch : shortest m q =
      searchGrids m q 25 (((m.log2 : Int) + q + 1) * 30103 / 100000 + 2) := rfl
  rw [hsearch]
  generalize ((m.log2 : Int) + q + 1) * 30103 / 100000 + 2 = k at hstart hend
  obtain ⟨hsome, hleast, hmost, hcases⟩ := searchGrids_cases hpos q 25 k
  refine ⟨hsome, by omega, by omega, ?_⟩
  rcases hcases with hvalue | hlast
  · exact le_max_of_le_left hvalue
  · rw [hlast]
    refine le_max_of_le_right ?_
    have hfew : (m : ℚ) ≤ 10 ^ 16 := by
      have hfew : m ≤ 10 ^ 16 := by omega
      exact_mod_cast hfew
    have hunit : (10 : ℚ) ^ (k - (25 : Nat)) ≤ 10 ^ (285 : Int) :=
      zpow_le_zpow_right₀ (by norm_num) (by omega)
    calc (m : ℚ) * 10 ^ (k - (25 : Nat)) ≤ 10 ^ 16 * 10 ^ (285 : Int) :=
          mul_le_mul hfew hunit (by positivity) (by positivity)
      _ = 10 ^ 301 := (zpow_add₀ (by norm_num) 16 285).symm

theorem tenPower_le : (10 : ℚ) ^ 301 ≤ 2 ^ (52 : Int) * 2 ^ (971 : Int) := by
  calc (10 : ℚ) ^ 301 = (10 ^ 43) ^ 7 := pow_mul 10 43 7
    _ ≤ (2 ^ 143) ^ 7 := pow_le_pow_left₀ (by positivity) (by norm_num) 7
    _ = 2 ^ (1001 : Int) := (pow_mul 2 143 7).symm
    _ ≤ 2 ^ ((52 : Int) + 971) := zpow_le_zpow_right₀ one_le_two (by decide)
    _ = 2 ^ (52 : Int) * 2 ^ (971 : Int) := zpow_add₀ two_ne_zero 52 971

/-- Rounded twice on the way, the decimal of all but the two greatest numbers stays below the
limit. -/
theorem rounded_twice_lt {m : Nat} {q : Int} (hm : m < 2 ^ 53) (hhigh : q ≤ 971)
    (hother : q = 971 → m + 3 ≤ 2 ^ 53) :
    max (((m : ℚ) + 1 / 2) * 2 ^ q) (10 ^ 301) * (1 + 1 / 2 ^ 53) ^ 2 < overflow := by
  have hunit : (0 : ℚ) < 2 ^ (971 : Int) := by positivity
  have hhalf : ((m : ℚ) + 1 / 2) * 2 ^ q ≤ (2 ^ 53 - 5 / 2) * 2 ^ (971 : Int) := by
    rcases eq_or_lt_of_le hhigh with rfl | hless
    · have hfew : (m : ℚ) + 3 ≤ 2 ^ 53 := by exact_mod_cast hother rfl
      exact mul_le_mul_of_nonneg_right (by linarith) hunit.le
    · have hfew : (m : ℚ) + 1 ≤ 2 ^ 53 := by exact_mod_cast hm
      have hunits : (2 : ℚ) ^ q ≤ 2 ^ (970 : Int) :=
        zpow_le_zpow_right₀ one_le_two (Int.lt_add_one_iff.mp hless)
      calc ((m : ℚ) + 1 / 2) * 2 ^ q ≤ 2 ^ 53 * 2 ^ (970 : Int) :=
            mul_le_mul (by linarith only [hfew]) hunits (by positivity) (by positivity)
        _ = 2 ^ 52 * 2 ^ (971 : Int) := by
            have hdouble : (2 : ℚ) ^ (971 : Int) = 2 ^ (970 : Int) * 2 :=
              zpow_add_one₀ two_ne_zero 970
            rw [hdouble]
            ring
        _ ≤ (2 ^ 53 - 5 / 2) * 2 ^ (971 : Int) :=
            mul_le_mul_of_nonneg_right (by norm_num) hunit.le
  have hmoderate : (10 : ℚ) ^ 301 ≤ (2 ^ 53 - 5 / 2) * 2 ^ (971 : Int) := by
    exact tenPower_le.trans (mul_le_mul_of_nonneg_right (by norm_num) hunit.le)
  calc max (((m : ℚ) + 1 / 2) * 2 ^ q) (10 ^ 301) * (1 + 1 / 2 ^ 53) ^ 2
      ≤ (2 ^ 53 - 5 / 2) * 2 ^ (971 : Int) * (1 + 1 / 2 ^ 53) ^ 2 := by
        gcongr
        exact max_le hhalf hmoderate
    _ = (2 ^ 53 - 5 / 2) * (1 + 1 / 2 ^ 53) ^ 2 * 2 ^ (971 : Int) := by ring
    _ < overflow := mul_lt_mul_of_pos_right (by norm_num) hunit

end DebugBridge.Binary64
