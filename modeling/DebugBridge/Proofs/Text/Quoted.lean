import DebugBridge.Text.Quoted
import Mathlib.Tactic.Common

/-!
# What stands between quotes

A quoted text is a row of plain characters and of backslashes that each take the next character
along, so that its closing quote is the first one that no backslash takes.
-/

namespace DebugBridge.Text

theorem exists_of_mem_toDigits {base n : Nat} (hbase : 1 < base) {c : Char}
    (hmem : c ∈ Nat.toDigits base n) : ∃ digit < base, c = Nat.digitChar digit := by
  induction n using Nat.strongRecOn with
  | ind n ih =>
      by_cases hsmall : n < base
      · rw [Nat.toDigits_of_lt_base hsmall, List.mem_singleton] at hmem
        exact ⟨n, hsmall, hmem⟩
      · have hlarge : base ≤ n := Nat.le_of_not_lt hsmall
        rw [Nat.toDigits_of_base_le hbase hlarge, List.mem_append] at hmem
        rcases hmem with hhigh | hlow
        · exact ih (n / base) (Nat.div_lt_self (by omega) hbase) hhigh
        · exact ⟨n % base, Nat.mod_lt n (by omega), List.mem_singleton.mp hlow⟩

/-- Neither a quote nor a backslash. -/
def IsPlain (c : Char) : Prop := c ≠ '"' ∧ c ≠ '\\'

instance (c : Char) : Decidable (IsPlain c) := inferInstanceAs (Decidable (_ ∧ _))

theorem isPlain_digitChar : ∀ digit < 16, IsPlain (Nat.digitChar digit) := by decide

/-- How a character is written inside quotes: as itself, or behind a backslash. -/
inductive Quoting (c : Char) : List Char → Prop
  | plain (hc : IsPlain c) : Quoting c [c]
  | escape {d : Char} {rest : List Char} (hd : d ≠ '\n') (hquote : d = '"' ↔ c = '"')
      (hrest : ∀ x ∈ rest, IsPlain x) : Quoting c ('\\' :: d :: rest)

theorem quoting_quoteChar (c : Char) : Quoting c (quoteChar c) := by
  unfold quoteChar
  split
  · next hc => exact .escape (by decide) (by simp [hc]) (by simp)
  split
  · next hc => exact .escape (by decide) (by simp [hc]) (by simp)
  split
  · next hc => exact .escape (by decide) (by simp [hc]) (by simp)
  split
  · next hc => exact .escape (by decide) (by simp [hc]) (by simp)
  split
  · next hc => exact .escape (by decide) (by simp [hc]) (by simp)
  split
  · next hc => exact .escape (by decide) (by simp [hc]) (by simp)
  next hbackslash hquote =>
    split
    · exact .plain ⟨hquote, hbackslash⟩
    split
    · refine .escape (by decide) (by simp [hquote]) fun x hx => ?_
      rcases List.mem_append.mp hx with hx | hx
      · rcases List.mem_cons.mp hx with rfl | hx
        · decide
        · obtain ⟨digit, hdigit, rfl⟩ := exists_of_mem_toDigits (by decide) hx
          exact isPlain_digitChar digit hdigit
      · rw [List.mem_singleton.mp hx]
        decide
    · exact .plain ⟨hquote, hbackslash⟩

/-- A text without quotes has none when it is written inside them. -/
theorem ne_quote_of_mem_quoteChar {c x : Char} (hc : c ≠ '"') (hx : x ∈ quoteChar c) :
    x ≠ '"' := by
  have hquoting := quoting_quoteChar c
  generalize quoteChar c = written at hx hquoting
  cases hquoting with
  | plain hplain =>
      rw [List.mem_singleton.mp hx]
      exact hplain.1
  | @escape d rest hd hquote hrest =>
      rcases List.mem_cons.mp hx with rfl | hx
      · decide
      · rcases List.mem_cons.mp hx with rfl | hx
        · exact fun heq => hc (hquote.mp heq)
        · exact (hrest x hx).1

end DebugBridge.Text
