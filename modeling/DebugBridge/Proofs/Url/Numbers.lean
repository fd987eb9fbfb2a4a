import DebugBridge.Proofs.Text.Quoted
import DebugBridge.Url.Host
import Mathlib.Algebra.Group.Nat.Defs
import Mathlib.Data.Bool.AllAny
import Mathlib.Data.List.Induction

/-!
# Numbers in URLs

The digits of a number are read back as the number, in every base that URLs know, and digits are
read as no more than there is room for in them.
-/

namespace DebugBridge.Url

variable {base : Nat}

theorem numberIn?_append (base : Nat) (text : List Char) (c : Char) :
    numberIn? base (text ++ [c]) = (numberIn? base text).bind fun value =>
      (hexDigitValue? c).bind fun digit =>
        if digit < base then some (base * value + digit) else none := by
  rw [numberIn?, List.foldl_append]
  rfl

theorem hexDigitValue?_digitChar : ∀ digit < 16,
    hexDigitValue? (Nat.digitChar digit) = some digit := by
  decide

/-- The digits of a number are read back. -/
theorem numberIn?_toDigits (hone : 1 < base) (hbase : base ≤ 16) (n : Nat) :
    numberIn? base (Nat.toDigits base n) = some n := by
  have hdigit : ∀ digit < base, ∀ value, ((hexDigitValue? (Nat.digitChar digit)).bind fun digit =>
      if digit < base then some (base * value + digit) else none) =
        some (base * value + digit) := by
    intro digit hdigit value
    rw [hexDigitValue?_digitChar digit (by omega), Option.bind_some, if_pos hdigit]
  induction n using Nat.strongRecOn with
  | ind n ih =>
      by_cases hsmall : n < base
      · rw [Nat.toDigits_of_lt_base hsmall, ← List.nil_append [n.digitChar], numberIn?_append]
        exact (hdigit n hsmall 0).trans (by rw [Nat.mul_zero, Nat.zero_add])
      · have hlarge : base ≤ n := Nat.le_of_not_lt hsmall
        rw [Nat.toDigits_of_base_le hone hlarge, numberIn?_append,
          ih (n / base) (Nat.div_lt_self (by omega) hone), Option.bind_some,
          hdigit _ (Nat.mod_lt n (by omega)), Nat.div_add_mod]

theorem lt_of_numberIn? {text : List Char} {n : Nat} (hread : numberIn? base text = some n) :
    n < base ^ text.length := by
  induction text using List.reverseRecOn generalizing n with
  | nil =>
      cases hread
      exact Nat.one_pos
  | append_singleton text c ih =>
      rw [numberIn?_append] at hread
      obtain ⟨value, hvalue, hread⟩ := Option.bind_eq_some_iff.mp hread
      obtain ⟨digit, -, hread⟩ := Option.bind_eq_some_iff.mp hread
      split at hread
      · next hsmall =>
          cases hread
          rw [List.length_append, List.length_singleton, Nat.pow_succ]
          calc
            base * value + digit < base * value + base := Nat.add_lt_add_left hsmall _
            _ = base * (value + 1) := (Nat.mul_succ _ _).symm
            _ ≤ base * base ^ text.length := Nat.mul_le_mul_left _ (ih hvalue)
            _ = base ^ text.length * base := Nat.mul_comm _ _
      · cases hread

/-! ## Decimal numbers -/

theorem toList_toString (n : Nat) : (toString n).toList = Nat.toDigits 10 n := by
  rw [Nat.toString_eq_ofList_toDigits, String.toList_ofList]

theorem numberIn?_toString (n : Nat) : numberIn? 10 (toString n).toList = some n := by
  rw [toList_toString]
  exact numberIn?_toDigits (by decide) (by decide) n

theorem toString_ne_nil (n : Nat) : (toString n).toList ≠ [] := by
  rw [toList_toString]
  exact Nat.toDigits_ne_nil

/-- What holds of the ten digits holds of every character of a decimal number. -/
theorem forall_mem_toString {holds : Char → Prop} [DecidablePred holds]
    (hdigits : ("0123456789".toList.all fun c => holds c) = true) (n : Nat) :
    ∀ c ∈ (toString n).toList, holds c := by
  have hall : ∀ digit < 10, Nat.digitChar digit ∈ "0123456789".toList := by decide
  intro c hc
  rw [toList_toString] at hc
  obtain ⟨digit, hdigit, rfl⟩ := Text.exists_of_mem_toDigits (by decide) hc
  exact List.all_iff_forall_prop.mp hdigits _ (hall digit hdigit)

end DebugBridge.Url
