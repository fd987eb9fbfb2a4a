import DebugBridge.Proofs.Json.Strings
import Mathlib.Data.String.Basic
import Mathlib.Order.Lattice

/-!
# The order of texts is that of their bytes

UTF-8 keeps the order of characters: of two characters the lesser one has the lesser bytes, and no
character's bytes begin another's.  So texts that ascend by their characters ascend by their bytes.
-/

namespace DebugBridge.Text

theorem ofNat_lt_ofNat {m n : Nat} (hm : m < 256) (hn : n < 256) :
    UInt8.ofNat m < UInt8.ofNat n ↔ m < n := by
  rw [UInt8.lt_iff_toNat_lt, UInt8.toNat_ofNat_of_lt' hm, UInt8.toNat_ofNat_of_lt' hn]

theorem ofNat_eq_ofNat {m n : Nat} (hm : m < 256) (hn : n < 256) :
    UInt8.ofNat m = UInt8.ofNat n ↔ m = n := by
  rw [← UInt8.toNat_inj, UInt8.toNat_ofNat_of_lt' hm, UInt8.toNat_ofNat_of_lt' hn]

/-- The lesser character has the lesser bytes, whatever follows either of them. -/
theorem utf8EncodeChar_append_lt {c d : Char} (hless : c < d) (first second : List UInt8) :
    String.utf8EncodeChar c ++ first < String.utf8EncodeChar d ++ second := by
  have hcode : c.val.toNat < d.val.toNat := UInt32.lt_iff_toNat_lt.mp hless
  have hmax : d.val.toNat < 0x110000 := by
    rcases d.valid with hlow | ⟨-, hhigh⟩
    · exact Nat.lt_trans hlow (by decide)
    · exact hhigh
  rw [String.utf8EncodeChar.eq_1, String.utf8EncodeChar.eq_1]
  generalize c.val.toNat = m at *
  generalize d.val.toNat = n at *
  -- The bytes hold digits of six bits, of which the first that differs decides.
  have hlast : m / 64 < n / 64 ∨ m / 64 = n / 64 ∧ m % 64 < n % 64 := by omega
  have hthird : m / 4096 < n / 4096 ∨ m / 4096 = n / 4096 ∧
      (m / 64 % 64 < n / 64 % 64 ∨ m / 64 % 64 = n / 64 % 64 ∧ m % 64 < n % 64) := by omega
  have hsecond : m / 262144 < n / 262144 ∨ m / 262144 = n / 262144 ∧
      (m / 4096 % 64 < n / 4096 % 64 ∨ m / 4096 % 64 = n / 4096 % 64 ∧
        (m / 64 % 64 < n / 64 % 64 ∨ m / 64 % 64 = n / 64 % 64 ∧ m % 64 < n % 64)) := by omega
  repeat' split
  all_goals
    simp (disch := omega) only [List.cons_append, List.nil_append, List.cons_lt_cons_iff,
      ofNat_lt_ofNat, ofNat_eq_ofNat, Nat.mod_eq_of_lt]
    omega

theorem bytesOf_lt {first second : List Char} (hless : first < second) :
    bytesOf first < bytesOf second := by
  induction first generalizing second with
  | nil =>
      cases second with
      | nil => exact absurd hless (List.lt_irrefl _)
      | cons d second =>
          rw [bytesOf_cons]
          cases hbytes : String.utf8EncodeChar d with
          | nil => exact absurd hbytes String.utf8EncodeChar_ne_nil
          | cons b bytes => exact List.nil_lt_cons b _
  | cons c first ih =>
      cases second with
      | nil => exact absurd hless (List.not_lt_nil _)
      | cons d second =>
          rw [bytesOf_cons, bytesOf_cons]
          rcases List.cons_lt_cons_iff.mp hless with hchar | ⟨rfl, hrest⟩
          · exact utf8EncodeChar_append_lt hchar _ _
          · exact List.append_left_lt (ih hrest)

/-- Texts ascend as their bytes do. -/
theorem encodeUtf8_lt {s t : String} (hless : s < t) : encodeUtf8 s < encodeUtf8 t := by
  rw [← String.ofList_toList (s := s), ← String.ofList_toList (s := t), encodeUtf8_ofList,
    encodeUtf8_ofList]
  exact bytesOf_lt (String.lt_iff.mp hless)

end DebugBridge.Text
