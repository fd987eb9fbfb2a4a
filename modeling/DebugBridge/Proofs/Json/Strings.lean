import DebugBridge.Json.Lexeme
import DebugBridge.Json.Print
import Mathlib.Tactic.Common

/-!
# Strings read back

A string that is printed is read back as itself, whatever follows it: every escape stands for the
character that it was written for, and every other character is its own bytes.
-/

namespace DebugBridge

namespace Text

/-- Characters in UTF-8. -/
def bytesOf (chars : List Char) : List UInt8 := chars.flatMap String.utf8EncodeChar

@[simp]
theorem bytesOf_nil : bytesOf [] = [] := rfl

theorem bytesOf_cons (c : Char) (chars : List Char) :
    bytesOf (c :: chars) = String.utf8EncodeChar c ++ bytesOf chars := List.flatMap_cons

@[simp]
theorem bytesOf_append (first second : List Char) :
    bytesOf (first ++ second) = bytesOf first ++ bytesOf second := List.flatMap_append

theorem encodeUtf8_ofList (chars : List Char) :
    encodeUtf8 (String.ofList chars) = bytesOf chars := by
  rw [encodeUtf8, String.toUTF8, String.toByteArray_ofList, List.utf8Encode,
    List.data_toByteArray]
  rfl

theorem encodeUtf8_singleton (c : Char) :
    encodeUtf8 (String.singleton c) = String.utf8EncodeChar c := by
  have hchars : String.singleton c = String.ofList [c] := by simp
  rw [hchars, encodeUtf8_ofList, bytesOf_cons, bytesOf_nil, List.append_nil]

theorem decodeUtf8?_bytesOf (chars : List Char) :
    decodeUtf8? (bytesOf chars) = some (String.ofList chars) := by
  have hbytes : (⟨(bytesOf chars).toArray⟩ : ByteArray) = chars.utf8Encode := by
    rw [List.utf8Encode, ← List.data_toByteArray]
    rfl
  have hvalid : chars.utf8Encode.IsValidUTF8 := ⟨chars, rfl⟩
  rw [decodeUtf8?, hbytes, String.fromUTF8?, dif_pos hvalid, Option.some.injEq,
    ← String.toByteArray_inj, String.toByteArray_ofList]
  rfl

/-- A character of the first 128 is one byte. -/
theorem utf8EncodeChar_of_le {c : Char} (hc : c.toNat ≤ 127) :
    String.utf8EncodeChar c = [UInt8.ofNat c.toNat] := by
  have hval : c.val.toNat ≤ 127 := hc
  rw [String.utf8EncodeChar.eq_1, if_pos hval]
  rfl

/-- The bytes of any other character are none of the first 128. -/
theorem le_of_mem_utf8EncodeChar {c : Char} (hc : 127 < c.toNat) {b : UInt8}
    (hb : b ∈ String.utf8EncodeChar c) : 0x80 ≤ b := by
  have hval : ¬ c.val.toNat ≤ 127 := Nat.not_le_of_lt hc
  have hhigh : ∀ n, 128 ≤ n → n < 256 → (0x80 : UInt8) ≤ UInt8.ofNat n := by
    intro n hlow hhigh
    rw [UInt8.le_iff_toNat_le, UInt8.toNat_ofNat_of_lt' hhigh]
    exact hlow
  rw [String.utf8EncodeChar.eq_1, if_neg hval] at hb
  repeat' split at hb
  all_goals
    simp only [List.mem_cons, List.not_mem_nil, or_false] at hb
    rcases hb with rfl | rfl | rfl | rfl <;> exact hhigh _ (by omega) (by omega)

/-- No byte of a character is that of another one of the first 128. -/
theorem ne_of_mem_utf8EncodeChar {c d : Char} (hd : d.toNat ≤ 127) (hne : c ≠ d) {b : UInt8}
    (hb : b ∈ String.utf8EncodeChar c) : b ≠ UInt8.ofNat d.toNat := by
  have hvalue : (UInt8.ofNat d.toNat).toNat = d.toNat :=
    UInt8.toNat_ofNat_of_lt' (by omega : d.toNat < 256)
  intro hsame
  by_cases hascii : c.toNat ≤ 127
  · rw [utf8EncodeChar_of_le hascii, List.mem_singleton] at hb
    have htoNat := congrArg UInt8.toNat (hb.symm.trans hsame)
    rw [hvalue, UInt8.toNat_ofNat_of_lt' (by omega : c.toNat < 256)] at htoNat
    exact hne (Char.toNat_inj.mp htoNat)
  · have hhigh := UInt8.le_iff_toNat_le.mp (le_of_mem_utf8EncodeChar (by omega) hb)
    have hlow : (0x80 : UInt8).toNat = 128 := rfl
    rw [hsame, hvalue, hlow] at hhigh
    omega

end Text

namespace Json

open Text

/-- The characters of a string between its quotes. -/
def escaped (chars : List Char) : List Char := chars.flatMap escapeChar

theorem stringOnto_eq (s : String) (rest : List Char) :
    stringOnto s rest = '"' :: (escaped s.toList ++ '"' :: rest) := by
  have hfold : ∀ chars : List Char,
      chars.foldr (fun c tail => escapeChar c ++ tail) ('"' :: rest) =
        escaped chars ++ '"' :: rest := by
    intro chars
    induction chars with
    | nil => rfl
    | cons c chars ih => rw [List.foldr_cons, ih, escaped, escaped, List.flatMap_cons,
        List.append_assoc]
  rw [stringOnto, hfold]

/-- The bytes of a character that needs no escape have no meaning of their own. -/
theorem plain_of_mem {c : Char} (hquote : c ≠ '"') (hbackslash : c ≠ '\\')
    (hcontrol : ¬ c.toNat < 0x20) {b : UInt8} (hb : b ∈ String.utf8EncodeChar c) :
    b ≠ quoteMark ∧ b ≠ backslash ∧ ¬ b < 0x20 := by
  refine ⟨ne_of_mem_utf8EncodeChar (d := '"') (by decide) hquote hb,
    ne_of_mem_utf8EncodeChar (d := '\\') (by decide) hbackslash hb, ?_⟩
  rw [UInt8.lt_iff_toNat_lt]
  have hspace : (0x20 : UInt8).toNat = 32 := rfl
  by_cases hascii : c.toNat ≤ 127
  · rw [utf8EncodeChar_of_le hascii, List.mem_singleton] at hb
    rwa [hb, UInt8.toNat_ofNat_of_lt' (by omega : c.toNat < 256)]
  · have hhigh := UInt8.le_iff_toNat_le.mp (le_of_mem_utf8EncodeChar (by omega) hb)
    have hvalue : (0x80 : UInt8).toNat = 128 := rfl
    omega

section Reading

variable (read rest : List UInt8)

/-- Bytes without a meaning of their own are taken as they are. -/
theorem readStringFrom_plain {bytes : List UInt8}
    (hplain : ∀ b ∈ bytes, b ≠ quoteMark ∧ b ≠ backslash ∧ ¬ b < 0x20) :
    readStringFrom .plain read (bytes ++ rest) =
      readStringFrom .plain (bytes.reverse ++ read) rest := by
  induction bytes generalizing read with
  | nil => rfl
  | cons b bytes ih =>
      obtain ⟨⟨hquote, hbackslash, hcontrol⟩, hbytes⟩ := List.forall_mem_cons.mp hplain
      rw [List.cons_append, readStringFrom, if_neg hquote, if_neg hbackslash, if_neg hcontrol,
        ih _ hbytes, List.reverse_cons, List.append_assoc]
      rfl

theorem hexNumber?_hexDigit : ∀ n < 0x20, hexNumber?
    [UInt8.ofNat (hexDigit (n % 16)).toNat, UInt8.ofNat (hexDigit (n / 16)).toNat, 0x30, 0x30] =
      some n := by
  decide

theorem utf8EncodeChar_hexDigit {n : Nat} (hn : n < 16) :
    String.utf8EncodeChar (hexDigit n) = [UInt8.ofNat (hexDigit n).toNat] := by
  have hascii : ∀ n < 16, (hexDigit n).toNat ≤ 127 := by decide
  exact utf8EncodeChar_of_le (hascii n hn)

theorem readStringFrom_control {c : Char} (hc : c.toNat < 0x20) :
    readStringFrom .plain read (bytesOf
      ['\\', 'u', '0', '0', hexDigit (c.toNat / 16), hexDigit (c.toNat % 16)] ++ rest) =
      readStringFrom .plain ((String.utf8EncodeChar c).reverse ++ read) rest := by
  have hbytes : bytesOf
      ['\\', 'u', '0', '0', hexDigit (c.toNat / 16), hexDigit (c.toNat % 16)] =
        [backslash, 0x75, 0x30, 0x30, UInt8.ofNat (hexDigit (c.toNat / 16)).toNat,
          UInt8.ofNat (hexDigit (c.toNat % 16)).toNat] := by
    simp only [bytesOf_cons, bytesOf_nil, utf8EncodeChar_hexDigit (n := c.toNat / 16) (by omega),
      utf8EncodeChar_hexDigit (n := c.toNat % 16) (by omega)]
    rfl
  have hunit := hexNumber?_hexDigit c.toNat hc
  have htrail : ¬ (0xdc00 ≤ c.toNat && c.toNat ≤ 0xdfff) = true := by simp; omega
  have hlead : ¬ (0xd800 ≤ c.toNat && c.toNat ≤ 0xdbff) = true := by simp; omega
  rw [hbytes]
  simp only [List.cons_append, List.nil_append]
  change readStringFrom (.hex none [_, 0x30, 0x30]) read (_ :: rest) = _
  rw [readStringFrom.eq_def]
  simp only [List.length_cons, List.length_nil, hunit, htrail, hlead, Char.ofNat_toNat,
    encodeUtf8_singleton]
  rfl

/-- However a character is written, it is read. -/
theorem readStringFrom_escapeChar (c : Char) :
    readStringFrom .plain read (bytesOf (escapeChar c) ++ rest) =
      readStringFrom .plain ((String.utf8EncodeChar c).reverse ++ read) rest := by
  unfold escapeChar
  repeat' split
  · next hc =>
      subst hc
      rfl
  · next hc =>
      subst hc
      rfl
  · next hc =>
      subst hc
      rfl
  · next hc =>
      subst hc
      rfl
  · next hc =>
      subst hc
      rfl
  · next hc =>
      subst hc
      rfl
  · next hc =>
      subst hc
      rfl
  · next hc => exact readStringFrom_control read rest hc
  · next hquote hbackslash _ _ _ _ _ hcontrol =>
      rw [bytesOf_cons, bytesOf_nil, List.append_nil]
      exact readStringFrom_plain read rest fun b => plain_of_mem hquote hbackslash hcontrol

theorem readStringFrom_escaped (chars : List Char) :
    readStringFrom .plain read (bytesOf (escaped chars) ++ rest) =
      readStringFrom .plain ((bytesOf chars).reverse ++ read) rest := by
  induction chars generalizing read with
  | nil => rfl
  | cons c chars ih =>
      rw [escaped, List.flatMap_cons, bytesOf_append, List.append_assoc,
        readStringFrom_escapeChar, bytesOf_cons, List.reverse_append, List.append_assoc]
      exact ih _

/-- A string is read back as it was written. -/
theorem readString_escaped (s : String) :
    readString (bytesOf (escaped s.toList) ++ quoteMark :: rest) = .ok (s, rest) := by
  rw [readString, readStringFrom_escaped, List.append_nil, readStringFrom, if_pos rfl,
    List.reverse_reverse, decodeUtf8?_bytesOf, String.ofList_toList]

end Reading

end Json

end DebugBridge
