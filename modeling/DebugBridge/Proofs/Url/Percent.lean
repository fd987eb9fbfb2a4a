import DebugBridge.Proofs.Json.Strings
import DebugBridge.Url.Percent
import Mathlib.Data.Bool.AllAny

/-!
# Percent-encoded texts

A text that is percent-encoded holds none of the characters that had to be encoded, so that encoding
it again changes nothing.  A text without a percent sign is its own decoding.
-/

namespace DebugBridge.Url

open Text

/-- What escapes are written with. -/
def escapeChars : List Char := "%0123456789ABCDEF".toList

theorem mem_escapeChars_of_percentByte {b : UInt8} {c : Char} (hc : c ∈ percentByte b) :
    c ∈ escapeChars := by
  have hdigits : ∀ n < 16, hexDigit n ∈ escapeChars := by decide
  have hsmall := b.toNat_lt
  simp only [percentByte, List.mem_cons, List.not_mem_nil, or_false] at hc
  rcases hc with rfl | rfl | rfl
  · decide
  · exact hdigits _ (by omega)
  · exact hdigits _ (by omega)

section Encoding

variable {inSet : Char → Bool} {text : List Char}

theorem percentEncode_cons (inSet : Char → Bool) (c : Char) (text : List Char) :
    percentEncode inSet (c :: text) =
      (if inSet c then (String.utf8EncodeChar c).flatMap percentByte else [c]) ++
        percentEncode inSet text := by
  rw [percentEncode, List.flatMap_cons, encodeUtf8_singleton]
  rfl

/-- Where nothing has to be encoded, nothing changes. -/
theorem percentEncode_of_free (hfree : ∀ c ∈ text, inSet c = false) :
    percentEncode inSet text = text := by
  induction text with
  | nil => rfl
  | cons c text ih =>
      obtain ⟨hc, hmore⟩ := List.forall_mem_cons.mp hfree
      rw [percentEncode_cons, hc, ih hmore]
      rfl

theorem mem_percentEncode {c : Char} (hc : c ∈ percentEncode inSet text) :
    c ∈ escapeChars ∨ c ∈ text ∧ inSet c = false := by
  obtain ⟨d, hd, hwritten⟩ := List.mem_flatMap.mp hc
  split at hwritten
  · obtain ⟨b, -, hb⟩ := List.mem_flatMap.mp hwritten
    exact .inl (mem_escapeChars_of_percentByte hb)
  · next hkept =>
      cases List.mem_singleton.mp hwritten
      exact .inr ⟨hd, Bool.eq_false_iff.mpr hkept⟩

/-- Nothing is left to encode, if escapes need no encoding. -/
theorem free_percentEncode (hescape : ∀ c ∈ escapeChars, inSet c = false) (text : List Char) :
    ∀ c ∈ percentEncode inSet text, inSet c = false := by
  intro c hc
  rcases mem_percentEncode hc with hc | ⟨-, hc⟩
  · exact hescape c hc
  · exact hc

/-- Whatever is encoded leaves a percent sign. -/
theorem percentEncode_of_not_mem (hnone : '%' ∉ percentEncode inSet text) :
    percentEncode inSet text = text := by
  refine percentEncode_of_free fun c hc => Bool.eq_false_iff.mpr fun hset => hnone ?_
  have hpercent : '%' ∈ (String.utf8EncodeChar c).flatMap percentByte := by
    obtain ⟨b, bytes, hbytes⟩ := List.exists_cons_of_ne_nil (String.utf8EncodeChar_ne_nil (c := c))
    rw [hbytes, List.flatMap_cons]
    exact List.mem_append_left _ List.mem_cons_self
  refine List.mem_flatMap.mpr ⟨c, hc, ?_⟩
  rw [if_pos hset, encodeUtf8_singleton]
  exact hpercent

end Encoding

/-- What holds of the first 128 characters, checked one by one. -/
theorem of_ascii (holds : Char → Prop) (hall : ∀ code < 128, holds (Char.ofNat code)) {c : Char}
    (hc : c.toNat < 128) : holds c :=
  Char.ofNat_toNat c ▸ hall c.toNat hc

theorem free_userinfo : ∀ c ∈ escapeChars, inUserinfoSet c = false :=
  List.all_iff_forall_prop.mp (by decide)

theorem free_path : ∀ c ∈ escapeChars, inPathSet c = false :=
  List.all_iff_forall_prop.mp (by decide)

/-- Without percent signs there is nothing to decode. -/
theorem percentDecode_of_not_mem {bytes : List UInt8} (hnone : 0x25 ∉ bytes) :
    percentDecode bytes = bytes := by
  induction bytes with
  | nil => rfl
  | cons b bytes ih =>
      obtain ⟨hb, hmore⟩ := List.ne_and_not_mem_of_not_mem_cons hnone
      rw [percentDecode, ih hmore]
      intro high low rest hpercent
      exact absurd hpercent.symm hb

theorem percentDecode_bytesOf {text : List Char} (hnone : '%' ∉ text) :
    percentDecode (bytesOf text) = bytesOf text := by
  refine percentDecode_of_not_mem fun hmem => ?_
  obtain ⟨c, hc, hb⟩ := List.mem_flatMap.mp hmem
  exact ne_of_mem_utf8EncodeChar (d := '%') (by decide) (fun hsame => hnone (hsame ▸ hc)) hb rfl

end DebugBridge.Url
