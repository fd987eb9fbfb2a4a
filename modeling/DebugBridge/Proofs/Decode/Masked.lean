import DebugBridge.Decode.OfJson
import DebugBridge.Proofs.Redaction.Quotes

/-!
# Decoding without a look at strings

A value is masked by emptying all its strings.  Most decoders cannot tell a value from the masked
one: both are decoded, or both are refused for the same mismatch, up to the string that was met.
-/

namespace DebugBridge

/-! ## Masked values -/

namespace Json

mutual

/-- The value with all its strings emptied. -/
def masked : Json → Json
  | .null => .null
  | .bool value => .bool value
  | .number value => .number value
  | .string _ => .string ""
  | .array items => .array (maskedItems items)
  | .object members => .object (maskedMembers members)

def maskedItems : List Json → List Json
  | [] => []
  | item :: items => item.masked :: maskedItems items

def maskedMembers : List (String × Json) → List (String × Json)
  | [] => []
  | (name, value) :: members => (name, value.masked) :: maskedMembers members

end

/-- Equal but for what their strings say. -/
def Alike (value other : Json) : Prop := value.masked = other.masked

theorem names_maskedMembers (members : List (String × Json)) :
    (maskedMembers members).map (·.1) = members.map (·.1) := by
  induction members with
  | nil => rfl
  | cons member members ih =>
      obtain ⟨name, value⟩ := member
      rw [maskedMembers, List.map_cons, List.map_cons, ih]

theorem length_maskedItems (items : List Json) : (maskedItems items).length = items.length := by
  induction items with
  | nil => rfl
  | cons item items ih => rw [maskedItems, List.length_cons, List.length_cons, ih]

theorem isNull_masked (value : Json) : value.masked.isNull = value.isNull := by
  cases value <;> rfl

end Json

def Found.masked : Found → Found
  | .string _ => .string ""
  | found => found

namespace Mismatch

def masked : Mismatch → Mismatch
  | .invalidType found expected => .invalidType found.masked expected
  | mismatch => mismatch

/-- A string was met where something else was expected, in words without quotes. -/
def Worded : Mismatch → Prop
  | .invalidType (.string _) expected => Redaction.Clean expected.toList
  | _ => True

/-- The string that was met holds no double quote. -/
def QuoteFree : Mismatch → Prop
  | .invalidType (.string value) _ => '"' ∉ value.toList
  | _ => True

instance (mismatch : Mismatch) : Decidable mismatch.QuoteFree := by
  unfold QuoteFree
  split <;> infer_instance

/-- The redacted words for a mismatch, with nothing of a string. -/
def redacted : Mismatch → String
  | .invalidType (.string _) expected => redactedString expected
  | mismatch => Redaction.json mismatch.message

theorem redacted_masked (mismatch : Mismatch) : mismatch.masked.redacted = mismatch.redacted := by
  cases mismatch with
  | invalidType found expected => cases found <;> rfl
  | _ => rfl

/-- Redaction takes out the string that was met, unless there is a quote in it. -/
theorem json_message_eq_redacted {mismatch : Mismatch} (hworded : mismatch.Worded) :
    Redaction.json mismatch.message = mismatch.redacted ↔ mismatch.QuoteFree := by
  cases mismatch with
  | invalidType found expected =>
      cases found with
      | string value => exact json_unexpected_string value hworded
      | _ => exact iff_of_true rfl trivial
  | _ => exact iff_of_true rfl trivial

end Mismatch

namespace JsonDecoder

open Json Redaction

variable {α β Record : Type}

/-! ## Blind decoders -/

/-- A decoding and the one of the masked value. -/
inductive Follows : Except Mismatch α → Except Mismatch α → Prop
  | decoded (value other : α) : Follows (.ok value) (.ok other)
  | refused (mismatch : Mismatch) (hworded : mismatch.Worded) :
      Follows (.error mismatch) (.error mismatch.masked)

/-- What a decoder says of a value it says of the masked value, too. -/
def Blind (decoder : JsonDecoder α) : Prop :=
  ∀ value : Json, Follows (decoder.run value) (decoder.run value.masked)

theorem Follows.outcomes {first other : Except Mismatch α} (hfollows : Follows first other) :
    (∃ value valueOther, first = .ok value ∧ other = .ok valueOther) ∨
      ∃ mismatch : Mismatch, mismatch.Worded ∧ first = .error mismatch ∧
        other = .error mismatch.masked := by
  cases hfollows with
  | decoded value valueOther => exact .inl ⟨value, valueOther, rfl, rfl⟩
  | refused mismatch hworded => exact .inr ⟨mismatch, hworded, rfl, rfl⟩

theorem Follows.bind {first other : Except Mismatch α} {next nextOther : α → Except Mismatch β}
    (hfirst : Follows first other)
    (hnext : ∀ value valueOther, Follows (next value) (nextOther valueOther)) :
    Follows (first >>= next) (other >>= nextOther) := by
  cases hfirst with
  | decoded value valueOther => exact hnext value valueOther
  | refused mismatch hworded => exact .refused _ hworded

theorem Follows.map {first other : Except Mismatch α} (change : α → β)
    (hfirst : Follows first other) : Follows (first.map change) (other.map change) := by
  cases hfirst with
  | decoded value valueOther => exact .decoded _ _
  | refused mismatch hworded => exact .refused _ hworded

theorem found_masked (value : Json) : found value.masked = (found value).masked := by
  cases value with
  | number value => cases value <;> rfl
  | _ => rfl

theorem follows_fail (expected : String) (hclean : Clean expected.toList) (value : Json) :
    Follows (fail expected value : Except Mismatch α) (fail expected value.masked) := by
  rw [fail, fail, found_masked]
  refine .refused (.invalidType (found value) expected) ?_
  cases value with
  | string text => exact hclean
  | number value => cases value <;> exact trivial
  | _ => exact trivial

theorem blind_map (change : α → β) {decoder : JsonDecoder α} (hblind : Blind decoder) :
    Blind (Format.map change decoder) :=
  fun value => (hblind value).map change

theorem blind_boolean : Blind Format.boolean := by
  intro value
  have hfail := follows_fail (α := Bool) "a boolean" (by decide) value
  cases value with
  | bool flag => exact .decoded flag flag
  | _ => exact hfail

theorem blind_text {expected : String} (hclean : Clean expected.toList) :
    Blind (Format.text expected) := by
  intro value
  have hfail := follows_fail (α := String) expected hclean value
  cases value with
  | string text => exact .decoded text ""
  | _ => exact hfail

theorem blind_integer {expected : String} (hclean : Clean expected.toList) (low high : Int) :
    Blind (Format.integer expected low high) := by
  intro value
  have hfail := follows_fail (α := Int) expected hclean value
  cases value with
  | number number =>
      change Follows (number.inRange expected low high Binary64.compact)
        (number.inRange expected low high Binary64.compact)
      cases number with
      | int value =>
          rw [Number.inRange]
          split
          · exact .decoded _ _
          · exact .refused (.invalidValue (.int value) expected) trivial
      | float value =>
          exact .refused (.invalidType (.float value.compact) expected) trivial
  | _ => exact hfail

theorem blind_optional {decoder : JsonDecoder α} (hblind : Blind decoder) :
    Blind (Format.optional decoder) := by
  intro value
  cases value with
  | null => exact .decoded none none
  | _ => exact (hblind _).map some

theorem blind_anything : Blind JsonFormat.anything :=
  fun value => .decoded value value.masked

theorem blind_list {item : JsonDecoder α} (hblind : Blind item) : Blind (list item) := by
  intro value
  have hfail := follows_fail (α := List α) "a sequence" (by decide) value
  cases value with
  | array items =>
      change Follows (items.mapM item.run) ((maskedItems items).mapM item.run)
      clear hfail
      induction items with
      | nil => exact .decoded [] []
      | cons first items ih =>
          rw [maskedItems, List.mapM_cons, List.mapM_cons]
          refine (hblind first).bind fun value valueOther => ?_
          exact ih.bind fun values valuesOther => .decoded _ _
  | _ => exact hfail

/-! ## Records -/

section Records

variable {fields : List (Field JsonDecoder Record)}

theorem mem_of_findField {name : String} {field : Field JsonDecoder Record}
    (hfind : findField fields name = some field) : field ∈ fields :=
  List.mem_of_find?_eq_some hfind

theorem follows_decodeMembers (hblind : ∀ field ∈ fields, Blind field.update)
    (members : List (String × Json)) (record other : Record) :
    Follows (decodeMembers false fields members record)
      (decodeMembers false fields (maskedMembers members) other) := by
  induction members generalizing record other with
  | nil => exact .decoded record other
  | cons member members ih =>
      obtain ⟨name, value⟩ := member
      rw [maskedMembers, decodeMembers, decodeMembers]
      cases hfind : findField fields name with
      | none => exact ih record other
      | some field =>
          dsimp only
          obtain ⟨change, changeOther, hvalue, hmasked⟩ | ⟨mismatch, hworded, hvalue, hmasked⟩ :=
            (hblind field (mem_of_findField hfind) value).outcomes
          · rw [hvalue, hmasked]
            exact ih (change record) (changeOther other)
          · rw [hvalue, hmasked]
            exact .refused _ hworded

theorem follows_decodeItems (name : String) (total : Nat)
    (hblind : ∀ field ∈ fields, Blind field.update) (done : Nat) (items : List Json)
    (record other : Record) :
    Follows (decodeItems name total fields done items record)
      (decodeItems name total fields done (maskedItems items) other) := by
  induction fields generalizing done items record other with
  | nil =>
      cases items with
      | nil => exact .decoded record other
      | cons item items =>
          rw [maskedItems, decodeItems, decodeItems, List.length_cons, List.length_cons,
            length_maskedItems]
          exact .refused (.invalidLength _ _) trivial
  | cons field fields ih =>
      obtain ⟨hfield, hfields⟩ := List.forall_mem_cons.mp hblind
      cases items with
      | nil =>
          rw [maskedItems, decodeItems, decodeItems]
          split
          · exact .refused (.invalidLength done (expectedElements name total)) trivial
          · exact ih hfields (done + 1) [] record other
      | cons value items =>
          rw [maskedItems, decodeItems, decodeItems]
          obtain ⟨change, changeOther, hvalue, hmasked⟩ | ⟨mismatch, hworded, hvalue, hmasked⟩ :=
            (hfield value).outcomes
          · rw [hvalue, hmasked]
            exact ih hfields (done + 1) items (change record) (changeOther other)
          · rw [hvalue, hmasked]
            exact .refused _ hworded

/-- A record with other names allowed is decoded without a look at strings if its fields are. -/
theorem blind_record {name : String} (hclean : Clean name.toList)
    (hblind : ∀ field ∈ fields, Blind field.update) (defaults : Record) :
    Blind (Format.record name false fields defaults) := by
  intro value
  have hexpected : Clean (expectedRecord name).toList := by
    rw [expectedRecord, String.toList_append]
    exact Clean.append (by decide) hclean
  have hfail := follows_fail (α := Record) (expectedRecord name) hexpected value
  cases value with
  | object members =>
      change Follows (decodeRecord name false fields defaults (.object members))
        (decodeRecord name false fields defaults (.object (maskedMembers members)))
      rw [decodeRecord, decodeRecord, names_maskedMembers]
      obtain ⟨record, other, hvalue, hmasked⟩ | ⟨mismatch, hworded, hvalue, hmasked⟩ :=
        (follows_decodeMembers hblind members defaults defaults).outcomes
      · rw [hvalue, hmasked]
        dsimp only
        cases missingRequired fields (members.map (·.1)) with
        | none => exact .decoded record other
        | some missing => exact .refused (.missingField missing) trivial
      · rw [hvalue, hmasked]
        exact .refused _ hworded
  | array items => exact follows_decodeItems name fields.length hblind 0 items defaults defaults
  | _ => exact hfail

end Records

end JsonDecoder

end DebugBridge
