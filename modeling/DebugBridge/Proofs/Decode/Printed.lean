import DebugBridge.Decode.OfText
import DebugBridge.Proofs.Json.Reread

/-!
# Decoding printed values

What a decoder makes of the text of a value, wherever that stands in a longer text: a scalar is
itself, any value is the value reread, and a record is what its members make of the defaults.
-/

namespace DebugBridge.TextDecoder

open Json Text

variable {α β Record : Type}

/-- Whenever the value's text is decoded, this is the result, and what follows is left; and it is
not if the decoder may not go so deep. -/
def Decodes (decoder : TextDecoder α) (value : Json) (result : α) : Prop :=
  ∀ depth fuel rest, Ends (bytesOf rest) → ∀ read left,
    decoder.run depth fuel (bytesOf (value.onto rest)) = .ok (read, left) →
      read = result ∧ left = bytesOf rest ∧ value.nesting ≤ depth

section Whole

variable {decoder : TextDecoder α} {value : Json} {result read : α}

theorem Decodes.result_and_nesting (hdecodes : Decodes decoder value result)
    (hread : decoder.decode value.bytes = .ok read) :
    read = result ∧ value.nesting ≤ nestingLimit := by
  have hbytes : value.bytes = bytesOf (value.onto []) := encodeUtf8_ofList value.chars
  obtain ⟨rest, hrun⟩ := decode_eq_ok hread
  rw [hbytes] at hrun
  obtain ⟨hresult, -, hdepth⟩ := hdecodes _ _ [] ends_nil _ _ hrun
  exact ⟨hresult, hdepth⟩

theorem Decodes.decode (hdecodes : Decodes decoder value result)
    (hread : decoder.decode value.bytes = .ok read) : read = result :=
  (hdecodes.result_and_nesting hread).1

/-- A value whose brackets are too deep is not decoded at all. -/
theorem Decodes.refused (hdecodes : Decodes decoder value result)
    (hdeep : nestingLimit < value.nesting) :
    ∃ failure, decoder.decode value.bytes = .error failure := by
  cases hread : decoder.decode value.bytes with
  | error failure => exact ⟨failure, rfl⟩
  | ok read => exact absurd (hdecodes.result_and_nesting hread).2 (Nat.not_le_of_lt hdeep)

end Whole

theorem decodes_map (change : α → β) {decoder : TextDecoder α} {value : Json} {result : α}
    (hdecodes : Decodes decoder value result) :
    Decodes (Format.map change decoder) value (change result) := by
  intro depth fuel rest hrest read left hread
  obtain ⟨⟨found, behind⟩, hfound, hmade⟩ := map_eq_ok.mp hread
  cases hmade
  obtain ⟨rfl, hleft⟩ := hdecodes depth fuel rest hrest found behind hfound
  exact ⟨rfl, hleft⟩

theorem decodes_refine {check : α → Except String β} {decoder : TextDecoder α} {value : Json}
    {inner : α} {result : β} (hdecodes : Decodes decoder value inner)
    (hcheck : check inner = .ok result) : Decodes (Format.refine check decoder) value result := by
  intro depth fuel rest hrest read left hread
  simp only [Format.refine] at hread
  split at hread
  · cases hread
  · next found behind hfound =>
      obtain ⟨rfl, hleft⟩ := hdecodes depth fuel rest hrest found behind hfound
      rw [hcheck] at hread
      cases hread
      exact ⟨rfl, hleft⟩

theorem decodes_anything (value : Json) : Decodes JsonFormat.anything value value.reread :=
  fun depth fuel rest hrest read left hread =>
    readValue_onto value rest hrest depth fuel read left hread

/-- Only null is nothing. -/
theorem decodes_optional {decoder : TextDecoder α} {value : Json} {result : α}
    (hdecodes : Decodes decoder value result) (hvalue : value ≠ .null) :
    Decodes (Format.optional decoder) value (some result) := by
  intro depth fuel rest hrest read left hread
  obtain ⟨b, tail, hbytes, hbegins, hother⟩ := begins_onto value rest
  change readOptional decoder.run depth fuel (bytesOf (value.onto rest)) = _ at hread
  rw [readOptional, hbytes, skipBlanks_of_canBegin hbegins] at hread
  split at hread
  · next hsame => exact absurd (List.cons.inj hsame).1 (hother hvalue)
  · rw [← hbytes] at hread
    obtain ⟨⟨found, behind⟩, hfound, hmade⟩ := map_eq_ok.mp hread
    cases hmade
    obtain ⟨rfl, hleft⟩ := hdecodes depth fuel rest hrest found behind hfound
    exact ⟨rfl, hleft⟩

theorem decodes_string (text : String) : Decodes Format.string (.string text) text := by
  intro depth fuel rest hrest read left hread
  have htext : readString (bytesOf (stringOnto text rest)).tail = .ok (read, left) := hread
  rw [readString_stringOnto] at htext
  cases htext
  exact ⟨rfl, rfl, Nat.zero_le _⟩

/-- A number that was read, if it lies in the range. -/
def checkRange (expected : String) (low high : Int) : Result Number → Result Int
  | .error failure => .error failure
  | .ok (found, rest) =>
    match found.inRange expected low high Binary64.compact with
    | .ok value => .ok (value, rest)
    | .error mismatch => .error (.mismatchAt mismatch rest.length)

theorem checkRange_eq_ok {expected : String} {low high value : Int} {result : Result Number}
    {left : List UInt8} (hresult : checkRange expected low high result = .ok (value, left)) :
    ∃ number, result = .ok (number, left) ∧
      number.inRange expected low high Binary64.compact = .ok value := by
  cases result with
  | error failure => cases hresult
  | ok found =>
      obtain ⟨number, rest⟩ := found
      rw [checkRange] at hresult
      cases hrange : number.inRange expected low high Binary64.compact with
      | error mismatch =>
          rw [hrange] at hresult
          cases hresult
      | ok value =>
          rw [hrange] at hresult
          cases hresult
          exact ⟨number, rfl, hrange⟩

/-- An integer is a number of the right range. -/
theorem readInteger_of_signed {expected : String} {low high value : Int} {b : UInt8}
    {tail left : List UInt8} (hstart : b = minus ∨ isDigit b = true)
    (hread : readInteger expected low high (b :: tail) = .ok (value, left)) :
    ∃ number, readSigned (b :: tail) = .ok (number, left) ∧
      number.inRange expected low high Binary64.compact = .ok value := by
  rcases hstart with rfl | hdigit
  · exact checkRange_eq_ok hread
  · have hminus : b ≠ minus := by
      rintro rfl
      cases hdigit
    simp only [readInteger, skipBlanks_of_canBegin (canBegin_of_digit hdigit), if_neg hminus,
      hdigit, if_true] at hread
    rw [readSigned, if_neg hminus]
    exact checkRange_eq_ok hread

/-- An integer is itself, if it is accepted. -/
theorem decodes_integer (expected : String) (low high value : Int) :
    Decodes (Format.integer expected low high) (.int value) value := by
  intro depth fuel rest hrest read left hread
  obtain ⟨b, tail, hbytes, hstart, hlexes⟩ := (isSignedNumeral_toString value).lexes
  have hinput : bytesOf ((Json.int value).onto rest) = b :: tail ++ bytesOf rest := by
    change bytesOf ((toString value).toList ++ rest) = _
    rw [bytesOf_append, hbytes]
  change readInteger expected low high (bytesOf ((Json.int value).onto rest)) = _ at hread
  rw [hinput] at hread
  obtain ⟨number, hnumber, hrange⟩ := readInteger_of_signed hstart hread
  obtain ⟨rfl, halone⟩ := hlexes.of_ok hrest hnumber
  have hreread : (Number.int value).reread = number := by
    have hprint : (Number.int value).print = toString value := rfl
    rw [Number.reread, hprint, hbytes, halone]
  cases number with
  | int found =>
      simp only [Number.inRange] at hrange
      split at hrange
      · cases hrange
        exact ⟨Number.eq_of_reread hreread, rfl, Nat.zero_le _⟩
      · cases hrange
  | float found => cases hrange

/-! ## Records -/

section Records

variable {fields : List (Field TextDecoder Record)}

/-- Each member changes the record through its field. -/
inductive Fills (fields : List (Field TextDecoder Record)) :
    List (String × Json) → Record → Record → Prop
  | nil (record : Record) : Fills fields [] record record
  | cons {name : String} {value : Json} {members : List (String × Json)}
      {field : Field TextDecoder Record} {change : Record → Record} {record last : Record}
      (hfield : findField fields name = some field) (hvalue : Decodes field.update value change)
      (hmembers : Fills fields members (change record) last) :
      Fills fields ((name, value) :: members) record last

theorem readFields_of_fills {members : List (String × Json)} {record last : Record}
    (hfills : Fills fields members record last) {closed first : Bool} {depth loops fuel : Nat}
    {seen names : List String} {read : Record} {rest : List Char} {left : List UInt8}
    (hread : readFields closed fields depth loops fuel first seen record
      (bytesOf (membersFrom first members ('\x7d' :: rest))) = .ok ((names, read), left)) :
    read = last ∧ left = bytesOf ('\x7d' :: rest) ∧ nestingMembers members ≤ depth := by
  induction hfills generalizing first seen fuel with
  | nil record =>
      cases fuel with
      | zero => cases hread
      | succ fuel => cases first <;> cases hread <;> exact ⟨rfl, rfl, Nat.zero_le _⟩
  | @cons name value members field change record last hfield hvalue hmembers ih =>
      cases fuel with
      | zero => cases hread
      | succ fuel =>
          rw [readFields, nextMember_cons] at hread
          simp only [readString_stringOnto, hfield] at hread
          split at hread
          · cases hread
          · split at hread
            · cases hread
            · next colon hcolon =>
                cases hcolon
                split at hread
                · cases hread
                · next found behind hfound =>
                    obtain ⟨rfl, rfl, hfirst⟩ := hvalue depth loops _
                      (ends_membersFrom members rest) found behind hfound
                    obtain ⟨hlast, hleft, hmore⟩ := ih hread
                    exact ⟨hlast, hleft, Nat.max_le.mpr ⟨hfirst, hmore⟩⟩

/-- A record is what the members of its object make of its defaults. -/
theorem decodes_record {name : String} {closed : Bool} {members : List (String × Json)}
    {defaults last : Record} (hfills : Fills fields members defaults last) :
    Decodes (Format.record name closed fields defaults) (.object members) last := by
  intro depth fuel rest hrest read left hread
  have hread : readRecord name closed fields defaults depth fuel
      (bytesOf ((Json.object members).onto rest)) = .ok (read, left) := hread
  cases depth with
  | zero =>
      rw [readRecord] at hread
      cases hread
  | succ depth =>
      have hopen : skipBlanks (bytesOf ((Json.object members).onto rest)) =
          openBrace :: bytesOf (membersFrom true members ('\x7d' :: rest)) := rfl
      have hother : ¬openBrace = openBracket := by decide
      simp only [readRecord, hopen, if_neg hother, if_true] at hread
      cases hfields : readFields closed fields depth fuel fuel true [] defaults
          (bytesOf (membersFrom true members ('\x7d' :: rest))) with
      | error failure =>
          rw [hfields] at hread
          cases hread
      | ok result =>
          obtain ⟨⟨seen, record⟩, behind⟩ := result
          obtain ⟨rfl, rfl, hdepth⟩ := readFields_of_fills hfills hfields
          rw [hfields] at hread
          dsimp only at hread
          split at hread
          · cases hread
          · cases hread
            exact ⟨rfl, rfl, Nat.succ_le_succ hdepth⟩

end Records

end DebugBridge.TextDecoder
