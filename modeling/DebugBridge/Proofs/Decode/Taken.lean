import DebugBridge.Proofs.Decode.Written
import DebugBridge.Proofs.Json.RoundTrip

/-!
# Decoding values that are sent

A value that is sent as a text is taken by the decoder that is made for it, if its brackets are no
deeper than the decoder may go: scalars of the right type as themselves, any value as the value
reread, and an object as the record that its members make, if these are fields of the record, each
given once, and no required one is missing.
-/

namespace DebugBridge.TextDecoder

open Json Text

variable {α β Record : Type}

/-- The value's text is decoded as this, wherever it stands. -/
def Takes (decoder : TextDecoder α) (value : Json) (result : α) : Prop :=
  ∀ depth fuel rest, Ends (bytesOf rest) → value.nesting ≤ depth →
    (bytesOf (value.onto rest)).length < fuel →
      decoder.run depth fuel (bytesOf (value.onto rest)) = .ok (result, bytesOf rest)

theorem Takes.decode {decoder : TextDecoder α} {value : Json} {result : α}
    (htakes : Takes decoder value result) (hdepth : value.nesting ≤ nestingLimit) :
    decoder.decode value.bytes = .ok result := by
  have hbytes : value.bytes = bytesOf (value.onto []) := encodeUtf8_ofList value.chars
  rw [hbytes, TextDecoder.decode, readWhole, htakes _ _ [] ends_nil hdepth (Nat.lt_succ_self _)]
  rfl

/-! ## Values -/

section Values

variable {decoder : TextDecoder α} {value : Json} {result : α}

theorem takes_map (change : α → β) (htakes : Takes decoder value result) :
    Takes (Format.map change decoder) value (change result) := by
  intro depth fuel rest hrest hdepth hfuel
  change (decoder.run depth fuel _).map (fun r => (change r.1, r.2)) = _
  rw [htakes depth fuel rest hrest hdepth hfuel]
  rfl

theorem takes_refine {check : α → Except String β} {outer : β}
    (htakes : Takes decoder value result) (hcheck : check result = .ok outer) :
    Takes (Format.refine check decoder) value outer := by
  intro depth fuel rest hrest hdepth hfuel
  simp only [Format.refine, htakes depth fuel rest hrest hdepth hfuel, hcheck]

/-- Only null is nothing. -/
theorem takes_optional (htakes : Takes decoder value result) (hvalue : value ≠ .null) :
    Takes (Format.optional decoder) value (some result) := by
  intro depth fuel rest hrest hdepth hfuel
  obtain ⟨b, tail, hbytes, hbegins, hother⟩ := begins_onto value rest
  have hrun := htakes depth fuel rest hrest hdepth hfuel
  change readOptional decoder.run depth fuel (bytesOf (value.onto rest)) = _
  rw [readOptional, hbytes, skipBlanks_of_canBegin hbegins]
  split
  · next hsame => exact absurd (List.cons.inj hsame).1 (hother hvalue)
  · rw [← hbytes, hrun]
    rfl

end Values

theorem takes_anything {value : Json} (hheld : value.Held) :
    Takes JsonFormat.anything value value.reread :=
  fun depth fuel rest hrest hdepth hfuel =>
    readValue_held value rest hrest hheld depth fuel hdepth hfuel

theorem takes_string (text : String) : Takes Format.string (.string text) text :=
  fun _ _ rest _ _ _ => readString_stringOnto text rest

/-- An integer of the range is taken as itself. -/
theorem takes_integer (expected : String) {low high value : Int} (hlow : -0x8000000000000000 ≤ low)
    (hhigh : high < 0x10000000000000000) (hrange : low ≤ value ∧ value ≤ high) :
    Takes (Format.integer expected low high) (.int value) value := by
  intro depth fuel rest hrest _ _
  obtain ⟨b, tail, hbytes, hstart, hlexes⟩ := (isSignedNumeral_toString value).lexes
  have hinput : bytesOf ((Json.int value).onto rest) = b :: tail ++ bytesOf rest := by
    change bytesOf ((toString value).toList ++ rest) = _
    rw [bytesOf_append, hbytes]
  have hfits : -0x8000000000000000 ≤ value ∧ value < 0x10000000000000000 := by omega
  have halone := readSigned_decimal hfits
  rw [hbytes] at halone
  have hbegin : skipBlanks (b :: (tail ++ bytesOf rest)) = b :: (tail ++ bytesOf rest) := by
    refine skipBlanks_of_canBegin ?_ _
    rcases hstart with rfl | hdigit
    · rfl
    · exact canBegin_of_digit hdigit
  change readInteger expected low high (bytesOf ((Json.int value).onto rest)) = _
  rw [hinput, List.cons_append, readInteger_eq_checkRange hbegin hstart, ← List.cons_append,
    hlexes.ok_of_alone hrest halone]
  simp only [checkRange, Number.inRange, if_pos hrange]

/-! ## Records -/

section Records

variable {fields : List (Field TextDecoder Record)}

/-- The members are fields, each given once, and change the record. -/
inductive FillsOnce (fields : List (Field TextDecoder Record)) :
    List String → List (String × Json) → Record → Record → Prop
  | nil (seen : List String) (record : Record) : FillsOnce fields seen [] record record
  | cons {seen : List String} {name : String} {value : Json} {members : List (String × Json)}
      {field : Field TextDecoder Record} {change : Record → Record} {record last : Record}
      (hfield : findField fields name = some field) (hnew : seen.contains name = false)
      (hvalue : Takes field.update value change)
      (hmembers : FillsOnce fields (name :: seen) members (change record) last) :
      FillsOnce fields seen ((name, value) :: members) record last

theorem readFields_of_fillsOnce {members : List (String × Json)} {seen : List String}
    {record last : Record} (hfills : FillsOnce fields seen members record last)
    (closed first : Bool) (depth fuel loops : Nat) (rest : List Char)
    (hdepth : nestingMembers members ≤ depth)
    (hfuel : (bytesOf (membersFrom first members ('\x7d' :: rest))).length < fuel)
    (hloops : (bytesOf (membersFrom first members ('\x7d' :: rest))).length < loops) :
    readFields closed fields depth fuel loops first seen record
        (bytesOf (membersFrom first members ('\x7d' :: rest))) =
      .ok (((members.map (·.1)).reverse ++ seen, last), bytesOf ('\x7d' :: rest)) := by
  induction hfills generalizing first loops with
  | nil seen record =>
      cases loops with
      | zero => exact absurd hloops (Nat.not_lt_zero _)
      | succ loops => cases first <;> rfl
  | @cons seen name value members field change record last hfield hnew hvalue hmembers ih =>
      cases loops with
      | zero => exact absurd hloops (Nat.not_lt_zero _)
      | succ loops =>
          have hless := length_onto_lt_membersFrom first name value members ('\x7d' :: rest)
          have hbehind := length_lt_onto value (membersFrom false members ('\x7d' :: rest))
          have hcolon : readColon (bytesOf (':' ::
              value.onto (membersFrom false members ('\x7d' :: rest)))) =
              .ok ((), bytesOf (value.onto (membersFrom false members ('\x7d' :: rest)))) := rfl
          have hfirst : value.nesting ≤ depth := Nat.le_trans (Nat.le_max_left _ _) hdepth
          have hmore : nestingMembers members ≤ depth := Nat.le_trans (Nat.le_max_right _ _) hdepth
          rw [readFields, nextMember_cons]
          simp only [readString_stringOnto, hfield, hnew, hcolon, Bool.false_eq_true, if_false,
            hvalue depth fuel _ (ends_membersFrom members rest) hfirst (by omega)]
          rw [ih false loops hmore (by omega) (by omega), List.map_cons, List.reverse_cons,
            List.append_assoc, List.singleton_append]

/-- An object is taken as the record that its members make of the defaults. -/
theorem takes_record (name : String) (closed : Bool) {members : List (String × Json)}
    {defaults last : Record} (hfills : FillsOnce fields [] members defaults last)
    (hrequired : missingRequired fields (members.map (·.1)).reverse = none) :
    Takes (Format.record name closed fields defaults) (.object members) last := by
  intro depth fuel rest hrest hdepth hfuel
  change readRecord name closed fields defaults depth fuel
    (bytesOf ((Json.object members).onto rest)) = _
  cases depth with
  | zero => exact absurd hdepth (Nat.not_succ_le_zero _)
  | succ depth =>
      have hopen : skipBlanks (bytesOf ((Json.object members).onto rest)) =
          openBrace :: bytesOf (membersFrom true members ('\x7d' :: rest)) := rfl
      have hother : ¬openBrace = openBracket := by decide
      have hinside : (bytesOf (membersFrom true members ('\x7d' :: rest))).length < fuel :=
        Nat.lt_of_succ_lt hfuel
      simp only [readRecord, hopen, if_neg hother, if_true,
        readFields_of_fillsOnce hfills closed true depth fuel fuel rest
          (Nat.le_of_succ_le_succ hdepth) hinside hinside, List.append_nil, hrequired]
      rfl

end Records

end DebugBridge.TextDecoder
