import DebugBridge.Proofs.Json.Floats
import DebugBridge.Proofs.Json.Reread

/-!
# Values that survive printing

A value of numbers that can be held is read back from its text, wherever the text stands, as long
as its brackets are no deeper than a reader may go.  What is read is the value with its numbers read
back; it is the value itself when these are integers that fit into 64 bits.
-/

namespace DebugBridge.Json

open Text

/-- A text that is read whole on its own is read so in front of whatever may follow. -/
theorem Lexes.ok_of_alone {α : Type} {reader : List UInt8 → Result α} {text rest : List UInt8}
    {value : α} (hlexes : Lexes reader text) (hrest : Ends rest)
    (halone : reader text = .ok (value, [])) : reader (text ++ rest) = .ok (value, rest) := by
  obtain ⟨read, hreads⟩ := hlexes
  have hsame := hreads [] ends_nil
  rw [List.append_nil, halone] at hsame
  have hwhole := hreads rest hrest
  cases read with
  | none => cases hsame
  | some found =>
      cases hsame
      cases hresult : reader (text ++ rest) with
      | error failure =>
          rw [hresult] at hwhole
          cases hwhole
      | ok result =>
          rw [hresult] at hwhole
          cases hwhole
          rfl

/-! ## Values -/

mutual

/-- All numbers are integers of at most 64 bits, and the members of all objects are in order. -/
def Integral : Json → Prop
  | .number (.int value) => -0x8000000000000000 ≤ value ∧ value < 0x10000000000000000
  | .number (.float _) => False
  | .array items => IntegralItems items
  | .object members => Ascending members ∧ IntegralMembers members
  | .null => True
  | .bool _ => True
  | .string _ => True

def IntegralItems : List Json → Prop
  | [] => True
  | item :: items => item.Integral ∧ IntegralItems items

def IntegralMembers : List (String × Json) → Prop
  | [] => True
  | (_, value) :: members => value.Integral ∧ IntegralMembers members

end

mutual

/-- All numbers can be held. -/
def Held : Json → Prop
  | .number value => value.Held
  | .array items => HeldItems items
  | .object members => HeldMembers members
  | .null => True
  | .bool _ => True
  | .string _ => True

def HeldItems : List Json → Prop
  | [] => True
  | item :: items => item.Held ∧ HeldItems items

def HeldMembers : List (String × Json) → Prop
  | [] => True
  | (_, value) :: members => value.Held ∧ HeldMembers members

end

/-! ## Texts -/

mutual

/-- What stands behind a value goes on behind its text. -/
theorem onto_append (value : Json) (rest more : List Char) :
    value.onto rest ++ more = value.onto (rest ++ more) := by
  cases value with
  | null => rw [onto, onto, List.append_assoc]
  | bool value => cases value <;> rw [onto, onto, List.append_assoc]
  | number value => rw [onto, onto, List.append_assoc]
  | string value =>
      rw [onto, onto, stringOnto_eq, stringOnto_eq, List.cons_append, List.append_assoc,
        List.cons_append]
  | array items =>
      rw [onto, onto, List.cons_append, itemsOnto_append items, List.cons_append]
  | object members =>
      rw [onto, onto, List.cons_append, membersOnto_append members, List.cons_append]
termination_by structural value

theorem itemsOnto_append (items : List Json) (rest more : List Char) :
    itemsOnto items rest ++ more = itemsOnto items (rest ++ more) := by
  cases items with
  | nil => rfl
  | cons item items =>
      rw [itemsOnto_cons, itemsOnto_cons, onto_append item, itemsFrom, itemsFrom]
      split
      · rw [itemsOnto_append items]
      · rw [List.cons_append, itemsOnto_append items]
termination_by structural items

theorem membersOnto_append (members : List (String × Json)) (rest more : List Char) :
    membersOnto members rest ++ more = membersOnto members (rest ++ more) := by
  cases members with
  | nil => rfl
  | cons member members =>
      obtain ⟨name, value⟩ := member
      rw [membersOnto_cons, membersOnto_cons, stringOnto_eq, stringOnto_eq, List.cons_append,
        List.append_assoc, List.cons_append, List.cons_append, onto_append value, membersFrom,
        membersFrom]
      split
      · rw [membersOnto_append members]
      · rw [List.cons_append, membersOnto_append members]
termination_by structural members

end

/-- A value takes some of the text. -/
theorem length_lt_onto (value : Json) (rest : List Char) :
    (bytesOf rest).length < (bytesOf (value.onto rest)).length := by
  obtain ⟨b, tail, hbytes, -⟩ := begins_onto value []
  have htext : bytesOf (value.onto rest) = b :: tail ++ bytesOf rest := by
    rw [← hbytes, ← bytesOf_append, onto_append, List.nil_append]
  rw [htext, List.length_append, List.length_cons]
  omega

theorem length_onto_le_itemsFrom (first : Bool) (item : Json) (items : List Json)
    (rest : List Char) :
    (bytesOf (item.onto (itemsFrom false items rest))).length ≤
      (bytesOf (itemsFrom first (item :: items) rest)).length := by
  rw [← itemsOnto_cons]
  cases first with
  | true => exact Nat.le_refl _
  | false =>
      change _ ≤ (bytesOf (',' :: itemsOnto (item :: items) rest)).length
      rw [bytesOf_cons, List.length_append]
      omega

theorem length_onto_lt_membersFrom (first : Bool) (name : String) (value : Json)
    (members : List (String × Json)) (rest : List Char) :
    (bytesOf (value.onto (membersFrom false members rest))).length <
      (bytesOf (membersFrom first ((name, value) :: members) rest)).length := by
  have hmember : (bytesOf (value.onto (membersFrom false members rest))).length <
      (bytesOf (membersOnto ((name, value) :: members) rest)).length := by
    rw [membersOnto_cons, stringOnto_eq]
    simp only [bytesOf_cons, bytesOf_append, List.length_append, String.length_utf8EncodeChar]
    have hquote := Char.utf8Size_pos '"'
    omega
  cases first with
  | true => exact hmember
  | false =>
      change _ < (bytesOf (',' :: membersOnto ((name, value) :: members) rest)).length
      rw [bytesOf_cons, List.length_append]
      omega

/-! ## Reading -/

theorem readValue_held_number {depth fuel : Nat} {number : Number} {rest : List UInt8}
    (hrest : Ends rest) (hheld : number.Held) :
    readValue depth fuel (bytesOf number.print.toList ++ rest) =
      .ok (.number number.reread, rest) := by
  obtain ⟨read, halone⟩ := hheld.readable
  rcases number.print_cases with hnumeral | htext | htext | htext
  · obtain ⟨b, tail, hbytes, hstart, hlexes⟩ := hnumeral.lexes
    have hreread : number.reread = read := by rw [Number.reread, halone]
    rw [hreread]
    rw [hbytes] at halone ⊢
    rw [List.cons_append, readValue_of_signed hstart, ← List.cons_append,
      hlexes.ok_of_alone hrest halone]
    rfl
  all_goals
    rw [htext] at halone
    cases halone

mutual

/-- A value is read as it was printed, up to the numbers in it, if the reader may go so deep. -/
theorem readValue_held (value : Json) (rest : List Char) (hrest : Ends (bytesOf rest))
    (hheld : value.Held) (depth fuel : Nat) (hdepth : value.nesting ≤ depth)
    (hfuel : (bytesOf (value.onto rest)).length < fuel) :
    readValue depth fuel (bytesOf (value.onto rest)) = .ok (value.reread, bytesOf rest) := by
  cases value with
  | null =>
      rw [readValue]
      rfl
  | bool value =>
      rw [readValue]
      cases value <;> rfl
  | number value =>
      rw [onto, bytesOf_append]
      exact readValue_held_number hrest hheld
  | string value =>
      have htext : readValue depth fuel (bytesOf ((Json.string value).onto rest)) =
          (readString (bytesOf (stringOnto value rest)).tail).map
            fun result => (Json.string result.1, result.2) := by
        rw [readValue]
        rfl
      rw [htext, readString_stringOnto]
      rfl
  | array items =>
      cases depth with
      | zero => exact absurd hdepth (Nat.not_succ_le_zero _)
      | succ depth =>
          have hinside : (bytesOf (itemsFrom true items (']' :: rest))).length < fuel :=
            Nat.lt_of_succ_lt hfuel
          rw [readValue_array, readItems_held items rest true hheld depth fuel fuel []
            (Nat.le_of_succ_le_succ hdepth) hinside hinside]
          rfl
  | object members =>
      cases depth with
      | zero => exact absurd hdepth (Nat.not_succ_le_zero _)
      | succ depth =>
          have hinside : (bytesOf (membersFrom true members ('\x7d' :: rest))).length < fuel :=
            Nat.lt_of_succ_lt hfuel
          rw [readValue_object, readMembers_held members rest true hheld depth fuel fuel []
            (Nat.le_of_succ_le_succ hdepth) hinside hinside]
          rfl
termination_by structural value

theorem readItems_held (items : List Json) (rest : List Char) (first : Bool)
    (hheld : HeldItems items) (depth fuel loops : Nat) (done : List Json)
    (hdepth : nestingItems items ≤ depth)
    (hfuel : (bytesOf (itemsFrom first items (']' :: rest))).length < fuel)
    (hloops : (bytesOf (itemsFrom first items (']' :: rest))).length < loops) :
    readItems (readValue depth fuel) loops first done
      (bytesOf (itemsFrom first items (']' :: rest))) =
        .ok (done.reverse ++ rereadItems items, bytesOf (']' :: rest)) := by
  cases loops with
  | zero => exact absurd hloops (Nat.not_lt_zero _)
  | succ loops =>
      rw [readItems]
      cases items with
      | nil =>
          rw [rereadItems, List.append_nil]
          cases first <;> rfl
      | cons item items =>
          have hitem := length_onto_le_itemsFrom first item items (']' :: rest)
          have hbehind := length_lt_onto item (itemsFrom false items (']' :: rest))
          rw [nextItem_cons]
          simp only [readValue_held item _ (ends_itemsFrom items rest) hheld.1 depth fuel
            (Nat.le_trans (Nat.le_max_left _ _) hdepth) (by omega)]
          rw [readItems_held items rest false hheld.2 depth fuel loops _
            (Nat.le_trans (Nat.le_max_right _ _) hdepth) (by omega) (by omega),
            List.reverse_cons, List.append_assoc, List.singleton_append, rereadItems]
termination_by structural items

theorem readMembers_held (members : List (String × Json)) (rest : List Char) (first : Bool)
    (hheld : HeldMembers members) (depth fuel loops : Nat)
    (done : List (String × Json)) (hdepth : nestingMembers members ≤ depth)
    (hfuel : (bytesOf (membersFrom first members ('\x7d' :: rest))).length < fuel)
    (hloops : (bytesOf (membersFrom first members ('\x7d' :: rest))).length < loops) :
    readMembers (readValue depth fuel) loops first done
      (bytesOf (membersFrom first members ('\x7d' :: rest))) =
        .ok (done.reverse ++ rereadMembers members, bytesOf ('\x7d' :: rest)) := by
  cases loops with
  | zero => exact absurd hloops (Nat.not_lt_zero _)
  | succ loops =>
      rw [readMembers]
      cases members with
      | nil =>
          rw [rereadMembers, List.append_nil]
          cases first <;> rfl
      | cons member members =>
          obtain ⟨name, value⟩ := member
          have hvalue := length_onto_lt_membersFrom first name value members ('\x7d' :: rest)
          have hbehind := length_lt_onto value (membersFrom false members ('\x7d' :: rest))
          have hcolon : readColon (bytesOf (':' ::
              value.onto (membersFrom false members ('\x7d' :: rest)))) =
              .ok ((), bytesOf (value.onto (membersFrom false members ('\x7d' :: rest)))) := rfl
          rw [nextMember_cons]
          simp only [readString_stringOnto, hcolon,
            readValue_held value _ (ends_membersFrom members rest) hheld.1 depth fuel
              (Nat.le_trans (Nat.le_max_left _ _) hdepth) (by omega)]
          rw [readMembers_held members rest false hheld.2 depth fuel loops _
            (Nat.le_trans (Nat.le_max_right _ _) hdepth) (by omega) (by omega),
            List.reverse_cons, List.append_assoc, List.singleton_append, rereadMembers]
termination_by structural members

end

/-- The text of a value is read as the value reread, if its brackets are no deeper than a text's
may be. -/
theorem parse_bytes_of_held {value : Json} (hheld : value.Held)
    (hdepth : value.nesting ≤ nestingLimit) : parse value.bytes = .ok value.reread := by
  have hbytes : value.bytes = bytesOf (value.onto []) := encodeUtf8_ofList value.chars
  rw [hbytes, parse, readWhole, readValue_held value [] ends_nil hheld _ _ hdepth
    (Nat.lt_succ_self _)]
  rfl

/-! ## Values of integers -/

mutual

theorem held_of_integral (value : Json) (hintegral : value.Integral) : value.Held := by
  cases value with
  | number value =>
      cases value with
      | int value => exact hintegral
      | float value => exact hintegral.elim
  | array items => exact heldItems_of_integral items hintegral
  | object members => exact heldMembers_of_integral members hintegral.2
  | null => trivial
  | bool value => trivial
  | string value => trivial
termination_by structural value

theorem heldItems_of_integral (items : List Json) (hintegral : IntegralItems items) :
    HeldItems items := by
  cases items with
  | nil => trivial
  | cons item items =>
      exact ⟨held_of_integral item hintegral.1, heldItems_of_integral items hintegral.2⟩
termination_by structural items

theorem heldMembers_of_integral (members : List (String × Json))
    (hintegral : IntegralMembers members) : HeldMembers members := by
  cases members with
  | nil => trivial
  | cons member members =>
      obtain ⟨name, value⟩ := member
      exact ⟨held_of_integral value hintegral.1, heldMembers_of_integral members hintegral.2⟩
termination_by structural members

end

mutual

theorem legible_of_integral (value : Json) (hintegral : value.Integral) : value.Legible := by
  cases value with
  | number value =>
      cases value with
      | int value => exact hintegral
      | float value => exact hintegral.elim
  | array items => exact legibleItems_of_integral items hintegral
  | object members => exact ⟨hintegral.1, legibleMembers_of_integral members hintegral.2⟩
  | null => trivial
  | bool value => trivial
  | string value => trivial
termination_by structural value

theorem legibleItems_of_integral (items : List Json) (hintegral : IntegralItems items) :
    LegibleItems items := by
  cases items with
  | nil => trivial
  | cons item items =>
      exact ⟨legible_of_integral item hintegral.1, legibleItems_of_integral items hintegral.2⟩
termination_by structural items

theorem legibleMembers_of_integral (members : List (String × Json))
    (hintegral : IntegralMembers members) : LegibleMembers members := by
  cases members with
  | nil => trivial
  | cons member members =>
      obtain ⟨name, value⟩ := member
      exact ⟨legible_of_integral value hintegral.1, legibleMembers_of_integral members hintegral.2⟩
termination_by structural members

end

/-- A value of integers survives printing, if its brackets are no deeper than a text's may be. -/
theorem parse_bytes {value : Json} (hintegral : value.Integral)
    (hdepth : value.nesting ≤ nestingLimit) : parse value.bytes = .ok value := by
  rw [parse_bytes_of_held (held_of_integral value hintegral) hdepth,
    reread_of_legible value (legible_of_integral value hintegral)]

end DebugBridge.Json
