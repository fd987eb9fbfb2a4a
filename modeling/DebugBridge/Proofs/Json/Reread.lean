import DebugBridge.Json.Read
import DebugBridge.Proofs.Backend.Replies
import DebugBridge.Proofs.Json.Numbers

/-!
# Values read back

The text of a value is read back, wherever it stands, as the value with its numbers read back; the
members of an object are put in order on the way.
-/

namespace DebugBridge.Json

open Text

mutual

/-- What a value is read back as. -/
def reread : Json → Json
  | .number value => .number value.reread
  | .array items => .array (rereadItems items)
  | .object members => ofMembers (rereadMembers members)
  | .null => .null
  | .bool value => .bool value
  | .string value => .string value

def rereadItems : List Json → List Json
  | [] => []
  | item :: items => item.reread :: rereadItems items

def rereadMembers : List (String × Json) → List (String × Json)
  | [] => []
  | (name, value) :: members => (name, value.reread) :: rereadMembers members

end

mutual

/-- How many brackets are open at the deepest place of a value. -/
def nesting : Json → Nat
  | .array items => nestingItems items + 1
  | .object members => nestingMembers members + 1
  | .null => 0
  | .bool _ => 0
  | .number _ => 0
  | .string _ => 0

def nestingItems : List Json → Nat
  | [] => 0
  | item :: items => max item.nesting (nestingItems items)

def nestingMembers : List (String × Json) → Nat
  | [] => 0
  | (_, value) :: members => max value.nesting (nestingMembers members)

end

/-! ## How texts go on -/

/-- The items of a list that has begun or not, and what follows them. -/
def itemsFrom (first : Bool) (items : List Json) (rest : List Char) : List Char :=
  if first || items.isEmpty then itemsOnto items rest else ',' :: itemsOnto items rest

def membersFrom (first : Bool) (members : List (String × Json)) (rest : List Char) : List Char :=
  if first || members.isEmpty then membersOnto members rest else ',' :: membersOnto members rest

theorem itemsOnto_cons (item : Json) (items : List Json) (rest : List Char) :
    itemsOnto (item :: items) rest = item.onto (itemsFrom false items rest) := by
  cases items <;> rfl

theorem membersOnto_cons (name : String) (value : Json) (members : List (String × Json))
    (rest : List Char) :
    membersOnto ((name, value) :: members) rest =
      stringOnto name (':' :: value.onto (membersFrom false members rest)) := by
  cases members <;> rfl

theorem ends_itemsFrom (items : List Json) (rest : List Char) :
    Ends (bytesOf (itemsFrom false items (']' :: rest))) := by
  intro b tail hrest
  cases items with
  | nil =>
      cases hrest
      exact .inr (.inl rfl)
  | cons item items =>
      cases hrest
      exact .inl rfl

theorem ends_membersFrom (members : List (String × Json)) (rest : List Char) :
    Ends (bytesOf (membersFrom false members ('\x7d' :: rest))) := by
  intro b tail hrest
  cases members with
  | nil =>
      cases hrest
      exact .inr (.inr rfl)
  | cons member members =>
      obtain ⟨name, value⟩ := member
      cases hrest
      exact .inl rfl

/-- A value can begin with this byte: it is no blank and does not go on with a list or end one. -/
def canBegin (b : UInt8) : Bool :=
  !isBlank b && b != comma && b != closeBracket && b != closeBrace

theorem canBegin_of_digit {b : UInt8} (hdigit : isDigit b = true) : canBegin b = true := by
  have hne : ∀ c : UInt8, isDigit c = false → b ≠ c := by
    rintro c hc rfl
    rw [hc] at hdigit
    cases hdigit
  simp [canBegin, isBlank, hne 0x20 rfl, hne 0x0a rfl, hne 0x09 rfl, hne 0x0d rfl, hne comma rfl,
    hne closeBracket rfl, hne closeBrace rfl]

theorem skipBlanks_of_canBegin {b : UInt8} (hbegins : canBegin b = true) (tail : List UInt8) :
    skipBlanks (b :: tail) = b :: tail := by
  simp only [canBegin, Bool.and_eq_true, Bool.not_eq_true'] at hbegins
  exact List.dropWhile_cons_of_neg (by simp [hbegins.1.1.1])

theorem Number.begins (number : Number) (rest : List Char) :
    ∃ b tail, bytesOf (number.print.toList ++ rest) = b :: tail ∧ canBegin b = true ∧
      b ≠ 0x6e := by
  rcases number.print_cases with hnumeral | htext | htext | htext
  · obtain ⟨b, tail, hbytes, rfl | hdigit, -⟩ := hnumeral.lexes
    · exact ⟨_, tail ++ bytesOf rest, by rw [bytesOf_append, hbytes]; rfl, by decide⟩
    · refine ⟨b, tail ++ bytesOf rest, ?_, canBegin_of_digit hdigit, ?_⟩
      · rw [bytesOf_append, hbytes]
        rfl
      · rintro rfl
        cases hdigit
  all_goals
    rw [htext]
    exact ⟨_, _, rfl, by decide⟩

/-- The first letter of null begins no other value. -/
theorem begins_onto (value : Json) (rest : List Char) :
    ∃ b tail, bytesOf (value.onto rest) = b :: tail ∧ canBegin b = true ∧
      (value ≠ .null → b ≠ 0x6e) := by
  cases value with
  | null => exact ⟨_, _, rfl, by decide, fun hnull => absurd rfl hnull⟩
  | bool value => cases value <;> exact ⟨_, _, rfl, by decide, fun _ => by decide⟩
  | number value =>
      obtain ⟨b, tail, hbytes, hbegins, hother⟩ := value.begins rest
      exact ⟨b, tail, hbytes, hbegins, fun _ => hother⟩
  | string value => exact ⟨_, _, rfl, by decide, fun _ => by decide⟩
  | array items => exact ⟨_, _, rfl, by decide, fun _ => by decide⟩
  | object members => exact ⟨_, _, rfl, by decide, fun _ => by decide⟩

/-! ## Reading on -/

section Reading

variable {depth fuel : Nat} {left : List UInt8} {read : Json}

theorem readValue_of_signed {b : UInt8} (hstart : b = minus ∨ isDigit b = true)
    (tail : List UInt8) :
    readValue depth fuel (b :: tail) =
      (readSigned (b :: tail)).map fun result => (Json.number result.1, result.2) := by
  rw [readValue]
  rcases hstart with rfl | hdigit
  · rfl
  · have hne : ∀ c : UInt8, isDigit c = false → b ≠ c := by
      rintro c hc rfl
      rw [hc] at hdigit
      cases hdigit
    rw [skipBlanks_of_canBegin (canBegin_of_digit hdigit)]
    simp only [if_neg (hne 0x6e rfl), if_neg (hne 0x74 rfl), if_neg (hne 0x66 rfl),
      if_neg (hne minus rfl), hdigit, if_true, readSigned]

/-- A number is read back from its text. -/
theorem readValue_number {number : Number} {rest : List UInt8} (hrest : Ends rest)
    (hread : readValue depth fuel (bytesOf number.print.toList ++ rest) = .ok (read, left)) :
    read = .number number.reread ∧ left = rest := by
  rcases number.print_cases with hnumeral | htext | htext | htext
  · obtain ⟨b, tail, hbytes, hstart, hlexes⟩ := hnumeral.lexes
    rw [hbytes, List.cons_append, readValue_of_signed hstart, ← List.cons_append] at hread
    obtain ⟨⟨found, behind⟩, hfound, hmade⟩ := map_eq_ok.mp hread
    cases hmade
    obtain ⟨hleft, halone⟩ := hlexes.of_ok hrest hfound
    rw [Number.reread, hbytes, halone]
    exact ⟨rfl, hleft⟩
  all_goals
    rw [htext, readValue] at hread
    cases hread

end Reading

theorem readString_stringOnto (name : String) (rest : List Char) :
    readString (bytesOf (stringOnto name rest)).tail = .ok (name, bytesOf rest) := by
  rw [stringOnto_eq]
  have hbytes : bytesOf ('"' :: (escaped name.toList ++ '"' :: rest)) =
      quoteMark :: (bytesOf (escaped name.toList) ++ quoteMark :: bytesOf rest) := by
    rw [bytesOf_cons, bytesOf_append]
    rfl
  rw [hbytes]
  exact readString_escaped _ name

/-- A list goes on with its next item. -/
theorem nextItem_cons (first : Bool) (item : Json) (items : List Json) (rest : List Char) :
    nextItem first (bytesOf (itemsFrom first (item :: items) rest)) =
      .ok (true, bytesOf (item.onto (itemsFrom false items rest))) := by
  obtain ⟨b, tail, hbytes, hbegins, -⟩ := begins_onto item (itemsFrom false items rest)
  have hskip := skipBlanks_of_canBegin hbegins tail
  have hbracket : b ≠ closeBracket := by
    rintro rfl
    cases hbegins
  cases first with
  | true =>
      have hfirst : bytesOf (itemsFrom true (item :: items) rest) = b :: tail := by
        rw [itemsFrom, Bool.true_or, if_pos rfl, itemsOnto_cons, hbytes]
      simp only [hfirst, nextItem, hskip, hbytes, if_neg hbracket, if_true]
  | false =>
      have hcomma : bytesOf (itemsFrom false (item :: items) rest) =
          comma :: bytesOf (item.onto (itemsFrom false items rest)) := by
        rw [itemsFrom, if_neg (by simp), itemsOnto_cons, bytesOf_cons]
        rfl
      have hopen : ∀ input, skipBlanks (comma :: input) = comma :: input := fun _ => rfl
      have hother : ¬comma = closeBracket := by decide
      simp only [hcomma, nextItem, hopen, if_neg hother, hbytes, hskip, if_neg hbracket,
        Bool.false_eq_true, if_false, if_true]

theorem nextMember_cons (first : Bool) (name : String) (value : Json)
    (members : List (String × Json)) (rest : List Char) :
    nextMember first (bytesOf (membersFrom first ((name, value) :: members) rest)) =
      .ok (true, bytesOf (stringOnto name
        (':' :: value.onto (membersFrom false members rest)))) := by
  cases first with
  | true =>
      rw [membersFrom, Bool.true_or, if_pos rfl, membersOnto_cons]
      rfl
  | false =>
      rw [membersFrom, if_neg (by simp), membersOnto_cons]
      rfl

/-- A list is read item by item. -/
theorem readValue_array (depth fuel : Nat) (items : List Json) (rest : List Char) :
    readValue (depth + 1) fuel (bytesOf ((Json.array items).onto rest)) =
      match readItems (readValue depth fuel) fuel true []
        (bytesOf (itemsFrom true items (']' :: rest))) with
      | .error failure => .error failure
      | .ok (items, rest) => (endList rest).map fun result => (Json.array items, result.2) := by
  rw [readValue]
  rfl

theorem readValue_object (depth fuel : Nat) (members : List (String × Json)) (rest : List Char) :
    readValue (depth + 1) fuel (bytesOf ((Json.object members).onto rest)) =
      match readMembers (readValue depth fuel) fuel true []
        (bytesOf (membersFrom true members ('\x7d' :: rest))) with
      | .error failure => .error failure
      | .ok (members, rest) =>
        (endObject rest).map fun result => (ofMembers members, result.2) := by
  rw [readValue]
  rfl

mutual

/-- Wherever the text of a value stands, it is read as the value reread, and no further, and not if
the reader may not go so deep. -/
theorem readValue_onto (value : Json) (rest : List Char) (hrest : Ends (bytesOf rest))
    (depth fuel : Nat) (read : Json) (left : List UInt8)
    (hread : readValue depth fuel (bytesOf (value.onto rest)) = .ok (read, left)) :
    read = value.reread ∧ left = bytesOf rest ∧ value.nesting ≤ depth := by
  cases value with
  | null =>
      rw [readValue] at hread
      cases hread
      exact ⟨rfl, rfl, Nat.zero_le _⟩
  | bool value =>
      rw [readValue] at hread
      cases value <;> cases hread <;> exact ⟨rfl, rfl, Nat.zero_le _⟩
  | number value =>
      rw [onto, bytesOf_append] at hread
      obtain ⟨hvalue, hleft⟩ := readValue_number hrest hread
      exact ⟨hvalue, hleft, Nat.zero_le _⟩
  | string value =>
      rw [readValue] at hread
      have htext : (readString (bytesOf (stringOnto value rest)).tail).map
          (fun result => (Json.string result.1, result.2)) = .ok (read, left) := hread
      rw [readString_stringOnto] at htext
      cases htext
      exact ⟨rfl, rfl, Nat.zero_le _⟩
  | array items =>
      cases depth with
      | zero =>
          rw [readValue] at hread
          cases hread
      | succ depth =>
          rw [readValue_array] at hread
          split at hread
          · cases hread
          · next found behind hitems =>
              obtain ⟨rfl, rfl, hdepth⟩ := readItems_onto items rest true depth fuel fuel [] found
                behind hitems
              cases hread
              exact ⟨rfl, rfl, Nat.succ_le_succ hdepth⟩
  | object members =>
      cases depth with
      | zero =>
          rw [readValue] at hread
          cases hread
      | succ depth =>
          rw [readValue_object] at hread
          split at hread
          · cases hread
          · next found behind hmembers =>
              obtain ⟨rfl, rfl, hdepth⟩ := readMembers_onto members rest true depth fuel fuel []
                found behind hmembers
              cases hread
              exact ⟨rfl, rfl, Nat.succ_le_succ hdepth⟩
termination_by structural value

theorem readItems_onto (items : List Json) (rest : List Char) (first : Bool)
    (depth fuel loops : Nat) (done read : List Json) (left : List UInt8)
    (hread : readItems (readValue depth fuel) loops first done
      (bytesOf (itemsFrom first items (']' :: rest))) = .ok (read, left)) :
    read = done.reverse ++ rereadItems items ∧ left = bytesOf (']' :: rest) ∧
      nestingItems items ≤ depth := by
  cases loops with
  | zero => cases hread
  | succ loops =>
      rw [readItems] at hread
      cases items with
      | nil =>
          cases first <;> cases hread <;>
            exact ⟨(List.append_nil _).symm, rfl, Nat.zero_le _⟩
      | cons item items =>
          rw [nextItem_cons] at hread
          simp only at hread
          split at hread
          · cases hread
          · next value behind hvalue =>
              obtain ⟨rfl, rfl, hfirst⟩ := readValue_onto item _ (ends_itemsFrom items rest) depth
                fuel value behind hvalue
              obtain ⟨rfl, hleft, hmore⟩ := readItems_onto items rest false depth fuel loops _ read
                left hread
              refine ⟨?_, hleft, Nat.max_le.mpr ⟨hfirst, hmore⟩⟩
              rw [List.reverse_cons, List.append_assoc]
              rfl
termination_by structural items

theorem readMembers_onto (members : List (String × Json)) (rest : List Char) (first : Bool)
    (depth fuel loops : Nat) (done read : List (String × Json)) (left : List UInt8)
    (hread : readMembers (readValue depth fuel) loops first done
      (bytesOf (membersFrom first members ('\x7d' :: rest))) = .ok (read, left)) :
    read = done.reverse ++ rereadMembers members ∧ left = bytesOf ('\x7d' :: rest) ∧
      nestingMembers members ≤ depth := by
  cases loops with
  | zero => cases hread
  | succ loops =>
      rw [readMembers] at hread
      cases members with
      | nil =>
          cases first <;> cases hread <;>
            exact ⟨(List.append_nil _).symm, rfl, Nat.zero_le _⟩
      | cons member members =>
          obtain ⟨name, value⟩ := member
          rw [nextMember_cons] at hread
          simp only [readString_stringOnto] at hread
          split at hread
          · cases hread
          · next colon hcolon =>
              cases hcolon
              split at hread
              · cases hread
              · next found behind hvalue =>
                  obtain ⟨rfl, rfl, hfirst⟩ := readValue_onto value _
                    (ends_membersFrom members rest) depth fuel found behind hvalue
                  obtain ⟨rfl, hleft, hmore⟩ := readMembers_onto members rest false depth fuel loops
                    _ read left hread
                  refine ⟨?_, hleft, Nat.max_le.mpr ⟨hfirst, hmore⟩⟩
                  rw [List.reverse_cons, List.append_assoc]
                  rfl
termination_by structural members

end

/-! ## Values that reading leaves alone -/

/-- A number is its own text's: an integer of 64 bits, or one that its decimal leads back to. -/
def Number.Legible : Number → Prop
  | .int value => -0x8000000000000000 ≤ value ∧ value < 0x10000000000000000
  | .float value => (Number.float value).reread = .float value

theorem Number.reread_of_legible {number : Number} (hlegible : number.Legible) :
    number.reread = number := by
  cases number with
  | int value => exact reread_int hlegible
  | float value => exact hlegible

mutual

/-- All numbers are legible, and the members of all objects are in order. -/
def Legible : Json → Prop
  | .number value => value.Legible
  | .array items => LegibleItems items
  | .object members => Ascending members ∧ LegibleMembers members
  | .null => True
  | .bool _ => True
  | .string _ => True

def LegibleItems : List Json → Prop
  | [] => True
  | item :: items => item.Legible ∧ LegibleItems items

def LegibleMembers : List (String × Json) → Prop
  | [] => True
  | (_, value) :: members => value.Legible ∧ LegibleMembers members

end

mutual

theorem reread_of_legible (value : Json) (hlegible : value.Legible) : value.reread = value := by
  cases value with
  | number value => exact congrArg Json.number (Number.reread_of_legible hlegible)
  | array items => exact congrArg Json.array (rereadItems_of_legible items hlegible)
  | object members =>
      rw [reread, rereadMembers_of_legible members hlegible.2, ofMembers,
        sortMembers_of_ascending hlegible.1]
  | null => rfl
  | bool value => rfl
  | string value => rfl
termination_by structural value

theorem rereadItems_of_legible (items : List Json) (hlegible : LegibleItems items) :
    rereadItems items = items := by
  cases items with
  | nil => rfl
  | cons item items =>
      rw [rereadItems, reread_of_legible item hlegible.1, rereadItems_of_legible items hlegible.2]
termination_by structural items

theorem rereadMembers_of_legible (members : List (String × Json))
    (hlegible : LegibleMembers members) : rereadMembers members = members := by
  cases members with
  | nil => rfl
  | cons member members =>
      obtain ⟨name, value⟩ := member
      rw [rereadMembers, reread_of_legible value hlegible.1,
        rereadMembers_of_legible members hlegible.2]
termination_by structural members

end

end DebugBridge.Json
