import DebugBridge.Proofs.Json.Numerals
import DebugBridge.Proofs.Json.RoundTrip

/-!
# Values as they are written

A text has more to tell than the value that is parsed from it: how a number is spelled, and every
member of an object, in the order in which they stand and under one name as often as it is given.
-/

namespace DebugBridge.Json

/-- A value as a text has it. -/
inductive Written
  | null
  | bool (value : Bool)
  | number (numeral : Numeral)
  | string (value : String)
  | array (items : List Written)
  | object (members : List (String × Written))

namespace Written

mutual

/-- The value that is meant; of the members under one name the last one counts. -/
def value : Written → Json
  | .null => .null
  | .bool value => .bool value
  | .number numeral => .number numeral.value
  | .string value => .string value
  | .array items => .array (valueItems items)
  | .object members => ofMembers (valueMembers members)

def valueItems : List Written → List Json
  | [] => []
  | item :: items => item.value :: valueItems items

def valueMembers : List (String × Written) → List (String × Json)
  | [] => []
  | (name, written) :: members => (name, written.value) :: valueMembers members

end

theorem valueItems_eq (items : List Written) : valueItems items = items.map value := by
  induction items with
  | nil => rfl
  | cons item items ih => rw [valueItems, ih, List.map_cons]

theorem valueMembers_eq (members : List (String × Written)) :
    valueMembers members = members.map fun member => (member.1, member.2.value) := by
  induction members with
  | nil => rfl
  | cons member members ih =>
      obtain ⟨name, written⟩ := member
      rw [valueMembers, ih, List.map_cons]

/-- The integer is written there, as nothing but its digits. -/
def IsInteger (written : Written) (value : Int) : Prop :=
  ∃ numeral : Numeral, written = .number numeral ∧ numeral.spelling = decimal value

@[simp]
theorem value_array (items : List Written) : (array items).value = .array (items.map value) := by
  rw [value, valueItems_eq]

@[simp]
theorem value_object (members : List (String × Written)) :
    (object members).value =
      ofMembers (members.map fun member => (member.1, member.2.value)) := by
  rw [value, valueMembers_eq]

end Written

/-! ## Reading -/

/-- Reads a value as it is written. -/
def readWritten : Reader Written
  | depth, fuel, input =>
    match skipBlanks input with
    | [] => .error (.brokenAt .eofValue 0)
    | b :: rest =>
      if b = 0x6e then (readIdent afterN rest).map fun r => (Written.null, r.2)
      else if b = 0x74 then (readIdent afterT rest).map fun r => (Written.bool true, r.2)
      else if b = 0x66 then (readIdent afterF rest).map fun r => (Written.bool false, r.2)
      else if b = minus || isDigit b then
        (readNumeral (b :: rest)).map fun r => (Written.number r.1, r.2)
      else if b = quoteMark then (readString rest).map fun r => (Written.string r.1, r.2)
      else if b = openBracket then
        match depth with
        | 0 => .error (.onNext .recursionLimit (b :: rest))
        | depth + 1 =>
          match readItems (readWritten depth fuel) fuel true [] rest with
          | .error failure => .error failure
          | .ok (items, rest) => (endList rest).map fun r => (Written.array items, r.2)
      else if b = openBrace then
        match depth with
        | 0 => .error (.onNext .recursionLimit (b :: rest))
        | depth + 1 =>
          match readMembers (readWritten depth fuel) fuel true [] rest with
          | .error failure => .error failure
          | .ok (members, rest) => (endObject rest).map fun r => (Written.object members, r.2)
      else .error (.onNext .expectedValue (b :: rest))
termination_by structural depth => depth

/-- A text as it is written. -/
def writing (text : List UInt8) : Except Failure Written := readWhole readWritten text

section Mapping

variable {α β : Type} (change : α → β)

/-- What is read, changed. -/
def mapResult (result : Result α) : Result β := result.map fun read => (change read.1, read.2)

theorem readItems_map (item : List UInt8 → Result α) (fuel : Nat) (first : Bool)
    (done : List α) (input : List UInt8) :
    readItems (fun input => mapResult change (item input)) fuel first (done.map change) input =
      mapResult (List.map change) (readItems item fuel first done input) := by
  induction fuel generalizing first done input with
  | zero => rfl
  | succ fuel ih =>
      rw [readItems, readItems]
      split
      · rfl
      · rw [← List.map_reverse]
        rfl
      · next rest _ =>
          cases item rest with
          | error failure => rfl
          | ok read => exact ih false (read.1 :: done) read.2

theorem readMembers_map (value : List UInt8 → Result α) (fuel : Nat) (first : Bool)
    (done : List (String × α)) (input : List UInt8) :
    readMembers (fun input => mapResult change (value input)) fuel first
        (done.map fun member => (member.1, change member.2)) input =
      mapResult (List.map fun member => (member.1, change member.2))
        (readMembers value fuel first done input) := by
  induction fuel generalizing first done input with
  | zero => rfl
  | succ fuel ih =>
      rw [readMembers, readMembers]
      split
      · rfl
      · rw [← List.map_reverse]
        rfl
      · split
        · rfl
        · next name rest _ =>
            split
            · rfl
            · next rest _ =>
                cases value rest with
                | error failure => rfl
                | ok read => exact ih false ((name, read.1) :: done) read.2

end Mapping

section Values

variable {depth fuel : Nat} {input : List UInt8}

/-- One bracket deeper, what is read is what is written. -/
theorem readValue_eq_of_inner
    (hinner : ∀ inner, depth = inner + 1 → ∀ input,
      readValue inner fuel input = mapResult Written.value (readWritten inner fuel input)) :
    readValue depth fuel input = mapResult Written.value (readWritten depth fuel input) := by
  rw [readValue, readWritten]
  cases skipBlanks input with
  | nil => rfl
  | cons b rest =>
      -- Both readers branch on the same byte; only brackets lead deeper.
      simp only [apply_ite (mapResult Written.value)]
      refine if_congr Iff.rfl (by cases readIdent afterN rest <;> rfl) ?_
      refine if_congr Iff.rfl (by cases readIdent afterT rest <;> rfl) ?_
      refine if_congr Iff.rfl (by cases readIdent afterF rest <;> rfl) ?_
      by_cases hminus : b = minus
      · have hsigned : readSigned (b :: rest) = readNumber false rest := if_pos hminus
        rw [if_pos hminus, if_pos (by simp [hminus]), ← hsigned, readSigned_eq_readNumeral]
        cases readNumeral (b :: rest) <;> rfl
      have hunsigned : readSigned (b :: rest) = readNumber true (b :: rest) := if_neg hminus
      rw [if_neg hminus]
      refine if_congr (by simp [hminus]) ?_ ?_
      · rw [← hunsigned, readSigned_eq_readNumeral]
        cases readNumeral (b :: rest) <;> rfl
      refine if_congr Iff.rfl (by cases readString rest <;> rfl) ?_
      refine if_congr Iff.rfl ?_ ?_
      · cases depth with
        | zero => rfl
        | succ inner =>
            have hitems := readItems_map Written.value (readWritten inner fuel) fuel true [] rest
            simp only [funext (hinner inner rfl)]
            rw [List.map_nil] at hitems
            rw [hitems]
            cases readItems (readWritten inner fuel) fuel true [] rest with
            | error failure => rfl
            | ok read =>
                simp only [mapResult, Except.map]
                cases endList read.2 with
                | error failure => rfl
                | ok behind =>
                    exact congrArg (fun value => Except.ok (value, behind.2))
                      (Written.value_array read.1).symm
      refine if_congr Iff.rfl ?_ rfl
      cases depth with
      | zero => rfl
      | succ inner =>
          have hmembers := readMembers_map Written.value (readWritten inner fuel) fuel true [] rest
          simp only [funext (hinner inner rfl)]
          rw [List.map_nil] at hmembers
          rw [hmembers]
          cases readMembers (readWritten inner fuel) fuel true [] rest with
          | error failure => rfl
          | ok read =>
              simp only [mapResult, Except.map]
              cases endObject read.2 with
              | error failure => rfl
              | ok behind =>
                  exact congrArg (fun value => Except.ok (value, behind.2))
                      (Written.value_object read.1).symm

/-- The value that is read is the one that is written. -/
theorem readValue_eq_readWritten (depth fuel : Nat) (input : List UInt8) :
    readValue depth fuel input = mapResult Written.value (readWritten depth fuel input) := by
  induction depth generalizing input with
  | zero => exact readValue_eq_of_inner fun inner hinner => by cases hinner
  | succ depth ih =>
      refine readValue_eq_of_inner fun inner hinner input => ?_
      cases hinner
      exact ih input

/-- A text is parsed as the value that is written there. -/
theorem parse_eq_writing (text : List UInt8) : parse text = (writing text).map Written.value := by
  rw [parse, writing, readWhole, readWhole, readValue_eq_readWritten]
  cases readWritten nestingLimit (text.length + 1) text with
  | error failure => rfl
  | ok read =>
      simp only [mapResult, Except.map]
      cases skipBlanks read.2 <;> rfl

end Values

/-! ## Where values stand -/

section Lists

variable {α : Type} {reader : List UInt8 → Result α} {loops : Nat} {first : Bool}
  {input left : List UInt8}

/-- How the items of a list stand in a text, up to its end. -/
inductive ReadsItems (reader : List UInt8 → Result α) :
    Nat → Bool → List UInt8 → List α → List UInt8 → Prop
  | last {loops : Nat} {first : Bool} {input left : List UInt8}
      (hnext : nextItem first input = .ok (false, left)) :
      ReadsItems reader (loops + 1) first input [] left
  | next {loops : Nat} {first : Bool} {input rest behind left : List UInt8} {item : α}
      {items : List α} (hnext : nextItem first input = .ok (true, rest))
      (hitem : reader rest = .ok (item, behind))
      (hmore : ReadsItems reader loops false behind items left) :
      ReadsItems reader (loops + 1) first input (item :: items) left

/-- How the members of an object stand in a text, up to its end. -/
inductive ReadsMembers (reader : List UInt8 → Result α) :
    Nat → Bool → List UInt8 → List (String × α) → List UInt8 → Prop
  | last {loops : Nat} {first : Bool} {input left : List UInt8}
      (hnext : nextMember first input = .ok (false, left)) :
      ReadsMembers reader (loops + 1) first input [] left
  | next {loops : Nat} {first : Bool} {input rest behindName behindColon behind left : List UInt8}
      {name : String} {value : α} {members : List (String × α)}
      (hnext : nextMember first input = .ok (true, rest))
      (hname : readString rest.tail = .ok (name, behindName))
      (hcolon : readColon behindName = .ok ((), behindColon))
      (hvalue : reader behindColon = .ok (value, behind))
      (hmore : ReadsMembers reader loops false behind members left) :
      ReadsMembers reader (loops + 1) first input ((name, value) :: members) left

theorem exists_readsItems {done all : List α}
    (hread : readItems reader loops first done input = .ok (all, left)) :
    ∃ items, all = done.reverse ++ items ∧ ReadsItems reader loops first input items left := by
  induction loops generalizing first done input with
  | zero => cases hread
  | succ loops ih =>
      rw [readItems] at hread
      split at hread
      · cases hread
      · next hnext =>
          cases hread
          exact ⟨[], (List.append_nil _).symm, .last hnext⟩
      · next hnext =>
          split at hread
          · cases hread
          · next item _ hitem =>
              obtain ⟨items, rfl, hmore⟩ := ih hread
              exact ⟨item :: items, by simp, .next hnext hitem hmore⟩

theorem exists_readsMembers {done all : List (String × α)}
    (hread : readMembers reader loops first done input = .ok (all, left)) :
    ∃ members, all = done.reverse ++ members ∧
      ReadsMembers reader loops first input members left := by
  induction loops generalizing first done input with
  | zero => cases hread
  | succ loops ih =>
      rw [readMembers] at hread
      split at hread
      · cases hread
      · next hnext =>
          cases hread
          exact ⟨[], (List.append_nil _).symm, .last hnext⟩
      · next hnext =>
          split at hread
          · cases hread
          · next name _ hname =>
              split at hread
              · cases hread
              · next hcolon =>
                  split at hread
                  · cases hread
                  · next value _ hvalue =>
                      obtain ⟨members, rfl, hmore⟩ := ih hread
                      exact ⟨(name, value) :: members, by simp,
                        .next hnext hname hcolon hvalue hmore⟩

theorem readsItems_of_readItems {items : List α}
    (hread : readItems reader loops first [] input = .ok (items, left)) :
    ReadsItems reader loops first input items left := by
  obtain ⟨_, rfl, hreads⟩ := exists_readsItems hread
  exact hreads

theorem readsMembers_of_readMembers {members : List (String × α)}
    (hread : readMembers reader loops first [] input = .ok (members, left)) :
    ReadsMembers reader loops first input members left := by
  obtain ⟨_, rfl, hreads⟩ := exists_readsMembers hread
  exact hreads

theorem ReadsItems.forall_mem {holds : α → Prop} {items : List α}
    (hreader : ∀ input item left, reader input = .ok (item, left) → holds item)
    (hreads : ReadsItems reader loops first input items left) : ∀ item ∈ items, holds item := by
  induction hreads with
  | last hnext => simp
  | next hnext hitem hmore ih =>
      exact List.forall_mem_cons.mpr ⟨hreader _ _ _ hitem, ih⟩

theorem ReadsMembers.forall_mem {holds : α → Prop} {members : List (String × α)}
    (hreader : ∀ input value left, reader input = .ok (value, left) → holds value)
    (hreads : ReadsMembers reader loops first input members left) :
    ∀ member ∈ members, holds member.2 := by
  induction hreads with
  | last hnext => simp
  | next hnext hname hcolon hvalue hmore ih =>
      exact List.forall_mem_cons.mpr ⟨hreader _ _ _ hvalue, ih⟩

end Lists

section Standing

variable {depth fuel : Nat} {input left : List UInt8} {written : Written}

/-- How a value stands in a text. -/
inductive ReadsAs (depth fuel : Nat) (input : List UInt8) : Written → List UInt8 → Prop
  | null {rest left : List UInt8} (hstart : skipBlanks input = 0x6e :: rest)
      (hread : readIdent afterN rest = .ok ((), left)) : ReadsAs depth fuel input .null left
  | yes {rest left : List UInt8} (hstart : skipBlanks input = 0x74 :: rest)
      (hread : readIdent afterT rest = .ok ((), left)) :
      ReadsAs depth fuel input (.bool true) left
  | no {rest left : List UInt8} (hstart : skipBlanks input = 0x66 :: rest)
      (hread : readIdent afterF rest = .ok ((), left)) :
      ReadsAs depth fuel input (.bool false) left
  | number {b : UInt8} {rest left : List UInt8} {numeral : Numeral}
      (hstart : skipBlanks input = b :: rest) (hsigned : b = minus ∨ isDigit b = true)
      (hread : readNumeral (b :: rest) = .ok (numeral, left)) :
      ReadsAs depth fuel input (.number numeral) left
  | string {rest left : List UInt8} {text : String} (hstart : skipBlanks input = quoteMark :: rest)
      (hread : readString rest = .ok (text, left)) : ReadsAs depth fuel input (.string text) left
  | array {inner : Nat} {rest middle left : List UInt8} {items : List Written}
      (hdepth : depth = inner + 1) (hstart : skipBlanks input = openBracket :: rest)
      (hitems : ReadsItems (readWritten inner fuel) fuel true rest items middle)
      (hend : endList middle = .ok ((), left)) : ReadsAs depth fuel input (.array items) left
  | object {inner : Nat} {rest middle left : List UInt8} {members : List (String × Written)}
      (hdepth : depth = inner + 1) (hstart : skipBlanks input = openBrace :: rest)
      (hmembers : ReadsMembers (readWritten inner fuel) fuel true rest members middle)
      (hend : endObject middle = .ok ((), left)) : ReadsAs depth fuel input (.object members) left

theorem readsAs_of_readWritten (hread : readWritten depth fuel input = .ok (written, left)) :
    ReadsAs depth fuel input written left := by
  rw [readWritten] at hread
  split at hread
  · cases hread
  · next b rest hstart =>
      split at hread
      · next hb =>
          obtain ⟨_, hident, hmade⟩ := map_eq_ok.mp hread
          cases hmade
          exact .null (hb ▸ hstart) hident
      split at hread
      · next hb =>
          obtain ⟨_, hident, hmade⟩ := map_eq_ok.mp hread
          cases hmade
          exact .yes (hb ▸ hstart) hident
      split at hread
      · next hb =>
          obtain ⟨_, hident, hmade⟩ := map_eq_ok.mp hread
          cases hmade
          exact .no (hb ▸ hstart) hident
      split at hread
      · next hsigned =>
          obtain ⟨_, hnumeral, hmade⟩ := map_eq_ok.mp hread
          cases hmade
          exact .number hstart (by simpa using hsigned) hnumeral
      split at hread
      · next hb =>
          obtain ⟨_, htext, hmade⟩ := map_eq_ok.mp hread
          cases hmade
          exact .string (hb ▸ hstart) htext
      split at hread
      · next hb =>
          split at hread
          · cases hread
          · split at hread
            · cases hread
            · next items middle hitems =>
                obtain ⟨_, hend, hmade⟩ := map_eq_ok.mp hread
                cases hmade
                exact .array rfl (hb ▸ hstart) (readsItems_of_readItems hitems) hend
      split at hread
      · next hb =>
          split at hread
          · cases hread
          · split at hread
            · cases hread
            · next members middle hmembers =>
                obtain ⟨_, hend, hmade⟩ := map_eq_ok.mp hread
                cases hmade
                exact .object rfl (hb ▸ hstart) (readsMembers_of_readMembers hmembers) hend
      · cases hread

end Standing

/-! ## How deep values are -/

section Nesting

theorem nestingItems_le_iff {items : List Json} {depth : Nat} :
    nestingItems items ≤ depth ↔ ∀ item ∈ items, item.nesting ≤ depth := by
  induction items with
  | nil => simp [nestingItems]
  | cons item items ih => rw [nestingItems, Nat.max_le, ih, List.forall_mem_cons]

theorem nestingMembers_le_iff {members : List (String × Json)} {depth : Nat} :
    nestingMembers members ≤ depth ↔ ∀ member ∈ members, member.2.nesting ≤ depth := by
  induction members with
  | nil => simp [nestingMembers]
  | cons member members ih =>
      obtain ⟨name, value⟩ := member
      rw [nestingMembers, Nat.max_le, ih, List.forall_mem_cons]

/-- A value has no more brackets open at once than the reader may open. -/
theorem nesting_le_of_readWritten {depth fuel : Nat} {input left : List UInt8} {written : Written}
    (hread : readWritten depth fuel input = .ok (written, left)) :
    written.value.nesting ≤ depth := by
  induction depth generalizing input left written with
  | zero =>
      cases readsAs_of_readWritten hread with
      | array hdepth => cases hdepth
      | object hdepth => cases hdepth
      | _ => exact Nat.zero_le _
  | succ depth ih =>
      cases readsAs_of_readWritten hread with
      | array hdepth hstart hitems hend =>
          cases hdepth
          have hinside := hitems.forall_mem fun _ _ _ => ih
          rw [Written.value_array, nesting]
          refine Nat.succ_le_succ (nestingItems_le_iff.mpr ?_)
          exact List.forall_mem_map.mpr hinside
      | @object _ _ _ _ members hdepth hstart hmembers hend =>
          cases hdepth
          have hinside := hmembers.forall_mem fun _ _ _ => ih
          have hvalues : ∀ member ∈ members.map fun member => (member.1, member.2.value),
              member.2.nesting ≤ depth := List.forall_mem_map.mpr hinside
          rw [Written.value_object, ofMembers, nesting]
          refine Nat.succ_le_succ (nestingMembers_le_iff.mpr fun member hmember => ?_)
          exact hvalues member (mem_sortMembers hmember)
      | _ => exact Nat.zero_le _

theorem nesting_le_of_writing {text : List UInt8} {written : Written}
    (hwriting : writing text = .ok written) : written.value.nesting ≤ nestingLimit := by
  rw [writing, readWhole] at hwriting
  split at hwriting
  · cases hwriting
  · next found rest hread =>
      split at hwriting
      · cases hwriting
        exact nesting_le_of_readWritten hread
      · cases hwriting

/-- A member that counts lies no deeper than the object. -/
theorem nesting_le_of_lastMember {name : String} {members : List (String × Written)}
    {written : Written} (hlast : lastMember name members = some written) :
    written.value.nesting ≤ (Written.object members).value.nesting := by
  have hfound : lookup name (sortMembers (members.map fun member => (member.1, member.2.value))) =
      some written.value := by
    rw [lookup_sortMembers, lastMember_map, hlast]
    rfl
  have hmember := (lookup_eq_some_iff (ascending_sortMembers _)).mp hfound
  rw [Written.value_object, ofMembers, nesting]
  exact Nat.le_succ_of_le (nestingMembers_le_iff.mp (Nat.le_refl _) _ hmember)

end Nesting

/-! ## Numbers as they can be held -/

section Held

theorem heldMembers_iff {members : List (String × Json)} :
    HeldMembers members ↔ ∀ member ∈ members, member.2.Held := by
  induction members with
  | nil => simp [HeldMembers]
  | cons member members ih =>
      obtain ⟨name, value⟩ := member
      rw [HeldMembers, ih, List.forall_mem_cons]

theorem Numeral.held (numeral : Numeral) : numeral.value.Held := by
  obtain ⟨spelling, value, hreads⟩ := numeral
  cases spelling with
  | nil => cases hreads
  | cons b rest =>
      rw [readSigned] at hreads
      split at hreads
      · exact Number.held_of_readNumber hreads
      · exact Number.held_of_readNumber hreads

mutual

theorem Written.held_value (written : Written) : written.value.Held := by
  cases written with
  | null => trivial
  | bool value => trivial
  | string value => trivial
  | number numeral => exact numeral.held
  | array items => exact Written.held_valueItems items
  | object members =>
      have hmembers := heldMembers_iff.mp (Written.held_valueMembers members)
      exact heldMembers_iff.mpr fun member hmember => hmembers member (mem_sortMembers hmember)
termination_by structural written

theorem Written.held_valueItems (items : List Written) : HeldItems (valueItems items) := by
  cases items with
  | nil => trivial
  | cons item items => exact ⟨Written.held_value item, Written.held_valueItems items⟩
termination_by structural items

theorem Written.held_valueMembers (members : List (String × Written)) :
    HeldMembers (valueMembers members) := by
  cases members with
  | nil => trivial
  | cons member members =>
      obtain ⟨name, written⟩ := member
      exact ⟨Written.held_value written, Written.held_valueMembers members⟩
termination_by structural members

end

/-- What is parsed can be held, and is no deeper than a text may be. -/
theorem held_of_parse {text : List UInt8} {value : Json} (hparse : parse text = .ok value) :
    value.Held ∧ value.nesting ≤ nestingLimit := by
  rw [parse_eq_writing] at hparse
  obtain ⟨written, hwriting, rfl⟩ := map_eq_ok.mp hparse
  exact ⟨written.held_value, nesting_le_of_writing hwriting⟩

end Held

/-! ## Integers all over -/

section Floatless

mutual

/-- All numbers are integers. -/
def Floatless : Json → Prop
  | .number (.float _) => False
  | .array items => FloatlessItems items
  | .object members => FloatlessMembers members
  | .number (.int _) => True
  | .null => True
  | .bool _ => True
  | .string _ => True

def FloatlessItems : List Json → Prop
  | [] => True
  | item :: items => item.Floatless ∧ FloatlessItems items

def FloatlessMembers : List (String × Json) → Prop
  | [] => True
  | (_, value) :: members => value.Floatless ∧ FloatlessMembers members

end

theorem floatlessMembers_iff {members : List (String × Json)} :
    FloatlessMembers members ↔ ∀ member ∈ members, member.2.Floatless := by
  induction members with
  | nil => simp [FloatlessMembers]
  | cons member members ih =>
      obtain ⟨name, value⟩ := member
      rw [FloatlessMembers, ih, List.forall_mem_cons]

theorem integralMembers_iff {members : List (String × Json)} :
    IntegralMembers members ↔ ∀ member ∈ members, member.2.Integral := by
  induction members with
  | nil => simp [IntegralMembers]
  | cons member members ih =>
      obtain ⟨name, value⟩ := member
      rw [IntegralMembers, ih, List.forall_mem_cons]

mutual

/-- The integers of a value that is written are small enough, and its members in order. -/
theorem Written.integral_value (written : Written) (hfloatless : written.value.Floatless) :
    written.value.Integral := by
  cases written with
  | null => trivial
  | bool value => trivial
  | string value => trivial
  | number numeral =>
      rw [Written.value] at hfloatless ⊢
      cases hvalue : numeral.value with
      | int value => exact ((numeral.value_eq_int_iff value).mp hvalue).2
      | float value =>
          rw [hvalue] at hfloatless
          exact hfloatless.elim
  | array items =>
      rw [Written.value] at hfloatless ⊢
      exact Written.integral_valueItems items hfloatless
  | object members =>
      rw [Written.value, ofMembers] at hfloatless ⊢
      refine ⟨ascending_sortMembers _, integralMembers_iff.mpr fun member hmember => ?_⟩
      exact Written.integral_valueMembers members member (mem_sortMembers hmember)
        (floatlessMembers_iff.mp hfloatless member hmember)
termination_by structural written

theorem Written.integral_valueItems (items : List Written)
    (hfloatless : FloatlessItems (valueItems items)) : IntegralItems (valueItems items) := by
  cases items with
  | nil => trivial
  | cons item items =>
      exact ⟨Written.integral_value item hfloatless.1,
        Written.integral_valueItems items hfloatless.2⟩
termination_by structural items

theorem Written.integral_valueMembers (members : List (String × Written)) :
    ∀ member ∈ valueMembers members, member.2.Floatless → member.2.Integral := by
  cases members with
  | nil => simp [valueMembers]
  | cons member members =>
      obtain ⟨name, written⟩ := member
      rw [valueMembers, List.forall_mem_cons]
      exact ⟨Written.integral_value written, Written.integral_valueMembers members⟩
termination_by structural members

end

end Floatless

end DebugBridge.Json
