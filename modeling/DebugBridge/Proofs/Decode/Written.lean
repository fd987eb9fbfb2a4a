import DebugBridge.Proofs.Decode.Printed
import DebugBridge.Proofs.Json.Skipping
import Mathlib.Data.List.Forall2

/-!
# Decoding what is written

What a decoder makes of a text, told by the value that is written there: which values it takes, and
as what.  A record is filled member by member; members that no field is called after are skipped.
-/

namespace DebugBridge.TextDecoder

open Json

variable {α β Record : Type}

/-- What a written value is taken as, if it is taken. -/
abbrev Meaning (α : Type) := Written → Option α

/-- The decoder takes a value just if it has a meaning, and reads on behind it. -/
def Means (decoder : TextDecoder α) (meaning : Meaning α) : Prop :=
  ∀ depth fuel input written left, readWritten depth fuel input = .ok (written, left) →
    (decoder.run depth fuel input).toOption = (meaning written).map fun value => (value, left)

namespace Meaning

def map (change : α → β) (meaning : Meaning α) : Meaning β :=
  fun written => (meaning written).map change

def refine (check : α → Except String β) (meaning : Meaning α) : Meaning β :=
  fun written => (meaning written).bind fun value => (check value).toOption

def optional (meaning : Meaning α) : Meaning (Option α)
  | .null => some none
  | written => (meaning written).map some

def anything : Meaning Json := fun written => some written.value

def text : Meaning String
  | .string value => some value
  | _ => none

def integer (low high : Int) : Meaning Int
  | .number numeral =>
    match numeral.value with
    | .int value => if low ≤ value ∧ value ≤ high then some value else none
    | .float _ => none
  | _ => none

end Meaning

/-- Integers mean themselves. -/
theorem Meaning.integer_eq_some_iff {low high : Int} (hlow : -0x8000000000000000 ≤ low)
    (hhigh : high < 0x10000000000000000) {written : Written} {value : Int} :
    Meaning.integer low high written = some value ↔
      written.IsInteger value ∧ low ≤ value ∧ value ≤ high := by
  constructor
  · intro hmeaning
    unfold integer at hmeaning
    split at hmeaning
    · next numeral =>
        split at hmeaning
        · next found hfound =>
            split at hmeaning
            · next hrange =>
                cases hmeaning
                exact ⟨⟨numeral, rfl, ((numeral.value_eq_int_iff _).mp hfound).1⟩, hrange⟩
            · cases hmeaning
        · cases hmeaning
    · cases hmeaning
  · rintro ⟨⟨numeral, rfl, hspelling⟩, hrange⟩
    have hfits : FitsWord value := ⟨by omega, by omega⟩
    have hvalue := (numeral.value_eq_int_iff value).mpr ⟨hspelling, hfits⟩
    simp only [integer, hvalue, if_pos hrange]

/-- A value that need not be given, and that may be null. -/
inductive Optionally (holds : Written → α → Prop) : Option Written → Option α → Prop
  | absent : Optionally holds none none
  | null : Optionally holds (some .null) none
  | given {written : Written} {value : α} (hvalue : holds written value) :
      Optionally holds (some written) (some value)

theorem Meaning.optionally {meaning : Meaning α} {written : Written} {found : Option α}
    (hmeaning : meaning.optional written = some found) :
    Optionally (fun written value => meaning written = some value) (some written) found := by
  cases written with
  | null =>
      cases hmeaning
      exact .null
  | _ =>
      obtain ⟨value, hvalue, rfl⟩ := Option.map_eq_some_iff.mp hmeaning
      exact .given hvalue

theorem Meaning.isSome_optional_iff {meaning : Meaning α} {written : Written} :
    (meaning.optional written).isSome = true ↔
      written = .null ∨ ∃ value, meaning written = some value := by
  cases written <;> simp [optional, Option.isSome_iff_exists]

/-! ## Values -/

section Values

variable {decoder : TextDecoder α} {meaning : Meaning α}

theorem readWritten_skipBlanks (depth fuel : Nat) (input : List UInt8) :
    readWritten depth fuel (skipBlanks input) = readWritten depth fuel input := by
  rw [readWritten, readWritten, skipBlanks_skipBlanks]

/-- Either nobody takes the value or both take it. -/
theorem Means.cases (hmeans : Means decoder meaning) {depth fuel : Nat} {input left : List UInt8}
    {written : Written} (hread : readWritten depth fuel input = .ok (written, left)) :
    (∃ failure, decoder.run depth fuel input = .error failure ∧ meaning written = none) ∨
      ∃ value, decoder.run depth fuel input = .ok (value, left) ∧ meaning written = some value := by
  have hvalue := hmeans depth fuel input written left hread
  cases hrun : decoder.run depth fuel input with
  | error failure =>
      rw [hrun] at hvalue
      exact .inl ⟨failure, rfl, Option.map_eq_none_iff.mp hvalue.symm⟩
  | ok result =>
      rw [hrun] at hvalue
      obtain ⟨value, hmeaning, hresult⟩ := Option.map_eq_some_iff.mp hvalue.symm
      exact .inr ⟨value, by rw [hresult], hmeaning⟩

theorem means_map (change : α → β) (hmeans : Means decoder meaning) :
    Means (Format.map change decoder) (meaning.map change) := by
  intro depth fuel input written left hread
  change ((decoder.run depth fuel input).map fun r => (change r.1, r.2)).toOption = _
  obtain ⟨failure, hrun, hmeaning⟩ | ⟨value, hrun, hmeaning⟩ := hmeans.cases hread
  · rw [hrun, Meaning.map, hmeaning]
    rfl
  · rw [hrun, Meaning.map, hmeaning]
    rfl

theorem means_refine (check : α → Except String β) (hmeans : Means decoder meaning) :
    Means (Format.refine check decoder) (meaning.refine check) := by
  intro depth fuel input written left hread
  simp only [Format.refine]
  obtain ⟨failure, hrun, hmeaning⟩ | ⟨value, hrun, hmeaning⟩ := hmeans.cases hread
  · rw [hrun, Meaning.refine, hmeaning]
    rfl
  · rw [hrun, Meaning.refine, hmeaning, Option.bind_some]
    cases hcheck : check value with
    | error text => simp only [hcheck]; rfl
    | ok outer => simp only [hcheck]; rfl

theorem means_anything : Means JsonFormat.anything Meaning.anything := by
  intro depth fuel input written left hread
  change (readValue depth fuel input).toOption = _
  rw [readValue_eq_readWritten, hread]
  rfl

/-- Only null is nothing. -/
theorem means_optional (hmeans : Means decoder meaning) :
    Means (Format.optional decoder) meaning.optional := by
  intro depth fuel input written left hread
  change (readOptional decoder.run depth fuel input).toOption = _
  have hother : ∀ {b : UInt8} {rest : List UInt8}, skipBlanks input = b :: rest → b ≠ 0x6e →
      written ≠ .null → (readOptional decoder.run depth fuel input).toOption =
        (meaning.optional written).map fun value => (value, left) := by
    intro b rest hstart hb hwritten
    have hoptional : meaning.optional written = (meaning written).map some := by
      cases written <;> first | rfl | exact absurd rfl hwritten
    have hrun : readOptional decoder.run depth fuel input =
        (decoder.run depth fuel (skipBlanks input)).map fun r => (some r.1, r.2) := by
      rw [readOptional]
      split
      · next rest hnull =>
          rw [hstart] at hnull
          exact absurd (List.cons.inj hnull).1 hb
      · rfl
    rw [hrun, hoptional]
    rw [← readWritten_skipBlanks] at hread
    exact means_map some hmeans depth fuel (skipBlanks input) written left hread
  cases readsAs_of_readWritten hread with
  | null hstart hident =>
      rw [readOptional, hstart]
      simp only [hident]
      rfl
  | number hstart hsigned hnumeral =>
      refine hother hstart ?_ (by simp)
      rintro rfl
      rcases hsigned with hminus | hdigit
      · cases hminus
      · cases hdigit
  | yes hstart => exact hother hstart (by decide) (by simp)
  | no hstart => exact hother hstart (by decide) (by simp)
  | string hstart => exact hother hstart (by decide) (by simp)
  | array hdepth hstart => exact hother hstart (by decide) (by simp)
  | object hdepth hstart => exact hother hstart (by decide) (by simp)

theorem means_text (expected : String) :
    Means (Format.text expected : TextDecoder String) Meaning.text := by
  intro depth fuel input written left hread
  change (readText expected input).toOption = _
  cases readsAs_of_readWritten hread with
  | @string rest _ text hstart htext =>
      have hquoted : readText expected input = readString rest := by
        rw [readText, hstart]
        rfl
      rw [hquoted, htext]
      rfl
  | number hstart hsigned hnumeral =>
      rw [readText]
      split
      · next rest hquote =>
          rw [hstart] at hquote
          obtain ⟨rfl, -⟩ := List.cons.inj hquote
          rcases hsigned with hminus | hdigit
          · cases hminus
          · cases hdigit
      · rfl
  | null hstart => rw [readText, hstart]; rfl
  | yes hstart => rw [readText, hstart]; rfl
  | no hstart => rw [readText, hstart]; rfl
  | array hdepth hstart => rw [readText, hstart]; rfl
  | object hdepth hstart => rw [readText, hstart]; rfl

theorem readInteger_eq_checkRange {expected : String} {low high : Int} {input rest : List UInt8}
    {b : UInt8} (hstart : skipBlanks input = b :: rest) (hsigned : b = minus ∨ isDigit b = true) :
    readInteger expected low high input =
      checkRange expected low high (readSigned (b :: rest)) := by
  rw [readInteger, hstart]
  by_cases hminus : b = minus
  · rw [readSigned, if_pos hminus]
    exact if_pos hminus
  · have hdigit := hsigned.resolve_left hminus
    rw [readSigned, if_neg hminus]
    exact (if_neg hminus).trans (if_pos hdigit)

theorem means_integer (expected : String) (low high : Int) :
    Means (Format.integer expected low high : TextDecoder Int) (Meaning.integer low high) := by
  intro depth fuel input written left hread
  change (readInteger expected low high input).toOption = _
  cases readsAs_of_readWritten hread with
  | @number b rest _ numeral hstart hsigned hnumeral =>
      have hsame : readSigned (b :: rest) = .ok (numeral.value, left) := by
        rw [readSigned_eq_readNumeral, hnumeral]
        rfl
      rw [readInteger_eq_checkRange hstart hsigned, hsame, checkRange, Meaning.integer]
      cases numeral.value with
      | float value => rfl
      | int value =>
          by_cases hrange : low ≤ value ∧ value ≤ high
          · simp only [Number.inRange, if_pos hrange]
            rfl
          · simp only [Number.inRange, if_neg hrange]
            rfl
  | null hstart => rw [readInteger, hstart]; rfl
  | yes hstart => rw [readInteger, hstart]; rfl
  | no hstart => rw [readInteger, hstart]; rfl
  | string hstart => rw [readInteger, hstart]; rfl
  | array hdepth hstart => rw [readInteger, hstart]; rfl
  | object hdepth hstart => rw [readInteger, hstart]; rfl

end Values

/-! ## Records -/

/-- A field and the meaning of its values. -/
structure FieldMeans (field : Field TextDecoder Record) (meaning : Field Meaning Record) :
    Prop where
  name : field.name = meaning.name
  required : field.required = meaning.required
  update : Means field.update meaning.update

/-- Fills a record with members; a field that is given twice spoils it.  The names of the fields
that are given are kept, the last one first. -/
def fill (fields : List (Field Meaning Record)) :
    List String → Record → List (String × Written) → Option (List String × Record)
  | seen, record, [] => some (seen, record)
  | seen, record, (name, written) :: members =>
    match findField fields name with
    | some field =>
      if seen.contains name then none
      else match field.update written with
        | none => none
        | some change => fill fields (name :: seen) (change record) members
    | none => fill fields seen record members

/-- The record with these members, if no field is missing. -/
def recordOf (fields : List (Field Meaning Record)) (defaults : Record)
    (members : List (String × Written)) : Option Record :=
  match fill fields [] defaults members with
  | none => none
  | some (seen, record) => if (missingRequired fields seen).isSome then none else some record

section Records

variable {fields : List (Field TextDecoder Record)} {meanings : List (Field Meaning Record)}

theorem findField_means (hfields : List.Forall₂ FieldMeans fields meanings) (name : String) :
    Option.Rel FieldMeans (findField fields name) (findField meanings name) := by
  induction hfields with
  | nil => exact .none
  | @cons field meaning fields meanings hfield hfields ih =>
      rw [findField, findField, List.find?_cons, List.find?_cons, hfield.name]
      split
      · exact .some hfield
      · exact ih

theorem missingRequired_means (hfields : List.Forall₂ FieldMeans fields meanings)
    (seen : List String) : missingRequired fields seen = missingRequired meanings seen := by
  induction hfields with
  | nil => rfl
  | @cons field meaning fields meanings hfield hfields ih =>
      rw [missingRequired, missingRequired, List.find?_cons, List.find?_cons, hfield.name,
        hfield.required]
      split
      · exact congrArg some hfield.name
      · exact ih

/-- The fields of a record are read from the members that are written. -/
theorem toOption_readFields (hfields : List.Forall₂ FieldMeans fields meanings)
    {depth loops fuel : Nat} {first : Bool} {members : List (String × Written)}
    {input rest : List UInt8}
    (hreads : ReadsMembers (readWritten depth loops) fuel first input members rest)
    (seen : List String) (record : Record) :
    (readFields false fields depth loops fuel first seen record input).toOption =
      (fill meanings seen record members).map fun filled => (filled, rest) := by
  induction hreads generalizing seen record with
  | last hnext =>
      rw [readFields, hnext]
      rfl
  | @next _ _ _ _ _ _ _ _ name _ _ hnext hname hcolon hvalue hmore ih =>
      have hfound := findField_means hfields name
      rw [readFields, fill, hnext]
      simp only [hname, hcolon]
      -- The field that is found decides how both go on.
      generalize findField fields name = found at hfound ⊢
      generalize findField meanings name = meant at hfound ⊢
      cases hfound with
      | none =>
          simp only [Bool.false_eq_true, if_false, skip_of_readWritten hvalue]
          exact ih seen record
      | @some field meaning hfield =>
          cases hseen : seen.contains name with
          | true => simp only [if_true]; rfl
          | false =>
              simp only [Bool.false_eq_true, if_false]
              obtain ⟨failure, hrun, hmeaning⟩ | ⟨change, hrun, hmeaning⟩ :=
                hfield.update.cases hvalue
              · simp only [hrun, hmeaning]
                rfl
              · simp only [hrun, hmeaning]
                exact ih (name :: seen) (change record)

/-- A record is read from an object as the record with its members. -/
theorem toOption_readRecord (hfields : List.Forall₂ FieldMeans fields meanings) (name : String)
    (defaults : Record) {depth fuel : Nat} {input left : List UInt8}
    {members : List (String × Written)}
    (hread : readWritten depth fuel input = .ok (.object members, left)) :
    (readRecord name false fields defaults depth fuel input).toOption =
      (recordOf meanings defaults members).map fun record => (record, left) := by
  cases readsAs_of_readWritten hread with
  | @object inner rest middle _ _ hdepth hstart hmembers hend =>
      subst hdepth
      have hfilled := toOption_readFields hfields hmembers [] defaults
      have hobject : openBrace ≠ openBracket := by decide
      rw [readRecord, hstart, recordOf]
      simp only [if_neg hobject, if_true]
      cases hrun : readFields false fields inner fuel fuel true [] defaults rest with
      | error failure =>
          rw [hrun] at hfilled
          rw [Option.map_eq_none_iff.mp hfilled.symm]
          rfl
      | ok result =>
          rw [hrun] at hfilled
          obtain ⟨⟨seen, record⟩, hmeaning, hresult⟩ := Option.map_eq_some_iff.mp hfilled.symm
          rw [hmeaning, ← hresult]
          simp only [missingRequired_means hfields]
          cases missingRequired meanings seen with
          | some missing => rfl
          | none => simp only [hend]; rfl

/-- A whole text is decoded as what is written there. -/
theorem toOption_decode {decoder : TextDecoder α} {text : List UInt8} {written : Written}
    {result : Option α} (hwriting : writing text = .ok written)
    (hdecoder : ∀ depth fuel left, readWritten depth fuel text = .ok (written, left) →
      (decoder.run depth fuel text).toOption = result.map fun value => (value, left)) :
    (decoder.decode text).toOption = result := by
  rw [writing, readWhole] at hwriting
  split at hwriting
  · cases hwriting
  · next found rest hread =>
      split at hwriting
      · next hend =>
          cases hwriting
          have hrun := hdecoder _ _ _ hread
          rw [decode, readWhole]
          cases hresult : decoder.run nestingLimit (text.length + 1) text with
          | error failure =>
              rw [hresult] at hrun
              exact (Option.map_eq_none_iff.mp hrun.symm).symm
          | ok read =>
              rw [hresult] at hrun
              obtain ⟨value, rfl, rfl⟩ := Option.map_eq_some_iff.mp hrun.symm
              simp only [hend]
              rfl
      · cases hwriting

end Records

/-! ## Filled records -/

section Filled

variable {fields : List (Field Meaning Record)} {members : List (String × Written)}
  {seen names : List String} {defaults record last : Record}

/-- The fields that are given, in the order and as often as they are given. -/
def given (fields : List (Field Meaning Record)) (members : List (String × Written)) :
    List String :=
  (members.map (·.1)).filter fun name => (findField fields name).isSome

/-- The member has a meaning for its field, if it has one. -/
def Accepts (fields : List (Field Meaning Record)) (member : String × Written) : Prop :=
  ∀ field ∈ findField fields member.1, (field.update member.2).isSome = true

theorem findField_eq_some {name : String} {field : Field Meaning Record}
    (hfound : findField fields name = some field) : field ∈ fields ∧ field.name = name := by
  rw [findField] at hfound
  have hname := List.find?_some hfound
  exact ⟨List.mem_of_find?_eq_some hfound, beq_iff_eq.mp hname⟩

theorem isSome_findField {field : Field Meaning Record} (hfield : field ∈ fields) :
    (findField fields field.name).isSome = true :=
  List.find?_isSome.mpr ⟨field, hfield, beq_self_eq_true _⟩

theorem given_cons (fields : List (Field Meaning Record)) (name : String) (written : Written)
    (members : List (String × Written)) :
    given fields ((name, written) :: members) =
      if (findField fields name).isSome then name :: given fields members
      else given fields members := List.filter_cons

theorem isSome_fill_iff (hseen : seen.Nodup) :
    (fill fields seen record members).isSome = true ↔
      (given fields members ++ seen).Nodup ∧ ∀ member ∈ members, Accepts fields member := by
  induction members generalizing seen record with
  | nil => simpa [fill, given] using hseen
  | cons member members ih =>
      obtain ⟨name, written⟩ := member
      rw [fill, given_cons, List.forall_mem_cons, Accepts]
      cases hfound : findField fields name with
      | none => simp [ih hseen]
      | some field =>
          -- A field that was seen before spoils the record, and the names are no longer distinct.
          by_cases hagain : name ∈ seen
          · have hcontains : seen.contains name = true := List.contains_iff_mem.mpr hagain
            simp only [hcontains, if_true, Option.isSome_none, Option.isSome_some]
            refine iff_of_false Bool.false_ne_true fun hall => ?_
            exact (List.nodup_cons.mp hall.1).1 (List.mem_append_right _ hagain)
          · have hcontains : ¬ seen.contains name = true := by simpa using hagain
            have hmoved : (name :: (given fields members ++ seen)).Nodup ↔
                (given fields members ++ name :: seen).Nodup := List.perm_middle.nodup_iff.symm
            simp only [if_neg hcontains, Option.isSome_some, if_true, List.cons_append, hmoved]
            cases hupdate : field.update written with
            | none => simp [hupdate]
            | some change =>
                simp [hupdate, ih (List.nodup_cons.mpr ⟨hagain, hseen⟩)]

theorem fill_eq_some (hfill : fill fields seen record members = some (names, last)) :
    names = (given fields members).reverse ++ seen := by
  induction members generalizing seen record with
  | nil =>
      cases hfill
      rfl
  | cons member members ih =>
      obtain ⟨name, written⟩ := member
      rw [fill] at hfill
      rw [given_cons]
      split at hfill
      · next field hfound =>
          rw [hfound, Option.isSome_some, if_pos rfl, List.reverse_cons, List.append_assoc]
          split at hfill
          · cases hfill
          · split at hfill
            · cases hfill
            · exact ih hfill
      · next hfound =>
          rw [hfound, Option.isSome_none, if_neg Bool.false_ne_true]
          exact ih hfill

/-- What a field sets is what its last member sets, or what it was before. -/
theorem get_fill {get : Record → α} {value : Written → α} {name : String}
    (hknown : (findField fields name).isSome = true)
    (hget : ∀ field ∈ fields, ∀ written change, field.update written = some change →
      ∀ record, get (change record) = if field.name = name then value written else get record)
    (hfill : fill fields seen record members = some (names, last)) :
    get last = ((lastMember name members).map value).getD (get record) := by
  induction members generalizing seen record with
  | nil =>
      cases hfill
      rfl
  | cons member members ih =>
      obtain ⟨other, written⟩ := member
      rw [fill] at hfill
      rw [lastMember_cons]
      split at hfill
      · next field hfound =>
          obtain ⟨hfield, hother⟩ := findField_eq_some hfound
          have hmine := hget field hfield
          split at hfill
          · cases hfill
          · split at hfill
            · cases hfill
            · next change hupdate =>
                rw [ih hfill, hmine written change hupdate, hother]
                cases lastMember name members with
                | some later => rfl
                | none =>
                    by_cases hsame : other = name
                    · rw [if_pos hsame, if_pos hsame.symm]
                      rfl
                    · rw [if_neg hsame, if_neg (Ne.symm hsame)]
                      rfl
      · next hfound =>
          have hsame : name ≠ other := by
            rintro rfl
            rw [hfound] at hknown
            cases hknown
          rw [ih hfill, if_neg hsame, Option.or_none]

theorem get_recordOf {get : Record → α} {value : Written → α} {name : String}
    (hknown : (findField fields name).isSome = true)
    (hget : ∀ field ∈ fields, ∀ written change, field.update written = some change →
      ∀ record, get (change record) = if field.name = name then value written else get record)
    (hrecord : recordOf fields defaults members = some record) :
    get record = ((lastMember name members).map value).getD (get defaults) := by
  unfold recordOf at hrecord
  split at hrecord
  · cases hrecord
  · next hfill =>
      split at hrecord
      · cases hrecord
      · cases hrecord
        exact get_fill hknown hget hfill

theorem count_given {field : Field Meaning Record} (hfield : field ∈ fields)
    (members : List (String × Written)) :
    (given fields members).count field.name = (members.map (·.1)).count field.name :=
  List.count_filter (p := fun name => (findField fields name).isSome) (isSome_findField hfield)

/-- No field is given twice. -/
theorem nodup_given_iff : (given fields members).Nodup ↔
    ∀ field ∈ fields, (members.map (·.1)).count field.name ≤ 1 := by
  rw [List.nodup_iff_count]
  constructor
  · intro hcount field hfield
    rw [← count_given hfield]
    exact hcount field.name
  · intro hcount name
    cases hfound : findField fields name with
    | none =>
        refine Nat.le_trans (Nat.le_of_eq (List.count_eq_zero.mpr fun hmember => ?_))
          (Nat.zero_le 1)
        have hknown := (List.mem_filter.mp hmember).2
        rw [hfound] at hknown
        cases hknown
    | some field =>
        obtain ⟨hfield, rfl⟩ := findField_eq_some hfound
        rw [count_given hfield]
        exact hcount field hfield

theorem missingRequired_eq_none_iff : missingRequired fields seen = none ↔
    ∀ field ∈ fields, field.required = true → field.name ∈ seen := by
  simp [missingRequired]

/-- A record is filled if no field is given twice, every value has a meaning, and no field that is
required is missing. -/
theorem isSome_recordOf_iff : (recordOf fields defaults members).isSome = true ↔
    (∀ field ∈ fields, (members.map (·.1)).count field.name ≤ 1) ∧
      (∀ member ∈ members, Accepts fields member) ∧
      ∀ field ∈ fields, field.required = true → field.name ∈ members.map (·.1) := by
  have hfilled : (fill fields [] defaults members).isSome = true ↔
      (given fields members ++ []).Nodup ∧ ∀ member ∈ members, Accepts fields member :=
    isSome_fill_iff List.nodup_nil
  rw [List.append_nil, nodup_given_iff] at hfilled
  rw [← and_assoc, ← hfilled, recordOf]
  cases hfill : fill fields [] defaults members with
  | none => simp
  | some result =>
      obtain ⟨seen, record⟩ := result
      have hseen : ∀ field ∈ fields, field.name ∈ seen ↔ field.name ∈ members.map (·.1) := by
        intro field hfield
        rw [fill_eq_some hfill, List.append_nil, List.mem_reverse, given, List.mem_filter]
        exact and_iff_left (isSome_findField hfield)
      simp only [Option.isSome_some, true_and]
      have hmissing : missingRequired fields seen = none ↔
          ∀ field ∈ fields, field.required = true → field.name ∈ members.map (·.1) := by
        rw [missingRequired_eq_none_iff]
        exact forall₂_congr fun field hfield => imp_congr_right fun _ => hseen field hfield
      rw [← hmissing]
      cases missingRequired fields seen <;> simp

end Filled

end DebugBridge.TextDecoder
