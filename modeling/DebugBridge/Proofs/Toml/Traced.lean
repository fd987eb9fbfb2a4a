import DebugBridge.Proofs.Redaction.Configuration
import DebugBridge.Proofs.Results
import DebugBridge.Toml.Decode
import DebugBridge.Url.Host

/-!
# Where decoding stops

A traced decoder is a decoder that also knows its names and at which entry it stops.  Two values
that differ in what their strings say and in the spelling of unknown names may be refused at
different entries.  Where they are refused at the same one and for the same reason, the redacted
texts are the same, unless a name shows in them.
-/

namespace DebugBridge

/-- The names that are known at each place of a value. -/
inductive Outline
  | value
  | record (fields : List (String × Outline))

def Outline.fields : Outline → List (String × Outline)
  | .value => []
  | .record fields => fields

/-! ## Alike values -/

namespace Toml

mutual

/-- Equal but for what strings say and for the spelling of the names that the outline does not
know. -/
inductive Alike : Outline → Toml → Toml → Prop
  | string {outline : Outline} (text other : String) : Alike outline (.string text) (.string other)
  | integer {outline : Outline} (value : Int) : Alike outline (.integer value) (.integer value)
  | float {outline : Outline} (value : Binary64) : Alike outline (.float value) (.float value)
  | boolean {outline : Outline} (value : Bool) : Alike outline (.boolean value) (.boolean value)
  | datetime {outline : Outline} : Alike outline .datetime .datetime
  | array {outline : Outline} {items others : List Toml}
      (hitems : AlikeItems outline.fields items others) :
      Alike outline (.array items) (.array others)
  | table {outline : Outline} {entries others : List (String × Toml)}
      (hentries : AlikeEntries outline.fields entries others) :
      Alike outline (.table entries) (.table others)

/-- Items stand for the fields by position. -/
inductive AlikeItems : List (String × Outline) → List Toml → List Toml → Prop
  | nil {fields : List (String × Outline)} : AlikeItems fields [] []
  | field {field : String × Outline} {fields : List (String × Outline)} {value other : Toml}
      {items others : List Toml} (hvalue : Alike field.2 value other)
      (hitems : AlikeItems fields items others) :
      AlikeItems (field :: fields) (value :: items) (other :: others)
  | beyond {value other : Toml} {items others : List Toml} (hvalue : Alike .value value other)
      (hitems : AlikeItems [] items others) : AlikeItems [] (value :: items) (other :: others)

inductive AlikeEntries :
    List (String × Outline) → List (String × Toml) → List (String × Toml) → Prop
  | nil {fields : List (String × Outline)} : AlikeEntries fields [] []
  | known {fields : List (String × Outline)} {name : String} {outline : Outline}
      {value other : Toml} {entries others : List (String × Toml)}
      (hname : Json.lookup name fields = some outline) (hvalue : Alike outline value other)
      (hentries : AlikeEntries fields entries others) :
      AlikeEntries fields ((name, value) :: entries) ((name, other) :: others)
  | unknown {fields : List (String × Outline)} {name nameOther : String} {value other : Toml}
      {entries others : List (String × Toml)} (hname : Json.lookup name fields = none)
      (hother : Json.lookup nameOther fields = none) (hvalue : Alike .value value other)
      (hentries : AlikeEntries fields entries others) :
      AlikeEntries fields ((name, value) :: entries) ((nameOther, other) :: others)

end

end Toml

/-! ## Reasons -/

namespace Mismatch

/-- The words in which an unusable URL is refused. -/
def unusableUrl (fault : UrlFault) (text : String) : String :=
  fault.message ++ ": " ++ Text.quoted text

/-- The same kind of reason.  Refusals are of the same kind when they report the same fault of a
URL, or no such fault at all. -/
inductive SameReason : Mismatch → Mismatch → Prop
  | wrongType (found other : Found) (expected expectedOther : String) :
      SameReason (.invalidType found expected) (.invalidType other expectedOther)
  | wrongValue (found other : Found) (expected expectedOther : String) :
      SameReason (.invalidValue found expected) (.invalidValue other expectedOther)
  | wrongLength (length other : Nat) (expected expectedOther : String) :
      SameReason (.invalidLength length expected) (.invalidLength other expectedOther)
  | missingField (name other : String) : SameReason (.missingField name) (.missingField other)
  | duplicateField (name other : String) : SameReason (.duplicateField name) (.duplicateField other)
  | unknownField (name other : String) (allowed allowedOther : List String) :
      SameReason (.unknownField name allowed) (.unknownField other allowedOther)
  | unknownVariant (name other : String) (allowed allowedOther : List String) :
      SameReason (.unknownVariant name allowed) (.unknownVariant other allowedOther)
  | refused {text other : String}
      (hfault : ∀ fault : UrlFault, (∃ url, text = unusableUrl fault url) ↔
        ∃ url, other = unusableUrl fault url) :
      SameReason (.refused text) (.refused other)

/-- The redacted texts are the same, unless a name shows. -/
def Redacted (first second : Mismatch) : Prop :=
  HiddenIn NameHidden (fun mismatch => Redaction.configuration mismatch.message) first second

theorem Redacted.refl (mismatch : Mismatch) : Redacted mismatch mismatch := HiddenIn.refl mismatch

/-- One value has one mismatch. -/
theorem Redacted.of_run {α : Type} {result : Except Mismatch α} {first second : Mismatch}
    (hfirst : result = .error first) (hsecond : result = .error second) :
    Redacted first second := by
  cases hfirst.symm.trans hsecond
  exact Redacted.refl first

theorem redacted_unknownVariant (name other : String) (allowed allowedOther : List String) :
    Redacted (.unknownVariant name allowed) (.unknownVariant other allowedOther) where
  same hname := hname.elim
  apart hone := (iff_not_self hone).elim

theorem redacted_unknownField {allowed : List String}
    (hallowed : '"' ∉ (expectedNames allowed).toList) (name other : String) :
    Redacted (.unknownField name allowed) (.unknownField other allowed) :=
  .of_iff (configuration_unknownField name hallowed) (configuration_unknownField other hallowed)

theorem redacted_unusableUrl (fault : UrlFault) (text other : String) :
    Redacted (.refused (unusableUrl fault text))
      (.refused (unusableUrl fault other)) := by
  have hfault : '"' ∉ fault.message.toList := by cases fault <;> decide
  exact .of_eq (Redaction.configuration_quoted hfault (by decide) text other) Iff.rfl

end Mismatch

/-! ## Traced decoders -/

/-- A decoder with the names it knows and the entry of a value at which it stops, as a row of
positions from the outside in. -/
structure TracedDecoder (α : Type) where
  plain : TomlDecoder α
  outline : Outline
  place : Toml → List Nat

namespace TracedDecoder

open Mismatch

variable {α β Record : Type}

def fails (decoder : TracedDecoder α) (value : Toml) : Bool := !(decoder.plain.run value).isOk

/-- A decoder that stops at the value itself. -/
def whole (decoder : TomlDecoder α) : TracedDecoder α where
  plain := decoder
  outline := .value
  place _ := []

def plainField (field : Field TracedDecoder Record) : Field TomlDecoder Record :=
  { name := field.name, required := field.required, update := field.update.plain }

def fieldOutline (field : Field TracedDecoder Record) : String × Outline :=
  (field.name, field.update.outline)

def placeInEntries (closed : Bool) (fields : List (Field TracedDecoder Record)) :
    (index : Nat) → List (String × Toml) → List Nat
  | _, [] => []
  | index, (name, value) :: entries =>
    match findField fields name with
    | some field =>
      if field.update.fails value then index :: field.update.place value
      else placeInEntries closed fields (index + 1) entries
    | none => if closed then [index] else placeInEntries closed fields (index + 1) entries

def placeInItems : List (Field TracedDecoder Record) → (index : Nat) → List Toml → List Nat
  | [], _, _ => []
  | _ :: _, _, [] => []
  | field :: fields, index, value :: items =>
    if field.update.fails value then index :: field.update.place value
    else placeInItems fields (index + 1) items

def placeInRecord (closed : Bool) (fields : List (Field TracedDecoder Record)) : Toml → List Nat
  | .table entries => placeInEntries closed fields 0 entries
  | .datetime => placeInEntries closed fields 0 [(TomlDecoder.datetimeField, .string "")]
  | .array items => placeInItems fields 0 items
  | _ => []

instance : Format TracedDecoder where
  map change decoder := { decoder with plain := Format.map change decoder.plain }
  boolean := whole Format.boolean
  integer expected low high := whole (Format.integer expected low high)
  text expected := whole (Format.text expected)
  optional decoder := { decoder with plain := Format.optional decoder.plain }
  refine check decoder := {
    plain := Format.refine check decoder.plain
    outline := decoder.outline
    place := fun value => if decoder.fails value then decoder.place value else [] }
  choice names := whole (Format.choice names)
  record name closed fields defaults := {
    plain := Format.record name closed (fields.map plainField) defaults
    outline := .record (fields.map fieldOutline)
    place := placeInRecord closed fields }

/-- Alike values that are refused at the same entry for the same reason have the same redacted
texts. -/
def Uniform (decoder : TracedDecoder α) : Prop :=
  ∀ (value other : Toml) (first second : Mismatch), Toml.Alike decoder.outline value other →
    decoder.plain.run value = .error first → decoder.plain.run other = .error second →
    decoder.place value = decoder.place other → first.SameReason second → Redacted first second

/-! ## Scalars -/

theorem redacted_fail {outline : Outline} {value other : Toml}
    (halike : Toml.Alike outline value other) (expected : String) :
    Redacted (.invalidType (TomlDecoder.found value) expected)
      (.invalidType (TomlDecoder.found other) expected) := by
  cases halike with
  | string text other => exact .of_eq (configuration_unexpected_string text other expected) Iff.rfl
  | _ => exact Redacted.refl _

/-- Alike values of this kind need not be equal. -/
def Varied : Toml → Prop
  | .string _ => True
  | .array _ => True
  | .table _ => True
  | _ => False

/-- A decoder that refuses strings, arrays and tables for their type only. -/
theorem uniform_whole {decoder : TomlDecoder α} {expected : String}
    (hfails : ∀ (value : Toml) (mismatch : Mismatch), Varied value →
      decoder.run value = .error mismatch →
        mismatch = .invalidType (TomlDecoder.found value) expected) :
    Uniform (whole decoder) := by
  intro value other first second halike hfirst hsecond _ _
  have hvaried : Varied value → Varied other → Redacted first second := by
    intro hvalue hother
    rw [hfails value first hvalue hfirst, hfails other second hother hsecond]
    exact redacted_fail halike expected
  cases halike with
  | string => exact hvaried trivial trivial
  | array => exact hvaried trivial trivial
  | table => exact hvaried trivial trivial
  | _ => exact .of_run hfirst hsecond

theorem uniform_boolean : Uniform Format.boolean := by
  refine @uniform_whole _ _ "a boolean" fun value mismatch hvaried hrun => ?_
  cases value with
  | string text => exact (Except.error.inj hrun).symm
  | array items => exact (Except.error.inj hrun).symm
  | table entries => exact (Except.error.inj hrun).symm
  | _ => exact hvaried.elim

theorem uniform_integer (expected : String) (low high : Int) :
    Uniform (Format.integer expected low high) := by
  refine @uniform_whole _ _ expected fun value mismatch hvaried hrun => ?_
  cases value with
  | string text => exact (Except.error.inj hrun).symm
  | array items => exact (Except.error.inj hrun).symm
  | table entries => exact (Except.error.inj hrun).symm
  | _ => exact hvaried.elim

theorem uniform_text (expected : String) : Uniform (Format.text expected) := by
  refine @uniform_whole _ _ expected fun value mismatch hvaried hrun => ?_
  cases value with
  | string text => cases hrun
  | array items => exact (Except.error.inj hrun).symm
  | table entries => exact (Except.error.inj hrun).symm
  | _ => exact hvaried.elim

/-! ## Combinations -/

theorem uniform_map (change : α → β) {decoder : TracedDecoder α} (huniform : Uniform decoder) :
    Uniform (Format.map change decoder) := by
  intro value other first second halike hfirst hsecond
  exact huniform value other first second halike (map_eq_error.mp hfirst) (map_eq_error.mp hsecond)

theorem uniform_optional {decoder : TracedDecoder α} (huniform : Uniform decoder) :
    Uniform (Format.optional decoder) := by
  intro value other first second halike hfirst hsecond
  exact huniform value other first second halike (map_eq_error.mp hfirst) (map_eq_error.mp hsecond)

/-! ## Records -/

section Records

variable {fields : List (Field TracedDecoder Record)}

theorem findField_map_plainField (name : String) :
    findField (fields.map plainField) name = (findField fields name).map plainField := by
  rw [findField, findField, List.find?_map]
  rfl

theorem lookup_map_fieldOutline (name : String) :
    Json.lookup name (fields.map fieldOutline) =
      (findField fields name).map (·.update.outline) := by
  rw [Json.lookup, findField, List.find?_map, Option.map_map]
  rfl

/-- Places inside a record count on from where the search starts. -/
theorem le_of_placeInEntries {closed : Bool} {index position : Nat}
    {entries : List (String × Toml)} {inside : List Nat}
    (hplace : placeInEntries closed fields index entries = position :: inside) :
    index ≤ position := by
  induction entries generalizing index with
  | nil => cases hplace
  | cons entry entries ih =>
      obtain ⟨name, value⟩ := entry
      rw [placeInEntries] at hplace
      split at hplace
      · split at hplace
        · cases hplace
          exact Nat.le_refl _
        · exact Nat.le_of_succ_le (ih hplace)
      · split at hplace
        · cases hplace
          exact Nat.le_refl _
        · exact Nat.le_of_succ_le (ih hplace)

theorem le_of_placeInItems {index position : Nat} {items : List Toml} {inside : List Nat}
    (hplace : placeInItems fields index items = position :: inside) : index ≤ position := by
  induction fields generalizing index items with
  | nil => cases hplace
  | cons field fields ih =>
      cases items with
      | nil => cases hplace
      | cons value items =>
          rw [placeInItems] at hplace
          split at hplace
          · cases hplace
            exact Nat.le_refl _
          · exact Nat.le_of_succ_le (ih hplace)

/-- If two searches that go on from the next entry find the same place, either both stop here, and
at the same place inside, or neither does. -/
theorem outcomes_of_place {decoder : TracedDecoder α} {value other : Toml} {index : Nat}
    {later laterOther : List Nat}
    (hlater : ∀ position inside, later = position :: inside → index + 1 ≤ position)
    (hlaterOther : ∀ position inside, laterOther = position :: inside → index + 1 ≤ position)
    (hplace : (if decoder.fails value then index :: decoder.place value else later) =
      if decoder.fails other then index :: decoder.place other else laterOther) :
    (∃ first second, decoder.plain.run value = .error first ∧
      decoder.plain.run other = .error second ∧ decoder.place value = decoder.place other) ∨
    ∃ result resultOther, decoder.plain.run value = .ok result ∧
      decoder.plain.run other = .ok resultOther ∧ later = laterOther := by
  rw [fails, fails] at hplace
  cases hvalue : decoder.plain.run value with
  | error first =>
      cases hother : decoder.plain.run other with
      | error second =>
          rw [hvalue, hother] at hplace
          exact .inl ⟨first, second, rfl, rfl, (List.cons.inj hplace).2⟩
      | ok resultOther =>
          rw [hvalue, hother] at hplace
          exact absurd (hlaterOther _ _ hplace.symm) (Nat.not_succ_le_self index)
  | ok result =>
      cases hother : decoder.plain.run other with
      | error second =>
          rw [hvalue, hother] at hplace
          exact absurd (hlater _ _ hplace) (Nat.not_succ_le_self index)
      | ok resultOther =>
          rw [hvalue, hother] at hplace
          exact .inr ⟨result, resultOther, rfl, rfl, hplace⟩

variable (huniform : ∀ field ∈ fields, Uniform field.update)
include huniform

theorem redacted_entries (hallowed : '"' ∉ (expectedNames (fields.map (·.name))).toList)
    {closed : Bool} {entries others : List (String × Toml)} {index : Nat}
    {record recordOther : Record} {first second : Mismatch}
    (halike : Toml.AlikeEntries (fields.map fieldOutline) entries others)
    (hfirst : TomlDecoder.decodeEntries closed (fields.map plainField) entries record =
      .error first)
    (hsecond : TomlDecoder.decodeEntries closed (fields.map plainField) others recordOther =
      .error second)
    (hplace : placeInEntries closed fields index entries =
      placeInEntries closed fields index others) (hreason : first.SameReason second) :
    Redacted first second := by
  induction entries generalizing others index record recordOther with
  | nil => cases hfirst
  | cons entry entries ih =>
      cases halike with
      | @known _ name outline value other _ others hname hvalue hentries =>
          rw [lookup_map_fieldOutline] at hname
          obtain ⟨field, hfield, rfl⟩ := Option.map_eq_some_iff.mp hname
          have hplain : findField (fields.map plainField) name = some (plainField field) := by
            rw [findField_map_plainField, hfield, Option.map_some]
          simp only [TomlDecoder.decodeEntries, hplain, plainField] at hfirst hsecond
          simp only [placeInEntries, hfield] at hplace
          obtain ⟨inner, innerOther, hrun, hrunOther, hinside⟩ |
            ⟨change, changeOther, hrun, hrunOther, hlater⟩ :=
            outcomes_of_place (fun _ _ => le_of_placeInEntries) (fun _ _ => le_of_placeInEntries)
              hplace
          · rw [hrun] at hfirst
            rw [hrunOther] at hsecond
            cases hfirst
            cases hsecond
            have hmem : field ∈ fields := List.mem_of_find?_eq_some hfield
            exact huniform field hmem value other _ _ hvalue hrun hrunOther hinside hreason
          · rw [hrun] at hfirst
            rw [hrunOther] at hsecond
            exact ih hentries hfirst hsecond hlater
      | @unknown _ name nameOther value other _ others hname hother hvalue hentries =>
          rw [lookup_map_fieldOutline, Option.map_eq_none_iff] at hname hother
          have hplain : findField (fields.map plainField) name = none := by
            rw [findField_map_plainField, hname, Option.map_none]
          have hplainOther : findField (fields.map plainField) nameOther = none := by
            rw [findField_map_plainField, hother, Option.map_none]
          simp only [TomlDecoder.decodeEntries, hplain, hplainOther] at hfirst hsecond
          simp only [placeInEntries, hname, hother] at hplace
          cases closed with
          | true =>
              cases hfirst
              cases hsecond
              have hnames : (fields.map plainField).map (·.name) = fields.map (·.name) := by
                rw [List.map_map]
                rfl
              rw [hnames]
              exact redacted_unknownField hallowed name nameOther
          | false => exact ih hentries hfirst hsecond hplace

theorem redacted_items (hoptional : ∀ field ∈ fields, field.required = false) {name : String}
    {total done index : Nat} {items others : List Toml} {record recordOther : Record}
    {first second : Mismatch}
    (halike : Toml.AlikeItems (fields.map fieldOutline) items others)
    (hfirst : TomlDecoder.decodeItems name total (fields.map plainField) done items record =
      .error first)
    (hsecond : TomlDecoder.decodeItems name total (fields.map plainField) done others recordOther =
      .error second)
    (hplace : placeInItems fields index items = placeInItems fields index others)
    (hreason : first.SameReason second) : Redacted first second := by
  induction fields generalizing done index items others record recordOther with
  | nil => cases hfirst
  | cons field fields ih =>
      obtain ⟨hfield, hfields⟩ := List.forall_mem_cons.mp huniform
      obtain ⟨hrequired, hmore⟩ := List.forall_mem_cons.mp hoptional
      cases halike with
      | nil =>
          simp only [List.map_cons, TomlDecoder.decodeItems, plainField, hrequired,
            Bool.false_eq_true, if_false] at hfirst hsecond
          exact ih hfields hmore .nil hfirst hsecond (rfl : placeInItems fields index [] = _)
      | @field _ _ value other items others hvalue hitems =>
          simp only [List.map_cons, TomlDecoder.decodeItems, plainField] at hfirst hsecond
          simp only [placeInItems] at hplace
          obtain ⟨inner, innerOther, hrun, hrunOther, hinside⟩ |
            ⟨change, changeOther, hrun, hrunOther, hlater⟩ :=
            outcomes_of_place (fun _ _ => le_of_placeInItems) (fun _ _ => le_of_placeInItems)
              hplace
          · rw [hrun] at hfirst
            rw [hrunOther] at hsecond
            cases hfirst
            cases hsecond
            exact hfield value other _ _ hvalue hrun hrunOther hinside hreason
          · rw [hrun] at hfirst
            rw [hrunOther] at hsecond
            exact ih hfields hmore hitems hfirst hsecond hlater

omit huniform in
theorem decodeTable_eq_error (hoptional : ∀ field ∈ fields, field.required = false) {closed : Bool}
    {entries : List (String × Toml)} {defaults : Record} {mismatch : Mismatch}
    (herror : TomlDecoder.decodeTable closed (fields.map plainField) entries defaults =
      .error mismatch) :
    TomlDecoder.decodeEntries closed (fields.map plainField) entries defaults =
      .error mismatch := by
  have hcomplete : missingRequired (fields.map plainField) (entries.map (·.1)) = none := by
    rw [missingRequired, Option.map_eq_none_iff, List.find?_eq_none]
    intro plain hplain
    obtain ⟨field, hfield, rfl⟩ := List.mem_map.mp hplain
    simp [plainField, hoptional field hfield]
  rw [TomlDecoder.decodeTable, hcomplete] at herror
  split at herror
  · next inner hinner => rw [hinner, herror]
  · cases herror

/-- A record whose fields are all optional cannot lack any of them. -/
theorem uniform_record {name : String} {closed : Bool}
    (hoptional : ∀ field ∈ fields, field.required = false)
    (hallowed : '"' ∉ (expectedNames (fields.map (·.name))).toList) (defaults : Record) :
    Uniform (Format.record name closed fields defaults) := by
  intro value other first second halike hfirst hsecond hplace hreason
  cases halike with
  | table hentries =>
      exact redacted_entries huniform hallowed hentries (decodeTable_eq_error hoptional hfirst)
        (decodeTable_eq_error hoptional hsecond) hplace hreason
  | array hitems => exact redacted_items huniform hoptional hitems hfirst hsecond hplace hreason
  | string text textOther =>
      cases hfirst
      cases hsecond
      exact .of_eq (configuration_unexpected_string text textOther _) Iff.rfl
  | _ => exact .of_run hfirst hsecond

end Records

/-! ## Names and URLs -/

section Choices

open TomlDecoder

variable {names : List String} {name nameOther : String} {value other : Toml}
variable {first second : Mismatch}

theorem run_known (hname : names.contains name = true) :
    decodeChoice.known names name = .ok name :=
  if_pos hname

theorem run_unknown (hname : ¬names.contains name = true) :
    decodeChoice.known names name = .error (.unknownVariant name names) :=
  if_neg hname

/-- What follows a name that is one of the choices is refused alike. -/
theorem refused_alike (halike : Toml.Alike .value value other)
    (hname : names.contains name = true) (hother : names.contains nameOther = true)
    (hfirst : decodeChoice names (.table [(name, value)]) = .error first)
    (hsecond : decodeChoice names (.table [(nameOther, other)]) = .error second) :
    first = second := by
  simp only [decodeChoice, run_known hname, run_known hother] at hfirst hsecond
  cases halike with
  | array hitems =>
      cases hitems with
      | nil => cases hfirst
      | beyond =>
          cases hfirst
          cases hsecond
          rfl
  | table hentries =>
      cases hentries with
      | nil => cases hfirst
      | known hlookup => cases hlookup
      | unknown =>
          cases hfirst
          cases hsecond
          rfl
  | _ =>
      cases hfirst
      cases hsecond
      rfl

theorem redacted_single (halike : Toml.Alike .value value other)
    (hfirst : decodeChoice names (.table [(name, value)]) = .error first)
    (hsecond : decodeChoice names (.table [(nameOther, other)]) = .error second)
    (hreason : first.SameReason second) : Redacted first second := by
  by_cases hname : names.contains name = true
  · by_cases hother : names.contains nameOther = true
    · rw [refused_alike halike hname hother hfirst hsecond]
      exact Redacted.refl second
    · simp only [decodeChoice, run_unknown hother] at hsecond
      cases hsecond
      cases hreason
      exact redacted_unknownVariant _ _ _ _
  · simp only [decodeChoice, run_unknown hname] at hfirst
    cases hfirst
    cases hreason
    exact redacted_unknownVariant _ _ _ _

theorem uniform_choice (names : List String) : Uniform (Format.choice names) := by
  intro value other first second halike hfirst hsecond _ hreason
  have hsame : ∀ words, first = .refused words → second = .refused words →
      Redacted first second := by
    rintro words rfl rfl
    exact Redacted.refl _
  cases halike with
  | string text textOther =>
      have hunknown : ∀ {text : String} {mismatch : Mismatch},
          decodeChoice names (.string text) = .error mismatch →
            mismatch = .unknownVariant text names := by
        intro text mismatch hrun
        by_cases hname : names.contains text = true
        · cases (run_known hname).symm.trans hrun
        · exact Except.error.inj (hrun.symm.trans (run_unknown hname))
      rw [hunknown hfirst, hunknown hsecond]
      exact redacted_unknownVariant _ _ _ _
  | table hentries =>
      cases hentries with
      | nil => exact hsame _ (Except.error.inj hfirst).symm (Except.error.inj hsecond).symm
      | known hlookup => cases hlookup
      | unknown _ _ hvalue hmore =>
          cases hmore with
          | nil => exact redacted_single hvalue hfirst hsecond hreason
          | known hlookup => cases hlookup
          | unknown => exact hsame _ (Except.error.inj hfirst).symm (Except.error.inj hsecond).symm
  | _ => exact hsame _ (Except.error.inj hfirst).symm (Except.error.inj hsecond).symm

end Choices

end TracedDecoder

end DebugBridge
