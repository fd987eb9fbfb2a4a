import DebugBridge.Proofs.Backend.Replies
import DebugBridge.Proofs.Decode.Written

/-!
# Run states as they are written

Which texts are decoded as run states, and as which: told by the members of the object that is
written there, whatever else it holds.
-/

namespace DebugBridge

open Json TextDecoder

/-- What a variable is shown as.  The text of a table can be parsed again, if all its numbers are
integers. -/
inductive ScriptValue.Shows : Written → ScriptValue → Prop
  | string (text : String) : Shows (.string text) (.plain text)
  | null : Shows .null (.plain "nil")
  | bool (value : Bool) : Shows (.bool value) (.plain (if value then "true" else "false"))
  | number (numeral : Numeral) : Shows (.number numeral) (.plain numeral.value.print)
  | array (items : List Written) {text : String}
      (hback : (Written.array items).value.Floatless →
        parse (Text.encodeUtf8 text) = .ok (Written.array items).value) :
      Shows (.array items) (.table text)
  | object (members : List (String × Written)) {text : String}
      (hback : (Written.object members).value.Floatless →
        parse (Text.encodeUtf8 text) = .ok (Written.object members).value) :
      Shows (.object members) (.table text)

/-- The variables are those of the object, each as it is given last; without an object there are
none. -/
structure VariableMap.Tabulates (written : Option Written) (shown : VariableMap) : Prop where
  ascending : Ascending shown
  names : ∀ name, name ∈ shown.map (·.1) ↔ name ≠ objectMarkerKey ∧
    ∃ members, written = some (.object members) ∧ name ∈ members.map (·.1)
  values : ∀ name value, (name, value) ∈ shown →
    ∃ members last, written = some (.object members) ∧
      lastMember name members = some last ∧ ScriptValue.Shows last value

/-! ## Modes -/

namespace ResumeMode

theorem code_le (mode : ResumeMode) : mode.code ≤ 4 := by cases mode <;> decide

theorem exists_code_eq {code : Nat} (hcode : code ≤ 4) : ∃ mode : ResumeMode, mode.code = code := by
  match code, hcode with
  | 0, _ => exact ⟨.resume, rfl⟩
  | 1, _ => exact ⟨.paused, rfl⟩
  | 2, _ => exact ⟨.stepInto, rfl⟩
  | 3, _ => exact ⟨.stepOver, rfl⟩
  | 4, _ => exact ⟨.stepOut, rfl⟩

theorem toOption_ofCode_eq_some_iff {code : Nat} {mode : ResumeMode} :
    (ofCode code).toOption = some mode ↔ code = mode.code := by
  have hoption : (ofCode code).toOption = ofCode? code := by
    unfold ofCode
    cases ofCode? code <;> rfl
  rw [hoption]
  constructor
  · intro hmode
    unfold ofCode? at hmode
    split at hmode <;> cases hmode <;> rfl
  · rintro rfl
    exact ofCode?_code mode

end ResumeMode

/-! ## Variables -/

theorem ScriptValue.shows_ofJson {written : Written}
    (hnesting : written.value.nesting ≤ nestingLimit) : Shows written (ofJson written.value) := by
  have hback : written.value.Floatless → parse written.value.bytes = .ok written.value :=
    fun hfloatless => parse_bytes (written.integral_value hfloatless) hnesting
  cases written with
  | null => exact .null
  | bool value => cases value <;> exact .bool _
  | string text => exact .string text
  | number numeral =>
      have hprint : (Json.number numeral.value).print = numeral.value.print := by
        simp [print, chars, onto]
      rw [Written.value, ofJson, hprint]
      exact .number numeral
  | array items => exact .array items hback
  | object members => exact .object members hback

namespace VariableMap

variable {members : List (String × Written)}

theorem mem_ofJson_iff {name : String} {value : ScriptValue} :
    (name, value) ∈ VariableMap.ofJson (Written.object members).value ↔
      name ≠ objectMarkerKey ∧
        ∃ last, lastMember name members = some last ∧ ScriptValue.ofJson last.value = value := by
  have hfound : ∀ value, (name, value) ∈ sortMembers
      (members.map fun member => (member.1, member.2.value)) ↔
        ∃ last, lastMember name members = some last ∧ last.value = value := by
    intro value
    rw [← lookup_eq_some_iff (ascending_sortMembers _), lookup_sortMembers, lastMember_map,
      Option.map_eq_some_iff]
  rw [Written.value_object, ofMembers, VariableMap.ofJson, List.mem_map]
  constructor
  · rintro ⟨⟨other, found⟩, hmember, hsame⟩
    obtain ⟨rfl, rfl⟩ := Prod.mk.inj hsame
    obtain ⟨hmember, hother⟩ := List.mem_filter.mp hmember
    obtain ⟨last, hlast, rfl⟩ := (hfound found).mp hmember
    exact ⟨by simpa using hother, last, hlast, rfl⟩
  · rintro ⟨hother, last, hlast, rfl⟩
    have hmember := (hfound last.value).mpr ⟨last, hlast, rfl⟩
    exact ⟨(name, last.value), List.mem_filter.mpr ⟨hmember, by simpa using hother⟩, rfl⟩

theorem tabulates_nil {written : Option Written}
    (hnone : ∀ members, written ≠ some (.object members)) : Tabulates written [] where
  ascending := List.Pairwise.nil
  names name := by simp [hnone]
  values := by simp

theorem tabulates_ofJson {written : Written} (hnesting : written.value.nesting ≤ nestingLimit) :
    Tabulates (some written) (VariableMap.ofJson written.value) := by
  cases written with
  | object members =>
      refine ⟨(proper_ofJson ?_).ascending, fun name => ?_, fun name value hentry => ?_⟩
      · rintro sorted hsorted
        rw [Written.value_object] at hsorted
        injection hsorted with hsorted
        exact hsorted ▸ ascending_sortMembers _
      · have hnames : name ∈ (VariableMap.ofJson (Written.object members).value).map (·.1) ↔
            name ≠ objectMarkerKey ∧ (lastMember name members).isSome = true := by
          simp [-Written.value_object, mem_ofJson_iff, Option.isSome_iff_exists]
        rw [hnames, isSome_lastMember_iff]
        simp
      · obtain ⟨-, last, hlast, rfl⟩ := mem_ofJson_iff.mp hentry
        have hdepth := Nat.le_trans (nesting_le_of_lastMember hlast) hnesting
        exact ⟨members, last, rfl, hlast, ScriptValue.shows_ofJson hdepth⟩
  | _ => exact tabulates_nil (by simp)

end VariableMap

namespace RunState

/-- The member that the variables of a scope are taken from. -/
def variablesField : Scope → String
  | .locals => "local_variables"
  | .closure => "upvalue_variables"
  | .globals => "global_variables"

/-- The members that a run state is decoded from. -/
def fieldNames : List String :=
  ["resume_mode", "current_file", "current_line", "local_variables", "upvalue_variables",
    "global_variables"]

/-- What the members of an object must be like for a run state. -/
structure Decodable (members : List (String × Written)) : Prop where
  once : ∀ name ∈ fieldNames, (members.map (·.1)).count name ≤ 1
  present : "resume_mode" ∈ members.map (·.1)
  mode : ∀ written, ("resume_mode", written) ∈ members →
    ∃ code : Nat, code ≤ 4 ∧ written.IsInteger code
  file : ∀ written, ("current_file", written) ∈ members →
    written = .null ∨ ∃ text, written = .string text
  line : ∀ written, ("current_line", written) ∈ members → written = .null ∨
    ∃ line : Int, (-0x8000000000000000 ≤ line ∧ line ≤ 0x7fffffffffffffff) ∧
      written.IsInteger line

/-- The run state that the members tell of. -/
structure Tells (members : List (String × Written)) (state : RunState) : Prop where
  mode : ∃ written, lastMember "resume_mode" members = some written ∧
    written.IsInteger state.mode.code
  file : Optionally (fun written text => written = .string text)
    (lastMember "current_file" members) state.currentFile
  line : Optionally Written.IsInteger (lastMember "current_line" members) state.currentLine
  tables : ∀ kind, VariableMap.Tabulates (lastMember (variablesField kind) members)
    (state.variableMap kind)

/-! ## Meanings of the fields -/

def modeMeaning : Meaning ResumeMode :=
  ((Meaning.integer 0 255).map Int.toNat).refine ResumeMode.ofCode

def fileMeaning : Meaning (Option String) := Meaning.text.optional

def lineMeaning : Meaning (Option Int) :=
  (Meaning.integer (-0x8000000000000000) 0x7fffffffffffffff).optional

def variablesMeaning : Meaning VariableMap :=
  Meaning.anything.optional.map fun value => VariableMap.ofJson (value.getD .null)

def meanings : List (Field Meaning RunState) := [
  { name := "resume_mode", required := true,
    update := modeMeaning.map fun mode state => { state with mode } },
  { name := "current_file",
    update := fileMeaning.map fun currentFile state => { state with currentFile } },
  { name := "current_line",
    update := lineMeaning.map fun currentLine state => { state with currentLine } },
  { name := "local_variables",
    update := variablesMeaning.map fun localVariables state => { state with localVariables } },
  { name := "upvalue_variables",
    update := variablesMeaning.map fun upvalueVariables state =>
      { state with upvalueVariables } },
  { name := "global_variables",
    update := variablesMeaning.map fun globalVariables state =>
      { state with globalVariables } }]

theorem fields_mean : List.Forall₂ FieldMeans fields meanings := by
  have hmode : Means ResumeMode.decoder modeMeaning :=
    means_refine _ (means_map _ (means_integer _ _ _))
  have hfile : Means (Format.optional Format.string) fileMeaning := means_optional (means_text _)
  have hline : Means (Format.optional Format.int64) lineMeaning :=
    means_optional (means_integer _ _ _)
  have hvariables : Means variablesDecoder variablesMeaning :=
    means_map _ (means_optional means_anything)
  exact .cons ⟨rfl, rfl, means_map _ hmode⟩ <|
    .cons ⟨rfl, rfl, means_map _ hfile⟩ <|
    .cons ⟨rfl, rfl, means_map _ hline⟩ <|
    .cons ⟨rfl, rfl, means_map _ hvariables⟩ <|
    .cons ⟨rfl, rfl, means_map _ hvariables⟩ <|
    .cons ⟨rfl, rfl, means_map _ hvariables⟩ .nil

/-! ## The state that is filled -/

/-- The state after a member. -/
def put (name : String) (written : Written) (state : RunState) : RunState where
  mode := if name = "resume_mode" then (modeMeaning written).getD .resume else state.mode
  currentFile :=
    if name = "current_file" then (fileMeaning written).getD none else state.currentFile
  currentLine :=
    if name = "current_line" then (lineMeaning written).getD none else state.currentLine
  localVariables :=
    if name = "local_variables" then VariableMap.ofJson written.value else state.localVariables
  upvalueVariables :=
    if name = "upvalue_variables" then VariableMap.ofJson written.value
    else state.upvalueVariables
  globalVariables :=
    if name = "global_variables" then VariableMap.ofJson written.value else state.globalVariables

/-- Every value is taken as a table of variables. -/
theorem variablesMeaning_eq (written : Written) :
    variablesMeaning written = some (VariableMap.ofJson written.value) := by
  cases written <;> rfl

theorem change_eq_put : ∀ field ∈ meanings, ∀ written change,
    field.update written = some change → ∀ state, change state = put field.name written state := by
  have hset : ∀ {α : Type} {meaning : Meaning α} {set : α → RunState → RunState} {name : String},
      (∀ written value, meaning written = some value → ∀ state,
        set value state = put name written state) →
      ∀ written change, (meaning.map set) written = some change →
        ∀ state, change state = put name written state := by
    intro α meaning set name hput written change hchange state
    obtain ⟨value, hvalue, rfl⟩ := Option.map_eq_some_iff.mp hchange
    exact hput written value hvalue state
  simp only [meanings, List.forall_mem_cons]
  refine ⟨hset ?_, hset ?_, hset ?_, hset ?_, hset ?_, hset ?_, by simp⟩
  · intro written mode hmode state
    simp [put, hmode]
  · intro written file hfile state
    simp [put, hfile]
  · intro written line hline state
    simp [put, hline]
  all_goals
    intro written shown hshown state
    rw [variablesMeaning_eq] at hshown
    simp [put, ← Option.some.inj hshown]

section Filled

variable {members : List (String × Written)} {state : RunState}

/-- What a member sets is what the last member of its name sets. -/
theorem get_of_recordOf {α : Type} (get : RunState → α) {value : Written → α} {name : String}
    (hname : name ∈ fieldNames)
    (hput : ∀ other written state, get (put other written state) =
      if other = name then value written else get state)
    (hrecord : recordOf meanings {} members = some state) :
    get state = ((lastMember name members).map value).getD (get {}) := by
  have hknown : ∀ name ∈ fieldNames, (findField meanings name).isSome = true := by decide
  refine get_recordOf (hknown name hname) (fun field hfield written change hchange record => ?_)
    hrecord
  rw [change_eq_put field hfield written change hchange, hput]

/-! ## Meanings spelled out -/

theorem modeMeaning_eq_some_iff {written : Written} {mode : ResumeMode} :
    modeMeaning written = some mode ↔ written.IsInteger mode.code := by
  have hcode : 0 ≤ (mode.code : Int) ∧ (mode.code : Int) ≤ 255 := by cases mode <;> decide
  have hinteger : ∀ value : Int, Meaning.integer 0 255 written = some value ↔
      written.IsInteger value ∧ 0 ≤ value ∧ value ≤ 255 :=
    fun _ => Meaning.integer_eq_some_iff (by decide) (by decide)
  simp only [modeMeaning, Meaning.refine, Meaning.map, Option.bind_eq_some_iff,
    Option.map_eq_some_iff, ResumeMode.toOption_ofCode_eq_some_iff]
  constructor
  · rintro ⟨code, ⟨value, hvalue, rfl⟩, hmode⟩
    obtain ⟨hwritten, hlow, -⟩ := (hinteger value).mp hvalue
    have hsame : (mode.code : Int) = value := by omega
    exact hsame ▸ hwritten
  · intro hwritten
    exact ⟨mode.code, ⟨mode.code, (hinteger _).mpr ⟨hwritten, hcode⟩, rfl⟩, rfl⟩

theorem isSome_modeMeaning_iff {written : Written} : (modeMeaning written).isSome = true ↔
    ∃ code : Nat, code ≤ 4 ∧ written.IsInteger code := by
  rw [Option.isSome_iff_exists]
  constructor
  · rintro ⟨mode, hmode⟩
    exact ⟨mode.code, mode.code_le, modeMeaning_eq_some_iff.mp hmode⟩
  · rintro ⟨code, hcode, hwritten⟩
    obtain ⟨mode, rfl⟩ := ResumeMode.exists_code_eq hcode
    exact ⟨mode, modeMeaning_eq_some_iff.mpr hwritten⟩

theorem text_eq_some_iff {written : Written} {text : String} :
    Meaning.text written = some text ↔ written = .string text := by
  cases written <;> simp [Meaning.text]

theorem isSome_fileMeaning_iff {written : Written} : (fileMeaning written).isSome = true ↔
    written = .null ∨ ∃ text, written = .string text := by
  simp only [fileMeaning, Meaning.isSome_optional_iff, text_eq_some_iff]

theorem integer64_eq_some_iff {written : Written} {line : Int} :
    Meaning.integer (-0x8000000000000000) 0x7fffffffffffffff written = some line ↔
      written.IsInteger line ∧ -0x8000000000000000 ≤ line ∧ line ≤ 0x7fffffffffffffff :=
  Meaning.integer_eq_some_iff (by decide) (by decide)

theorem isSome_lineMeaning_iff {written : Written} : (lineMeaning written).isSome = true ↔
    written = .null ∨ ∃ line : Int, (-0x8000000000000000 ≤ line ∧ line ≤ 0x7fffffffffffffff) ∧
      written.IsInteger line := by
  simp only [lineMeaning, Meaning.isSome_optional_iff, integer64_eq_some_iff, and_comm]

theorem findField_meanings : ∀ field ∈ meanings, findField meanings field.name = some field := by
  simp only [meanings, List.forall_mem_cons]
  exact ⟨rfl, rfl, rfl, rfl, rfl, rfl, by simp⟩

/-- Only the members that are no variables can be refused. -/
theorem accepts_meanings_iff {name : String} {written : Written} :
    Accepts meanings (name, written) ↔
      (name = "resume_mode" → (modeMeaning written).isSome = true) ∧
      (name = "current_file" → (fileMeaning written).isSome = true) ∧
      (name = "current_line" → (lineMeaning written).isSome = true) := by
  have hfields : Accepts meanings (name, written) ↔
      ∀ field ∈ meanings, field.name = name → (field.update written).isSome = true := by
    constructor
    · rintro haccepts field hfield rfl
      exact haccepts field (findField_meanings field hfield)
    · intro hall field hfound
      obtain ⟨hfield, hname⟩ := findField_eq_some hfound
      exact hall field hfield hname
  rw [hfields]
  simp [meanings, Meaning.map, variablesMeaning_eq, @eq_comm _ name]

theorem decodable_iff : (recordOf meanings {} members).isSome = true ↔ Decodable members := by
  have honce : (∀ field ∈ meanings, (members.map (·.1)).count field.name ≤ 1) ↔
      ∀ name ∈ fieldNames, (members.map (·.1)).count name ≤ 1 := by
    have hnames : fieldNames = meanings.map (·.name) := rfl
    rw [hnames, List.forall_mem_map]
  have hrequired : (∀ field ∈ meanings, field.required = true →
      field.name ∈ members.map (·.1)) ↔ "resume_mode" ∈ members.map (·.1) := by
    simp [meanings]
  rw [isSome_recordOf_iff, honce, hrequired]
  constructor
  · rintro ⟨honce, haccepts, hpresent⟩
    have hmember := fun name written hmember =>
      accepts_meanings_iff.mp (haccepts (name, written) hmember)
    exact {
      once := honce
      present := hpresent
      mode := fun written hmode => isSome_modeMeaning_iff.mp ((hmember _ written hmode).1 rfl)
      file := fun written hfile => isSome_fileMeaning_iff.mp ((hmember _ written hfile).2.1 rfl)
      line := fun written hline => isSome_lineMeaning_iff.mp ((hmember _ written hline).2.2 rfl) }
  · intro hdecodable
    refine ⟨hdecodable.once, fun member hmember => ?_, hdecodable.present⟩
    obtain ⟨name, written⟩ := member
    refine accepts_meanings_iff.mpr ⟨?_, ?_, ?_⟩
    · rintro rfl
      exact isSome_modeMeaning_iff.mpr (hdecodable.mode written hmember)
    · rintro rfl
      exact isSome_fileMeaning_iff.mpr (hdecodable.file written hmember)
    · rintro rfl
      exact isSome_lineMeaning_iff.mpr (hdecodable.line written hmember)

/-- The last member of a name has a meaning if all members have. -/
theorem accepts_lastMember (haccepts : ∀ member ∈ members, Accepts meanings member) {name : String}
    {written : Written} (hlast : lastMember name members = some written) :
    (name = "resume_mode" → (modeMeaning written).isSome = true) ∧
      (name = "current_file" → (fileMeaning written).isSome = true) ∧
      (name = "current_line" → (lineMeaning written).isSome = true) :=
  accepts_meanings_iff.mp (haccepts _ (mem_of_lastMember hlast))

/-- What an optional member is read as. -/
theorem optionally_lastMember {α : Type} {meaning : Meaning α} {holds : Written → α → Prop}
    (hmeaning : ∀ written value, meaning written = some value → holds written value)
    {last : Option Written}
    (haccepts : ∀ written ∈ last, (meaning.optional written).isSome = true) :
    Optionally holds last
      ((last.map fun written => (meaning.optional written).getD none).getD none) := by
  cases last with
  | none => exact .absent
  | some written =>
      obtain ⟨found, hfound⟩ := Option.isSome_iff_exists.mp (haccepts written rfl)
      rw [Option.map_some, Option.getD_some, hfound, Option.getD_some]
      cases Meaning.optionally hfound with
      | null => exact .null
      | given hvalue => exact .given (hmeaning _ _ hvalue)

theorem mode_of_recordOf (hrecord : recordOf meanings {} members = some state) :
    ∃ written, lastMember "resume_mode" members = some written ∧
      written.IsInteger state.mode.code := by
  obtain ⟨-, haccepts, hrequired⟩ := isSome_recordOf_iff.mp (Option.isSome_of_eq_some hrecord)
  have hpresent : "resume_mode" ∈ members.map (·.1) := hrequired _ List.mem_cons_self rfl
  obtain ⟨written, hlast⟩ := Option.isSome_iff_exists.mp (isSome_lastMember_iff.mpr hpresent)
  obtain ⟨mode, hmode⟩ := Option.isSome_iff_exists.mp ((accepts_lastMember haccepts hlast).1 rfl)
  have hstate : state.mode = ((lastMember "resume_mode" members).map fun written =>
      (modeMeaning written).getD .resume).getD .resume :=
    get_of_recordOf RunState.mode (by decide) (fun _ _ _ => rfl) hrecord
  rw [hlast, Option.map_some, Option.getD_some, hmode, Option.getD_some] at hstate
  exact ⟨written, hlast, modeMeaning_eq_some_iff.mp (hstate ▸ hmode)⟩

theorem file_of_recordOf (hrecord : recordOf meanings {} members = some state) :
    Optionally (fun written text => written = .string text)
      (lastMember "current_file" members) state.currentFile := by
  obtain ⟨-, haccepts, -⟩ := isSome_recordOf_iff.mp (Option.isSome_of_eq_some hrecord)
  have hstate : state.currentFile = ((lastMember "current_file" members).map fun written =>
      (fileMeaning written).getD none).getD none :=
    get_of_recordOf RunState.currentFile (by decide) (fun _ _ _ => rfl) hrecord
  rw [hstate]
  exact optionally_lastMember (fun _ _ => text_eq_some_iff.mp) fun written hlast =>
    (accepts_lastMember haccepts hlast).2.1 rfl

theorem line_of_recordOf (hrecord : recordOf meanings {} members = some state) :
    Optionally Written.IsInteger (lastMember "current_line" members) state.currentLine := by
  obtain ⟨-, haccepts, -⟩ := isSome_recordOf_iff.mp (Option.isSome_of_eq_some hrecord)
  have hstate : state.currentLine = ((lastMember "current_line" members).map fun written =>
      (lineMeaning written).getD none).getD none :=
    get_of_recordOf RunState.currentLine (by decide) (fun _ _ _ => rfl) hrecord
  rw [hstate]
  exact optionally_lastMember (fun _ _ hline => (integer64_eq_some_iff.mp hline).1)
    fun written hlast => (accepts_lastMember haccepts hlast).2.2 rfl

theorem tabulates_of_recordOf (kind : Scope)
    (hnesting : (Written.object members).value.nesting ≤ nestingLimit)
    (hrecord : recordOf meanings {} members = some state) :
    VariableMap.Tabulates (lastMember (variablesField kind) members) (state.variableMap kind) := by
  have hname : variablesField kind ∈ fieldNames := by cases kind <;> decide
  have hempty : ({} : RunState).variableMap kind = [] := by cases kind <;> rfl
  have hput : ∀ name written (state : RunState), (put name written state).variableMap kind =
      if name = variablesField kind then VariableMap.ofJson written.value
      else state.variableMap kind := fun _ _ _ => by cases kind <;> rfl
  have hstate := get_of_recordOf (fun state => state.variableMap kind) hname hput hrecord
  rw [hempty] at hstate
  rw [hstate]
  cases hlast : lastMember (variablesField kind) members with
  | none => exact VariableMap.tabulates_nil (by simp)
  | some written =>
      exact VariableMap.tabulates_ofJson (Nat.le_trans (nesting_le_of_lastMember hlast) hnesting)

theorem tells_of_recordOf (hnesting : (Written.object members).value.nesting ≤ nestingLimit)
    (hrecord : recordOf meanings {} members = some state) : Tells members state where
  mode := mode_of_recordOf hrecord
  file := file_of_recordOf hrecord
  line := line_of_recordOf hrecord
  tables kind := tabulates_of_recordOf kind hnesting hrecord

end Filled

/-- The text of an object is decoded as a run state just if the fields of one are there, none of
them twice and each of its type; the variables may be anything, and other members do not count. -/
theorem decoded_as_written {text : List UInt8} {found : List (String × Json)}
    (hparse : parse text = .ok (.object found)) :
    ∃ members : List (String × Written),
      writing text = .ok (.object members) ∧ (Written.object members).value = .object found ∧
      ((∃ state, TextDecoder.decode decoder text = .ok state) ↔ Decodable members) ∧
      ∀ state, TextDecoder.decode decoder text = .ok state → Tells members state := by
  -- The parsed members do not tell what is given twice, nor how numbers are spelled.
  rw [parse_eq_writing] at hparse
  obtain ⟨written, hwriting, hvalue⟩ := map_eq_ok.mp hparse
  cases written with
  | object members =>
      refine ⟨members, hwriting, hvalue, ?_⟩
      have hdecode : (TextDecoder.decode decoder text).toOption = recordOf meanings {} members :=
        toOption_decode hwriting fun depth fuel left hread =>
          toOption_readRecord fields_mean "ResumeState" {} hread
      have hnesting := nesting_le_of_writing hwriting
      constructor
      · rw [← decodable_iff, ← hdecode]
        cases TextDecoder.decode decoder text <;> simp [Except.toOption]
      · intro state hstate
        rw [hstate] at hdecode
        exact tells_of_recordOf hnesting hdecode.symm
  | _ => cases hvalue

/-- A text that gives a variable twice, with numbers that are no integers and more than the
fields. -/
def variableTwice : List UInt8 := Text.encodeUtf8
  "\x7b\"local_variables\": \x7b\"__isObject\": true, \"x\": 1.5, \"x\": [-2, null]\x7d,
    \"resume_mode\": 3, \"reason\": 1e2\x7d"

theorem decoded_as_written_variableTwice :
    ∃ members state, writing variableTwice = .ok (.object members) ∧ Decodable members ∧
      Tells members state ∧ state.mode = .stepOver ∧
      state.localVariables = [("x", .table "[-2,null]")] := by
  have hmember : ((parse variableTwice).toOption.bind (member? "resume_mode")).isSome = true := by
    decide +kernel
  have hfields : (TextDecoder.decode decoder variableTwice).toOption.map
      (fun state => (state.mode, state.localVariables)) =
        some (.stepOver, [("x", .table "[-2,null]")]) := by decide +kernel
  cases hparse : parse variableTwice with
  | error failure =>
      rw [hparse] at hmember
      cases hmember
  | ok value =>
      cases value with
      | object found =>
          obtain ⟨members, hwriting, -, hdecodable, htells⟩ := decoded_as_written hparse
          cases hdecode : TextDecoder.decode decoder variableTwice with
          | error failure =>
              rw [hdecode] at hfields
              cases hfields
          | ok state =>
              rw [hdecode] at hfields
              obtain ⟨hmode, hlocals⟩ := Prod.mk.inj (Option.some.inj hfields)
              exact ⟨members, state, hwriting, hdecodable.mp ⟨state, hdecode⟩,
                htells state hdecode, hmode, hlocals⟩
      | _ =>
          rw [hparse] at hmember
          cases hmember

end RunState

end DebugBridge
