import DebugBridge.Backend.Client
import DebugBridge.Proofs.Json.Members
import DebugBridge.Proofs.Results
import DebugBridge.Scope.Handles

/-!
# Replies of the backend

What holds of every run state, whatever reply it was read off: its variables stand in the order of
their names, each once, and the marker of empty tables is not among them.
-/

namespace DebugBridge

/-! ## Variables -/

/-- The variables are in order, each of them once, and the marker is none of them. -/
structure VariableMap.Proper (shown : VariableMap) : Prop where
  ascending : Json.Ascending shown
  unmarked : ∀ entry ∈ shown, entry.1 ≠ objectMarkerKey

theorem VariableMap.proper_nil : VariableMap.Proper [] where
  ascending := List.Pairwise.nil
  unmarked := by simp

theorem VariableMap.proper_ofJson {value : Json}
    (hvalue : ∀ members, value = .object members → Json.Ascending members) :
    (VariableMap.ofJson value).Proper := by
  cases value with
  | object members =>
      constructor
      · have hnames : (VariableMap.ofJson (.object members)).map (·.1) =
            (members.map (·.1)).filter fun name => name != objectMarkerKey := by
          rw [VariableMap.ofJson, List.map_map, List.filter_map]
          rfl
        rw [Json.Ascending, hnames]
        exact List.Pairwise.filter _ (hvalue members rfl)
      · intro entry hentry
        obtain ⟨member, hmember, rfl⟩ := List.mem_map.mp hentry
        simpa using (List.mem_filter.mp hmember).2
  | null => exact proper_nil
  | bool value => exact proper_nil
  | number value => exact proper_nil
  | string value => exact proper_nil
  | array items => exact proper_nil

namespace RunState

/-- The variables of a scope. -/
def variableMap (state : RunState) : Scope → VariableMap
  | .locals => state.localVariables
  | .closure => state.upvalueVariables
  | .globals => state.globalVariables

/-- The variables of every scope are in order. -/
def Proper (state : RunState) : Prop := ∀ kind, (state.variableMap kind).Proper

theorem proper_default : ({} : RunState).Proper := by
  intro kind
  cases kind <;> exact VariableMap.proper_nil

end RunState

/-! ## Objects and records as they are read -/

section Readers

variable {depth fuel : Nat} {input rest : List UInt8}

/-- An object that is read has its members in order. -/
theorem Json.ascending_of_readValue {value : Json}
    (hread : Json.readValue depth fuel input = .ok (value, rest)) :
    ∀ members, value = .object members → Json.Ascending members := by
  rintro members rfl
  unfold Json.readValue at hread
  repeat' split at hread
  -- Whatever does not begin with a brace is read as something else.
  all_goals first
    | cases hread
    | obtain ⟨read, -, hmade⟩ := map_eq_ok.mp hread
      cases hmade
  exact ascending_sortMembers _

namespace TextDecoder

variable {Record α : Type} {holds : Record → Prop}

/-- Whatever the field is read as, setting it keeps a property of the record. -/
def Keeps (holds : Record → Prop) (field : Field TextDecoder Record) : Prop :=
  ∀ depth fuel input change rest, field.update.run depth fuel input = .ok (change, rest) →
    ∀ record, holds record → holds (change record)

theorem keeps_map {name : String} {required : Bool} {value : TextDecoder α}
    {set : α → Record → Record}
    (hset : ∀ depth fuel input read rest, value.run depth fuel input = .ok (read, rest) →
      ∀ record, holds record → holds (set read record)) :
    Keeps holds { name, required, update := Format.map set value } := by
  intro depth fuel input change rest hread
  obtain ⟨read, hvalue, hmade⟩ := map_eq_ok.mp hread
  cases hmade
  exact hset depth fuel input read.1 read.2 hvalue

variable {fields : List (Field TextDecoder Record)}

theorem holds_of_readFields (hkeeps : ∀ field ∈ fields, Keeps holds field) {closed : Bool}
    {loops : Nat} {first : Bool} {seen names : List String} {record last : Record}
    (hrecord : holds record)
    (hread : readFields closed fields depth loops fuel first seen record input =
      .ok ((names, last), rest)) : holds last := by
  induction fuel generalizing first seen record input with
  | zero => cases hread
  | succ fuel ih =>
      unfold readFields at hread
      split at hread
      · cases hread
      · cases hread
        exact hrecord
      · split at hread
        · cases hread
        · next name tail _ =>
            split at hread
            · next field hfield =>
                split at hread
                · cases hread
                · split at hread
                  · cases hread
                  · split at hread
                    · cases hread
                    · next change _ hchange =>
                        have hfound : field ∈ fields := List.mem_of_find?_eq_some hfield
                        exact ih (hkeeps field hfound _ _ _ _ _ hchange record hrecord) hread
            · split at hread
              · cases hread
              · split at hread
                · cases hread
                · split at hread
                  · cases hread
                  · exact ih hrecord hread

theorem holds_of_readPositions (hkeeps : ∀ field ∈ fields, Keeps holds field) {name : String}
    {total loops done : Nat} {record last : Record} (hrecord : holds record)
    (hread : readPositions name total depth loops fields done record input = .ok (last, rest)) :
    holds last := by
  induction fields generalizing done record input with
  | nil =>
      cases hread
      exact hrecord
  | cons field fields ih =>
      obtain ⟨hfield, hfields⟩ := List.forall_mem_cons.mp hkeeps
      unfold readPositions at hread
      split at hread
      · cases hread
      · split at hread
        · cases hread
        · exact ih hfields hrecord hread
      · split at hread
        · cases hread
        · next change _ hchange =>
            exact ih hfields (hfield _ _ _ _ _ hchange record hrecord) hread

/-- What holds of the defaults and is kept by every field holds of every record that is read. -/
theorem holds_of_readRecord (hkeeps : ∀ field ∈ fields, Keeps holds field) {name : String}
    {closed : Bool} {defaults record : Record} (hdefaults : holds defaults)
    (hread : readRecord name closed fields defaults depth fuel input = .ok (record, rest)) :
    holds record := by
  unfold readRecord at hread
  split at hread
  · cases hread
  · split at hread
    · split at hread
      · cases hread
      · split at hread
        · cases hread
        · next hpositions =>
            obtain ⟨read, -, hmade⟩ := map_eq_ok.mp hread
            cases hmade
            exact holds_of_readPositions hkeeps hdefaults hpositions
    · split at hread
      · split at hread
        · cases hread
        · split at hread
          · cases hread
          · next hfields =>
              split at hread
              · cases hread
              · obtain ⟨read, -, hmade⟩ := map_eq_ok.mp hread
                cases hmade
                exact holds_of_readFields hkeeps hdefaults hfields
      · cases hread

theorem decode_eq_ok {decoder : TextDecoder α} {text : List UInt8} {value : α}
    (hdecoded : decoder.decode text = .ok value) :
    ∃ rest, decoder.run Json.nestingLimit (text.length + 1) text = .ok (value, rest) := by
  unfold decode Json.readWhole at hdecoded
  split at hdecoded
  · cases hdecoded
  · next read rest hread =>
      split at hdecoded
      · cases hdecoded
        exact ⟨rest, hread⟩
      · cases hdecoded

end TextDecoder

end Readers

/-! ## Run states -/

namespace RunState

theorem proper_of_variablesDecoder {depth fuel : Nat} {input rest : List UInt8}
    {shown : VariableMap}
    (hread : (variablesDecoder : TextDecoder VariableMap).run depth fuel input =
      .ok (shown, rest)) : shown.Proper := by
  obtain ⟨⟨read, _⟩, hvalue, hmade⟩ := map_eq_ok.mp hread
  cases hmade
  refine VariableMap.proper_ofJson ?_
  change TextDecoder.readOptional Json.readValue depth fuel input = _ at hvalue
  unfold TextDecoder.readOptional at hvalue
  split at hvalue
  · obtain ⟨behind, -, hnone⟩ := map_eq_ok.mp hvalue
    cases hnone
    simp
  · obtain ⟨⟨value, _⟩, hfound, hsome⟩ := map_eq_ok.mp hvalue
    cases hsome
    exact Json.ascending_of_readValue hfound

theorem keeps_fields : ∀ field ∈ (fields : List (Field TextDecoder RunState)),
    TextDecoder.Keeps Proper field := by
  have hplain : ∀ {α : Type} {name : String} {required : Bool} {value : TextDecoder α}
      {set : α → RunState → RunState},
      (∀ read state kind, (set read state).variableMap kind = state.variableMap kind) →
      TextDecoder.Keeps Proper { name, required, update := Format.map set value } := by
    intro α name required value set hset
    refine TextDecoder.keeps_map fun _ _ _ read _ _ state hproper kind => ?_
    rw [hset]
    exact hproper kind
  have hvariables : ∀ {name : String} {required : Bool} (mine : Scope)
      {set : VariableMap → RunState → RunState},
      (∀ read state kind, (set read state).variableMap kind =
        if kind = mine then read else state.variableMap kind) →
      TextDecoder.Keeps Proper
        { name, required, update := Format.map set variablesDecoder } := by
    intro name required mine set hset
    refine TextDecoder.keeps_map fun _ _ _ read _ hread state hproper kind => ?_
    rw [hset]
    split
    · exact proper_of_variablesDecoder hread
    · exact hproper kind
  simp only [fields, List.forall_mem_cons]
  refine ⟨hplain ?_, hplain ?_, hplain ?_, hvariables .locals ?_, hvariables .closure ?_,
    hvariables .globals ?_, by simp⟩ <;>
    exact fun read state kind => by cases kind <;> rfl

end RunState

namespace BackendClient

/-- A reply is decoded when it is whole and its status says that it is good. -/
theorem decoded_eq_ok {α : Type} {decoder : TextDecoder α} {call : BackendCall}
    {outcome : Outcome} {value : α} (hdecoded : decoded decoder call outcome = .ok value) :
    ∃ reply, outcome = .ok reply ∧ decoder.decode reply.body = .ok value := by
  cases outcome with
  | error fault => cases hdecoded
  | ok reply =>
      simp only [decoded, bind, Except.bind] at hdecoded
      split at hdecoded
      · cases hdecoded
      · split at hdecoded
        · cases hdecoded
        · split at hdecoded
          · next hread =>
              cases hdecoded
              exact ⟨reply, rfl, hread⟩
          · cases hdecoded

/-- Every run state that is read off a reply has its variables in order. -/
theorem proper_of_runState {suffix : String} {outcome : Outcome} {state : RunState}
    (hreply : runState suffix outcome = .ok state) : state.Proper := by
  obtain ⟨reply, -, hdecoded⟩ := decoded_eq_ok hreply
  obtain ⟨rest, hread⟩ := TextDecoder.decode_eq_ok hdecoded
  have hrecord : TextDecoder.readRecord "ResumeState" false RunState.fields {}
      Json.nestingLimit (reply.body.length + 1) reply.body = .ok (state, rest) := hread
  exact TextDecoder.holds_of_readRecord RunState.keeps_fields RunState.proper_default hrecord

end BackendClient

end DebugBridge
