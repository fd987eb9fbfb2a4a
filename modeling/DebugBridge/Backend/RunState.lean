import DebugBridge.Decode.Format
import DebugBridge.Json.Print

/-!
# Run states of the backend

The backend reports for each context whether it runs or is paused, and with a pause the place and
the variables there.  Modes travel as small integers; variable tables travel as objects, and an
empty table may come as a list or null.
-/

namespace DebugBridge

/-- Run state of one context. -/
inductive ResumeMode
  | resume
  | paused
  | stepInto
  | stepOver
  | stepOut
deriving DecidableEq, Inhabited, Repr

namespace ResumeMode

def code : ResumeMode → Nat
  | .resume => 0
  | .paused => 1
  | .stepInto => 2
  | .stepOver => 3
  | .stepOut => 4

def ofCode? : Nat → Option ResumeMode
  | 0 => some .resume
  | 1 => some .paused
  | 2 => some .stepInto
  | 3 => some .stepOver
  | 4 => some .stepOut
  | _ => none

def name : ResumeMode → String
  | .resume => "Resume"
  | .paused => "Paused"
  | .stepInto => "StepInto"
  | .stepOver => "StepOver"
  | .stepOut => "StepOut"

theorem ofCode?_code (mode : ResumeMode) : ofCode? mode.code = some mode := by
  cases mode <;> rfl

/-- What is said of a code that no mode has. -/
def unknownCode (code : Nat) : String := "unknown resume mode " ++ toString code

def ofCode (code : Nat) : Except String ResumeMode :=
  match ofCode? code with
  | some mode => .ok mode
  | none => .error (unknownCode code)

def decoder {F : Type → Type} [Format F] : F ResumeMode := Format.refine ofCode Format.byte

end ResumeMode

/-- A variable captured at a pause. -/
inductive ScriptValue
  /-- A string, number, boolean or nil, in the script side's words. -/
  | plain (text : String)
  /-- A nested table as compact JSON. -/
  | table (text : String)
deriving DecidableEq, Inhabited

namespace ScriptValue

def ofJson : Json → ScriptValue
  | .string value => .plain value
  | .null => .plain "nil"
  | .bool value => .plain (Json.bool value).print
  | .number value => .plain (Json.number value).print
  | .array items => .table (Json.array items).print
  | .object members => .table (Json.object members).print

def text : ScriptValue → String
  | .plain text => text
  | .table text => text

def typeName : ScriptValue → String
  | .plain _ => "string"
  | .table _ => "table"

end ScriptValue

/-- Variables in ascending order of their names. -/
abbrev VariableMap := List (String × ScriptValue)

/-- The key by which the script side keeps an empty table an object; no variable has this name. -/
def objectMarkerKey : String := "__isObject"

def VariableMap.ofJson : Json → VariableMap
  | .object members =>
    (members.filter fun member => member.1 != objectMarkerKey).map fun member =>
      (member.1, ScriptValue.ofJson member.2)
  | _ => []

/-- A run state with the snapshot of the last pause. -/
structure RunState where
  mode : ResumeMode := .resume
  currentFile : Option String := none
  /-- Counted from zero. -/
  currentLine : Option Int := none
  localVariables : VariableMap := []
  upvalueVariables : VariableMap := []
  globalVariables : VariableMap := []

namespace RunState

variable {F : Type → Type} [JsonFormat F]

/-- A variable table: anything but an object is an empty one. -/
def variablesDecoder : F VariableMap :=
  Format.map (fun value => VariableMap.ofJson (value.getD .null))
    (Format.optional JsonFormat.anything)

def fields : List (Field F RunState) := [
  Format.requiredField "resume_mode" ResumeMode.decoder fun mode state => { state with mode },
  Format.field "current_file" (Format.optional Format.string) fun currentFile state =>
    { state with currentFile },
  Format.field "current_line" (Format.optional Format.int64) fun currentLine state =>
    { state with currentLine },
  Format.field "local_variables" variablesDecoder fun localVariables state =>
    { state with localVariables },
  Format.field "upvalue_variables" variablesDecoder fun upvalueVariables state =>
    { state with upvalueVariables },
  Format.field "global_variables" variablesDecoder fun globalVariables state =>
    { state with globalVariables }]

def decoder : F RunState := Format.record "ResumeState" false fields {}

end RunState

/-- Which resource is being debugged. -/
structure ResourceInfo where
  name : Option String := none
  /-- The resource's directory below the resources root. -/
  path : Option String := none

namespace ResourceInfo

def filled (field : Option String) : Bool := field.any fun text => !text.isEmpty

/-- The backend leaves the fields empty until the resource has started. -/
def hasStarted (info : ResourceInfo) : Bool := filled info.name && filled info.path

def decoder {F : Type → Type} [Format F] : F ResourceInfo :=
  Format.record "ResourceInfo" false [
    Format.field "resource_name" (Format.optional Format.string) fun name info =>
      { info with name },
    Format.field "resource_path" (Format.optional Format.string) fun path info =>
      { info with path }] {}

def optionalText : Option String → Json
  | some text => .string text
  | none => .null

def toJson (info : ResourceInfo) : Json :=
  .ofMembers [("resource_name", optionalText info.name), ("resource_path", optionalText info.path)]

end ResourceInfo

/-- The reply to a request for an evaluation's result. -/
structure EvalResult where
  text : Option String := none

def EvalResult.decoder {F : Type → Type} [Format F] : F EvalResult :=
  Format.record "EvalResultBody" false [
    Format.field "eval_result" (Format.optional Format.string) fun text result =>
      { result with text }] {}

end DebugBridge
