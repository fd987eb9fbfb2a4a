import DebugBridge.Decimal.Binary64

/-!
# JSON values

A JSON value keeps integers apart from other numbers, and keeps the members of an object in
ascending order of their names, each name once.
-/

namespace DebugBridge

namespace Json

/-- A number: an integer of at most 64 bits, signed or unsigned, or a binary64 number. -/
inductive Number
  | int (value : Int)
  | float (value : Binary64)
deriving DecidableEq, Inhabited

end Json

inductive Json
  | null
  | bool (value : Bool)
  | number (value : Json.Number)
  | string (value : String)
  | array (items : List Json)
  | object (members : List (String × Json))
deriving Inhabited

namespace Json

/-- Puts a member in its place; a member of the same name is replaced. -/
def insertMember {α : Type} (name : String) (value : α) :
    List (String × α) → List (String × α)
  | [] => [(name, value)]
  | (other, old) :: rest =>
    if name = other then (name, value) :: rest
    else if name < other then (name, value) :: (other, old) :: rest
    else (other, old) :: insertMember name value rest

/-- Members in ascending order; of two members with one name the later one counts. -/
def sortMembers {α : Type} (members : List (String × α)) : List (String × α) :=
  members.foldl (fun sorted member => insertMember member.1 member.2 sorted) []

/-- The object with these members. -/
def ofMembers (members : List (String × Json)) : Json := .object (sortMembers members)

def int (value : Int) : Json := .number (.int value)

def nat (value : Nat) : Json := .int value

def lookup {α : Type} (name : String) (members : List (String × α)) : Option α :=
  (members.find? fun member => member.1 == name).map (·.2)

/-- The member of an object; nothing when there is none or the value is no object. -/
def member? (name : String) : Json → Option Json
  | .object members => lookup name members
  | _ => none

def string? : Json → Option String
  | .string value => some value
  | _ => none

/-- Whether an integer fits into 64 bits with a sign. -/
def fitsInt64 (value : Int) : Bool := -0x8000000000000000 ≤ value && value < 0x8000000000000000

/-- The value as a signed 64-bit integer. -/
def int64? : Json → Option Int
  | .number (.int value) => if fitsInt64 value then some value else none
  | _ => none

/-- The value as a natural number. -/
def nat? : Json → Option Nat
  | .number (.int value) => if 0 ≤ value then some value.toNat else none
  | _ => none

def bool? : Json → Option Bool
  | .bool value => some value
  | _ => none

def isNull : Json → Bool
  | .null => true
  | _ => false

end Json

end DebugBridge
