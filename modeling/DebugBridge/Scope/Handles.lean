/-!
# Handles

Numbers handed to the editor in place of values.  Handles start at `firstHandle`, grow by one with
each allocation, and are never taken back; zero stands for "no children" and is never a handle.
-/

namespace DebugBridge

/-- The values handed out so far, in the order of their handles. -/
structure Handles (α : Type) where
  entries : Array α := #[]

namespace Handles

variable {α : Type}

def firstHandle : Nat := 1000

def add (table : Handles α) (value : α) : Nat × Handles α :=
  (firstHandle + table.entries.size, ⟨table.entries.push value⟩)

def get? (table : Handles α) (handle : Int) : Option α :=
  if (firstHandle : Int) ≤ handle then table.entries[(handle - firstHandle).toNat]? else none

end Handles

/-- Which variables of a pause a scope shows. -/
inductive Scope
  | locals
  | closure
  | globals
deriving DecidableEq, Inhabited, Repr

namespace Scope

/-- The scopes of a frame, in the order in which they are listed. -/
def all : List Scope := [.locals, .closure, .globals]

def label : Scope → String
  | .locals => "Local"
  | .closure => "Closure"
  | .globals => "Global"

end Scope

/-- A scope of a frame. -/
structure FrameScope where
  kind : Scope
  frameId : Int
deriving DecidableEq

end DebugBridge
