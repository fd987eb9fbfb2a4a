import DebugBridge.Json.Value

/-!
# Breakpoints

The breakpoints of each source, under the path by which the editor names it.  Setting the
breakpoints of a source replaces all it had; identifiers grow over the whole session.
-/

namespace DebugBridge

/-- A breakpoint as the editor knows it; lines are taken on trust. -/
structure Breakpoint where
  id : Nat
  /-- Counted as the editor counts. -/
  line : Int
  verified : Bool
  sourcePath : String
deriving DecidableEq

def Breakpoint.toJson (breakpoint : Breakpoint) : Json :=
  .ofMembers [
    ("id", .nat breakpoint.id),
    ("verified", .bool breakpoint.verified),
    ("line", .int breakpoint.line),
    ("source", .ofMembers [("path", .string breakpoint.sourcePath)])]

/-- Breakpoints by source path, in ascending order of the paths; no source has an empty list. -/
structure SourceBreakpoints where
  nextId : Nat := 1000
  bySource : List (String × List Breakpoint) := []

namespace SourceBreakpoints

/-- Breakpoints for these lines of a source, with identifiers from `id` on. -/
def numbered (sourcePath : String) : Nat → List Int → List Breakpoint
  | _, [] => []
  | id, line :: lines =>
    { id, line, verified := true, sourcePath } :: numbered sourcePath (id + 1) lines

def erase (sourcePath : String) (bySource : List (String × List Breakpoint)) :
    List (String × List Breakpoint) :=
  bySource.filter fun entry => entry.1 != sourcePath

/-- Replaces the breakpoints of a source by new ones, in the order of the lines. -/
def replace (known : SourceBreakpoints) (sourcePath : String) (lines : List Int) :
    List Breakpoint × SourceBreakpoints :=
  let breakpoints := numbered sourcePath known.nextId lines
  let bySource :=
    if breakpoints.isEmpty then erase sourcePath known.bySource
    else Json.insertMember sourcePath breakpoints known.bySource
  (breakpoints, { nextId := known.nextId + lines.length, bySource })

/-- Every breakpoint, source by source. -/
def toList (known : SourceBreakpoints) : List Breakpoint := known.bySource.flatMap (·.2)

end SourceBreakpoints

end DebugBridge
