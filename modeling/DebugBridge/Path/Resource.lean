import DebugBridge.Path.Normal

/-!
# Editor paths and resource paths

The editor names files by absolute paths on the server's machine.  The backend names the file of a
breakpoint by its path below the debugged resource, in lower case, and the file of a pause by its
path below the resources root.  Both directories of a resource are kept with a slash at their ends.
-/

namespace DebugBridge

/-- The directories of one attached resource. -/
structure ResourceDirectories where
  resourcesRoot : List Char
  resourcePath : List Char
deriving DecidableEq

namespace ResourceDirectories

open DebugBridge.Path

/-- Appends a slash unless there is one or the path is empty. -/
def asDirectory (path : List Char) : List Char := if path.isEmpty then [] else closed path

/-- The directories of a resource, from the server's directory, the resources directory below it,
and the directory of the resource below that. -/
def ofDirectories (serverPath resourcesSubdir resourcePath : String) : ResourceDirectories :=
  let root := asDirectory (normalChars
    (serverPath.toList ++ '/' :: resourcesSubdir.toList ++ ['/']))
  { resourcesRoot := root
    resourcePath := asDirectory (normalChars (root ++ resourcePath.toList)) }

/-- What follows `start` in a text, if the text begins with it. -/
def stripStart : List Char → List Char → Option (List Char)
  | [], text => some text
  | _ :: _, [] => none
  | s :: start, c :: text => if s = c then stripStart start text else none

/-- The backend's name for an editor path: lower case, below the resource where the path is. -/
def backendName (directories : ResourceDirectories) (path : String) : String :=
  let lower := Text.lowerAfter [] (normalChars path.toList)
  String.ofList ((stripStart (Text.lowerAfter [] directories.resourcePath) lower).getD lower)

/-- The editor path of a file below the resource. -/
def editorPath (directories : ResourceDirectories) (relative : String) : String :=
  String.ofList
    (directories.resourcePath ++ (unifySlashes relative.toList).dropWhile (· == '/'))

/-- The editor path of a file below the resources root. -/
def pausePath (directories : ResourceDirectories) (file : String) : String :=
  String.ofList (normalChars (directories.resourcesRoot ++ file.toList.dropWhile isSlash))

end ResourceDirectories

end DebugBridge
