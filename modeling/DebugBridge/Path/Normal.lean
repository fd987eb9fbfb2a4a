import DebugBridge.Text.Lowercase

/-!
# Normal forms of paths

Paths are plain texts and the file system is never asked.  Both slashes separate segments;
`normalForm` writes `/`, drops empty and `.` segments, resolves `..` against the segments before it,
and keeps a slash at the end.  A drive such as `C:` is never left by `..`.
-/

namespace DebugBridge.Path

/-- Splits at slashes; there is one segment more than there are slashes. -/
def splitSlashes : List Char → List (List Char)
  | [] => [[]]
  | c :: rest =>
    if c = '/' then [] :: splitSlashes rest
    else match splitSlashes rest with
      | segment :: segments => (c :: segment) :: segments
      | [] => [[c]]

def joinSlashes : List (List Char) → List Char
  | [] => []
  | [segment] => segment
  | segment :: segments => segment ++ '/' :: joinSlashes segments

def unifySlashes (path : List Char) : List Char :=
  path.map fun c => if c = '\\' then '/' else c

def isLetter (c : Char) : Bool := ('a' ≤ c && c ≤ 'z') || ('A' ≤ c && c ≤ 'Z')

/-- Whether a segment is a drive: a letter and a colon. -/
def isDriveName : List Char → Bool
  | [letter, ':'] => isLetter letter
  | _ => false

/-- Resolves one more segment; `kept` holds the segments before it, the last one first. -/
def resolveSegment (absolute : Bool) (kept : List (List Char)) (segment : List Char) :
    List (List Char) :=
  if segment = [] ∨ segment = ['.'] then kept
  else if segment = ['.', '.'] then
    match kept with
    | last :: before =>
      if isDriveName last then kept
      else if last = ['.', '.'] then (if absolute then kept else segment :: kept)
      else before
    | [] => if absolute then [] else [segment]
  else segment :: kept

def resolve (absolute : Bool) (segments : List (List Char)) : List (List Char) :=
  (segments.foldl (resolveSegment absolute) []).reverse

def isAbsolute (path : List Char) : Bool := path.head? == some '/'

def endsInSlash (path : List Char) : Bool := path.getLast? == some '/'

/-- Appends a slash unless there is one. -/
def closed (path : List Char) : List Char := if endsInSlash path then path else path ++ ['/']

def normalChars (path : List Char) : List Char :=
  let unified := unifySlashes path
  let absolute := isAbsolute unified
  let joined := joinSlashes (resolve absolute (splitSlashes unified))
  let rooted := if absolute then '/' :: joined else joined
  if endsInSlash unified && 1 < unified.length then closed rooted else rooted

/-- The normal form of a path. -/
def normalForm (path : String) : String := String.ofList (normalChars path.toList)

def isSlash (c : Char) : Bool := c == '/' || c == '\\'

/-- What follows the last slash. -/
def lastPart (path : String) : String :=
  String.ofList (path.toList.reverse.takeWhile fun c => !isSlash c).reverse

end DebugBridge.Path
