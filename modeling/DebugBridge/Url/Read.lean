import DebugBridge.Url.Form

/-!
# Reading URLs

Reads absolute URLs as browsers do, and resolves relative paths against them.  Blanks and controls
at the ends are dropped, tabs and line ends everywhere; backslashes count as slashes in the schemes
of the web; `.` and `..` segments are resolved.
-/

namespace DebugBridge.Url

/-- The text without what a URL ignores. -/
def clean (text : List Char) : List Char :=
  let isEdge (c : Char) : Bool := c.toNat ≤ 0x20
  let trimmed := ((text.dropWhile isEdge).reverse.dropWhile isEdge).reverse
  trimmed.filter fun c => !(c == '\t' || c == '\n' || c == '\r')

def isLetter (c : Char) : Bool := ('a' ≤ c && c ≤ 'z') || ('A' ≤ c && c ≤ 'Z')

def isSchemeChar (c : Char) : Bool :=
  isLetter c || c.isDigit || c == '+' || c == '-' || c == '.'

/-- The scheme in lower case, and what follows its colon. -/
def splitScheme? (text : List Char) : Option (String × List Char) :=
  let name := text.takeWhile isSchemeChar
  match text.drop name.length with
  | ':' :: rest =>
    if name.head?.any isLetter then some (String.ofList (name.map Char.toLower), rest) else none
  | _ => none

/-- What ends a segment of a path. -/
def isSegmentEnd (special : Bool) (c : Char) : Bool := c == '/' || (special && c == '\\')

def startsTail (c : Char) : Bool := c == '?' || c == '#'

/-! ## Paths -/

/-- A letter and a colon, or a bar that stands for one. -/
def isDriveLetter : List Char → Bool
  | [letter, ':'] => isLetter letter
  | [letter, '|'] => isLetter letter
  | _ => false

/-- `.` may be written `%2e`. -/
def unescapeDots : List Char → List Char
  | '%' :: '2' :: 'e' :: rest => '.' :: unescapeDots rest
  | '%' :: '2' :: 'E' :: rest => '.' :: unescapeDots rest
  | c :: rest => c :: unescapeDots rest
  | [] => []

def isSingleDot (segment : List Char) : Bool := unescapeDots segment = ['.']

def isDoubleDot (segment : List Char) : Bool := unescapeDots segment = ['.', '.']

/-- The path without its last segment; a drive stays. -/
def shorten (file : Bool) : List (List Char) → List (List Char)
  | [] => []
  | last :: before =>
    if file && isDriveLetter last && last.getLast? == some ':' then last :: before else before

/-- An ordinary segment as it is kept behind `before`. -/
def keptSegment (file : Bool) (before : List (List Char)) (segment : List Char) : List Char :=
  match segment with
  | [letter, _] =>
    if file && before.all List.isEmpty && isDriveLetter segment then [letter, ':']
    else percentEncode inPathSet segment
  | _ => percentEncode inPathSet segment

/-- Resolves segments one by one; `kept` holds those before them, the last one first. -/
def resolve (file : Bool) : (kept : List (List Char)) → List (List Char) → List (List Char)
  | kept, [] => kept.reverse
  | kept, segment :: rest =>
    let isLast := rest.isEmpty
    if isDoubleDot segment then
      let shorter := shorten file kept
      resolve file (if isLast then [] :: shorter else shorter) rest
    else if isSingleDot segment then resolve file (if isLast then [] :: kept else kept) rest
    else resolve file (keptSegment file kept segment :: kept) rest

/-- Empty segments before the first other one mean nothing in a path of a file. -/
def dropLeadingEmpty : List (List Char) → List (List Char)
  | [] :: segment :: segments => dropLeadingEmpty (segment :: segments)
  | segments => segments

/-- The segments that a path text gives behind those in `base`. -/
def resolvePath (scheme : String) (base : List (List Char)) (text : List Char) :
    List (List Char) :=
  let file := scheme == "file"
  let segments := resolve file base.reverse (splitAt (isSegmentEnd (isSpecial scheme)) text)
  if file then dropLeadingEmpty segments else segments

/-- Adds query and fragment, which `rest` begins with. -/
def withTail (url : Url) (rest : List Char) : Url :=
  let fragmentOf (text : List Char) : Option (List Char) :=
    match text with
    | '#' :: text => some (percentEncode inFragmentSet text)
    | _ => none
  match rest with
  | '?' :: rest =>
    let query := rest.takeWhile (· != '#')
    { url with
      query := some (percentEncode (inQuerySet (isSpecial url.scheme)) query)
      fragment := fragmentOf (rest.drop query.length) }
  | rest => { url with fragment := fragmentOf rest }

/-- A URL from its scheme and authority and the text from the path on. -/
def ofPathText (scheme : String) (authority : Option Authority) (text : List Char) : Url :=
  let path := text.takeWhile fun c => !startsTail c
  withTail { scheme, authority, path := .rooted (resolvePath scheme [] path) }
    (text.drop path.length)

/-! ## Authorities -/

/-- Splits at the last `@`. -/
def splitCredentials (text : List Char) : Option (List Char × List Char) :=
  if text.contains '@' then
    let host := (text.reverse.takeWhile (· != '@')).reverse
    some (text.take (text.length - host.length - 1), host)
  else none

/-- Length of the host in front of a port: a colon between square brackets belongs to it. -/
def hostLength (special : Bool) : (inBrackets : Bool) → List Char → Nat
  | _, [] => 0
  | inBrackets, c :: rest =>
    if (c == ':' && !inBrackets) || (special && c == '\\') then 0
    else hostLength special (if c == '[' then true else if c == ']' then false else inBrackets) rest
      + 1

/-- The port at the start of a text, and what follows it. -/
def readPort (scheme : String) (text : List Char) :
    Except UrlFault (Option Nat × List Char) :=
  let digits := text.takeWhile Char.isDigit
  let rest := text.drop digits.length
  let value := (numberIn? 10 digits).getD 0
  if 65535 < value then .error .invalidPort
  else if rest.head?.any fun c => !(c == '/' || c == '\\' || startsTail c) then
    .error .invalidPort
  else if digits.isEmpty || defaultPort? scheme = some value then .ok (none, rest)
  else .ok (some value, rest)

/-- User and password, in front of the last `@`. -/
def readCredentials (text : List Char) : List Char × List Char :=
  let user := text.takeWhile (· != ':')
  (percentEncode inUserinfoSet user,
    percentEncode inUserinfoSet (text.drop (user.length + 1)))

/-- The path behind an authority. -/
def afterAuthority (scheme : String) (authority : Authority) (rest : List Char) : Url :=
  let special := isSpecial scheme
  if !special && (rest.isEmpty || rest.head?.any startsTail) then
    withTail { scheme, authority := some authority, path := .rooted [] } rest
  else match rest with
    | c :: tail =>
      ofPathText scheme (some authority) (if isSegmentEnd special c then tail else rest)
    | [] => ofPathText scheme (some authority) []

/-- The host and the port at the start of `text`, and the rest of the URL. -/
def readHostAndPort (scheme : String) (username password text : List Char) :
    Except UrlFault Url := do
  let special := isSpecial scheme
  let hostText := text.take (hostLength special false (text.takeWhile fun c =>
    !(isSegmentEnd special c || startsTail c)))
  let rest := text.drop hostText.length
  if special && hostText.isEmpty then .error .emptyHost
  let host ← if special then readHost hostText else readPlainHost hostText
  let unnamed := host == .name ""
  if unnamed && (rest.head? == some ':' || !username.isEmpty || !password.isEmpty) then
    .error .emptyHost
  let (port, rest) ← match rest with
    | ':' :: rest => readPort scheme rest
    | rest => .ok (none, rest)
  .ok (afterAuthority scheme { username, password, host, port } rest)

/-- Everything behind `//`. -/
def readAuthority (scheme : String) (text : List Char) : Except UrlFault Url :=
  let authorityText := text.takeWhile fun c =>
    !(isSegmentEnd (isSpecial scheme) c || startsTail c)
  match splitCredentials authorityText with
  | none => readHostAndPort scheme [] [] text
  | some (credentials, host) =>
    let rest := text.drop (credentials.length + 1)
    if credentials.isEmpty && host.isEmpty && !rest.isEmpty then .error .emptyHost
    else
      let (username, password) := readCredentials credentials
      readHostAndPort scheme username password rest

/-! ## Files -/

/-- A file on a host; a drive at the start of the path leaves no host. -/
def ofFile (host : Host) (text : List Char) : Url :=
  let url := ofPathText "file" (some { host }) text
  match url.path with
  | .rooted (first :: _) =>
    if isDriveLetter first then { url with authority := some { host := .name "" } } else url
  | _ => url

def readFile (text : List Char) : Except UrlFault Url :=
  match text with
  | first :: second :: rest =>
    if isSegmentEnd true first && isSegmentEnd true second then
      let hostText := rest.takeWhile fun c => !(isSegmentEnd true c || startsTail c)
      if hostText.isEmpty || isDriveLetter hostText then .ok (ofFile (.name "") rest)
      else do
        let host ← readHost hostText
        .ok (ofFile (if host = .name "localhost" then .name "" else host)
          (rest.drop hostText.length))
    else .ok (ofFile (.name "") text)
  | _ => .ok (ofFile (.name "") text)

/-! ## URLs -/

/-- A URL of a scheme that is none of the web's. -/
def readOther (scheme : String) (text : List Char) : Except UrlFault Url :=
  match text with
  | '/' :: '/' :: rest => readAuthority scheme rest
  | '/' :: rest => .ok (ofPathText scheme none rest)
  | text =>
    let path := text.takeWhile fun c => !startsTail c
    .ok (withTail { scheme, path := .rootless (percentEncode isControl path) }
      (text.drop path.length))

/-- Reads an absolute URL. -/
def parseChars (text : List Char) : Except UrlFault Url :=
  match splitScheme? (clean text) with
  | none => .error .relativeWithoutBase
  | some (scheme, rest) =>
    if scheme = "file" then readFile rest
    else if isSpecial scheme then readAuthority scheme (rest.dropWhile (isSegmentEnd true))
    else readOther scheme rest

def parse (text : String) : Except UrlFault Url := parseChars text.toList

/-! ## Relative paths -/

/-- Segments with exactly one empty one at the end. -/
def closeSegments (segments : List (List Char)) : List (List Char) :=
  (segments.reverse.dropWhile List.isEmpty).reverse ++ [[]]

/-- The URL whose text ends in exactly one slash.  In the schemes of the web a slash behind a query
or fragment belongs to it and leaves the path alone. -/
def asDirectory (url : Url) : Except UrlFault Url :=
  match url.path with
  | .rooted segments =>
    if isSpecial url.scheme then
      if url.query.isSome || url.fragment.isSome then .ok url
      else .ok { url with path := .rooted (closeSegments segments) }
    else reread
  | .rootless _ => reread
where
  reread : Except UrlFault Url :=
    parseChars ((url.chars.reverse.dropWhile (· == '/')).reverse ++ ['/'])

/-- Resolves a relative path without a leading slash: it takes the place of the last segment, and
its query and fragment that of the base's. -/
def join (base : Url) (reference : List Char) : Except UrlFault Url :=
  match base.path with
  | .rootless _ => .error .relativeToRootless
  | .rooted segments =>
    let text := clean reference
    let path := text.takeWhile fun c => !startsTail c
    let before := (shorten (base.scheme == "file") segments.reverse).reverse
    .ok (withTail
      { base with
        path := .rooted (resolvePath base.scheme before path), query := none, fragment := none }
      (text.drop path.length))

end DebugBridge.Url
