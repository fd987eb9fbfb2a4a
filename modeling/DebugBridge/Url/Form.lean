import DebugBridge.Url.Host

/-!
# URLs

A parsed URL and its text.  A path is a list of segments, or a rootless text such as that of
`mailto:` URLs, which nothing can be resolved against.
-/

namespace DebugBridge

namespace Url

/-- Who is asked: the host, and with which credentials. -/
structure Authority where
  username : List Char := []
  password : List Char := []
  host : Host
  port : Option Nat := none
deriving DecidableEq

inductive Path
  /-- Segments, each with a slash before it. -/
  | rooted (segments : List (List Char))
  | rootless (text : List Char)
deriving DecidableEq

end Url

structure Url where
  scheme : String
  authority : Option Url.Authority := none
  path : Url.Path
  query : Option (List Char) := none
  fragment : Option (List Char) := none
deriving DecidableEq

namespace Url

/-- The schemes of the web, which always have an authority and a path. -/
def isSpecial (scheme : String) : Bool :=
  ["http", "https", "ws", "wss", "ftp", "file"].contains scheme

def defaultPort? (scheme : String) : Option Nat :=
  if scheme = "http" || scheme = "ws" then some 80
  else if scheme = "https" || scheme = "wss" then some 443
  else if scheme = "ftp" then some 21
  else none

def segmentsText (segments : List (List Char)) : List Char :=
  segments.flatMap fun segment => '/' :: segment

def Path.text : Path → List Char
  | .rooted segments => segmentsText segments
  | .rootless text => text

def Authority.hasCredentials (authority : Authority) : Bool :=
  !authority.username.isEmpty || !authority.password.isEmpty

def Authority.text (authority : Authority) : List Char :=
  authority.username
    ++ (if authority.password.isEmpty then [] else ':' :: authority.password)
    ++ (if authority.hasCredentials then ['@'] else [])
    ++ authority.host.text
    ++ (match authority.port with
      | some port => ':' :: (toString port).toList
      | none => [])

/-- A mark and the part it opens, when there is one. -/
def marked (mark : Char) : Option (List Char) → List Char
  | some part => mark :: part
  | none => []

/-- Keeps a path that begins with two slashes from being read as an authority. -/
def authorityText (url : Url) : List Char :=
  match url.authority, url.path with
  | some authority, _ => "//".toList ++ authority.text
  | none, .rooted ([] :: _ :: _) => "/.".toList
  | none, _ => []

def chars (url : Url) : List Char :=
  url.scheme.toList ++ ':' :: url.authorityText ++ url.path.text
    ++ marked '?' url.query ++ marked '#' url.fragment

def text (url : Url) : String := String.ofList url.chars

/-- The part of the URL that a request names: path and query. -/
def requestTarget (url : Url) : String :=
  String.ofList (url.path.text ++ marked '?' url.query)

def withoutCredentials (url : Url) : Url :=
  { url with
    authority := url.authority.map fun authority =>
      { authority with username := [], password := [] } }

end Url

end DebugBridge
