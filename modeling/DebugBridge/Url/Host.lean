import DebugBridge.Url.Domain
import DebugBridge.Url.Percent

/-!
# Hosts

A host is a name or an address.  The schemes of the web know domains, whose names are decoded and
lowered, and addresses in many spellings; other schemes take a host as it is written.
-/

namespace DebugBridge

/-- What is wrong with a URL. -/
inductive UrlFault
  | emptyHost
  | invalidPort
  | invalidIpv4
  | invalidIpv6
  | invalidDomainCharacter
  | invalidDomain
  | relativeWithoutBase
  | relativeToRootless
deriving DecidableEq, Repr

def UrlFault.message : UrlFault → String
  | .emptyHost => "empty host"
  | .invalidPort => "invalid port number"
  | .invalidIpv4 => "invalid IPv4 address"
  | .invalidIpv6 => "invalid IPv6 address"
  | .invalidDomainCharacter => "invalid domain character"
  | .invalidDomain => "invalid international domain name"
  | .relativeWithoutBase => "relative URL without a base"
  | .relativeToRootless => "relative URL with a cannot-be-a-base base"

namespace Url

inductive Host
  | name (text : String)
  | ipv4 (address : Nat)
  /-- Eight groups of 16 bits. -/
  | ipv6 (groups : List Nat)
deriving DecidableEq, Inhabited

def hexDigitValue? (c : Char) : Option Nat :=
  if c.isDigit then some (c.toNat - '0'.toNat)
  else if 'a' ≤ c ∧ c ≤ 'f' then some (c.toNat - 'a'.toNat + 10)
  else if 'A' ≤ c ∧ c ≤ 'F' then some (c.toNat - 'A'.toNat + 10)
  else none

/-- A number in a base of at most 16; nothing when a character is no digit of it. -/
def numberIn? (base : Nat) (text : List Char) : Option Nat :=
  text.foldl (fun read c => do
    let value ← read
    let digit ← hexDigitValue? c
    if digit < base then some (base * value + digit) else none) (some 0)

/-! ## Addresses of four bytes -/

/-- One part of an address: decimal, octal after `0`, or hexadecimal after `0x`. -/
def ipv4Part? : List Char → Option Nat
  | [] => none
  | '0' :: 'x' :: digits => numberIn? 16 digits
  | '0' :: 'X' :: digits => numberIn? 16 digits
  | '0' :: c :: digits => numberIn? 8 (c :: digits)
  | digits => numberIn? 10 digits

/-- The parts without an empty one at the end. -/
def ipv4Parts (text : List Char) : List (List Char) :=
  match (dotParts text).reverse with
  | [] :: parts => parts.reverse
  | parts => parts.reverse

/-- Whether a domain is to be read as an address: its last part is a number. -/
def endsInNumber (text : List Char) : Bool :=
  match (ipv4Parts text).getLast? with
  | none => false
  | some last => (!last.isEmpty && last.all Char.isDigit) || (ipv4Part? last).isSome

/-- An address; its last part fills all the bytes that are left. -/
def readIpv4 (text : List Char) : Except UrlFault Host :=
  let parts := ipv4Parts text
  if 4 < parts.length then .error .invalidIpv4
  else match (parts.mapM ipv4Part?).map List.reverse with
    | some (last :: front) =>
      if Nat.pow 256 (4 - front.length) ≤ last || front.any (255 < ·) then .error .invalidIpv4
      else .ok (.ipv4 ((front.reverse.zipIdx.map fun (part, index) =>
        part * Nat.pow 256 (3 - index)).foldl (· + ·) last))
    | _ => .error .invalidIpv4

/-! ## Addresses of eight groups -/

/-- A number of a dotted address inside brackets. -/
def plainByte? (text : List Char) : Option Nat :=
  if text.isEmpty || (text.head? == some '0' && 1 < text.length) then none
  else (numberIn? 10 text).filter (· ≤ 255)

/-- The two groups that a dotted address fills. -/
def dottedGroups? (text : List Char) : Option (List Nat) :=
  match (dotParts text).mapM plainByte? with
  | some [a, b, c, d] => some [256 * a + b, 256 * c + d]
  | _ => none

/-- Groups read so far, and the place of the gap behind them. -/
structure Groups where
  done : List Nat := []
  gap : Option Nat := none

def Groups.push (groups : Groups) (more : List Nat) : Groups :=
  { groups with done := groups.done ++ more }

/-- Reads groups; `fuel` is the length of the text. -/
def readGroups : (fuel : Nat) → Groups → List Char → Option Groups
  | _, groups, [] => some groups
  | 0, _, _ => none
  | fuel + 1, groups, c :: rest =>
    if groups.done.length = 8 then none
    else if c = ':' then
      if groups.gap.isSome then none
      else
        let opened := groups.push [0]
        readGroups fuel { opened with gap := some opened.done.length } rest
    else
      let text := c :: rest
      let digits := (text.take 4).takeWhile fun c => (hexDigitValue? c).isSome
      let value := (numberIn? 16 digits).getD 0
      match text.drop digits.length with
      | [] => some (groups.push [value])
      | '.' :: _ =>
        if digits.isEmpty || 6 < groups.done.length then none
        else (dottedGroups? text).map groups.push
      | [':'] => none
      | ':' :: rest => readGroups fuel (groups.push [value]) rest
      | _ => none

/-- Fills the gap with zeros; without a gap there have to be eight groups. -/
def Groups.close (groups : Groups) : Option (List Nat) :=
  match groups.gap with
  | some gap =>
    some (groups.done.take gap ++ List.replicate (8 - groups.done.length) 0
      ++ groups.done.drop gap)
  | none => if groups.done.length = 8 then some groups.done else none

def ipv6Groups? (text : List Char) : Option (List Nat) :=
  let groups := match text with
    | ':' :: ':' :: rest => readGroups rest.length { done := [0], gap := some 1 } rest
    | ':' :: _ => none
    | [] => none
    | [_] => none
    | _ => readGroups text.length {} text
  groups.bind Groups.close

def readIpv6 (text : List Char) : Except UrlFault Host :=
  match ipv6Groups? text with
  | some groups => .ok (.ipv6 groups)
  | none => .error .invalidIpv6

/-- The text between square brackets, or the fault that they do not close. -/
def bracketed (text : List Char) : Option (Except UrlFault (List Char)) :=
  match text with
  | '[' :: rest =>
    if text.getLast? = some ']' then some (.ok rest.dropLast) else some (.error .invalidIpv6)
  | _ => none

/-! ## Hosts -/

/-- Reads the host of a web scheme. -/
def readHost (text : List Char) : Except UrlFault Host :=
  match bracketed text with
  | some inside => inside.bind readIpv6
  | none =>
    let decoded := percentDecode (Text.encodeUtf8 (String.ofList text))
    match (Text.decodeUtf8? decoded).bind asciiDomain? with
    | none => .error .invalidDomain
    | some [] => .error .emptyHost
    | some domain =>
      if endsInNumber domain then readIpv4 domain else .ok (.name (String.ofList domain))

def isForbiddenInHost (c : Char) : Bool :=
  c = '\x00' || c = '\t' || c = '\n' || c = '\r' || " #/:<>?@[\\]^|".toList.contains c

/-- Reads the host of any other scheme. -/
def readPlainHost (text : List Char) : Except UrlFault Host :=
  match bracketed text with
  | some inside => inside.bind readIpv6
  | none =>
    if text.any isForbiddenInHost then .error .invalidDomainCharacter
    else .ok (.name (String.ofList (percentEncode isControl text)))

/-! ## Text -/

/-- Length of the run of zeros at the start. -/
def zeroRun (groups : List Nat) : Nat := (groups.takeWhile (· == 0)).length

/-- Start and length of the first longest run of zeros from `index` on. -/
def longestZeroRun : (index : Nat) → List Nat → Nat × Nat
  | _, [] => (0, 0)
  | index, group :: rest =>
    let here := zeroRun (group :: rest)
    let later := longestZeroRun (index + 1) rest
    if later.2 ≤ here then (index, here) else later

def groupsText (groups : List Nat) : List Char :=
  (String.intercalate ":" (groups.map fun group => String.ofList (Nat.toDigits 16 group))).toList

def ipv6Text (groups : List Nat) : List Char :=
  let (start, length) := longestZeroRun 0 groups
  if length < 2 then groupsText groups
  else groupsText (groups.take start) ++ "::".toList ++ groupsText (groups.drop (start + length))

def ipv4Text (address : Nat) : List Char :=
  (String.intercalate "." ([3, 2, 1, 0].map fun place =>
    toString (address / Nat.pow 256 place % 256))).toList

def Host.text : Host → List Char
  | .name text => text.toList
  | .ipv4 address => ipv4Text address
  | .ipv6 groups => '[' :: ipv6Text groups ++ [']']

end Url

end DebugBridge
