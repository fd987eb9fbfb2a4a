import DebugBridge.Url.DomainLabels
import DebugBridge.Url.Punycode

/-!
# Domains

A domain is labels between full stops.  However it is written, there is one form of it in ASCII and
lower case: characters stand for others, and a label with characters beyond ASCII is written in
Punycode behind a mark.  Labels that already are written so have to be the form of a label.
-/

namespace DebugBridge.Url

/-- Splits at every separator; there is one part more than there are separators. -/
def splitAt (isSeparator : Char → Bool) : List Char → List (List Char)
  | [] => [[]]
  | c :: rest =>
    if isSeparator c then [] :: splitAt isSeparator rest
    else match splitAt isSeparator rest with
      | part :: parts => (c :: part) :: parts
      | [] => [[c]]

def dotParts (text : List Char) : List (List Char) := splitAt (· == '.') text

def joinDots : List (List Char) → List Char
  | [] => []
  | [label] => label
  | label :: labels => label ++ '.' :: joinDots labels

/-- Characters that no domain holds. -/
def isForbiddenInDomain (c : Char) : Bool :=
  c.toNat ≤ 0x20 || c.toNat = 0x7f || "%#/:<>?@[\\]^|".toList.contains c

/-- The label that a text is written for: itself, or what it is the Punycode of. -/
def readLabel? (text : List Char) : Option (List Char) :=
  if punycodeMark.isPrefixOf text then
    if text.all Punycode.isAscii then
      (Punycode.decode? (text.drop punycodeMark.length)).filter fun label =>
        !label.all Punycode.isAscii && isLabel label
    else none
  else if isLabel text then some text
  else none

/-- A label in ASCII. -/
def asciiLabel (label : List Char) : List Char :=
  if label.all Punycode.isAscii then label else punycodeMark ++ Punycode.encode label

/-- The labels of a domain, each of which keeps to one direction if one of them has text from right
to left. -/
def readLabels? (text : List Char) : Option (List (List Char)) := do
  let replaced ← text.mapM domainChar?
  let labels ← (dotParts (Text.composed replaced.flatten)).mapM readLabel?
  if labels.any hasRightToLeft && !labels.all keepsDirection then none else some labels

/-- A domain in ASCII and lower case. -/
def asciiDomain? (text : String) : Option (List Char) :=
  ((readLabels? text.toList).map fun labels => joinDots (labels.map asciiLabel)).filter
    fun domain => !domain.any isForbiddenInDomain

end DebugBridge.Url
