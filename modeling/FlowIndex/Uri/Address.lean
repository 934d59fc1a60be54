import FlowIndex.Text.Cut
import FlowIndex.Text.Digit

namespace FlowIndex.Uri

def hexValue? (c : Char) : Option Nat :=
  if '0' ≤ c && c ≤ '9' then some (c.toNat - '0'.toNat)
  else if 'a' ≤ c && c ≤ 'f' then some (c.toNat - 'a'.toNat + 10)
  else if 'A' ≤ c && c ≤ 'F' then some (c.toNat - 'A'.toNat + 10)
  else none

def isHexDigit (c : Char) : Bool :=
  (hexValue? c).isSome

def isOctet (cs : List Char) : Bool :=
  cs.all Char.isDigit && cs.length ≤ 3 && Text.decimalValue cs ≤ 255 &&
    match cs with
    | [] => false
    | ['0'] => true
    | c :: _ => c ≠ '0'

def isShortAddress (cs : List Char) : Bool :=
  let parts := Text.fields '.' cs
  parts.length = 4 && parts.all isOctet

def isGroup (cs : List Char) : Bool :=
  cs.all isHexDigit && 1 ≤ cs.length && cs.length ≤ 4

-- The number of groups in a list of parts. With `tail` the last part may be an address of four
-- bytes, which takes the room of two groups.
def groupCount (tail : Bool) : List (List Char) → Option Nat
  | [] => some 0
  | [part] => if isGroup part then some 1 else if tail && isShortAddress part then some 2 else none
  | part :: parts => if isGroup part then (groupCount tail parts).map (· + 1) else none

def groupsOf (tail : Bool) (cs : List Char) : Option Nat :=
  if cs.isEmpty then some 0 else groupCount tail (Text.fields ':' cs)

def splitGap : List Char → Option (List Char × List Char)
  | [] => none
  | ':' :: ':' :: cs => some ([], cs)
  | c :: cs => (splitGap cs).map fun (before, behind) => (c :: before, behind)

-- Whether a text is eight groups, some of which may be left out once.
def isGroupAddress (cs : List Char) : Bool :=
  match splitGap cs with
  | none => groupsOf true cs = some 8
  | some (before, behind) =>
    match groupsOf false before, groupsOf true behind with
    | some m, some n => m + n ≤ 7
    | _, _ => false

def isLongAddress (cs : List Char) : Bool :=
  match cs.span (· ≠ '%') with
  | (address, []) => isGroupAddress address
  | (address, _ :: zone) => isGroupAddress address && !zone.isEmpty && !zone.contains '%'

end FlowIndex.Uri
