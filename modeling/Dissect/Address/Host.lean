import Dissect.Address.Label
import Dissect.Address.Percent

namespace Dissect.Address

open Text (cut)

/-- The text looks like four numbers: digits with three characters between them, which may be digits
too. -/
def looksLikeNumbers (cs : List Char) : Bool :=
  let runs := (cut (!·.isDigit) cs).map List.length
  let room := runs.foldl (fun room n => room + (n - 1) / 2) 0
  runs.all (0 < ·) && runs.length ≤ 4 && 4 ≤ runs.length + room

/-- A number of an address of four: up to 255, without zeros in front. -/
def isByteNumber (cs : List Char) : Bool :=
  !cs.isEmpty && cs.length ≤ 3 && cs.all Char.isDigit && (cs.length == 1 || cs.head? != some '0')
    && cs.foldl (fun n c => n * 10 + (c.toNat - 48)) 0 ≤ 255

def isIPv4 (cs : List Char) : Bool :=
  let numbers := cut (· == '.') cs
  numbers.length == 4 && numbers.all isByteNumber

def isGroup (cs : List Char) : Bool :=
  !cs.isEmpty && cs.length ≤ 4 && cs.all fun c => (Text.hexValue? c).isSome

/-- The groups on one side of a gap, of which an empty one stands alone, at the end of the address.
-/
def isSide (groups : List (List Char)) : Bool := groups == [[]] || groups.all isGroup

def sideLength (groups : List (List Char)) : Nat := if groups == [[]] then 0 else groups.length

def areGroups (groups : List (List Char)) : Bool :=
  let front := groups.take 1 ++ (groups.drop 1).takeWhile (!·.isEmpty)
  let back := groups.drop (front.length + 1)
  if back.isEmpty then groups.length == 8 && groups.all isGroup
  else isSide front && isSide back && sideLength front + sideLength back ≤ 7

/-- Groups, of which the last can be an address of four numbers that stands for two groups. -/
def areGroupsOrNumbers (groups : List (List Char)) : Bool :=
  match groups.getLast? with
  | some last =>
      if last.contains '.' then isIPv4 last && areGroups (groups.dropLast ++ [['0'], ['0']])
      else areGroups groups
  | none => false

def isIPv6 (cs : List Char) : Bool :=
  let groups := cut (· == ':') (cs.takeWhile (· != '%'))
  let isGoodZone :=
    match cs.dropWhile (· != '%') with
    | [] => true
    | _ :: zone => !zone.isEmpty && !zone.contains '%'
  isGoodZone && 3 ≤ groups.length && areGroupsOrNumbers groups

def isBracketed (cs : List Char) : Bool :=
  2 ≤ cs.length && cs.head? == some '[' && cs.getLast? == some ']'

inductive HostError
  | ipv4 (text : String)
  | ipv6 (text : String)
  | name (text : String)
deriving DecidableEq, Repr

def HostError.message : HostError → String
  | .ipv4 text => "Invalid IPv4 address: " ++ Text.quoted text
  | .ipv6 text => "Invalid IPv6 address: " ++ Text.quoted text
  | .name text => "Invalid IDNA hostname: " ++ Text.quoted text

/-- The host of a text: an address as it is but for its brackets, a name in lower case and in ASCII.
-/
def hostOf (cs : List Char) : Except HostError String :=
  let text := String.ofList cs
  if cs.isEmpty then .ok ""
  else if looksLikeNumbers cs then if isIPv4 cs then .ok text else .error (.ipv4 text)
  else if isBracketed cs then
    let inner := cs.tail.dropLast
    if isIPv6 inner then .ok (String.ofList inner) else .error (.ipv6 text)
  else if cs.all (·.toNat < 128) then .ok (percentCoded shownInHost (Text.lower text).toList)
  else
    match asciiName? (Text.lower text).toList with
    | some name => .ok (String.ofList name)
    | none => .error (.name text)

end Dissect.Address
