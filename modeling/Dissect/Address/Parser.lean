import Dissect.Address.Basic
import Dissect.Decimal.Reader

namespace Dissect.Address

/-- The parts of a text as they stand there; the authority is cut off where two slashes open it. -/
structure Raw where
  scheme : List Char
  authority : List Char
  path : List Char
  query : Option (List Char)
  fragment : Option (List Char)

/-- A text up to a sign, and what is behind that; none where the sign is missing. -/
def splitAt (sign : Char) (cs : List Char) : List Char × Option (List Char) :=
  match cs.dropWhile (· != sign) with
  | [] => (cs, none)
  | _ :: rest => (cs.takeWhile (· != sign), some rest)

def isSchemePart (c : Char) : Bool :=
  c.isAlphanum || c == '+' || c == '.' || c == '-'

def takeScheme (cs : List Char) : List Char × List Char :=
  let scheme := cs.takeWhile isSchemePart
  match cs.dropWhile isSchemePart with
  | ':' :: rest => if scheme.head?.all Char.isAlpha then (scheme, rest) else ([], cs)
  | _ => ([], cs)

def Raw.ofChars (cs : List Char) : Raw :=
  let (cs, fragment) := splitAt '#' cs
  let (cs, query) := splitAt '?' cs
  let (scheme, cs) := takeScheme cs
  match cs with
  | '/' :: '/' :: rest =>
      ⟨scheme, rest.takeWhile (· != '/'), rest.dropWhile (· != '/'), query, fragment⟩
  | _ => ⟨scheme, [], cs, query, fragment⟩

/-- A text up to the last of a sign, and what is behind that; nothing is in front where the sign is
missing. -/
def splitAtLast (sign : Char) (cs : List Char) : List Char × List Char :=
  let behind := (cs.reverse.takeWhile (· != sign)).reverse
  (cs.take (cs.length - behind.length - 1), behind)

/-- The host in front of its number: up to the last bracket that ends it, else up to the first
colon. -/
def takeHost (cs : List Char) : List Char × List Char :=
  if cs.head? == some '[' && cs.contains ']' then
    let behind := (cs.reverse.takeWhile (· != ']')).reverse
    (cs.take (cs.length - behind.length), behind)
  else (cs.takeWhile (· != ':'), cs.dropWhile (· != ':'))

def standardNumbers : List (String × Int) :=
  [("ftp", 21), ("http", 80), ("https", 443), ("ws", 80), ("wss", 443)]

def portNumberOf (scheme : String) (cs : List Char) : Except AddressError (Option Int) :=
  let text := String.ofList cs
  if cs.isEmpty then .ok none
  else
    match Decimal.readInt text with
    | .error _ => .error (.portNumber text)
    | .ok n => .ok (if standardNumbers.lookup scheme = some n then none else some n)

/-- Take a step of a path behind its names so far, last first: single dots are left out, and double
dots take a name away, but not the empty one in front. -/
def stepOnto (found : List (List Char)) (name : List Char) : List (List Char) :=
  if name == ['.'] then found
  else if name == ['.', '.'] then if found == [[]] then found else found.tail
  else name :: found

def normalPath (path : List Char) : List Char :=
  ['/'].intercalate ((Text.cut (· == '/') path).foldl stepOnto []).reverse

def control? (cs : List Char) : Option (Char × Nat) :=
  cs.zipIdx.find? fun c => c.1.toNat < 32 || c.1.toNat == 127

/-- Two slashes must be followed by a host, and a colon must follow a scheme. -/
def checkPath (path : List Char) : Except AddressError Unit :=
  match path with
  | '/' :: '/' :: _ => .error .slashesWithoutHost
  | ':' :: _ => .error .colonWithoutScheme
  | _ => .ok ()

def ofText (text : String) : Except AddressError Address := do
  let cs := text.toList
  if textLimit < cs.length then throw .tooLong
  if let some (c, position) := control? cs then throw (.controlCharacter c position)
  let raw := Raw.ofChars cs
  let spelt := String.ofList raw.scheme
  let (userChars, rest) := splitAtLast '@' raw.authority
  let (hostChars, behind) := takeHost rest
  let user := percentCoded shownInUser userChars
  let host ← (hostOf hostChars).mapError .host
  let portNumber ← portNumberOf spelt (if behind.head? == some ':' then behind.tail else behind)
  let hasPlace := !raw.scheme.isEmpty || !user.isEmpty || !host.isEmpty || portNumber.isSome
  if !hasPlace then checkPath raw.path
  return {
    scheme := Text.lower spelt
    user
    host
    portNumber
    path := percentCoded shownInPath (if hasPlace then normalPath raw.path else raw.path)
    query := raw.query.map (percentCoded shownInQuery)
    fragment := raw.fragment.map (percentCoded shownInFragment) }

end Dissect.Address
