import Dissect.Address.Host
import Dissect.Text.Base64

namespace Dissect

structure Address where
  scheme : String
  user : String
  host : String
  portNumber : Option Int
  path : String
  query : Option String
  fragment : Option String
deriving DecidableEq, Repr

inductive AddressError
  | tooLong
  | partTooLong (part : String)
  | controlCharacter (c : Char) (position : Nat)
  | host (e : Address.HostError)
  | portNumber (text : String)
  | slashesWithoutHost
  | colonWithoutScheme
deriving DecidableEq, Repr

def AddressError.message : AddressError → String
  | .tooLong => "URL too long"
  | .partTooLong part => "URL component '" ++ part ++ "' too long"
  | .controlCharacter c position =>
      "Invalid non-printable ASCII character in URL, " ++ Text.quoted (String.ofList [c])
        ++ " at position " ++ toString position ++ "."
  | .host e => e.message
  | .portNumber text => "Invalid port: " ++ Text.quoted text
  | .slashesWithoutHost => "Relative URLs cannot have a path starting with '//'"
  | .colonWithoutScheme => "Relative URLs cannot have a path starting with ':'"

namespace Address

def authority (a : Address) : String :=
  (if a.user.isEmpty then "" else a.user ++ "@")
    ++ (if a.host.toList.contains ':' then "[" ++ a.host ++ "]" else a.host)
    ++ a.portNumber.elim "" fun n => ":" ++ toString n

def target (a : Address) : String := a.path ++ a.query.elim "" ("?" ++ ·)

def toText (a : Address) : String :=
  (if a.scheme.isEmpty then "" else a.scheme ++ ":")
    ++ (if a.authority.isEmpty then "" else "//" ++ a.authority)
    ++ a.target ++ a.fragment.elim "" ("#" ++ ·)

def isComplete (a : Address) : Bool := !a.scheme.isEmpty && !a.host.isEmpty

/-- The most characters of a text that is read as an address, or as a part of one. -/
def textLimit : Nat := 65536

/-- The address of a request: of one that tells no server only the path and the query are left, and
read as parts once more. -/
def forRequest (a : Address) : Except AddressError Address :=
  let path := '/' :: (a.path.toList.dropWhile (· == '/'))
  if a.isComplete then .ok a
  else if textLimit < path.length then .error (.partTooLong "path")
  else if a.query.any (textLimit < ·.length) then .error (.partTooLong "query")
  else .ok {
    scheme := "", user := "", host := "", portNumber := none, path := String.ofList path
    query := a.query, fragment := none }

def credentials? (a : Address) : Option (String × String) :=
  let cs := a.user.toList
  let name := percentDecoded (cs.takeWhile (· != ':'))
  let password := percentDecoded ((cs.dropWhile (· != ':')).drop 1)
  if name.isEmpty && password.isEmpty then none else some (name, password)

def authorization? (a : Address) : Option String :=
  a.credentials?.map fun (name, password) =>
    "Basic " ++ Text.Base64.encode (Text.Utf8.encode (name ++ ":" ++ password))

end Address

end Dissect
