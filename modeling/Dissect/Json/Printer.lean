import Dissect.Json.Basic
import Dissect.Decimal.Layout
import Dissect.Text.Quoted

namespace Dissect.Json

def unitEscape (n : Nat) : List Char := '\\' :: 'u' :: Text.hexDigits 4 n

/-- One character of a quoted text: printable ASCII but the quote and the backslash stands for
itself, and a character beyond the first plane is written as a surrogate pair. -/
def escapeChar (c : Char) : List Char :=
  if c == '"' then ['\\', '"']
  else if c == '\\' then ['\\', '\\']
  else if c == '\n' then ['\\', 'n']
  else if c == '\r' then ['\\', 'r']
  else if c == '\t' then ['\\', 't']
  else if c == '\x0c' then ['\\', 'f']
  else if c == '\x08' then ['\\', 'b']
  else if 32 ≤ c.toNat && c.toNat < 127 then [c]
  else if c.toNat < 0x10000 then unitEscape c.toNat
  else
    let n := c.toNat - 0x10000
    unitEscape (0xD800 + n / 0x400) ++ unitEscape (0xDC00 + n % 0x400)

def quote (s : String) : List Char := '"' :: s.toList.flatMap escapeChar ++ ['"']

/-- The text of a number with a fraction; values that are no number have names. -/
def floatText (x : Float) : String :=
  match Decimal.value x with
  | .nan => "NaN"
  | .infinite false => "Infinity"
  | .infinite true => "-Infinity"
  | .finite .. => Decimal.exactText x

/-- A value without parts; `none` for a list or an object. -/
def leaf? : Json → Option (List Char)
  | .null => some "null".toList
  | .bool true => some "true".toList
  | .bool false => some "false".toList
  | .int n => some (toString n).toList
  | .float x => some (floatText x).toList
  | .str s => some (quote s)
  | .arr _ => none
  | .obj _ => none

def breakTo (level : Nat) : List Char := '\n' :: List.replicate (2 * level) ' '

mutual

def indentedAt (level : Nat) : Json → List Char
  | .arr [] => ['[', ']']
  | .arr (v :: rest) =>
      '[' :: breakTo (level + 1) ++ indentedAt (level + 1) v
        ++ indentedItems (level + 1) rest ++ breakTo level ++ [']']
  | .obj [] => ['\x7b', '\x7d']
  | .obj ((k, v) :: rest) =>
      '\x7b' :: breakTo (level + 1) ++ quote k ++ ':' :: ' ' :: indentedAt (level + 1) v
        ++ indentedFields (level + 1) rest ++ breakTo level ++ ['\x7d']
  | v => (leaf? v).getD []

def indentedItems (level : Nat) : List Json → List Char
  | [] => []
  | v :: rest => ',' :: breakTo level ++ indentedAt level v ++ indentedItems level rest

def indentedFields (level : Nat) : List (String × Json) → List Char
  | [] => []
  | (k, v) :: rest =>
      ',' :: breakTo level ++ quote k ++ ':' :: ' ' :: indentedAt level v
        ++ indentedFields level rest

end

def indented (v : Json) : String := String.ofList (indentedAt 0 v)

mutual

def compactChars : Json → List Char
  | .arr [] => ['[', ']']
  | .arr (v :: rest) => '[' :: compactChars v ++ compactItems rest ++ [']']
  | .obj [] => ['\x7b', '\x7d']
  | .obj ((k, v) :: rest) =>
      '\x7b' :: quote k ++ ':' :: compactChars v ++ compactFields rest ++ ['\x7d']
  | v => (leaf? v).getD []

def compactItems : List Json → List Char
  | [] => []
  | v :: rest => ',' :: compactChars v ++ compactItems rest

def compactFields : List (String × Json) → List Char
  | [] => []
  | (k, v) :: rest => ',' :: quote k ++ ':' :: compactChars v ++ compactFields rest

end

def compact (v : Json) : String := String.ofList (compactChars v)

end Dissect.Json
