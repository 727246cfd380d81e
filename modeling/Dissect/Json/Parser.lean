import Dissect.Json.Basic
import Dissect.Decimal.Reader
import Dissect.Text.Surrogate

/-!
Reading JSON texts. A fault says what was expected and how much of the text was left there, or which
limit the text goes beyond. The names of infinities and of no number are read as numbers; of two
fields of one name the later one counts.
-/

namespace Dissect.Json

inductive Expectation
  | value
  | propertyName
  | colon
  | comma
  | stringEnd
  | printableCharacter
  | escapeLetter
  | escapeDigits
  | textEnd
  | noByteOrderMark
deriving DecidableEq, Repr

def Expectation.message : Expectation → String
  | .value => "Expecting value"
  | .propertyName => "Expecting property name enclosed in double quotes"
  | .colon => "Expecting ':' delimiter"
  | .comma => "Expecting ',' delimiter"
  | .stringEnd => "Unterminated string starting at"
  | .printableCharacter => "Invalid control character at"
  | .escapeLetter => "Invalid \\escape"
  | .escapeDigits => "Invalid \\uXXXX escape"
  | .textEnd => "Extra data"
  | .noByteOrderMark => "Unexpected UTF-8 BOM (decode using utf-8-sig)"

/-- How many lists and objects can stand inside one another. -/
def nestingLimit : Nat := 980

structure TooDeep where
  inObject : Bool
deriving DecidableEq, Repr

def TooDeep.message (e : TooDeep) : String :=
  "maximum recursion depth exceeded while decoding a JSON "
    ++ (if e.inObject then "object" else "array") ++ " from a unicode string"

inductive Fault
  /-- something else was expected where `left` characters were left -/
  | unexpected (expected : Expectation) (left : Nat)
  | tooLong (e : Decimal.TooManyDigits)
  | tooDeep (e : TooDeep)
deriving DecidableEq, Repr

/-- The wording of a fault in a text: line and column count from one, the position from zero. -/
def Fault.message (text : String) : Fault → String
  | .unexpected expected left =>
      let before := text.toList.take (text.length - left)
      let column := (before.reverse.takeWhile (· != '\n')).length + 1
      expected.message ++ ": line " ++ toString (before.countP (· == '\n') + 1) ++ " column "
        ++ toString column ++ " (char " ++ toString before.length ++ ")"
  | .tooLong e => e.message
  | .tooDeep e => e.message

def isSpace (c : Char) : Bool := c == ' ' || c == '\t' || c == '\n' || c == '\r'

def skipSpace (cs : List Char) : List Char := cs.dropWhile isSpace

abbrev Parsed (α : Type) := Except Fault (α × List Char)

def faultAt (expected : Expectation) (cs : List Char) : Except Fault α :=
  .error (.unexpected expected cs.length)

def hexUnit? : List Char → Option (Nat × List Char)
  | a :: b :: c :: d :: rest => do
      let n := (((← Text.hexValue? a) * 16 + (← Text.hexValue? b)) * 16 + (← Text.hexValue? c)) * 16
      return (n + (← Text.hexValue? d), rest)
  | _ => none

def simpleEscape? : Char → Option Char
  | '"' => some '"'
  | '\\' => some '\\'
  | '/' => some '/'
  | 'b' => some '\x08'
  | 'f' => some '\x0c'
  | 'n' => some '\n'
  | 'r' => some '\r'
  | 't' => some '\t'
  | _ => none

/-- The character of an escape by number, from after the letter `u` on: two units that form a pair
give one character. At least one character has to follow the digits. -/
def numberEscape (cs : List Char) : Parsed Char :=
  match hexUnit? cs with
  | none => .error (.unexpected .escapeDigits (cs.length + 1))
  | some (_, []) => .error (.unexpected .escapeDigits (cs.length + 1))
  | some (high, rest) =>
      match Text.isHighSurrogate high, rest with
      | true, '\\' :: 'u' :: tail =>
          match hexUnit? tail with
          | none => .ok (Text.unitChar high, rest)
          | some (_, []) => .ok (Text.unitChar high, rest)
          | some (low, after) =>
              if Text.isLowSurrogate low then .ok (Text.pairChar high low, after)
              else .ok (Text.unitChar high, rest)
      | _, _ => .ok (Text.unitChar high, rest)

theorem length_of_hexUnit? {cs rest : List Char} {n : Nat} (h : hexUnit? cs = some (n, rest)) :
    rest.length < cs.length := by
  match cs with
  | a :: b :: c :: d :: tail =>
      simp only [hexUnit?, bind, Option.bind, pure] at h
      grind
  | [] => simp [hexUnit?] at h
  | [_] => simp [hexUnit?] at h
  | [_, _] => simp [hexUnit?] at h
  | [_, _, _] => simp [hexUnit?] at h

theorem length_of_numberEscape {cs after : List Char} {c : Char}
    (h : numberEscape cs = .ok (c, after)) : after.length < cs.length := by
  unfold numberEscape at h
  split at h
  · simp at h
  · simp at h
  · rename_i high rest _ hhigh
    have hrest := length_of_hexUnit? hhigh
    split at h
    · split at h
      · obtain ⟨_, rfl⟩ := by simpa using h
        exact hrest
      · obtain ⟨_, rfl⟩ := by simpa using h
        exact hrest
      · rename_i _ low _ hlow
        have hlow := length_of_hexUnit? hlow
        simp only [List.length_cons] at hrest
        split at h
        · obtain ⟨_, rfl⟩ := by simpa using h
          omega
        · obtain ⟨_, rfl⟩ := by simpa using h
          simpa using hrest
    · obtain ⟨_, rfl⟩ := by simpa using h
      exact hrest

/-- The rest of a quoted text that began in front of `opened`, behind the characters `found`, last
first. -/
def stringOnto (opened : List Char) (found : List Char) : List Char → Parsed String
  | [] => .error (.unexpected .stringEnd (opened.length + 1))
  | c :: rest =>
      if c == '"' then .ok (String.ofList found.reverse, rest)
      else if c == '\\' then
        match rest with
        | [] => .error (.unexpected .stringEnd (opened.length + 1))
        | e :: tail =>
            if e == 'u' then
              match h : numberEscape tail with
              | .error f => .error f
              | .ok (d, after) =>
                  have := length_of_numberEscape h
                  stringOnto opened (d :: found) after
            else
              match simpleEscape? e with
              | none => faultAt .escapeLetter (c :: rest)
              | some d => stringOnto opened (d :: found) tail
      else if c.toNat < 32 then faultAt .printableCharacter (c :: rest)
      else stringOnto opened (c :: found) rest
termination_by cs => cs.length
decreasing_by all_goals simp_all <;> omega

def stringBody (cs : List Char) : Parsed String := stringOnto cs [] cs

def exponentPart (cs : List Char) : List Char × List Char :=
  match cs with
  | e :: rest =>
      if e == 'e' || e == 'E' then
        let (sign, tail) :=
          match rest with
          | '+' :: tail => (['+'], tail)
          | '-' :: tail => (['-'], tail)
          | tail => ([], tail)
        let digits := tail.takeWhile Char.isDigit
        if digits.isEmpty then ([], cs) else (e :: sign ++ digits, tail.dropWhile Char.isDigit)
      else ([], cs)
  | [] => ([], [])

def wholePart? : List Char → Option (List Char × List Char)
  | '0' :: rest => some (['0'], rest)
  | cs =>
      let digits := cs.takeWhile Char.isDigit
      if digits.isEmpty then none else some (digits, cs.dropWhile Char.isDigit)

def wholeNumber (negative : Bool) (digits : List Char) : Except Fault Json :=
  match Decimal.wholeValue negative digits with
  | .ok n => .ok (.int n)
  | .error e => .error (.tooLong e)

def number (cs : List Char) : Parsed Json :=
  let (negative, unsigned) :=
    match cs with
    | '-' :: rest => (true, rest)
    | rest => (false, rest)
  match wholePart? unsigned with
  | none => faultAt .value cs
  | some (whole, rest) =>
      let (fraction, rest) :=
        match rest with
        | '.' :: tail =>
            let digits := tail.takeWhile Char.isDigit
            if digits.isEmpty then ([], rest) else (digits, tail.dropWhile Char.isDigit)
        | _ => ([], rest)
      let (exponent, rest) := exponentPart rest
      if fraction.isEmpty && exponent.isEmpty then
        (wholeNumber negative whole).map fun v => (v, rest)
      else
        let e := (Decimal.readExponent? exponent).getD 0
        .ok (.float (Decimal.nearest negative (Decimal.digitsValue (whole ++ fraction))
          (e - fraction.length)), rest)

def words : List (List Char × Json) :=
  [("null".toList, .null), ("true".toList, .bool true), ("false".toList, .bool false),
   ("NaN".toList, .float (Float.ofBits 0x7FF8000000000000)),
   ("Infinity".toList, .float (Float.ofBits 0x7FF0000000000000)),
   ("-Infinity".toList, .float (Float.ofBits 0xFFF0000000000000))]

def scalar (cs : List Char) : Parsed Json :=
  match words.find? fun w => w.1.isPrefixOf cs with
  | some (word, v) => .ok (v, cs.drop word.length)
  | none => number cs

mutual

/-- A value, with `room` for so many lists and objects inside one another; `steps` bounds the
brackets and the parts that are read. -/
def value : Nat → Nat → List Char → Parsed Json
  | 0, _, cs => faultAt .value cs
  | _ + 1, _, '"' :: rest =>
      match stringBody rest with
      | .error f => .error f
      | .ok (s, after) => .ok (.str s, after)
  | _ + 1, 0, '[' :: _ => .error (.tooDeep ⟨false⟩)
  | steps + 1, room + 1, '[' :: rest =>
      match skipSpace rest with
      | ']' :: after => .ok (.arr [], after)
      | cs => items steps room [] cs
  | _ + 1, 0, '\x7b' :: _ => .error (.tooDeep ⟨true⟩)
  | steps + 1, room + 1, '\x7b' :: rest =>
      match skipSpace rest with
      | '\x7d' :: after => .ok (.obj [], after)
      | cs => members steps room [] cs
  | _ + 1, _, cs => scalar cs

def items : Nat → Nat → List Json → List Char → Parsed Json
  | 0, _, _, cs => faultAt .value cs
  | steps + 1, room, found, cs =>
      match value steps room cs with
      | .error f => .error f
      | .ok (v, rest) =>
          match skipSpace rest with
          | ']' :: after => .ok (.arr (v :: found).reverse, after)
          | ',' :: after => items steps room (v :: found) (skipSpace after)
          | cs => faultAt .comma cs

def members : Nat → Nat → List (String × Json) → List Char → Parsed Json
  | 0, _, _, cs => faultAt .propertyName cs
  | steps + 1, room, found, '"' :: rest =>
      match stringBody rest with
      | .error f => .error f
      | .ok (k, rest) =>
          match skipSpace rest with
          | ':' :: rest =>
              match value steps room (skipSpace rest) with
              | .error f => .error f
              | .ok (v, rest) =>
                  let found := setField k v found
                  match skipSpace rest with
                  | '\x7d' :: after => .ok (.obj found, after)
                  | ',' :: after => members steps room found (skipSpace after)
                  | cs => faultAt .comma cs
          | cs => faultAt .colon cs
  | _ + 1, _, _, cs => faultAt .propertyName cs

end

/-- The value that a whole text writes. A bracket takes two steps, and so does a part with the comma
in front of it. -/
def parseChars (cs : List Char) : Except Fault Json :=
  match value (2 * cs.length + 2) nestingLimit (skipSpace cs) with
  | .error f => .error f
  | .ok (v, rest) =>
      match skipSpace rest with
      | [] => .ok v
      | cs => faultAt .textEnd cs

/-- The value of a text; a byte order mark at its start is refused. -/
def parse (text : String) : Except Fault Json :=
  match text.toList with
  | '\uFEFF' :: rest => faultAt .noByteOrderMark ('\uFEFF' :: rest)
  | cs => parseChars cs

end Dissect.Json
