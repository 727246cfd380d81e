import Dissect.Call
import Dissect.Json.Basic

namespace Dissect

/-- A reply: a text, a list, fields of a mapping or attributes of a record, or something without
text. -/
inductive Response
  | text (s : String)
  | list (items : List Response)
  | mapping (fields : List (String × Response))
  | record (attributes : List (String × Response))
  | other
deriving Inhabited

namespace Response

mutual

def ofJson : Json → Response
  | .str s => .text s
  | .arr items => .list (ofItems items)
  | .obj fields => .mapping (ofFields fields)
  | _ => .other

def ofItems : List Json → List Response
  | [] => []
  | v :: rest => ofJson v :: ofItems rest

def ofFields : List (String × Json) → List (String × Response)
  | [] => []
  | (k, v) :: rest => (k, ofJson v) :: ofFields rest

end

def get? (key : String) : Response → Option Response
  | .mapping fields => fields.lookup key
  | .record attributes => attributes.lookup key
  | _ => none

def partText? : Response → Option String
  | .text s => some s
  | part =>
      match part.get? "text" with
      | some (.text s) => some s
      | _ => none

/-- The text of a value: a text itself, or the parts of a list that have one, joined. -/
def plainText? : Response → Option String
  | .text s => some s
  | .list items =>
      match items.filterMap partText? with
      | [] => none
      | parts => some (String.join parts)
  | _ => none

def textAt? : List String → Response → Option String
  | [], r => r.plainText?
  | key :: rest, r => (r.get? key).bind (textAt? rest)

def firstChoice? (r : Response) : Option Response :=
  match r.get? "choices" with
  | some (.list (first :: _)) => some first
  | _ => none

def content? (r : Response) : Option String :=
  match r with
  | .text s => some s
  | _ =>
      (r.textAt? ["content"])
        <|> (r.textAt? ["message", "content"])
        <|> (r.textAt? ["lc_kwargs", "content"])
        <|> (r.textAt? ["data", "content"])
        <|> (r.firstChoice?.bind (textAt? ["message", "content"]))
        <|> (r.firstChoice?.bind (textAt? ["text"]))

/-- The text of a reply, or what stands for one without text. -/
def content (r : Response) : String := r.content?.getD noTextReply

end Response

end Dissect
