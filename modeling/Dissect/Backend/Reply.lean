import Dissect.Backend.Request
import Dissect.Backend.Response
import Dissect.Text.Encoding

namespace Dissect

inductive HttpOutcome
  | answer (status : Int) (body : Bytes)
  | failure (reason : String)

namespace Backend

/-- The JSON value of a body in the encoding that its octets tell, none where it has none. Only
parts inside too many others are an error. -/
def bodyJson (body : Bytes) : Except Json.TooDeep (Option Json) :=
  match (Text.charsOfBytes? body).map Json.parseChars with
  | some (.ok v) => .ok (some v)
  | some (.error (.tooDeep e)) => .error e
  | _ => .ok none

/-- A body as a reply: its JSON value, or its text where it has none. -/
def replyOfBody (body : Bytes) : Except Json.TooDeep Response :=
  (bodyJson body).map fun
    | some v => .ofJson v
    | none => .text (Text.Utf8.decodeLenient body)

def isSuccess (status : Int) : Bool := 200 ≤ status && status < 300

def reply (p : Backend) (r : HttpRequest) : HttpOutcome → Except CallFailure String
  | .failure reason => .error (.call ⟨p.name ++ " request failed: " ++ reason, none⟩)
  | .answer status body =>
      if !r.address.isComplete then .error (.incomplete r.address)
      else if isSuccess status then
        ((replyOfBody body).mapError .nesting).map Response.content
      else .error (.call ⟨p.name ++ " returned HTTP " ++ toString status, some status⟩)

def modelNames? (body : Json) : Option (List Json) :=
  match body with
  | .obj _ =>
      match body.field? "models" with
      | none => some []
      | some (.arr models) => models.mapM (Json.field? "name")
      | _ => none
  | _ => none

/-- Whether a name is that of a model, or of its latest version. -/
def namesModel (model : String) : Json → Bool
  | .str s => s == model || s == model ++ ":latest"
  | _ => false

def listsModel (model : String) (body : Bytes) : Bool :=
  match bodyJson body with
  | .ok (some v) => (modelNames? v).any (·.any (namesModel model))
  | _ => false

def isHealthy (p : Backend) (ended : Option (HttpRequest × HttpOutcome)) : Bool :=
  match p.kind, ended with
  | .offline, _ => true
  | .ollama _ model _, some (r, .answer status body) =>
      r.address.isComplete && isSuccess status && listsModel model body
  | .chatCompletions .., some (r, .answer status _) => r.address.isComplete && isSuccess status
  | _, _ => false

def outOfReach : HttpOutcome := .failure "All connection attempts failed"

def isHealthyAlone (p : Backend) : Bool :=
  p.isHealthy (p.healthRequest?.map fun r => (r, outOfReach))

def replyAlone (p : Backend) (prompt : String) : Except CallFailure String := do
  let r ← p.request [⟨"user", prompt⟩] none none
  p.reply r outOfReach

/-- What the caller gets; a failure that callers are not prepared for is no answer to the call. -/
def answer? : Except CallFailure String → Option (Except CallError String)
  | .ok content => some (.ok content)
  | .error (.call e) => some (.error e)
  | .error _ => none

/-- How calls are answered where no server can be reached; pauses take their time. -/
def alone {σ : Type} (p : Backend) : Plan.Handler Call σ where
  answer
    | .ask prompt, s => (answer? (p.replyAlone prompt), s)
    | .pause _, s => (some (), s)
  seconds
    | .ask _ => 0.0
    | .pause seconds => seconds

end Backend

end Dissect
