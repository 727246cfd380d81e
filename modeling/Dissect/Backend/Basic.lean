import Dissect.Text.Case

namespace Dissect

inductive BackendKind
  | offline
  | ollama (host model : String) (timeout : Float)
  | chatCompletions (baseUrl model : String) (apiKey : Option String) (maxConcurrent : Int)
      (timeout : Float)

structure Backend where
  kind : BackendKind
  temperature : Float
  maxTokens : Option Int

namespace Backend

structure Choice where
  provider : String
  ollamaHost : String
  ollamaModel : String
  apiBase : String
  apiKey : Option String
  model : String
  temperature : Float
  maxTokens : Option Int
  /-- seconds for a request; each backend has its own where none are given -/
  timeout : Option Float
  maxConcurrent : Int

structure UnknownBackend where
  name : String
deriving DecidableEq, Repr

def UnknownBackend.message (e : UnknownBackend) : String :=
  "Unknown LLM provider '" ++ e.name ++ "'. Expected one of: ollama, openai, offline"

def withoutSlashes (address : String) : String :=
  String.ofList (address.toList.reverse.dropWhile (· == '/')).reverse

/-- The backend of a choice; its name counts in any case. -/
def choose (c : Choice) : Except UnknownBackend Backend :=
  let make (kind : BackendKind) : Except UnknownBackend Backend :=
    .ok ⟨kind, c.temperature, c.maxTokens⟩
  match Text.lower c.provider with
  | "ollama" => make (.ollama (withoutSlashes c.ollamaHost) c.ollamaModel (c.timeout.getD 600.0))
  | "openai" =>
      make (.chatCompletions (withoutSlashes c.apiBase) c.model c.apiKey c.maxConcurrent
        (c.timeout.getD 120.0))
  | "offline" => make .offline
  | name => .error ⟨name⟩

def name (p : Backend) : String :=
  match p.kind with
  | .offline => "Offline"
  | .ollama _ model _ => "Ollama(" ++ model ++ ")"
  | .chatCompletions _ model .. => "ChatCompletions(" ++ model ++ ")"

def concurrent (p : Backend) : Bool :=
  match p.kind with
  | .ollama .. => false
  | _ => true

/-- How many requests a backend has open at most, where it keeps count. -/
def slots (p : Backend) : Option Int :=
  match p.kind with
  | .chatCompletions _ _ _ maxConcurrent _ => some maxConcurrent
  | _ => none

end Backend

end Dissect
