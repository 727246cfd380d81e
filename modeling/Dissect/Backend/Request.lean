import Dissect.Address.Parser
import Dissect.Backend.Basic
import Dissect.Call
import Dissect.Json.Parser
import Dissect.Text.Ascii

/-!
The requests that backends send. A request can fail before it is sent: for lack of a key, or because
its address, its key or its numbers cannot be written.
-/

namespace Dissect

structure ChatMessage where
  role : String
  content : String
deriving DecidableEq, Repr

structure HttpRequest where
  method : String
  address : Address
  authorization : Option String
  contentType : Option String
  body : Option Json

namespace Backend

/-- Why a call gives no reply. -/
inductive CallFailure
  | call (e : CallError)
  | address (e : AddressError)
  /-- an answer came although the address tells no server -/
  | incomplete (a : Address)
  | key (f : Text.AsciiFault)
  | temperature
  | slots
  | closed
  | nesting (e : Json.TooDeep)

def CallFailure.message : CallFailure → String
  | .call e => e.message
  | .address e => e.message
  | .incomplete a => "unknown url type: " ++ Text.quoted a.toText
  | .key f => f.message
  | .temperature => "Out of range float values are not JSON compliant"
  | .slots => "Semaphore initial value must be >= 0"
  | .closed => "Cannot send a request, as the client has been closed."
  | .nesting e => e.message

def offlineError : CallError := ⟨"No language-model backend configured (offline mode)", none⟩
def keyError : CallError := ⟨"LLM_API_KEY environment variable not set", none⟩

def setKey (key : Option String) : Option String := key.filter (!·.isEmpty)

def requestAddress (text : String) : Except CallFailure Address :=
  (do (← Address.ofText text).forRequest).mapError .address

def bearer (key : String) : Except CallFailure String :=
  let text := "Bearer " ++ key
  match Text.asciiFault? text with
  | some f => .error (.key f)
  | none => .ok text

def heatJson (x : Float) : Except CallFailure Json :=
  if x.isFinite then .ok (.float x) else .error .temperature

def messagesJson (messages : List ChatMessage) : Json :=
  .arr (messages.map fun m => .obj [("role", .str m.role), ("content", .str m.content)])

def limitField (key : String) (limit : Option Int) : List (String × Json) :=
  (limit.map fun n => (key, .int n)).toList

/-- The request that sends messages, with the temperature and the limit on tokens of the call or
else of the backend. A user that the address names comes before the key. -/
def request (p : Backend) (messages : List ChatMessage) (temperature : Option Float)
    (maxTokens : Option Int) : Except CallFailure HttpRequest :=
  let heat := temperature.getD p.temperature
  let limit := maxTokens.or p.maxTokens
  match p.kind with
  | .offline => .error (.call offlineError)
  | .ollama host model _ => do
      let address ← requestAddress (host ++ "/api/chat")
      let heat ← heatJson heat
      return ⟨"POST", address, address.authorization?, some "application/json", some (.obj [
        ("model", .str model), ("messages", messagesJson messages), ("stream", .bool false),
        ("options", .obj (("temperature", heat) :: limitField "num_predict" limit))])⟩
  | .chatCompletions baseUrl model key maxConcurrent _ =>
      match setKey key with
      | none => .error (.call keyError)
      | some key => do
          if maxConcurrent < 0 then throw .slots
          let address ← requestAddress (baseUrl ++ "/chat/completions")
          let bearer ← bearer key
          let heat ← heatJson heat
          return ⟨"POST", address, some (address.authorization?.getD bearer),
            some "application/json", some (.obj (
              [("model", .str model), ("messages", messagesJson messages),
                ("temperature", heat)] ++ limitField "max_tokens" limit))⟩

/-- The request that asks for the models, where a backend needs one to know whether it is healthy
and can send it. -/
def healthRequest? (p : Backend) : Option HttpRequest :=
  match p.kind with
  | .offline => none
  | .ollama host .. => do
      let address ← (requestAddress (host ++ "/api/tags")).toOption
      return ⟨"GET", address, address.authorization?, none, none⟩
  | .chatCompletions baseUrl _ key .. => do
      let key ← setKey key
      let address ← (requestAddress (baseUrl ++ "/models")).toOption
      let bearer ← (bearer key).toOption
      return ⟨"GET", address, some (address.authorization?.getD bearer),
        some "application/json", none⟩

/-- What steps that begin together do to the connection: a chat takes one of the open slots, a query
takes none, and a closing leaves the chats that wait before it without a connection. -/
inductive Role
  | chat
  | query
  | closing
deriving DecidableEq, Repr

/-- Steps that begin together: those carried out at once, those that wait for an open slot, and
those whose connection is closed while they wait. -/
structure Schedule (α : Type) where
  now : List α
  later : List α
  cut : List α

def Schedule.of {α : Type} (role : α → Role) : Nat → List α → Schedule α
  | _, [] => ⟨[], [], []⟩
  | slots, step :: rest =>
      match role step, slots with
      | .chat, 0 =>
          let s := Schedule.of role 0 rest
          if rest.any fun r => role r = .closing then { s with cut := step :: s.cut }
          else { s with later := step :: s.later }
      | .chat, slots + 1 =>
          let s := Schedule.of role slots rest
          { s with now := step :: s.now }
      | _, slots =>
          let s := Schedule.of role slots rest
          { s with now := step :: s.now }

def schedule {α : Type} (p : Backend) (role : α → Role) (steps : List α) : Schedule α :=
  match p.slots with
  | none => ⟨steps, [], []⟩
  | some slots => .of role slots.toNat steps

end Backend

end Dissect
