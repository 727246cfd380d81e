import Dissect.Decimal.Reader
import Dissect.Path
import Dissect.Summary.Budget
import Dissect.Text.Case
import Dissect.Text.Quoted
import Dissect.Text.Slice

namespace Dissect

abbrev Environment := List (String × String)

/-- Why settings are refused: a text that is no number, or a number too long to be read. -/
inductive SettingsError
  | notWhole (text : String)
  | tooLong (e : Decimal.TooManyDigits)
  | notNumber (text : String)
deriving DecidableEq, Repr

/-- How much of a quoted text is shown where a whole number was expected. -/
def quoteLimit : Nat := 200

def SettingsError.message : SettingsError → String
  | .notWhole text =>
      "invalid literal for int() with base 10: " ++ Text.front (Text.quoted text) quoteLimit
  | .tooLong e => e.message
  | .notNumber text => "could not convert string to float: " ++ Text.quoted text

structure Settings where
  provider : String
  ollamaHost : String
  ollamaModel : String
  apiBase : String
  apiKey : Option String
  model : String
  temperature : Float
  maxTokens : Option Int
  requestTimeout : Option Float
  maxConcurrent : Int
  outputDir : Path
  budget : Summary.Budget
  maxRetries : Int
  interCallDelay : Float
  analysisTimeout : Option Float
  strictParse : Bool
  withStubs : Bool
  logLevel : String
  logFile : String

namespace Settings

def whole (text : String) : Except SettingsError Int :=
  match Decimal.readInt text with
  | .ok n => .ok n
  | .error .malformed => .error (.notWhole text)
  | .error (.tooLong e) => .error (.tooLong e)

def number (text : String) : Except SettingsError Float :=
  match Decimal.readFloat? text with
  | some x => .ok x
  | none => .error (.notNumber text)

/-- A value that may be left out; an empty text leaves it out too. -/
def optional {α : Type} (read : String → Except SettingsError α) :
    Option String → Except SettingsError (Option α)
  | none => .ok none
  | some text => if text.isEmpty then .ok none else (read text).map some

def standard : Settings where
  provider := "ollama"
  ollamaHost := "http://localhost:11434"
  ollamaModel := "qwen3:30b-a3b-q8_0"
  apiBase := "https://api.openai.com/v1"
  apiKey := none
  model := "gpt-4o-mini"
  temperature := 0.1
  maxTokens := none
  requestTimeout := none
  maxConcurrent := 4
  outputDir := .ofText "./output"
  budget := .standard
  maxRetries := 3
  interCallDelay := 1.0
  analysisTimeout := none
  strictParse := true
  withStubs := true
  logLevel := "INFO"
  logFile := "/tmp/deconstructor.log"

def variableNames : List String :=
  ["LLM_PROVIDER", "OLLAMA_HOST", "OLLAMA_MODEL", "LLM_API_BASE", "LLM_API_KEY", "LLM_MODEL",
    "LLM_TEMPERATURE", "LLM_MAX_TOKENS", "LLM_REQUEST_TIMEOUT", "MAX_CONCURRENT_REQUESTS",
    "OUTPUT_DIR", "CHUNK_SIZE", "OVERLAP_SIZE", "RECURSION_LIMIT", "CONTEXT_LIMIT_THRESHOLD",
    "MAX_RETRIES", "INTER_CALL_DELAY", "ANALYSIS_TIMEOUT", "STRICT_PARSE", "ADD_DOC_STUBS",
    "LOG_LEVEL", "LOG_FILE"]

/-- The settings of an environment, read in order; the first text that is no number is refused. -/
def ofEnvironment (env : Environment) : Except SettingsError Settings := do
  let s := standard
  let text (name standard : String) := (env.lookup name).getD standard
  let numberOr (name : String) (standard : Float) := (env.lookup name).elim (.ok standard) number
  let wholeOr (name : String) (standard : Int) := (env.lookup name).elim (.ok standard) whole
  let isTrue (name : String) (standard : Bool) :=
    (env.lookup name).elim standard fun value => Text.lower value == "true"
  let temperature ← numberOr "LLM_TEMPERATURE" s.temperature
  let maxTokens ← optional whole (env.lookup "LLM_MAX_TOKENS")
  let requestTimeout ← numberOr "LLM_REQUEST_TIMEOUT" 600.0
  let maxConcurrent ← wholeOr "MAX_CONCURRENT_REQUESTS" s.maxConcurrent
  let chunkSize ← wholeOr "CHUNK_SIZE" s.budget.chunkSize
  let overlapSize ← wholeOr "OVERLAP_SIZE" s.budget.overlapSize
  let recursionLimit ← wholeOr "RECURSION_LIMIT" s.budget.recursionLimit
  let contextLimit ← wholeOr "CONTEXT_LIMIT_THRESHOLD" s.budget.contextLimit
  let maxRetries ← wholeOr "MAX_RETRIES" s.maxRetries
  let interCallDelay ← numberOr "INTER_CALL_DELAY" s.interCallDelay
  let analysisTimeout ← optional number (env.lookup "ANALYSIS_TIMEOUT")
  return {
    provider := text "LLM_PROVIDER" s.provider
    ollamaHost := text "OLLAMA_HOST" s.ollamaHost
    ollamaModel := text "OLLAMA_MODEL" s.ollamaModel
    apiBase := text "LLM_API_BASE" s.apiBase
    apiKey := env.lookup "LLM_API_KEY"
    model := text "LLM_MODEL" s.model
    temperature
    maxTokens
    requestTimeout := some requestTimeout
    maxConcurrent
    outputDir := (env.lookup "OUTPUT_DIR").elim s.outputDir .ofText
    budget := ⟨chunkSize, overlapSize, recursionLimit, contextLimit⟩
    maxRetries
    interCallDelay
    analysisTimeout
    strictParse := isTrue "STRICT_PARSE" s.strictParse
    withStubs := isTrue "ADD_DOC_STUBS" s.withStubs
    logLevel := text "LOG_LEVEL" s.logLevel
    logFile := text "LOG_FILE" s.logFile }

end Settings

end Dissect
