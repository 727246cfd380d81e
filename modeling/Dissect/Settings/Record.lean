import Dissect.Json.Access
import Dissect.Settings

namespace Dissect.Settings

def fields (s : Settings) : List (String × Json) :=
  let number? (x : Option Float) : Json := x.elim .null .float
  [("llm_provider", .str s.provider), ("ollama_host", .str s.ollamaHost),
    ("ollama_model", .str s.ollamaModel), ("llm_api_base", .str s.apiBase),
    ("llm_api_key", .ofText? s.apiKey), ("llm_model", .str s.model),
    ("llm_temperature", .float s.temperature), ("llm_max_tokens", s.maxTokens.elim .null .int),
    ("llm_request_timeout", number? s.requestTimeout), ("max_concurrent", .int s.maxConcurrent),
    ("output_dir", .str s.outputDir.toText), ("chunk_size", .int s.budget.chunkSize),
    ("overlap_size", .int s.budget.overlapSize),
    ("recursion_limit", .int s.budget.recursionLimit),
    ("context_limit_threshold", .int s.budget.contextLimit), ("max_retries", .int s.maxRetries),
    ("inter_call_delay", .float s.interCallDelay),
    ("analysis_timeout", number? s.analysisTimeout), ("strict_parse", .bool s.strictParse),
    ("add_doc_stubs", .bool s.withStubs), ("log_level", .str s.logLevel),
    ("log_file", .str s.logFile)]

def budgetOf (record : Json) : Summary.Budget :=
  let b := Summary.Budget.standard
  let whole (key : String) (standard : Int) := (record.get key).whole?.getD standard
  ⟨whole "chunk_size" b.chunkSize, whole "overlap_size" b.overlapSize,
    whole "recursion_limit" b.recursionLimit, whole "context_limit_threshold" b.contextLimit⟩

/-- The settings of a record; what it leaves out is as standard. -/
def ofRecord (record : Json) : Settings :=
  let s := standard
  let text (key : String) (standard : String) := (record.get key).text?.getD standard
  let whole (key : String) (standard : Int) := (record.get key).whole?.getD standard
  let number (key : String) (standard : Float) := (record.get key).real?.getD standard
  let truth (key : String) (standard : Bool) := (record.get key).truth?.getD standard
  { provider := text "llm_provider" s.provider
    ollamaHost := text "ollama_host" s.ollamaHost
    ollamaModel := text "ollama_model" s.ollamaModel
    apiBase := text "llm_api_base" s.apiBase
    apiKey := (record.get "llm_api_key").text?
    model := text "llm_model" s.model
    temperature := number "llm_temperature" s.temperature
    maxTokens := (record.get "llm_max_tokens").whole?
    requestTimeout := (record.get "llm_request_timeout").real?
    maxConcurrent := whole "max_concurrent" s.maxConcurrent
    outputDir := (record.get "output_dir").text?.elim s.outputDir .ofText
    budget := budgetOf record
    maxRetries := whole "max_retries" s.maxRetries
    interCallDelay := number "inter_call_delay" s.interCallDelay
    analysisTimeout := (record.get "analysis_timeout").real?
    strictParse := truth "strict_parse" s.strictParse
    withStubs := truth "add_doc_stubs" s.withStubs
    logLevel := text "log_level" s.logLevel
    logFile := text "log_file" s.logFile }

end Dissect.Settings
