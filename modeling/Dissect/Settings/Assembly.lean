import Dissect.Backend.Reply
import Dissect.Settings
import Dissect.Service

namespace Dissect

inductive AssemblyError
  | provider (e : Backend.UnknownBackend)
  | budget (e : Summary.BudgetError)
deriving DecidableEq, Repr

def AssemblyError.message : AssemblyError → String
  | .provider e => e.message
  | .budget e => e.message

namespace Settings

def choice (s : Settings) : Backend.Choice where
  provider := s.provider
  ollamaHost := s.ollamaHost
  ollamaModel := s.ollamaModel
  apiBase := s.apiBase
  apiKey := s.apiKey
  model := s.model
  temperature := s.temperature
  maxTokens := s.maxTokens
  timeout := s.requestTimeout
  maxConcurrent := s.maxConcurrent

def backend (s : Settings) : Except AssemblyError Backend :=
  (Backend.choose s.choice).mapError .provider

/-- The way sources are run with a backend; there is none for a budget that is refused. -/
def runner (s : Settings) (parse : Syntax.Parser) (p : Backend) :
    Except AssemblyError Runner := do
  let budget ← s.budget.check.mapError .budget
  return {
    parse
    strict := s.strictParse
    provider := p.name
    concurrent := p.concurrent
    budget
    maxRetries := s.maxRetries
    interCallDelay := s.interCallDelay
    timeout := s.analysisTimeout
    stubs := s.withStubs }

def service (s : Settings) (parse : Syntax.Parser) (p : Backend) : Except AssemblyError Service :=
  (s.runner parse p).map (⟨·, s.outputDir⟩)

end Settings

end Dissect
