import Dissect.Analysis.Report
import Dissect.Analysis.Stats
import Dissect.Reference.Graph
import Dissect.Summary.Chunk

namespace Dissect.Analysis

structure PromptMaterial where
  sourceFile : String
  stats : Stats
  graph : Option ReferenceGraph
  samples : String
  priorBlocks : List String

inductive Question
  | architecture
  | ofKind (subject : String) (tasks : List String)
  | synthesis
  | other (build : PromptMaterial → String)

/-- One facet of an analysis. -/
structure Category where
  name : String
  title : String
  kinds : List UnitKind
  sampleLimit : Int
  question : Question

/-- Units from the one with the longest code on; of equal ones the first comes first. -/
def byCodeLength (a b : SourceUnit) : Bool :=
  b.code.length < a.code.length || (a.code.length == b.code.length && a.id ≤ b.id)

/-- The largest units of each of several kinds, `limit` of each; a negative limit leaves out that
many of the smallest. -/
def largestUnits (groups : UnitGroups) (kinds : List UnitKind) (limit : Int) : List SourceUnit :=
  kinds.flatMap fun k =>
    let ranked := (groups.get k).mergeSort byCodeLength
    ranked.take (Text.position ranked.length limit)

def sampleText (u : SourceUnit) (code : String) : String :=
  "### " ++ u.kind.text ++ ": " ++ u.name ++ " (lines " ++ toString u.startLine ++ "-"
    ++ toString u.endLine ++ ")\n```javascript\n" ++ code ++ "\n```"

def background : String :=
  "The original code was minified (short variable names, no whitespace) and obfuscated. "
    ++ "It was formatted, deobfuscated, and split with tree-sitter into named units "
    ++ "(functions, methods, classes, variables, constants, imports, exports, and a base unit "
    ++ "holding everything else)."

def samplePart (c : PromptMaterial) : String :=
  if c.samples.isEmpty then "" else "\n**Representative units**:\n\n" ++ c.samples ++ "\n"

def numbered (tasks : List String) : String :=
  "\n".intercalate (tasks.mapIdx fun i task => toString (i + 1) ++ ". " ++ task)

def graphLines : Option ReferenceGraph → List String
  | none => ["- (no dependency graph)"]
  | some g =>
      ("- " ++ toString g.nodes.length ++ " nodes, " ++ toString g.edges.length
        ++ " references, " ++ toString g.distinctEdges.length ++ " distinct edges")
      :: (g.topTargets 10).map fun r =>
        "- `" ++ r.1 ++ "` is referenced by " ++ toString r.2 ++ " units"

def architecturePrompt (c : PromptMaterial) : String :=
  "\nAnalyze the overall architecture of the JavaScript program " ++ c.sourceFile
    ++ ".\n\n**Context**:\n- " ++ background ++ "\n- The source has "
    ++ toString c.stats.lineCount ++ " lines; top-level units cover " ++ c.stats.claimedText
    ++ "% of them.\n\n**Unit counts**:\n" ++ c.stats.list
    ++ "\n\n**Dependency graph** (lexical identifier matches between units):\n"
    ++ "\n".intercalate (graphLines c.graph) ++ "\n" ++ samplePart c ++ "\n**Tasks**:\n"
    ++ numbered [
      "**Structure**: Describe the high-level structure and main subsystems.",
      "**Entry points**: Identify likely entry points and central units.",
      "**Coupling**: Point out tightly coupled groups of units in the graph.",
      "**Hypotheses**: If unclear, hypothesize what the program does."]
    ++ "\n\n**Output**: A concise Markdown section.\n"

def promptAbout (subject : String) (tasks : List String) (c : PromptMaterial) : String :=
  "\nAnalyze the " ++ subject ++ " of the JavaScript program " ++ c.sourceFile
    ++ ".\n\n**Context**:\n- " ++ background ++ "\n\n**Unit counts**:\n" ++ c.stats.list ++ "\n"
    ++ samplePart c ++ "\n**Tasks**:\n" ++ numbered tasks
    ++ "\n\n**Output**: A concise Markdown section.\n"

def synthesisPrompt (c : PromptMaterial) : String :=
  "\nCombine the following " ++ toString c.priorBlocks.length
    ++ " analyses of the JavaScript program " ++ c.sourceFile
    ++ " into one coherent overview.\n\n" ++ "\n\n".intercalate c.priorBlocks
    ++ "\n\n**Tasks**:\n"
    ++ numbered [
      "**Purpose**: What does the program do?",
      "**Design**: How do its parts fit together?",
      "**Challenges**: What makes the code hard to understand without a source map?",
      "**Improvements**: What would make it easier to maintain?"]
    ++ "\n\n**Output**: A concise Markdown overview.\n"

def Category.prompt (category : Category) (c : PromptMaterial) : String :=
  match category.question with
  | .architecture => architecturePrompt c
  | .ofKind subject tasks => promptAbout subject tasks c
  | .synthesis => synthesisPrompt c
  | .other build => build c

/-- The categories of an analysis; the last one joins the others. -/
def standardCategories : List Category := [
  ⟨"architecture", "Architecture", [.classDecl, .function], 2, .architecture⟩,
  ⟨"functions", "Functions", [.function, .arrowFunction], 5, .ofKind "functions" [
    "**Purpose**: What do the main functions do?",
    "**Patterns**: Identify notable patterns (callbacks, factories, module wrappers).",
    "**Utilities**: Which functions are general-purpose helpers?"]⟩,
  ⟨"classes", "Classes", [.classDecl, .method], 3, .ofKind "classes and methods" [
    "**Responsibilities**: What does each class model?",
    "**Hierarchy**: Describe inheritance and composition.",
    "**Key methods**: Which methods carry the core logic?"]⟩,
  ⟨"state", "State and Data", [.variable, .constant], 5, .ofKind "variables and constants" [
    "**Configuration**: Which constants hold configuration or lookup tables?",
    "**Shared state**: Which variables hold state shared across units?",
    "**Data shapes**: Describe notable data structures."]⟩,
  ⟨"modules", "Modules and Interfaces", [.import, .export, .base], 3,
    .ofKind "imports, exports and top-level glue code" [
    "**Dependencies**: Which external modules are used and for what?",
    "**Public surface**: What does the program export?",
    "**Glue code**: What does the remaining top-level code do?"]⟩,
  ⟨"synthesis", "Codebase Overview", [], 0, .synthesis⟩]

def byLineCount (a b : SourceUnit) : Bool :=
  b.lineCount < a.lineCount || (a.lineCount == b.lineCount && a.id ≤ b.id)

def standInText (category : Category) (groups : UnitGroups) (lineCount : Nat) : String :=
  let stats := Stats.of groups lineCount
  let kinds := if category.kinds.isEmpty then UnitKind.all else category.kinds
  let largest := (((kinds.filter (· != .base)).flatMap groups.get).mergeSort byLineCount).take 3
  let described := largest.map fun u => "`" ++ u.name ++ "` (" ++ toString u.lineCount ++ " lines)"
  "\n".intercalate <|
    ["Statistical summary of " ++ Text.lower category.title ++ ".", ""]
    ++ kinds.map (fun k => "- " ++ k.text ++ " units: " ++ toString (groups.get k).length)
    ++ ["- Total units: " ++ toString stats.total]
    ++ (stats.dominant.map fun d =>
      "- Dominant kind: " ++ d.1.text ++ " (" ++ toString d.2 ++ " units)").toList
    ++ ["- Line coverage: " ++ toString stats.coveredLines ++ "/" ++ toString stats.lineCount
      ++ " lines (" ++ stats.claimedText ++ "%) claimed by top-level units"]
    ++ (if largest.isEmpty then [] else ["- Largest: " ++ ", ".intercalate described])

/-- The overview that stands in for a synthesis: the results themselves. -/
def standInSynthesis (results : List Result) : String :=
  "\n".intercalate <|
    ("Overview assembled from " ++ toString results.length ++ " category analyses.")
    :: results.flatMap fun r =>
      ["", "### " ++ r.heading ++ " (" ++ r.status.text ++ ")", "", r.content]

end Dissect.Analysis
