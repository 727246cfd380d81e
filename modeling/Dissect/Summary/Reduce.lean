import Dissect.Call
import Dissect.FileTree
import Dissect.Summary.Budget

/-!
Summaries of long texts. A text that fits one call is summarised by it. A longer one is cut into
chunks, each chunk summarised, and the summaries, joined, are summarised in turn, until they fit or
the limit on levels is reached and the text is cut off.
-/

namespace Dissect.Summary

/-- Instructions in front of a text: where none is given, of a chunk, and of joined summaries. -/
def standardPrompt : String := "Please summarize this text:"
def partPrompt : String := "Summarize the key points of this segment:"
def nextLevelPrompt : String := "Please create a high-level summary of these summaries:"

end Summary

structure Summary where
  text : String
  levels : Nat
  calls : Nat
  /-- chunks left out because their summaries failed -/
  dropped : Nat
  /-- the text was cut off at the limit on levels -/
  degraded : Bool
deriving DecidableEq, Repr

namespace Summary

def message (prompt text : String) : String := prompt ++ "\n\n" ++ text

/-- The summary of one chunk, or none if the call fails or gives nothing of use. -/
def ofPart (chunk : String) : Plan Call (Option String) := do
  match ← ask (message partPrompt chunk) with
  | .error _ => return none
  | .ok reply => return if isUsable reply then some reply else none

def ofOneCall (prompt text : String) (degraded : Bool) :
    Plan Call (Except CallError Summary) := do
  match ← ask (message prompt text) with
  | .error e => return .error e
  | .ok reply => return .ok ⟨reply, 1, 1, 0, degraded⟩

def allFailed (count : Nat) (depth : Int) : CallError :=
  ⟨"All " ++ toString count ++ " chunk summaries failed at level " ++ toString depth, none⟩

def reduced (inner : Summary) (count dropped : Nat) : Summary :=
  ⟨inner.text, inner.levels + 1, count + inner.calls, dropped + inner.dropped, inner.degraded⟩

/-- The summary of a text at a level, with `left` more levels to go. -/
def ofTextFrom (concurrent : Bool) (b : Budget) :
    Nat → Int → String → String → Plan Call (Except CallError Summary)
  | left, depth, prompt, text =>
      if (tokenCount text : Int) ≤ b.contextLimit then ofOneCall prompt text false
      else
        match left with
        | 0 => ofOneCall prompt (Text.front text (b.contextLimit * tokenLength)) true
        | left + 1 => do
            let parts := chunks text b.chunkSize b.overlapSize
            let results ← Plan.fanOut concurrent (parts.map ofPart)
            let survivors := results.filterMap id
            let dropped := parts.length - survivors.length
            if survivors.isEmpty then return .error (allFailed parts.length depth)
            else
              let joined := "\n\n".intercalate survivors
              let inner ←
                if b.contextLimit < tokenCount joined then
                  ofTextFrom concurrent b left (depth + 1)
                    (message nextLevelPrompt prompt) joined
                else ofOneCall prompt joined false
              return inner.map (reduced · parts.length dropped)

def ofText (concurrent : Bool) (b : Budget) (prompt text : String) (depth : Int) :
    Plan Call (Except CallError Summary) :=
  ofTextFrom concurrent b (b.recursionLimit - depth).toNat depth prompt text

def withoutCalls (text : String) : Summary := ⟨text, 0, 0, 0, false⟩

def joinDocuments (documents : List (String × String)) : String :=
  String.join (documents.map fun d => "\n\n--- File: " ++ d.1 ++ " ---\n\n" ++ d.2)

def ofDocuments (concurrent : Bool) (b : Budget) (documents : List (String × String))
    (prompt : String) : Plan Call (Except CallError Summary) :=
  let joined := joinDocuments documents
  if joined.isEmpty then return .ok (withoutCalls "No documents to summarize")
  else ofText concurrent b prompt joined 0

def sourceNames (files : FileTree) (directory : Path) : List String :=
  ((files.fileNames directory).filter (·.endsWith ".js")).mergeSort (· ≤ ·)

/-- The named texts of files in a directory; files that cannot be opened are left out. -/
def documentsOf (files : FileTree) (directory : Path) :
    List String → Except Text.Utf8.Fault (List (String × String))
  | [] => .ok []
  | name :: rest =>
      match files.read (directory.join [name]) with
      | .error _ => documentsOf files directory rest
      | .ok content => do
          return (name, ← Text.read content) :: (← documentsOf files directory rest)

def directoryPrompt (directory : Path) : String :=
  "Please analyze these " ++ directory.name
    ++ " and explain their purpose, patterns, and relationships:"

def ofDirectory (concurrent : Bool) (b : Budget) (files : FileTree) (directory : Path)
    (prompt : Option String) :
    Except Text.Utf8.Fault (Plan Call (Except CallError Summary)) :=
  match sourceNames files directory with
  | [] => .ok (pure (.ok (withoutCalls "No JavaScript files found in directory")))
  | names =>
      match documentsOf files directory names with
      | .error f => .error f
      | .ok documents => .ok <|
        ofDocuments concurrent b documents
          ((prompt.filter (!·.isEmpty)).getD (directoryPrompt directory))

end Summary

end Dissect
