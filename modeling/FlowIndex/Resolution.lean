import FlowIndex.Flow.Cursor
import FlowIndex.Index.Snapshot
import FlowIndex.Text.Lines

namespace FlowIndex

structure Hover where
  contents : String
  span : Span
deriving DecidableEq, Repr

namespace Resolution

-- The declaration to look for: its kind and its name.
structure Sought where
  kind : Flow.SymbolKind
  name : String
deriving DecidableEq, Repr

def targetAt (text : String) (p : Position) : Option Flow.Target :=
  (Flow.Document.ofText "" text).targetAt p

-- What has to be found for the definition of what a cursor points at. An operator stands for its
-- struct. Keywords have no definition, nor have operators that are not in the index.
def sought? (s : Snapshot) (t : Flow.Target) : Option Sought :=
  match t.kind with
  | .keyword => none
  | .operator => (s.findOperator t.name).map fun o => ⟨.struct, o.struct⟩
  | kind => some ⟨kind, t.name⟩

def locationOf (s : Struct) : Location :=
  ⟨s.uri, s.span⟩

def inIndex (s : Snapshot) (q : Sought) : Option Location :=
  match q.kind with
  | .struct => (s.findStruct q.name).map locationOf
  | .fragment => (s.findFragment q.name).map fun f => ⟨f.uri, f.span⟩
  | _ => none

def definitionLines : Nat := 20

def shownLines (definition : String) : List String :=
  let lines := Text.lines definition
  if definitionLines < lines.length then
    lines.take definitionLines ++ ["    // ... (truncated)"]
  else lines

def operatorParts (o : Operator) : Except Text.TooLong (List String) := do
  let sequence ← Text.writeNumber o.sequence
  return [s!"**Operator**: `{o.name}`", s!"**Sequence**: `{sequence}`",
    s!"**Package**: `{o.package}`"]

def structParts (name : String) : Option Struct → List String
  | none => [s!"**Go Struct**: `{name}` *(not found)*"]
  | some s =>
    let body := "\n".intercalate (shownLines s.definition)
    [s!"**Go Struct**: `{name}`", s!"**Package**: `{s.package}`", s!"**File**: `{s.path}`",
     s!"**Definition**:\n```go\n{body}\n```"]

-- What is shown of a struct, as markdown; the operator comes first if it was asked for one.
def structMarkdown (name : String) (found : Option Struct) (operator : Option Operator) :
    Except Text.TooLong String := do
  let parts ← (operator.map operatorParts).getD (.ok [])
  return "\n\n".intercalate (parts ++ structParts name found)

def fragmentMarkdown (name : String) : Option Fragment → Except UriError String
  | none => .ok s!"**Fragment**: `{name}` *(not found)*"
  | some f => do
    let file ← Uri.fileName f.uri
    return s!"**Fragment**: `{f.name}`\n\n**File**: `{file}` (line {f.span.start.line + 1})"

inductive HoverPlan
  | nothing
  | shown (h : Hover)
  | struct (name : String) (operator : Option Operator) (span : Span)
deriving DecidableEq, Repr

def hoverPlan (s : Snapshot) (t : Flow.Target) : Except UriError HoverPlan :=
  match t.kind with
  | .keyword => .ok (.shown ⟨(Flow.keywordDoc? t.name).getD "", t.span⟩)
  | .fragment => do
    return .shown ⟨← fragmentMarkdown t.name (s.findFragment t.name), t.span⟩
  | .struct => .ok (.struct t.name none t.span)
  | .operator =>
    match s.findOperator t.name with
    | none => .ok .nothing
    | some o => .ok (.struct o.struct (some o) t.span)

end Resolution

end FlowIndex
