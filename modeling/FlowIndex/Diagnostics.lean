import FlowIndex.Index.Snapshot

namespace FlowIndex

inductive DiagnosticCode
  | duplicateName
  | duplicateSequence
  | unregisteredOperator
  | fragmentNotFound
  | structNotFound
deriving DecidableEq, Repr

def DiagnosticCode.label : DiagnosticCode → String
  | .duplicateName => "duplicate-name"
  | .duplicateSequence => "duplicate-sequence"
  | .unregisteredOperator => "unregistered-operator"
  | .fragmentNotFound => "fragment-not-found"
  | .structNotFound => "struct-not-found"

-- A problem at a place in a document. All problems are errors.
structure Diagnostic where
  code : DiagnosticCode
  message : String
  uri : String
  span : Span
deriving DecidableEq, Repr

namespace Diagnostics

-- Why a document cannot be checked: a message has no name of a file, or no number.
inductive Fault
  | name (e : UriError)
  | number (e : Text.TooLong)
deriving DecidableEq, Repr

-- The members of a list in groups of equal keys. Groups come in the order of their first members,
-- and members in the order of the list.
def groupBy {α κ : Type} [DecidableEq κ] (key : α → κ) (as : List α) : List (List α) :=
  (as.map key).eraseDups.map fun k => as.filter (key · = k)

def conflicts {κ : Type} [DecidableEq κ] (key : Operator → κ) (os : List Operator) :
    List (List Operator) :=
  (groupBy key os).filter (1 < ·.length)

def reportGroup (code : DiagnosticCode) (message uri : String) (group : List Operator) :
    List Diagnostic :=
  (group.filter (·.uri = uri)).map fun o => ⟨code, message, uri, o.span⟩

def withFile (text : String) (o : Operator) : Except UriError String := do
  let file ← Uri.fileName o.uri
  return s!"{text} ({file})"

def reportSequence (uri : String) (group : List Operator) : Except Fault (List Diagnostic) := do
  let places ← (group.mapM fun o => withFile o.name o).mapError Fault.name
  let number := (group.head?.map (·.sequence)).getD 0
  let sequence ← (Text.writeNumber number).mapError Fault.number
  let place := ", ".intercalate places
  return reportGroup .duplicateSequence
    s!"Duplicate operator sequence {sequence}. Found in: {place}" uri group

def duplicateSequences (os : List Operator) (uri : String) : Except Fault (List Diagnostic) := do
  let groups ← (conflicts (·.sequence) (os.filter (·.sequence ≠ 0))).mapM (reportSequence uri)
  return groups.flatten

def reportName (uri : String) (group : List Operator) : Except UriError (List Diagnostic) := do
  let places ← group.mapM fun o => withFile (o.package ++ "/" ++ o.path) o
  let name := (group.head?.map (·.name)).getD ""
  let place := ", ".intercalate places
  return reportGroup .duplicateName
    s!"Duplicate operator name '{name}'. Found in: {place}" uri group

def duplicateNames (os : List Operator) (uri : String) : Except UriError (List Diagnostic) := do
  let groups ← (conflicts (·.name) os).mapM (reportName uri)
  return groups.flatten

def unregisteredCalls (s : Snapshot) (d : Flow.Document) : List Diagnostic :=
  (d.calls.filter fun c => (s.findOperator c.name).isNone).map fun c =>
    ⟨.unregisteredOperator,
      s!"Unregistered operator '{c.name}'. Please add it to a REGISTER block.", d.uri, c.span⟩

def missingFragments (s : Snapshot) (d : Flow.Document) : List Diagnostic :=
  (d.expansions.filter fun e => (s.findFragment e.name).isNone).map fun e =>
    ⟨.fragmentNotFound,
      s!"FRAGMENT '{e.name}' not found. Please define it in a FRAGMENT block.", d.uri, e.span⟩

def missingStructs (s : Snapshot) (uri : String) : List Diagnostic :=
  ((s.operatorsIn uri).filter fun o => (s.findStruct o.struct).isNone).map fun o =>
    ⟨.structNotFound,
      s!"Go struct '{o.struct}' not found. Please ensure the struct exists in your Go code.", uri,
      o.span⟩

end Diagnostics

-- The problems of a document with the given text. Messages name the files and numbers of conflicting
-- entries, so a name that cannot be taken apart makes the check fail, and so does a long number. It
-- does not matter whether they are in the document that is checked.
def diagnose (s : Snapshot) (uri text : String) :
    Except Diagnostics.Fault (List Diagnostic) := do
  let d := Flow.Document.ofText uri text
  let sequences ← Diagnostics.duplicateSequences s.operators uri
  let names ← (Diagnostics.duplicateNames s.operators uri).mapError Diagnostics.Fault.name
  return sequences ++ names ++ Diagnostics.unregisteredCalls s d ++
    Diagnostics.missingFragments s d ++ Diagnostics.missingStructs s uri

end FlowIndex
