import FlowIndex.Index.Snapshot
import FlowIndex.Store.Basic

namespace FlowIndex

inductive ScanStage
  | listFlows
  | readFlow (uri : String) (rest : List String)
  | listHosts
  | readHost (uri : String) (rest : List String)
  | stampHost (uri text : String) (rest : List String)
  | done
deriving DecidableEq, Repr

namespace ScanStage

def flows : List String → ScanStage
  | [] => .listHosts
  | uri :: rest => .readFlow uri rest

def hosts : List String → ScanStage
  | [] => .done
  | uri :: rest => .readHost uri rest

end ScanStage

-- A scan under way: the next call, and what was found so far. It advances by one store call at a time,
-- so that anything may happen to the store between two of them.
structure Scan where
  stage : ScanStage := .listFlows
  operators : List Operator := []
  fragments : List Fragment := []
  structs : List Struct := []
  errors : List String := []
deriving DecidableEq, Repr

namespace Scan

variable {σ : Type} [DocumentStore σ]

def report (s : Scan) (message : String) : Scan :=
  { s with errors := s.errors ++ [message] }

-- Takes in a listing. One that the store refuses counts as empty.
def takeListing (s : Scan) (kind : DocumentKind) (next : List String → ScanStage) :
    Except Failure (List String) → Except Failure Scan
  | .ok uris => .ok { s with stage := next uris }
  | .error (.unexpected message) => .error (.unexpected message)
  | .error (.name e) => .error (.name e)
  | .error fault =>
    .ok { s.report s!"Failed to list {kind.label} documents: {fault.message}" with
      stage := next [] }

def skip (s : Scan) (next : ScanStage) : Failure → Except Failure Scan
  | .unreadable uri reason =>
    .ok { s.report (Failure.unreadable uri reason).message with stage := next }
  | fault => .error fault

-- How documents are extracted: those that cannot be, and why, flow documents and Go documents, and
-- the parser of the others.
structure Extractor where
  flows : List (String × String) := []
  hosts : List (String × String) := []
  parser : Host.Parser := .standard

def declarations (extractor : Extractor) (uri text : String) :
    Except String (List Operator × List Fragment) :=
  let d := Flow.Document.ofText uri text
  match extractor.flows.lookup uri, d.operators with
  | some message, _ => .error message
  | none, .error e => .error e.message
  | none, .ok operators => .ok (operators, d.fragments)

def takeFlow (extractor : Extractor) (s : Scan) (uri text : String) : Scan :=
  match declarations extractor uri text with
  | .ok (operators, fragments) =>
    { s with operators := s.operators ++ operators, fragments := s.fragments ++ fragments }
  | .error message => s.report s!"Failed to extract declarations from {uri}: {message}"

def extract (extractor : Extractor) (store : σ) (uri text : String) (modified : Int) :
    Except String (List Struct) := do
  let path ← (DocumentStore.relativePath store uri).mapError UriError.message
  match extractor.hosts.lookup uri with
  | some message => throw message
  | none => (Host.structs text uri path modified extractor.parser).mapError UriError.message

def takeHost (extractor : Extractor) (store : σ) (s : Scan) (uri text : String)
    (modified : Int) : Scan :=
  match extract extractor store uri text modified with
  | .ok structs => { s with structs := s.structs ++ structs }
  | .error message => s.report s!"Failed to extract structs from {uri}: {message}"

def step (extractor : Extractor) (store : σ) (s : Scan) : Except Failure Scan :=
  match s.stage with
  | .listFlows => s.takeListing .flow .flows (DocumentStore.list store .flow)
  | .readFlow uri rest =>
    match DocumentStore.read store uri with
    | .ok d => .ok { takeFlow extractor s uri d.text with stage := .flows rest }
    | .error fault => s.skip (.flows rest) fault
  | .listHosts => s.takeListing .host .hosts (DocumentStore.list store .host)
  | .readHost uri rest =>
    match DocumentStore.read store uri with
    | .ok d => .ok { s with stage := .stampHost uri d.text rest }
    | .error fault => s.skip (.hosts rest) fault
  | .stampHost uri text rest =>
    match DocumentStore.modified store uri with
    | .ok modified => .ok { takeHost extractor store s uri text modified with stage := .hosts rest }
    | .error fault => s.skip (.hosts rest) fault
  | .done => .ok s

def snapshot (s : Scan) (previous : Snapshot) : Snapshot :=
  { operators := s.operators, fragments := s.fragments, structs := s.structs
    version := previous.version + 1, built := true }

def result (s : Scan) (previous : Snapshot) : RebuildResult :=
  { success := true, operators := s.operators.length, fragments := s.fragments.length
    structs := s.structs.length, errors := s.errors, version := previous.version + 1 }

-- The result of a scan that a failure ended; the counts are those of the present snapshot.
def failure (s : Scan) (current : Snapshot) (fault : Failure) : RebuildResult :=
  { success := false, operators := current.operators.length
    fragments := current.fragments.length, structs := current.structs.length
    errors := s.errors ++ [s!"Index rebuild failed: {fault.message}"], version := current.version }

end Scan

-- The result of a rebuild that is turned away because another one is under way.
def RebuildResult.busy (current : Snapshot) : RebuildResult :=
  { success := false, errors := ["Index rebuild already in progress"], version := current.version }

end FlowIndex
