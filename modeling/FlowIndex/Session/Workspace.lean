import FlowIndex.Console.Report
import FlowIndex.Resolution
import FlowIndex.Session.Schedule
import FlowIndex.Store.Basic
import FlowIndex.Tool.Client
import FlowIndex.Watcher

namespace FlowIndex

structure Config where
  root : Path
  -- The working directory, in which relative paths are resolved.
  cwd : Path
  excluded : List String := []
  pace : Pace
  -- The external tool, if there is one.
  tool : Option (String → Except Tool.Fault (Option Location)) := none
  -- The Go documents that cannot be extracted, and why.
  faults : List (String × String) := []
  -- The flow documents that cannot be extracted, and why.
  flowFaults : List (String × String) := []
  parser : Host.Parser := .standard

def Config.tiers (c : Config) : List String :=
  (if c.tool.isSome then ["external"] else []) ++ ["index", "live-scan"]

inductive Listener
  -- Checks the open documents again.
  | openDocuments
  -- Notes that it was told, and may then fail.
  | observer (tag : String) (fails : Bool)
  -- Prints the problems of all flow documents.
  | report
deriving DecidableEq, Repr

structure Workspace (σ : Type) where
  store : σ
  snapshot : Snapshot := {}
  schedule : Schedule := {}
  -- The open documents, with the text of those that were changed but not saved.
  opened : List (String × Option String) := []
  sink : List (String × List Diagnostic) := []
  listeners : List Listener := [.openDocuments]
  watchers : Nat := 0
  -- The watcher of the session, which is stopped when the session is.
  watcher : Option Nat := none
  -- The watchers that wait for a batch of changed paths, the next one first.
  waiting : List Nat := []
  -- The watchers that ended at a change that they could not name.
  broken : List (Nat × UriError) := []
  -- The batches that wait for a watcher.
  batches : List (List String) := []
  -- The names that the external tool was asked for.
  asked : List String := []
  -- The observers that were told of a snapshot, and its version.
  heard : List (String × Nat) := []
  console : List String := []

namespace Workspace

variable {σ : Type}

def needsUpdate (w : Workspace σ) : Bool :=
  !w.snapshot.built || !w.schedule.pending.isEmpty

def modifySchedule (w : Workspace σ) (f : Schedule → Schedule) : Workspace σ :=
  { w with schedule := f w.schedule }

def checkFailure : Diagnostics.Fault → Failure
  | .name e => .name e
  | .number e => .unexpected e.message

def publish (w : Workspace σ) (s : Snapshot) (uri text : String) :
    Except Failure (Workspace σ × List Diagnostic) := do
  let ds ← (diagnose s uri text).mapError checkFailure
  return ({ w with sink := NameMap.set uri ds w.sink }, ds)

def withdraw (w : Workspace σ) (uri : String) : Workspace σ :=
  { w with sink := NameMap.erase uri w.sink }

def openDocument (w : Workspace σ) (uri : String) (text : Option String) : Workspace σ :=
  { w with opened := NameMap.set uri text w.opened }

def closeDocument (w : Workspace σ) (uri : String) : Workspace σ :=
  { w with opened := NameMap.erase uri w.opened }.withdraw uri

def stopFailure? (w : Workspace σ) : Option Failure := do
  return .name (← w.broken.lookup (← w.watcher))

-- Stops the watcher of the session. One that broke stays as it is.
def stopWatcher (w : Workspace σ) : Workspace σ :=
  if w.stopFailure?.isSome then w
  else { w with watcher := none, waiting := w.waiting.filter (some · ≠ w.watcher) }

def noteChange [DocumentStore σ] (pace : Pace) (w : Workspace σ) (uri : String) :
    Except UriError (Workspace σ) := do
  match ← DocumentStore.kindOf w.store uri with
  | none => return w
  | some _ => return w.modifySchedule (.notify pace uri)

-- Notes changes one by one, up to a name that is refused.
def noteChanges [DocumentStore σ] (pace : Pace) (w : Workspace σ) : List String → Workspace σ
  | [] => w
  | uri :: uris =>
    match w.noteChange pace uri with
    | .ok w => noteChanges pace w uris
    | .error _ => w

-- Hands a batch of changed paths to the watcher that is next, which then waits behind the others.
-- One that cannot name a change breaks, and with no watcher the batch waits.
def handBatch [DocumentStore σ] (c : Config) (w : Workspace σ) (paths : List String) :
    Workspace σ :=
  match w.waiting with
  | [] => { w with batches := w.batches ++ [paths] }
  | watcher :: others =>
    match Watcher.documentsOf ⟨c.root, c.excluded⟩ c.cwd paths with
    | .ok uris => { w with waiting := others ++ [watcher] }.noteChanges c.pace uris
    | .error e => { w with waiting := others, broken := (watcher, e) :: w.broken }

def startWatcher [DocumentStore σ] (c : Config) (w : Workspace σ) : Workspace σ :=
  let started := { w with
    watchers := w.watchers + 1
    watcher := some w.watchers
    waiting := w.waiting ++ [w.watchers]
    batches := [] }
  w.batches.foldl (handBatch c) started

def print (w : Workspace σ) (markup : String) : Except Failure (Workspace σ) := do
  let lines ← (Markup.lines markup).mapError fun e => Failure.unexpected e.message
  return { w with console := w.console ++ lines }

def printProblems [DocumentStore σ] (w : Workspace σ) (uri : String) (ds : List Diagnostic) :
    Workspace σ × Except Failure Unit :=
  match DocumentStore.relativePath w.store uri with
  | .error e => (w, .error (.name e))
  | .ok path => go path w ds
where
  go (path : String) (w : Workspace σ) : List Diagnostic → Workspace σ × Except Failure Unit
    | [] => (w, .ok ())
    | d :: ds =>
      match w.print (Report.problem path d) with
      | .ok w => go path w ds
      | .error e => (w, .error e)

def printAll [DocumentStore σ] (w : Workspace σ) :
    List (String × List Diagnostic) → Workspace σ × Except Failure Unit
  | [] => (w, .ok ())
  | (uri, ds) :: rest =>
    match w.printProblems uri ds with
    | (w, .ok ()) => printAll w rest
    | (w, .error e) => (w, .error e)

end Workspace

end FlowIndex
