import FlowIndex.Index.Scan
import FlowIndex.Session.Workspace

namespace FlowIndex

def Config.extractor (c : Config) : Scan.Extractor :=
  ⟨c.flowFaults, c.faults, c.parser⟩

inductive Query
  | read (uri : String)
  | check (uri : String) (text : Option String)
  | checkAll
  | definition (uri : String) (position : Except (List FieldError) Position) (text : Option String)
  | hover (uri : String) (position : Except (List FieldError) Position) (text : Option String)
  | resolve (sought : Resolution.Sought)
  | operators (package : Option String)
  | summary
  | stale
  -- About a document whose name is refused.
  | unnamed (e : UriError)

inductive Wish
  | result
  -- Starts to watch the workspace and gives the result.
  | watch
  -- Starts to watch the workspace and does not end.
  | watchForever
  | query (q : Query)

inductive Call
  | query (q : Query)
  -- Rebuilds the index, past the schedule.
  | rebuild
  | refresh
  -- Rebuilds the index if it is out of date.
  | start (wish : Wish)
  -- Prints the problems of all documents after each rebuild, and watches the workspace.
  | watchCommand
  -- Waits for the rebuilds that the timer caused.
  | waitIdle

structure Summary where
  version : Nat
  operators : Nat
  fragments : Nat
  structs : Nat
  stale : Nat
  pending : Nat
  busy : Bool
deriving DecidableEq, Repr

inductive Outcome
  | rebuilt (result : Option RebuildResult)
  | document (d : SourceDocument)
  | problems (ds : List Diagnostic)
  | allProblems (all : List (String × List Diagnostic))
  | location (l : Option Location)
  | hover (h : Option Hover)
  | operators (os : List Operator)
  | summary (s : Summary)
  | stale (ss : List Struct)
  | idle
  | failed (f : Failure)
  | refused (errors : List FieldError)
deriving DecidableEq, Repr

inductive Route
  | scheduled
  | direct
deriving DecidableEq, Repr

inductive StaleQuestion
  | summary (s : Snapshot)
  | structs
deriving DecidableEq, Repr

inductive Comparison
  | start (wish : Wish)
  | question (q : StaleQuestion)

inductive Reading
  | whole
  | check
  | definition (p : Position)
  | hover (p : Position)
deriving DecidableEq, Repr

-- A check of all flow documents: they are listed, and then read one by one.
inductive Sweep
  | list
  | read (uri : String) (rest : List String) (checked : List (String × List Diagnostic))
deriving DecidableEq, Repr

inductive SearchGoal
  | location
  | hover (operator : Option Operator) (span : Span)
deriving DecidableEq, Repr

inductive Notice
  -- Reads an open document, with `rest` still to be checked.
  | recheck (uri : String) (rest : List (String × Option String))
  | sweep (s : Sweep)
deriving DecidableEq, Repr

-- What is left of a call: the store call that it makes next, and what it knows by then.
inductive Work
  | queued (call : Call)
  -- Asks when the document of `struct` changed.
  | comparing (why : Comparison) (struct : Struct) (rest stale : List Struct)
  | scanning (route : Route) (wish : Wish) (scan : Scan)
  -- Tells the listeners of a new snapshot: one is at work, and others come later.
  | notifying (route : Route) (wish : Wish) (result : RebuildResult) (snapshot : Snapshot)
      (notice : Notice) (later : List Listener)
  | reading (uri : String) (why : Reading)
  | sweeping (s : Sweep)
  | listingHosts (name : String) (goal : SearchGoal)
  | searching (name : String) (goal : SearchGoal) (uri : String) (rest : List String)
  | idling

-- How far a call got: it waits to make a store call, it ended, or it stays without an end.
inductive Progress
  | waits (w : Work)
  | ends (o : Outcome)
  | stays

def Work.reads : Work → Bool
  | .scanning _ _ scan =>
    match scan.stage with
    | .readFlow _ _ | .readHost _ _ => true
    | _ => false
  | .notifying _ _ _ _ (.recheck _ _) _ => true
  | .notifying _ _ _ _ (.sweep (.read _ _ _)) _ => true
  | .reading _ _ => true
  | .sweeping (.read _ _ _) => true
  | .searching _ _ _ _ => true
  | _ => false

end FlowIndex
