import FlowIndex.Session.Work
import FlowIndex.Text.Infix

namespace FlowIndex

variable {σ : Type}

abbrev Step (σ : Type) := Workspace σ × Progress

inductive SweepStep
  | more (s : Sweep)
  | checked (all : List (String × List Diagnostic))
  | failed (f : Failure)

def SweepStep.on (checked : List (String × List Diagnostic)) : List String → SweepStep
  | [] => .checked checked
  | uri :: rest => .more (.read uri rest checked)

-- The hover that shows a struct, unless the number of the operator is too long.
def structHover (name : String) (found : Option Struct) (operator : Option Operator)
    (span : Span) : Outcome :=
  match Resolution.structMarkdown name found operator with
  | .ok contents => .hover (some ⟨contents, span⟩)
  | .error e => .failed (.unexpected e.message)

namespace Workspace

def finish (w : Workspace σ) (o : Outcome) : Step σ :=
  (w, .ends o)

def await (w : Workspace σ) (work : Work) : Step σ :=
  (w, .waits work)

def checkText (w : Workspace σ) (uri text : String) : Step σ :=
  match w.publish w.snapshot uri text with
  | .ok (w, ds) => w.finish (.problems ds)
  | .error f => w.finish (.failed f)

-- Asks the external tool for a struct. A tool that fails answers nothing.
def askTool (c : Config) (w : Workspace σ) (q : Resolution.Sought) :
    Workspace σ × Option Location :=
  match c.tool, q.kind with
  | some tool, .struct =>
    let w := { w with asked := w.asked ++ [q.name] }
    match tool q.name with
    | .ok l => (w, l)
    | .error _ => (w, none)
  | _, _ => (w, none)

-- Looks for a declaration: with the tool, in the index, and then in the Go documents.
def resolve (c : Config) (w : Workspace σ) (q : Resolution.Sought) : Step σ :=
  match w.askTool c q with
  | (w, some l) => w.finish (.location (some l))
  | (w, none) =>
    match Resolution.inIndex w.snapshot q with
    | some l => w.finish (.location (some l))
    | none =>
      if q.kind = .struct then w.await (.listingHosts q.name .location)
      else w.finish (.location none)

def define (c : Config) (w : Workspace σ) (text : String) (p : Position) : Step σ :=
  match (Resolution.targetAt text p).bind (Resolution.sought? w.snapshot) with
  | none => w.finish (.location none)
  | some q => w.resolve c q

def hoverAt (w : Workspace σ) (text : String) (p : Position) : Step σ :=
  match Resolution.targetAt text p with
  | none => w.finish (.hover none)
  | some t =>
    match Resolution.hoverPlan w.snapshot t with
    | .error e => w.finish (.failed (.name e))
    | .ok .nothing => w.finish (.hover none)
    | .ok (.shown h) => w.finish (.hover (some h))
    | .ok (.struct name operator span) =>
      match w.snapshot.findStruct name with
      | some s => w.finish (structHover name (some s) operator span)
      | none => w.await (.listingHosts name (.hover operator span))

def endSearch (w : Workspace σ) (name : String) (found : Option Struct) : SearchGoal → Step σ
  | .location => w.finish (.location (found.map Resolution.locationOf))
  | .hover operator span => w.finish (structHover name found operator span)

def search (w : Workspace σ) (name : String) (goal : SearchGoal) : List String → Step σ
  | [] => w.endSearch name none goal
  | uri :: rest => w.await (.searching name goal uri rest)

def answerStale (w : Workspace σ) (stale : List Struct) : StaleQuestion → Step σ
  | .structs => w.finish (.stale stale)
  | .summary s =>
    w.finish (.summary
      { version := s.version, operators := s.operators.length, fragments := s.fragments.length
        structs := s.structs.length, stale := stale.length
        pending := w.schedule.pending.length, busy := w.schedule.busy })

def compareFor (w : Workspace σ) (q : StaleQuestion) (stale : List Struct) : List Struct → Step σ
  | [] => w.answerStale stale q
  | s :: rest => w.await (.comparing (.question q) s rest stale)

-- Starts a query: answers it, or waits for its first store call.
def openQuery (c : Config) (w : Workspace σ) : Query → Step σ
  | .read uri => w.await (.reading uri .whole)
  | .check uri none => w.await (.reading uri .check)
  | .check uri (some text) => w.checkText uri text
  | .checkAll => w.await (.sweeping .list)
  | .definition _ (.error e) _ => w.finish (.refused e)
  | .definition uri (.ok p) none => w.await (.reading uri (.definition p))
  | .definition _ (.ok p) (some text) => w.define c text p
  | .hover _ (.error e) _ => w.finish (.refused e)
  | .hover uri (.ok p) none => w.await (.reading uri (.hover p))
  | .hover _ (.ok p) (some text) => w.hoverAt text p
  | .resolve q => w.resolve c q
  | .operators package =>
    w.finish (.operators (w.snapshot.operators.filter fun o => package.all (· = o.package)))
  | .summary => w.compareFor (.summary w.snapshot) [] w.snapshot.structs
  | .stale => w.compareFor .structs [] w.snapshot.structs
  | .unnamed e => w.finish (.failed (.name e))

def leave (c : Config) (w : Workspace σ) : Route → Workspace σ
  | .scheduled => w.modifySchedule (.reschedule c.pace)
  | .direct => w

-- Checks open documents against a snapshot, up to one that has to be read. A document that cannot
-- be checked ends the round.
def recheck (w : Workspace σ) (s : Snapshot) :
    List (String × Option String) → Workspace σ × Option Notice
  | [] => (w, none)
  | (uri, none) :: rest => (w, some (.recheck uri rest))
  | (uri, some text) :: rest =>
    match w.publish s uri text with
    | .ok (w, _) => recheck w s rest
    | .error _ => (w, none)

-- Tells a listener of a snapshot; gives what it waits for, if it does.
def tell (w : Workspace σ) (s : Snapshot) : Listener → Workspace σ × Option Notice
  | .openDocuments => w.recheck s w.opened
  | .observer tag _ => ({ w with heard := w.heard ++ [(tag, s.version)] }, none)
  | .report =>
    match w.print (Report.snapshot s) with
    | .ok w => (w, some (.sweep .list))
    | .error _ => (w, none)

variable [DocumentStore σ]

def grant (c : Config) (w : Workspace σ) (result : Option RebuildResult) : Wish → Step σ
  | .result => w.finish (.rebuilt result)
  | .watch => (w.startWatcher c).finish (.rebuilt result)
  | .watchForever => (w.startWatcher c, .stays)
  | .query q => w.openQuery c q

-- Begins a rebuild. It is turned away if another one is under way.
def beginRebuild (c : Config) (w : Workspace σ) (route : Route) (wish : Wish) : Step σ :=
  if w.schedule.busy then w.grant c (some (.busy w.snapshot)) wish
  else
    -- Changes that arrived before this point are seen by the rebuild.
    let begun := w.modifySchedule fun s =>
      { s with
        busy := true
        arrived := if route = .scheduled then [] else s.arrived }
    begun.await (.scanning route wish {})

def compareBefore (c : Config) (w : Workspace σ) (wish : Wish) (stale : List Struct) :
    List Struct → Step σ
  | s :: rest => w.await (.comparing (.start wish) s rest stale)
  | [] => if stale.isEmpty then w.grant c none wish else w.beginRebuild c .scheduled wish

-- Starts a session: rebuilds the index if changes are pending or a struct's document changed.
def start (c : Config) (w : Workspace σ) (wish : Wish) : Step σ :=
  if w.needsUpdate then w.beginRebuild c .scheduled wish
  else w.compareBefore c wish [] w.snapshot.structs

def announce (c : Config) (w : Workspace σ) (route : Route) (wish : Wish) (result : RebuildResult)
    (s : Snapshot) : List Listener → Step σ
  | [] => (w.leave c route).grant c (some result) wish
  | l :: later =>
    match w.tell s l with
    | (w, some notice) => w.await (.notifying route wish result s notice later)
    | (w, none) => announce c w route wish result s later

-- Takes the next step of a scan. The new snapshot is in place before the listeners are told; a
-- failure leaves the old one.
def scanStep (c : Config) (w : Workspace σ) (route : Route) (wish : Wish) (scan : Scan) : Step σ :=
  match scan.step c.extractor w.store with
  | .error f =>
    ((w.modifySchedule .release).leave c route).grant c (some (scan.failure w.snapshot f)) wish
  | .ok scan =>
    if scan.stage = .done then
      -- The schedule is released first, so that another rebuild can begin while listeners are at
      -- work.
      let s := scan.snapshot w.snapshot
      let result := scan.result w.snapshot
      ({ w with snapshot := s }.modifySchedule .release).announce c route wish result s w.listeners
    else w.await (.scanning route wish scan)

def sweepStep (w : Workspace σ) : Sweep → Workspace σ × SweepStep
  | .list =>
    match DocumentStore.list w.store .flow with
    | .ok uris => (w, .on [] uris)
    | .error f => (w, .failed f)
  | .read uri rest checked =>
    match DocumentStore.read w.store uri with
    | .error f => (w, .failed f)
    | .ok d =>
      match w.publish w.snapshot uri d.text with
      | .ok (w, ds) => (w, .on (checked ++ [(uri, ds)]) rest)
      | .error f => (w, .failed f)

-- Takes the next step of a listener at work; gives what it waits for then. A failure ends its work.
def noticeStep (w : Workspace σ) (s : Snapshot) : Notice → Workspace σ × Option Notice
  | .recheck uri rest =>
    match DocumentStore.read w.store uri with
    | .ok d =>
      match w.publish s uri d.text with
      | .ok (w, _) => w.recheck s rest
      | .error _ => (w, none)
    | .error (.unreadable _ _) => (w.withdraw uri).recheck s rest
    | .error _ => (w, none)
  | .sweep sweep =>
    match w.sweepStep sweep with
    | (w, .more sweep) => (w, some (.sweep sweep))
    | (w, .checked all) => ((w.printAll all).1, none)
    | (w, .failed _) => (w, none)

def notifyStep (c : Config) (w : Workspace σ) (route : Route) (wish : Wish)
    (result : RebuildResult) (s : Snapshot) (notice : Notice) (later : List Listener) : Step σ :=
  match w.noticeStep s notice with
  | (w, some notice) => w.await (.notifying route wish result s notice later)
  | (w, none) => w.announce c route wish result s later

def useText (c : Config) (w : Workspace σ) (d : SourceDocument) : Reading → Step σ
  | .whole => w.finish (.document d)
  | .check => w.checkText d.uri d.text
  | .definition p => w.define c d.text p
  | .hover p => w.hoverAt d.text p

-- Compares a struct with the time of change of its document. A document that is gone counts as
-- changed.
def isStale (w : Workspace σ) (s : Struct) : Except Failure Bool :=
  match DocumentStore.modified w.store s.uri with
  | .ok time => .ok (s.modified < time)
  | .error (.unreadable _ _) => .ok true
  | .error f => .error f

-- The struct in a Go document. A text without the name is not looked at.
def structIn (c : Config) (w : Workspace σ) (name uri text : String) :
    Except UriError (Option Struct) := do
  if Text.occursIn name.toList text.toList then
    let path ← DocumentStore.relativePath w.store uri
    Host.findStruct text name uri path 0 c.parser
  else return none

def searchStep (c : Config) (w : Workspace σ) (name : String) (goal : SearchGoal) (uri : String)
    (rest : List String) : Step σ :=
  match DocumentStore.read w.store uri with
  | .error (.unreadable _ _) => w.search name goal rest
  | .error _ => w.endSearch name none goal
  | .ok d =>
    match w.structIn c name uri d.text with
    | .error _ => w.endSearch name none goal
    | .ok (some s) => w.endSearch name (some s) goal
    | .ok none => w.search name goal rest

def openCall (c : Config) (w : Workspace σ) : Call → Step σ
  | .query q => w.openQuery c q
  -- A rebuild that goes past the schedule leaves the arrived changes to the next one that does not.
  | .rebuild => w.beginRebuild c .direct .result
  | .refresh => w.beginRebuild c .scheduled .result
  | .start wish => w.start c wish
  | .watchCommand =>
    { w with listeners := w.listeners ++ [Listener.report] }.start c .watchForever
  | .waitIdle => w.await .idling

def step (c : Config) (w : Workspace σ) : Work → Step σ
  | .queued call => w.openCall c call
  | .comparing why s rest stale =>
    match w.isStale s with
    | .error f => w.finish (.failed f)
    | .ok changed =>
      let stale := if changed then stale ++ [s] else stale
      match why with
      | .question q => w.compareFor q stale rest
      | .start wish => w.compareBefore c wish stale rest
  | .scanning route wish scan => w.scanStep c route wish scan
  | .notifying route wish result s notice later => w.notifyStep c route wish result s notice later
  | .reading uri why =>
    match DocumentStore.read w.store uri with
    | .error f => w.finish (.failed f)
    | .ok d => w.useText c d why
  | .sweeping sweep =>
    match w.sweepStep sweep with
    | (w, .more sweep) => w.await (.sweeping sweep)
    | (w, .checked all) => w.finish (.allProblems all)
    | (w, .failed f) => w.finish (.failed f)
  | .listingHosts name goal =>
    match DocumentStore.list w.store .host with
    | .ok uris => w.search name goal uris
    | .error _ => w.endSearch name none goal
  | .searching name goal uri rest => w.searchStep c name goal uri rest
  | .idling => w.finish .idle

end Workspace

end FlowIndex
