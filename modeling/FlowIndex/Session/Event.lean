import FlowIndex.Session.Rank

namespace FlowIndex

inductive Origin
  | timer
  -- A caller, who knows the call by its ticket.
  | caller (ticket : Nat)
deriving DecidableEq, Repr

structure Task where
  origin : Origin
  work : Work
  cancelled : Bool := false

-- A workspace and the calls under way in it. They go on one step at a time, in any order.
structure Session (σ : Type) where
  workspace : Workspace σ
  tasks : List Task := []
  ended : List (Nat × Outcome) := []

def Workspace.unwind {σ : Type} (c : Config) (w : Workspace σ) : Work → Workspace σ
  | .scanning route _ _ => (w.modifySchedule .release).leave c route
  | .notifying route _ _ _ _ _ => w.leave c route
  | _ => w

inductive Event (σ : Type)
  | store (change : σ → σ)
  | call (ticket : Nat) (call : Call)
  -- A change is noted, whatever the kind of the document.
  | notify (uri : String)
  -- Changes of documents are noted, except those of no kind.
  | changes (uris : List String)
  -- A watcher gets a batch of changed paths.
  | files (paths : List String)
  | listen (listener : Listener)
  | openDocument (uri : String) (text : Option String)
  | closeDocument (uri : String)
  | forget
  -- The timer is disarmed and its rebuilds are called off.
  | cancel
  | stop
  | tick (time : Nat)
  -- The timer goes off, if it is due.
  | fire
  -- The call at an index takes its next step.
  | act (index : Nat)

namespace Session

variable {σ : Type}

def ofStore (store : σ) : Session σ :=
  { workspace := { store } }

def modifyWorkspace (s : Session σ) (f : Workspace σ → Workspace σ) : Session σ :=
  { s with workspace := f s.workspace }

def spawn (s : Session σ) (origin : Origin) (call : Call) : Session σ :=
  { s with tasks := s.tasks ++ [{ origin, work := .queued call }] }

def hasTimerTask (s : Session σ) : Bool :=
  s.tasks.any (·.origin = .timer)

-- The timer goes off. Nothing comes of it during a rebuild, or if no change is pending.
def fire (s : Session σ) : Session σ :=
  let disarmed := s.modifyWorkspace (·.modifySchedule .disarm)
  if s.workspace.schedule.busy || s.workspace.schedule.pending.isEmpty then disarmed
  else disarmed.spawn .timer .refresh

def cancel (s : Session σ) : Session σ :=
  let disarmed := s.modifyWorkspace (·.modifySchedule .disarm)
  -- A call that is called off stops at its next step, not at once.
  { disarmed with
    tasks := s.tasks.map fun t => if t.origin = .timer then { t with cancelled := true } else t }

def stop (s : Session σ) : Session σ :=
  s.cancel.modifyWorkspace (·.stopWatcher)

def record (s : Session σ) (o : Outcome) : Origin → Session σ
  | .timer => s
  | .caller ticket => { s with ended := s.ended ++ [(ticket, o)] }

def place (s : Session σ) (index : Nat) (t : Task) : Step σ → Session σ
  | (w, .waits work) =>
    { s with workspace := w, tasks := s.tasks.set index { t with work } }
  | (w, .ends o) => { s with workspace := w, tasks := s.tasks.eraseIdx index }.record o t.origin
  | (w, .stays) => { s with workspace := w, tasks := s.tasks.eraseIdx index }

-- Ends a call that waits for the timer's rebuilds; any other joins `s` again.
def endIfIdling (s : Session σ) (t : Task) : Session σ :=
  match t.work with
  | .idling => s.record .idle t.origin
  | _ => { s with tasks := s.tasks ++ [t] }

def endIdling (s : Session σ) : Session σ :=
  if s.hasTimerTask then s else s.tasks.foldl endIfIdling { s with tasks := [] }

def setNow (s : Session σ) (now : Nat) : Session σ :=
  s.modifyWorkspace (·.modifySchedule fun q => { q with now })

variable [DocumentStore σ]

-- A step of the call at an index. One that waits for the timer's rebuilds takes none before they
-- are over, and one that was called off only leaves.
def act (c : Config) (s : Session σ) (index : Nat) : Session σ :=
  match s.tasks[index]? with
  | none => s
  | some t =>
    if t.cancelled then
      { s with workspace := s.workspace.unwind c t.work, tasks := s.tasks.eraseIdx index }
    else
      match t.work with
      | .idling => if s.hasTimerTask then s else s.place index t (s.workspace.step c .idling)
      | work => s.place index t (s.workspace.step c work)

def apply (c : Config) (s : Session σ) : Event σ → Session σ
  | .store change => s.modifyWorkspace fun w => { w with store := change w.store }
  | .call ticket call => s.spawn (.caller ticket) call
  | .notify uri => s.modifyWorkspace (·.modifySchedule (.notify c.pace uri))
  | .changes uris => s.modifyWorkspace (·.noteChanges c.pace (NameSet.ofList uris))
  | .files paths => s.modifyWorkspace (·.handBatch c paths)
  | .listen l => s.modifyWorkspace fun w => { w with listeners := w.listeners ++ [l] }
  | .openDocument uri text => s.modifyWorkspace (·.openDocument uri text)
  | .closeDocument uri => s.modifyWorkspace (·.closeDocument uri)
  | .forget => s.modifyWorkspace (·.modifySchedule fun q => { q with pending := [] })
  | .cancel => s.cancel
  | .stop => s.stop
  | .tick time => s.modifyWorkspace (·.modifySchedule fun q => { q with now := q.now + time })
  | .fire => if s.workspace.schedule.isDue s.workspace.schedule.now then s.fire else s
  | .act index => s.act c index

end Session

end FlowIndex
