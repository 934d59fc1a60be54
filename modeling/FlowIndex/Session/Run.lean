import FlowIndex.Session.Event

namespace FlowIndex

variable {σ : Type} [DocumentStore σ]

-- Whether a call cannot go on: it needs a read while reads are held up, or waits for others.
def Work.isBlocked (reading : Bool) : Work → Bool
  | .idling => true
  | work => !reading && work.reads

def Workspace.run (c : Config) (reading : Bool) (w : Workspace σ) (work : Work) : Step σ :=
  if work.isBlocked reading then (w, .waits work)
  else
    match _h : w.step c work with
    | (w', .waits next) => run c reading w' next
    | (w', .ends o) => (w', .ends o)
    | (w', .stays) => (w', .stays)
termination_by work.rank
decreasing_by
  have below : (w.step c work).2.Below work.rank := step_below
  rw [_h] at below
  exact below

namespace Session

-- Lets one call go on as far as it can; it joins `s` again if it waits.
def runTask (c : Config) (reading : Bool) (s : Session σ) (t : Task) : Session σ :=
  if t.cancelled then { s with workspace := s.workspace.unwind c t.work }
  else
    match s.workspace.run c reading t.work with
    | (w, .waits work) => { s with workspace := w, tasks := s.tasks ++ [{ t with work }] }
    | (w, .ends o) => { s with workspace := w }.record o t.origin
    | (w, .stays) => { s with workspace := w }

def runTasks (c : Config) (reading : Bool) (s : Session σ) : Session σ :=
  s.tasks.foldl (runTask c reading) { s with tasks := [] }

-- Lets everything go on as far as it can. A rebuild that the timer causes begins with no arrived
-- changes, so that the timer is not due once more.
def settle (c : Config) (reading : Bool) (s : Session σ) : Session σ :=
  let s := s.runTasks c reading
  let q := s.workspace.schedule
  (if q.isDue q.now then s.fire.runTasks c reading else s).endIdling

-- Lets time pass. The timer goes off on the way, if it is due by then.
def advance (c : Config) (reading : Bool) (s : Session σ) (time : Nat) : Session σ :=
  let q := s.workspace.schedule
  let target := q.now + time
  match q.timer with
  | none => s.setNow target
  | some deadline =>
    if deadline ≤ target then
      ((s.setNow (max q.now deadline)).settle c reading).setNow target
    else s.setNow target

-- Starts a call and lets it go on; the outcome is there if it ended.
def call (c : Config) (reading : Bool) (s : Session σ) (ticket : Nat) (call : Call) : Session σ :=
  (s.spawn (.caller ticket) call).settle c reading

end Session

end FlowIndex
