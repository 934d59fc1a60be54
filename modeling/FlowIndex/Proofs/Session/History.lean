import FlowIndex.Proofs.Session.Phase

namespace FlowIndex

-- What can happen to a schedule, and the point at which a rebuild puts its snapshot into place.
inductive Mark
  | noted (uri : String)
  | begun (route : Route)
  | swapped
  | released
  -- A rebuild that went by the schedule is over, its listeners included.
  | left
  | disarmed
  | forgotten
  | passed (time : Nat)
deriving DecidableEq, Repr

def Schedule.play (pace : Pace) (q : Schedule) : Mark → Schedule
  | .noted uri => q.notify pace uri
  | .begun route => q.begin route
  | .swapped => q
  | .released => q.release
  | .left => q.reschedule pace
  | .disarmed => q.disarm
  | .forgotten => { q with pending := [] }
  | .passed time => { q with now := q.now + time }

def Route.marks : Route → List Mark
  | .scheduled => [.left]
  | .direct => []

-- The marks of a call that goes from one phase to another. It cannot come to tell listeners
-- without a scan, nor from there to another scan.
def Phase.marks : Phase → Phase → List Mark
  | outside, scanning route => [.begun route]
  | scanning _, telling _ => [.released]
  | scanning route, outside => .released :: route.marks
  | telling route, outside => route.marks
  | _, _ => []

theorem Schedule.foldl_play_noted {pace : Pace} {uris : List String} {q : Schedule} :
    (uris.map Mark.noted).foldl (play pace) q = uris.foldl (fun q uri => q.notify pace uri) q := by
  rw [List.foldl_map]
  rfl

namespace Workspace

variable {σ : Type} [DocumentStore σ] {c : Config} {w w' : Workspace σ} {t : Task} {p : Phase}

-- The changes that a step notes: those that wait for a watcher, if it starts one.
def notes (c : Config) (w w' : Workspace σ) : List String :=
  if w'.watchers = w.watchers then [] else w.awaited c

omit [DocumentStore σ] in
theorem leave_schedule {route : Route} :
    (w.leave c route).schedule = route.marks.foldl (Schedule.play c.pace) w.schedule := by
  cases route <;> rfl

theorem leave_awaited {route : Route} : (w.leave c route).awaited c = w.awaited c := by
  cases route <;> rfl

omit [DocumentStore σ] in
theorem leave_watchers {route : Route} : (w.leave c route).watchers = w.watchers := by
  cases route <;> rfl

omit [DocumentStore σ] in
theorem leave_snapshot {route : Route} : (w.leave c route).snapshot = w.snapshot := by
  cases route <;> rfl

theorem granted_snapshot {wish : Wish} : (w.granted c wish).snapshot = w.snapshot := by
  unfold granted
  split
  · exact startWatcher_noted.snapshot
  · rfl

theorem granted_schedule {wish : Wish} (ha : w'.awaited c = w.awaited c)
    (hw : w'.watchers = w.watchers) :
    (w'.granted c wish).schedule =
      ((w.notes c (w'.granted c wish)).map Mark.noted).foldl (Schedule.play c.pace) w'.schedule := by
  rw [Schedule.foldl_play_noted]
  unfold granted notes
  split
  · have h := w'.startWatcher_noted (c := c)
    rw [h.schedule, h.watchers, if_neg (by simp [hw]), ha]
  · rfl

theorem Move.schedule (h : Move c w t p w') :
    w'.schedule = (t.work.phase.marks p ++ (w.notes c w').map Mark.noted).foldl
      (Schedule.play c.pace) w.schedule := by
  rw [List.foldl_append]
  cases h
  case pass outside => rw [granted_schedule rfl rfl, outside]; rfl
  case begin outside _ _ => rw [notes, if_pos (by rfl), outside]; rfl
  case scan work _ _ _ => rw [notes, if_pos rfl, work]; rfl
  case drop work _ _ =>
    rw [granted_schedule leave_awaited leave_watchers, work, leave_schedule]
    rfl
  case swap work _ _ _ => rw [notes, if_pos (by rfl), work]; rfl
  case swapAndLeave work _ _ _ _ =>
    rw [granted_schedule leave_awaited leave_watchers, work, leave_schedule]
    rfl
  case tell telling => rw [notes, if_pos rfl, telling]; rfl
  case leave telling =>
    rw [granted_schedule leave_awaited leave_watchers, telling, leave_schedule]
    rfl

end Workspace

-- What becomes of a call after a step.
def Task.next (t : Task) : Progress → List Task
  | .waits work => [{ t with work }]
  | _ => []

-- What an event makes of the store.
def Event.changed {σ : Type} (store : σ) : Event σ → σ
  | .store change => change store
  | _ => store

-- A configuration with nothing to it but its pace.
def Config.ofPace (pace : Pace) : Config :=
  { root := default, cwd := default, pace }

namespace Session

variable {σ : Type} [DocumentStore σ] {c : Config} {s : Session σ}

-- The session after some events.
def after (c : Config) (s : Session σ) (es : List (Event σ)) : Session σ :=
  es.foldl (apply c) s

-- The step that the call at an index takes, if it can take one: a call that was called off only
-- leaves, and one that waits for the timer's rebuilds takes none before they are over.
def taken (c : Config) (s : Session σ) (index : Nat) : Option (Task × Step σ) :=
  match s.tasks[index]? with
  | none => none
  | some t =>
    if t.cancelled then some (t, s.workspace.unwind c t.work, .stays)
    else
      match t.work with
      | .idling => if s.hasTimerTask then none else some (t, s.workspace.step c .idling)
      | work => some (t, s.workspace.step c work)

-- The calls that an event starts.
def started (s : Session σ) : Event σ → List Task
  | .call ticket call => [{ origin := .caller ticket, work := .queued call }]
  | .fire =>
    let q := s.workspace.schedule
    if q.isDue q.now && !(q.busy || q.pending.isEmpty) then
      [{ origin := .timer, work := .queued .refresh }]
    else []
  | _ => []

-- Whether the call at an index puts a snapshot into place with its next step.
def swaps (c : Config) (s : Session σ) (index : Nat) : Bool :=
  match s.tasks[index]? with
  | some { work := .scanning _ _ scan, cancelled := false, .. } =>
    match scan.step c.extractor s.workspace.store with
    | .ok next => next.stage = .done
    | .error _ => false
  | _ => false

-- The marks of a step: first those of the rebuild that the call takes part in, and then those of the
-- changes that a watcher notes which the step starts.
def stepMarks (c : Config) (s : Session σ) : Option (Task × Step σ) → List Mark
  | none => []
  | some (t, st) => t.work.phase.marks st.2.phase ++ (s.workspace.notes c st.1).map .noted

-- The marks that an event leaves, in order.
def marks (c : Config) (s : Session σ) : Event σ → List Mark
  | .notify uri => [.noted uri]
  | .changes uris => (Workspace.notable s.workspace.store (NameSet.ofList uris)).map .noted
  | .files paths => (Workspace.handed c s.workspace.store s.workspace.waiting [paths]).map .noted
  | .forget => [.forgotten]
  | .cancel | .stop => [.disarmed]
  | .tick time => [.passed time]
  | .fire => if s.workspace.schedule.isDue s.workspace.schedule.now then [.disarmed] else []
  | .act index =>
    (if s.swaps c index then [.swapped] else []) ++ s.stepMarks c (s.taken c index)
  | _ => []

-- The states that a session can come to by events of some kind, each with its history.
inductive Run (c : Config) (allowed : Event σ → Prop) : Session σ → List Mark → Prop
  | start (store : σ) : Run c allowed (.ofStore store) []
  | event {s : Session σ} {h : List Mark} (run : Run c allowed s h) (e : Event σ) (ok : allowed e) :
    Run c allowed (s.apply c e) ((s.marks c e).reverse ++ h)

-- The history of the events that follow a state.
def history (c : Config) (s : Session σ) : List (Event σ) → List Mark
  | [] => []
  | e :: es => history c (s.apply c e) es ++ (s.marks c e).reverse

theorem Run.after {allowed : Event σ → Prop} {h : List Mark} {es : List (Event σ)}
    (run : Run c allowed s h) (ok : ∀ e ∈ es, allowed e) :
    Run c allowed (s.after c es) (s.history c es ++ h) := by
  induction es generalizing s h
  case nil => exact run
  case cons e es hi =>
    have run := run.event e (ok e List.mem_cons_self)
    rw [history, List.append_assoc]
    exact hi run fun e' he => ok e' (List.mem_cons_of_mem _ he)

theorem run_of_events {allowed : Event σ → Prop} {es : List (Event σ)} (store : σ)
    (ok : ∀ e ∈ es, allowed e) :
    Run c allowed ((ofStore store).after c es) ((ofStore store).history c es) := by
  have run : Run c allowed (ofStore store) [] := .start store
  simpa using run.after ok

theorem act_eq_self {index : Nat} (h : s.taken c index = none) : s.act c index = s := by
  cases ht : s.tasks[index]?
  case none => simp only [act, ht]
  case some t =>
    cases live : t.cancelled
    case true => simp [taken, ht, live] at h
    case false =>
      by_cases hw : t.work = .idling
      case pos =>
        cases hp : s.hasTimerTask
        case true => simp [act, ht, live, hw, hp]
        case false => simp [taken, ht, live, hw, hp] at h
      case neg => simp [taken, ht, live] at h

omit [DocumentStore σ] in
theorem place_tasks {index : Nat} {t : Task} (st : Step σ) (h : s.tasks[index]? = some t) :
    (s.place index t st).workspace = st.1 ∧ ∃ pre post, s.tasks = pre ++ t :: post ∧
      (s.place index t st).tasks = pre ++ t.next st.2 ++ post := by
  have ⟨hi, ht⟩ := List.getElem?_eq_some_iff.mp h
  have split : s.tasks = s.tasks.take index ++ t :: s.tasks.drop (index + 1) := by
    rw [← ht, List.getElem_cons_drop, List.take_append_drop]
  have erased : s.tasks.eraseIdx index = s.tasks.take index ++ s.tasks.drop (index + 1) :=
    List.eraseIdx_eq_take_drop_succ ..
  obtain ⟨w, p⟩ := st
  cases p
  case waits work =>
    refine ⟨rfl, _, _, split, ?_⟩
    simp only [place, Task.next, List.set_eq_take_append_cons_drop, if_pos hi]
    simp
  case ends =>
    cases ho : t.origin <;> refine ⟨by simp [place, record, ho], _, _, split, ?_⟩
    all_goals simpa [place, record, ho, Task.next] using erased
  case stays => exact ⟨rfl, _, _, split, by simpa [place, Task.next] using erased⟩

omit [DocumentStore σ] in
theorem task_place {index : Nat} {t : Task} {st : Step σ} {work : Work}
    (task : s.tasks[index]? = some t) (next : st.2 = .waits work) :
    (s.place index t st).tasks[index]? = some { t with work } := by
  have ⟨within, _⟩ := List.getElem?_eq_some_iff.mp task
  obtain ⟨w, _⟩ := st
  cases next
  exact List.getElem?_set_self within

-- What an event `.act` does, if the call at the index can take a step.
structure Acts (c : Config) (s : Session σ) (index : Nat) (t : Task) (st : Step σ) : Prop where
  task : s.tasks[index]? = some t
  workspace : (s.act c index).workspace = st.1
  tasks : ∃ pre post, s.tasks = pre ++ t :: post ∧ (s.act c index).tasks = pre ++ t.next st.2 ++ post
  moves : s.workspace.Moves c t st
  step : t.cancelled = false → st = s.workspace.step c t.work
  stops : t.cancelled = true → st.2 = .stays

theorem Acts.of_place {index : Nat} {t : Task} {st : Step σ} (task : s.tasks[index]? = some t)
    (ha : s.act c index = s.place index t st) (moves : s.workspace.Moves c t st)
    (step : t.cancelled = false → st = s.workspace.step c t.work)
    (stops : t.cancelled = true → st.2 = .stays) : Acts c s index t st := by
  have placed := s.place_tasks st task
  rw [← ha] at placed
  exact ⟨task, placed.1, placed.2, moves, step, stops⟩

theorem acts_of_taken {index : Nat} {t : Task} {st : Step σ} (h : s.taken c index = some (t, st)) :
    Acts c s index t st := by
  unfold taken at h
  split at h
  case h_1 => cases h
  case h_2 u hu =>
    split at h
    case isTrue cancelled =>
      cases h
      refine .of_place hu ?_ (Workspace.unwind_moves cancelled rfl) (by simp [cancelled]) fun _ => rfl
      simp only [act, hu, cancelled, if_true, place]
    case isFalse live =>
      have moves := s.workspace.step_moves (c := c) (t := u) (by simpa using live)
      split at h
      case h_1 hw =>
        split at h
        case isTrue => cases h
        case isFalse hp =>
          cases h
          rw [hw] at moves
          exact .of_place hu (by simp [act, hu, live, hw, hp]) moves (fun _ => by rw [hw]) <| by
            simp [live]
      case h_2 hw =>
        cases h
        refine .of_place hu ?_ moves (fun _ => rfl) (by simp [live])
        simp only [act, hu, live, Bool.false_eq_true, if_false]

theorem Acts.mem_tasks {index : Nat} {t t' : Task} {st : Step σ} (acts : Acts c s index t st)
    (mem : t' ∈ s.tasks) (other : t' ≠ t) : t' ∈ (s.act c index).tasks := by
  obtain ⟨pre, post, before, after⟩ := acts.tasks
  rw [before] at mem
  rw [after]
  simp only [List.mem_append, List.mem_cons] at mem ⊢
  obtain mem | rfl | mem := mem
  · exact .inl <| .inl mem
  · exact absurd rfl other
  · exact .inr mem

-- The calls after a step: the one that took it, in the phase that it came to, and the others.
theorem Acts.tasks_cases {index : Nat} {t t' : Task} {st : Step σ} (acts : Acts c s index t st)
    (mem : t' ∈ (s.act c index).tasks) :
    t' ∈ s.tasks ∨ ∃ work, st.2 = .waits work ∧ t' = { t with work } := by
  obtain ⟨pre, post, before, after⟩ := acts.tasks
  rw [after] at mem
  rw [before]
  simp only [List.mem_append, List.mem_cons] at mem ⊢
  obtain (mem | mem) | mem := mem
  · exact .inl <| .inl mem
  · cases hp : st.2 <;> simp [Task.next, hp] at mem
    exact .inr ⟨_, rfl, mem⟩
  · exact .inl <| .inr <| .inr mem

-- How a call comes to be there after an event.
inductive Present (c : Config) (s : Session σ) (e : Event σ) : Task → Prop
  | old {t : Task} (listed : t ∈ s.tasks) : Present c s e t
  | calledOff {t : Task} (listed : t ∈ s.tasks) (timer : t.origin = .timer) :
    Present c s e { t with cancelled := true }
  | started {t : Task} (new : t ∈ s.started e) : Present c s e t
  | stepped {t : Task} {work : Work} {index : Nat} (act : e = .act index) (listed : t ∈ s.tasks)
    (live : t.cancelled = false)
    (step : s.workspace.step c t.work = ((s.apply c e).workspace, .waits work)) :
    Present c s e { t with work }

theorem present_act {index : Nat} {t : Task} (mem : t ∈ (s.act c index).tasks) :
    s.Present c (.act index) t := by
  cases ht : s.taken c index
  case none =>
    rw [act_eq_self ht] at mem
    exact .old mem
  case some taken =>
    obtain ⟨t', st⟩ := taken
    have acts := acts_of_taken ht
    obtain old | ⟨work, next, rfl⟩ := acts.tasks_cases mem
    case inl => exact .old old
    case inr =>
      have live : t'.cancelled = false := by
        refine Bool.eq_false_iff.mpr fun cancelled => ?_
        rw [acts.stops cancelled] at next
        cases next
      refine .stepped rfl (List.mem_of_getElem? acts.task) live ?_
      rw [← acts.step live, ← next]
      exact congrArg (·, st.2) acts.workspace.symm

theorem Acts.mem_next {index : Nat} {t : Task} {st : Step σ} {work : Work}
    (acts : Acts c s index t st) (next : st.2 = .waits work) :
    { t with work } ∈ (s.act c index).tasks := by
  obtain ⟨pre, post, before, after⟩ := acts.tasks
  rw [after, next]
  simp [Task.next]

theorem schedule_apply (e : Event σ) : (s.apply c e).workspace.schedule =
    (s.marks c e).foldl (Schedule.play c.pace) s.workspace.schedule := by
  cases e
  case changes uris =>
    simp only [marks, Schedule.foldl_play_noted]
    exact (s.workspace.noteChanges_noted c.pace _).schedule
  case files paths =>
    simp only [marks, Schedule.foldl_play_noted]
    exact (s.workspace.handBatches_noted [paths]).schedule
  case stop =>
    simp only [apply, stop, Workspace.stopWatcher, modifyWorkspace]
    split <;> rfl
  case fire =>
    simp only [apply, marks]
    split
    · simp only [fire]
      split <;> rfl
    · rfl
  case act index =>
    have swapped : (if s.swaps c index then [Mark.swapped] else []).foldl (Schedule.play c.pace)
        s.workspace.schedule = s.workspace.schedule := by
      split <;> rfl
    simp only [apply, marks, List.foldl_append, swapped]
    cases h : s.taken c index
    case none => rw [act_eq_self h]; rfl
    case some taken =>
      obtain ⟨t, st⟩ := taken
      have acts := acts_of_taken h
      obtain ⟨w', move, silent⟩ := acts.moves
      rw [acts.workspace, Workspace.schedule_of_silent silent, move.schedule]
      simp only [stepMarks, Workspace.notes, Workspace.watchers_of_silent silent]
  all_goals rfl

omit [DocumentStore σ] in
theorem act_or_ne (e : Event σ) : (∃ index, e = .act index) ∨ ∀ index, e ≠ .act index := by
  cases e
  case act index => exact .inl ⟨index, rfl⟩
  all_goals exact .inr nofun

-- Apart from steps, events change no call, but for those that call some off.
theorem tasks_apply {e : Event σ} (he : ∀ index, e ≠ .act index) :
    ((e = .cancel ∨ e = .stop) ∧ (s.apply c e).tasks = s.tasks.map fun t =>
        if t.origin = .timer then { t with cancelled := true } else t) ∨
      (s.apply c e).tasks = s.tasks ++ s.started e := by
  cases e
  case act index => exact absurd rfl (he index)
  case cancel => exact .inl ⟨.inl rfl, rfl⟩
  case stop => exact .inl ⟨.inr rfl, rfl⟩
  all_goals refine .inr ?_
  case call => rfl
  case fire =>
    simp only [apply, started, fire]
    cases s.workspace.schedule.isDue s.workspace.schedule.now
    case false => simp
    case true =>
      cases s.workspace.schedule.busy || s.workspace.schedule.pending.isEmpty
      all_goals simp [spawn, modifyWorkspace]
  all_goals exact (List.append_nil _).symm

-- How many calls there are of a kind that being called off does not change.
theorem countP_tasks_apply {e : Event σ} (he : ∀ index, e ≠ .act index) {p : Task → Bool}
    (same : ∀ t, p { t with cancelled := true } = p t) :
    (s.apply c e).tasks.countP p = s.tasks.countP p + (s.started e).countP p := by
  obtain ⟨off, tasks⟩ | tasks := s.tasks_apply (c := c) he
  case inl =>
    have none : s.started e = [] := by obtain rfl | rfl := off <;> rfl
    rw [tasks, none, List.countP_map]
    refine List.countP_congr fun t _ => ?_
    simp only [Function.comp_apply]
    split
    case isTrue => rw [same]
    case isFalse => rfl
  case inr => rw [tasks, List.countP_append]

theorem present_apply {e : Event σ} {t : Task} (mem : t ∈ (s.apply c e).tasks) :
    s.Present c e t := by
  obtain ⟨index, rfl⟩ | he := act_or_ne e
  case inl => exact present_act mem
  case inr =>
    obtain ⟨_, tasks⟩ | tasks := s.tasks_apply (c := c) he
    case inl =>
      rw [tasks] at mem
      obtain ⟨t', old, rfl⟩ := List.mem_map.mp mem
      split
      case isTrue timer => exact .calledOff old timer
      case isFalse => exact .old old
    case inr =>
      rw [tasks] at mem
      exact (List.mem_append.mp mem).elim .old .started

-- The others only start calls.
theorem tasks_apply_of_ne {e : Event σ} (act : ∀ index, e ≠ .act index) (cancel : e ≠ .cancel)
    (stop : e ≠ .stop) : (s.apply c e).tasks = s.tasks ++ s.started e := by
  obtain ⟨rfl | rfl, _⟩ | tasks := s.tasks_apply (c := c) act
  · exact absurd rfl cancel
  · exact absurd rfl stop
  · exact tasks

omit [DocumentStore σ] in
-- A call starts as it was made, or else the timer starts one that brings the index up to date.
theorem started_cases {e : Event σ} {t : Task} (mem : t ∈ s.started e) :
    (∃ ticket call, e = .call ticket call ∧ t = { origin := .caller ticket, work := .queued call }) ∨
      e = .fire ∧ t = { origin := .timer, work := .queued .refresh } := by
  cases e
  case call ticket call => exact .inl ⟨ticket, call, rfl, List.mem_singleton.mp mem⟩
  case fire =>
    rw [started] at mem
    split at mem
    case isTrue => exact .inr ⟨rfl, List.mem_singleton.mp mem⟩
    case isFalse => cases mem
  all_goals cases mem

-- Nor do events other than steps change the snapshot, and the store only if that is what they do.
theorem frame_apply {e : Event σ} (he : ∀ index, e ≠ .act index) :
    (s.apply c e).workspace.snapshot = s.workspace.snapshot ∧
      (s.apply c e).workspace.store = e.changed s.workspace.store := by
  cases e
  case act index => exact absurd rfl (he index)
  case changes uris =>
    have noted := s.workspace.noteChanges_noted c.pace (NameSet.ofList uris)
    exact ⟨noted.snapshot, noted.store⟩
  case files paths =>
    have noted := s.workspace.handBatches_noted (c := c) [paths]
    exact ⟨noted.snapshot, noted.store⟩
  case stop =>
    simp only [apply, stop, Workspace.stopWatcher, modifyWorkspace]
    split <;> exact ⟨rfl, rfl⟩
  case fire =>
    simp only [apply, fire]
    split
    · split <;> exact ⟨rfl, rfl⟩
    · exact ⟨rfl, rfl⟩
  all_goals exact ⟨rfl, rfl⟩

end Session

end FlowIndex
