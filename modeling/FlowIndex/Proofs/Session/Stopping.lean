import FlowIndex.Proofs.Session.Pending

namespace FlowIndex

def Progress.operates : Progress → Bool
  | .waits work => work.operates
  | _ => false

theorem Progress.operates_of_below {p : Progress} (below : p.Below { phase := 6 }) :
    p.operates = false := by
  cases p
  case waits work =>
    have low : work.rank < { phase := 6 } := below
    clear below
    rw [Rank.lt_iff] at low
    cases work
    case comparing why _ _ _ =>
      cases why
      case start => simp [Work.rank] at low
      case question => rfl
    case scanning route wish scan =>
      cases hs : scan.stage <;> simp [Work.rank, ScanStage.rank, hs] at low
    case queued => simp [Work.rank] at low
    case notifying => simp [Work.rank] at low
    all_goals rfl
  all_goals rfl

-- Whether a rebuild is under way that goes by the schedule.
def Phase.isScheduled : Phase → Bool
  | scanning .scheduled | telling .scheduled => true
  | _ => false

namespace Workspace

variable {σ : Type} {c : Config} {w : Workspace σ} {wish : Wish}

-- A step that starts no watcher, of a call that has not to operate the session afterwards.
structure Still (w : Workspace σ) (st : Step σ) : Prop where
  watchers : st.1.watchers = w.watchers
  operates : st.2.operates = false

theorem Still.after {w' : Workspace σ} {st : Step σ} (h : w'.watchers = w.watchers)
    (still : Still w' st) : Still w st :=
  ⟨still.watchers.trans h, still.operates⟩

theorem Plain.still {st : Step σ} (plain : w.Plain st) (below : st.2.Below { phase := 6 }) :
    Still w st :=
  ⟨watchers_of_silent plain.silent, Progress.operates_of_below below⟩

variable [DocumentStore σ]

theorem grant_still {result : Option RebuildResult} (watches : wish.watches = false) :
    Still w (w.grant c result wish) := by
  cases wish
  case result => exact ⟨rfl, rfl⟩
  case watch => cases watches
  case watchForever => cases watches
  case query => exact openQuery_plain.still openQuery_below

theorem announce_still {route : Route} {result : RebuildResult} {s : Snapshot}
    {ls : List Listener} (watches : wish.watches = false) :
    Still w (w.announce c route wish result s ls) := by
  induction ls generalizing w
  case nil => exact .after leave_watchers <| grant_still watches
  case cons l later hi =>
    have told := watchers_of_silent (w.tell_silent s l)
    unfold announce
    split <;> rename_i ht <;> rw [ht] at told
    case h_1 => exact ⟨told, watches⟩
    case h_2 => exact .after told hi

theorem scanStep_still {route : Route} {scan : Scan} (watches : wish.watches = false) :
    Still w (w.scanStep c route wish scan) := by
  have freed : ((w.modifySchedule .release).leave c route).watchers = w.watchers := leave_watchers
  unfold scanStep
  split
  case h_1 => exact .after freed <| grant_still watches
  case h_2 next _ =>
    split
    case isTrue =>
      have swapped : (w.swapped next).watchers = w.watchers := rfl
      exact .after swapped <| announce_still watches
    case isFalse => exact ⟨rfl, watches⟩

theorem notifyStep_still {route : Route} {result : RebuildResult} {s : Snapshot} {notice : Notice}
    {later : List Listener} (watches : wish.watches = false) :
    Still w (w.notifyStep c route wish result s notice later) := by
  have noticed := watchers_of_silent (w.noticeStep_silent s notice)
  unfold notifyStep
  split <;> rename_i hn <;> rw [hn] at noticed
  case h_1 => exact ⟨noticed, watches⟩
  case h_2 => exact .after noticed <| announce_still watches

-- A call outside of rebuilds that has not to operate the session comes below all parts of one.
theorem step_below_rebuild {work : Work} (calm : work.operates = false)
    (outside : work.phase = .outside) : (w.step c work).2.Below { phase := 6 } := by
  cases work
  case queued call =>
    cases call
    case query => exact openQuery_below
    case waitIdle => simp [Progress.Below, step, openCall, await, Work.rank, Rank.lt_iff]
    all_goals cases calm
  case comparing why _ _ _ =>
    cases why
    case start => cases calm
    case question => exact step_below.mono <| by simp [Work.rank, Rank.lt_iff]
  case scanning => cases outside
  case notifying => cases outside
  all_goals exact step_below.mono <| by simp [Work.rank, Rank.lt_iff]

theorem step_still {work : Work} (calm : work.operates = false) : Still w (w.step c work) := by
  cases phase : work.phase
  case outside => exact (step_plain calm phase).still <| step_below_rebuild calm phase
  case scanning => cases work <;> first | exact scanStep_still calm | cases phase
  case telling => cases work <;> first | exact notifyStep_still calm | cases phase

theorem Move.isScheduled {t : Task} {p : Phase} {w' : Workspace σ} (move : w.Move c t p w')
    (within : t.work.phase ≠ .outside) :
    p = .outside ∨ p.isScheduled = t.work.phase.isScheduled := by
  cases move
  case pass outside => exact absurd outside within
  case begin outside _ _ => exact absurd outside within
  case scan work _ _ _ => rw [work]; exact .inr rfl
  case swap route _ _ _ work _ _ _ => rw [work]; cases route <;> exact .inr rfl
  case tell telling => rw [telling]; exact .inr rfl
  all_goals exact .inl rfl

end Workspace

namespace Schedule

variable {pace : Pace} {q : Schedule}

-- The marks of a step leave the timer alone, unless a rebuild takes up changes that have arrived.
theorem timer_foldl_marks {before after : Phase}
    (settled : ¬(pace.trailing = true ∧ q.arrived ≠ [] ∧ before.isScheduled = true)) :
    ((before.marks after).foldl (play pace) q).timer = q.timer ∧
      (((before.marks after).foldl (play pace) q).arrived = q.arrived ∨
        ((before.marks after).foldl (play pace) q).arrived = []) := by
  have left {q : Schedule} (settled : ¬(pace.trailing = true ∧ q.arrived ≠ [])) :
      (q.reschedule pace).timer = q.timer := by
    unfold reschedule
    split
    case isTrue taken =>
      simp only [Bool.and_eq_true, Bool.not_eq_true', List.isEmpty_eq_false_iff] at taken
      exact absurd taken settled
    case isFalse => rfl
  have settled' (scheduled : before.isScheduled = true) :
      ¬(pace.trailing = true ∧ q.arrived ≠ []) :=
    fun ⟨trailing, arrived⟩ => settled ⟨trailing, arrived, scheduled⟩
  cases before
  case outside =>
    cases after
    case scanning route => cases route <;> exact ⟨rfl, by simp [Phase.marks, play, begin]⟩
    all_goals exact ⟨rfl, .inl rfl⟩
  case scanning route =>
    cases after
    case outside =>
      cases route
      case direct => exact ⟨rfl, .inl rfl⟩
      case scheduled => exact ⟨left (q := q.release) (settled' rfl), .inr reschedule_arrived⟩
    all_goals exact ⟨rfl, .inl rfl⟩
  case telling route =>
    cases after
    case outside =>
      cases route
      case direct => exact ⟨rfl, .inl rfl⟩
      case scheduled => exact ⟨left (settled' rfl), .inr reschedule_arrived⟩
    all_goals exact ⟨rfl, .inl rfl⟩

theorem isSome_timer_foldl {ms : List Mark} (armed : q.timer.isSome = true)
    (kept : .disarmed ∉ ms) : (ms.foldl (play pace) q).timer.isSome = true := by
  induction ms generalizing q
  case nil => exact armed
  case cons m ms hi =>
    refine hi ?_ <| List.not_mem_of_not_mem_cons kept
    have first : m ≠ .disarmed := Ne.symm <| List.ne_of_not_mem_cons kept
    cases m
    case noted => rfl
    case left =>
      simp only [play, reschedule]
      split
      · rfl
      · exact armed
    case disarmed => exact absurd rfl first
    all_goals exact armed

theorem isSome_timer_of_left {before : Phase} (trailing : pace.trailing = true)
    (arrived : q.arrived ≠ []) (scheduled : before.isScheduled = true) :
    ((before.marks .outside).foldl (play pace) q).timer.isSome = true := by
  have left {q : Schedule} (arrived : q.arrived ≠ []) : (q.reschedule pace).timer.isSome = true := by
    have taken : (pace.trailing && !q.arrived.isEmpty) = true := by simp [trailing, arrived]
    rw [reschedule, if_pos taken]
    rfl
  cases before
  case outside => cases scheduled
  case scanning route =>
    cases route
    case scheduled => exact left (q := q.release) arrived
    case direct => cases scheduled
  case telling route =>
    cases route
    case scheduled => exact left arrived
    case direct => cases scheduled

theorem arrived_foldl_marks {before after : Phase} (within : before ≠ .outside)
    (goesOn : after ≠ .outside) :
    ((before.marks after).foldl (play pace) q).arrived = q.arrived := by
  cases before
  case outside => exact absurd rfl within
  all_goals
    cases after
    case outside => exact absurd rfl goesOn
    all_goals rfl

end Schedule

-- Whether an event is no operation of the session: the store changes, time passes, the timer goes
-- off, or a call under way takes a step.
def Event.LeavesAlone {σ : Type} : Event σ → Prop
  | .store _ | .tick _ | .fire | .act _ => True
  | _ => False

namespace Session

variable {σ : Type} [DocumentStore σ] {c : Config} {s s' : Session σ}

-- Whether a rebuild under way is going to take up changes when it is over.
def Resumes (c : Config) (s : Session σ) : Prop :=
  c.pace.trailing = true ∧ s.workspace.schedule.arrived ≠ [] ∧
    ∃ t ∈ s.tasks, t.work.phase.isScheduled = true

-- The states that a session can come to after it was stopped, as long as it is left alone.
inductive AfterStop (c : Config) (s : Session σ) : Session σ → Prop
  | stopped : AfterStop c s (s.apply c .stop)
  | event {s' : Session σ} (after : AfterStop c s s') (e : Event σ) (alone : e.LeavesAlone) :
    AfterStop c s (s'.apply c e)

-- The invariant of sessions that stay stopped.
structure Halted (c : Config) (s : Session σ) : Prop where
  timer : s.workspace.schedule.timer = none
  calm : ∀ t ∈ s.tasks, t.cancelled = false → t.work.operates = false
  settled : ¬s.Resumes c

section Step

variable {index : Nat} {t : Task} {st : Step σ}

-- The step of a call that is not going to operate the session does so neither.
theorem Acts.still (acts : Acts c s index t st) (ht : s.taken c index = some (t, st))
    (calm : t.cancelled = false → t.work.operates = false) : s.workspace.Still st := by
  cases live : t.cancelled
  case false =>
    rw [acts.step live]
    exact Workspace.step_still <| calm live
  case true =>
    have left : (s.workspace.unwind c t.work, Progress.stays) = st := by
      simpa [taken, acts.task, live] using ht
    rw [← left]
    refine ⟨?_, rfl⟩
    cases t.work
    case scanning => exact Workspace.leave_watchers
    case notifying => exact Workspace.leave_watchers
    all_goals rfl

theorem Acts.outside (acts : Acts c s index t st)
    (calm : t.cancelled = false → t.work.operates = false) (outside : t.work.phase = .outside) :
    st.2.phase = .outside := by
  cases live : t.cancelled
  case false =>
    rw [acts.step live]
    exact s.workspace.step_plain (calm live) outside |>.outside
  case true => rw [acts.stops live]; rfl

-- It does to the schedule what becomes of its rebuild, and nothing else.
theorem schedule_act_still (ht : s.taken c index = some (t, st)) (still : s.workspace.Still st) :
    (s.act c index).workspace.schedule =
      (t.work.phase.marks st.2.phase).foldl (Schedule.play c.pace) s.workspace.schedule := by
  rw [schedule_act ht, Workspace.notes, if_pos still.watchers]
  rfl

theorem Halted.act_taken (halted : s.Halted c) (ht : s.taken c index = some (t, st)) :
    (s.act c index).Halted c := by
  have acts := acts_of_taken ht
  have mem : t ∈ s.tasks := List.mem_of_getElem? acts.task
  have still := acts.still ht <| halted.calm t mem
  obtain ⟨w', move, _⟩ := acts.moves
  obtain ⟨timer, arrived⟩ : (s.act c index).workspace.schedule.timer = s.workspace.schedule.timer ∧
      ((s.act c index).workspace.schedule.arrived = s.workspace.schedule.arrived ∨
        (s.act c index).workspace.schedule.arrived = []) := by
    rw [schedule_act_still ht still]
    exact Schedule.timer_foldl_marks fun ⟨trailing, arrived, scheduled⟩ =>
      halted.settled ⟨trailing, arrived, t, mem, scheduled⟩
  refine ⟨timer.trans halted.timer, ?calm, ?settled⟩
  case calm =>
    intro t' mem'
    obtain mem' | ⟨work, next, rfl⟩ := acts.tasks_cases mem'
    · exact halted.calm t' mem'
    · have operates := still.operates
      rw [next] at operates
      exact fun _ => operates
  case settled =>
    rintro ⟨trailing, some, t', mem', scheduled⟩
    rw [arrived.resolve_right some] at some
    obtain mem' | ⟨work, next, rfl⟩ := acts.tasks_cases mem'
    · exact halted.settled ⟨trailing, some, t', mem', scheduled⟩
    · have scheduled : st.2.phase.isScheduled = true := by rw [next]; exact scheduled
      have within : t.work.phase ≠ .outside := fun outside => by
        rw [acts.outside (halted.calm t mem) outside] at scheduled
        cases scheduled
      obtain outside | same := move.isScheduled within
      · rw [outside] at scheduled
        cases scheduled
      · exact halted.settled ⟨trailing, some, t, mem, same ▸ scheduled⟩

end Step

theorem Halted.act {index : Nat} (halted : s.Halted c) : (s.act c index).Halted c := by
  cases ht : s.taken c index
  case none => rwa [act_eq_self ht]
  case some taken => exact halted.act_taken ht

theorem Halted.apply {e : Event σ} (halted : s.Halted c) (alone : e.LeavesAlone) :
    (s.apply c e).Halted c := by
  cases e
  case store => exact ⟨halted.timer, halted.calm, halted.settled⟩
  case tick => exact ⟨halted.timer, halted.calm, halted.settled⟩
  case fire =>
    have early : s.workspace.schedule.isDue s.workspace.schedule.now = false := by
      simp [Schedule.isDue, halted.timer]
    simp only [Session.apply, early, Bool.false_eq_true, if_false]
    exact halted
  case act => exact halted.act
  all_goals exact alone.elim

theorem Halted.begun_notMem_marks {e : Event σ} (halted : s.Halted c) (alone : e.LeavesAlone)
    (route : Route) : .begun route ∉ s.marks c e := by
  cases e
  case store => exact List.not_mem_nil
  case tick => simp [marks]
  case fire =>
    simp only [marks]
    split <;> simp
  case act index =>
    simp only [marks, List.mem_append, not_or]
    refine ⟨by split <;> simp, ?_⟩
    cases ht : s.taken c index
    case none => exact List.not_mem_nil
    case some taken =>
      obtain ⟨t, st⟩ := taken
      have acts := acts_of_taken ht
      have calm := halted.calm t <| List.mem_of_getElem? acts.task
      have noted {uris : List String} : Mark.begun route ∉ uris.map Mark.noted := by simp
      have left {route' : Route} : Mark.begun route ∉ route'.marks := by
        cases route' <;> simp [Route.marks]
      simp only [stepMarks, List.mem_append, not_or]
      refine ⟨?_, noted⟩
      cases phase : t.work.phase
      case outside => rw [acts.outside calm phase]; exact List.not_mem_nil
      all_goals cases st.2.phase <;> simp [Phase.marks, left]
  all_goals exact alone.elim

-- Whether none of the calls that go on when the session is stopped is going to operate it.
def Calm (s : Session σ) : Prop :=
  ∀ t ∈ s.tasks, t.origin ≠ .timer → t.cancelled = false → t.work.operates = false

theorem mem_tasks_stop {t : Task} : t ∈ (s.apply c .stop).tasks ↔ ∃ u ∈ s.tasks,
    t = { u with cancelled := u.origin = .timer || u.cancelled } := by
  have stopped (u : Task) : (if u.origin = .timer then { u with cancelled := true } else u) =
      { u with cancelled := u.origin = .timer || u.cancelled } := by
    by_cases timer : u.origin = .timer <;> simp [timer]
  show t ∈ s.tasks.map _ ↔ _
  simp only [stopped, List.mem_map]
  exact exists_congr fun _ => and_congr_right fun _ => eq_comm

theorem Calm.stop (calm : s.Calm) {t : Task} (mem : t ∈ (s.apply c .stop).tasks)
    (live : t.cancelled = false) : t.work.operates = false := by
  obtain ⟨u, started, rfl⟩ := mem_tasks_stop.mp mem
  simp only [Bool.or_eq_false_iff, decide_eq_false_iff_not] at live
  exact calm u started live.1 live.2

theorem resumes_stop : (s.apply c .stop).Resumes c ↔ s.Resumes c := by
  have arrived : (s.apply c .stop).workspace.schedule.arrived = s.workspace.schedule.arrived := by
    rw [schedule_apply]
    rfl
  simp only [Resumes, arrived, mem_tasks_stop]
  constructor
  case mp =>
    rintro ⟨trailing, some, t, ⟨u, mem, rfl⟩, scheduled⟩
    exact ⟨trailing, some, u, mem, scheduled⟩
  case mpr =>
    rintro ⟨trailing, some, u, mem, scheduled⟩
    exact ⟨trailing, some, _, ⟨u, mem, rfl⟩, scheduled⟩

theorem Calm.halted (calm : s.Calm) (settled : ¬s.Resumes c) : (s.apply c .stop).Halted c where
  timer := by rw [schedule_apply]; rfl
  calm _ mem := calm.stop mem
  settled := fun resumes => settled <| resumes_stop.mp resumes

theorem taken_of_within {index : Nat} {t : Task} (task : s.tasks[index]? = some t)
    (within : t.work.phase ≠ .outside) : ∃ st, s.taken c index = some (t, st) := by
  simp only [taken, task]
  split
  case isTrue => exact ⟨_, rfl⟩
  case isFalse =>
    split
    case h_1 idling => exact absurd (by rw [idling]; rfl) within
    case h_2 => exact ⟨_, rfl⟩

-- A rebuild that is going to take up changes can go on to its end, and then the timer is armed.
-- The induction is on what is left of the rebuild.
theorem AfterStop.arms {s' : Session σ} {t : Task} (after : AfterStop c s s')
    (trailing : c.pace.trailing = true)
    (arrived : s'.workspace.schedule.arrived ≠ []) (mem : t ∈ s'.tasks)
    (calm : t.cancelled = false → t.work.operates = false)
    (scheduled : t.work.phase.isScheduled = true) :
    ∃ s'', AfterStop c s s'' ∧ s''.workspace.schedule.timer.isSome = true := by
  have within : t.work.phase ≠ .outside := by
    intro outside
    rw [outside] at scheduled
    cases scheduled
  obtain ⟨index, task⟩ := List.mem_iff_getElem?.mp mem
  obtain ⟨st, ht⟩ := taken_of_within (c := c) task within
  have acts := acts_of_taken ht
  have still := acts.still ht calm
  have after' := after.event (.act index) trivial
  have schedule := schedule_act_still ht still
  obtain ⟨w', move, _⟩ := acts.moves
  by_cases outside : st.2.phase = .outside
  case pos =>
    refine ⟨_, after', ?_⟩
    show (s'.act c index).workspace.schedule.timer.isSome = true
    rw [schedule, outside]
    exact Schedule.isSome_timer_of_left trailing arrived scheduled
  case neg =>
    obtain ⟨work, next⟩ : ∃ work, st.2 = .waits work := by
      cases hp : st.2
      case waits work => exact ⟨work, rfl⟩
      all_goals rw [hp] at outside; exact absurd rfl outside
    have live : t.cancelled = false := by
      refine Bool.eq_false_iff.mpr fun cancelled => ?_
      rw [acts.stops cancelled] at next
      cases next
    have below : (s'.workspace.step c t.work).2.Below t.work.rank := Workspace.step_below
    rw [← acts.step live, next] at below
    have lower : work.rank < t.work.rank := below
    have operates := still.operates
    rw [next] at operates
    have same := move.isScheduled within |>.resolve_left outside
    rw [next] at same
    have kept : (s'.act c index).workspace.schedule.arrived = s'.workspace.schedule.arrived := by
      rw [schedule]
      exact Schedule.arrived_foldl_marks within outside
    exact after'.arms trailing (kept ▸ arrived) (acts.mem_next next) (fun _ => operates)
      (same.trans scheduled)
termination_by t.work.rank
decreasing_by exact lower

-- The calls that were called off can all leave, and the timer stays armed. The induction is on how
-- many of them have not left.
theorem AfterStop.unwinds {s' : Session σ} (after : AfterStop c s s')
    (armed : s'.workspace.schedule.timer.isSome = true) :
    ∃ s'', AfterStop c s s'' ∧ s''.workspace.schedule.timer.isSome = true ∧
      ∀ t ∈ s''.tasks, t.cancelled = false := by
  induction left : s'.tasks.countP (·.cancelled) using Nat.strongRecOn generalizing s'
  case ind n hi =>
    by_cases live : ∀ t ∈ s'.tasks, t.cancelled = false
    case pos => exact ⟨s', after, armed, live⟩
    case neg =>
      simp only [Classical.not_forall, Bool.not_eq_false] at live
      obtain ⟨t, mem, cancelled⟩ := live
      obtain ⟨index, task⟩ := List.mem_iff_getElem?.mp mem
      have ht : s'.taken c index = some (t, s'.workspace.unwind c t.work, .stays) := by
        simp only [taken, task, cancelled, if_true]
      obtain ⟨pre, post, before, behind⟩ := acts_of_taken ht |>.tasks
      have armed' : (s'.apply c (.act index)).workspace.schedule.timer.isSome = true := by
        rw [schedule_apply]
        exact Schedule.isSome_timer_foldl armed <| disarmed_notMem_marks trivial (by simp)
      have fewer : (s'.act c index).tasks.countP (·.cancelled) < n := by
        rw [← left]
        simp [before, behind, Task.next, cancelled]
      exact hi _ fewer (after.event (.act index) trivial) armed' rfl

-- Once the calls that were called off have left, a session that was stopped and is left alone never
-- has its timer armed, and no rebuild begins in it.
def StaysStopped (c : Config) (s : Session σ) : Prop :=
  ∀ s', AfterStop c s s' → (∀ t ∈ s'.tasks, t.cancelled = false) →
    s'.workspace.schedule.timer = none ∧ ∀ e, e.LeavesAlone → ∀ route, .begun route ∉ s'.marks c e

theorem AfterStop.halted (after : AfterStop c s s') (halted : (s.apply c .stop).Halted c) :
    s'.Halted c := by
  induction after
  case stopped => exact halted
  case event e alone hi => exact hi.apply alone

-- A session whose calls do not operate it themselves stays stopped, unless changes have arrived
-- that a rebuild is going to take up.
theorem staysStopped_iff (calm : s.Calm) : s.StaysStopped c ↔ ¬s.Resumes c := by
  constructor
  case mp =>
    intro stays resumes
    obtain ⟨trailing, arrived, t, mem, scheduled⟩ := resumes_stop.mpr resumes
    have first : AfterStop c s (s.apply c .stop) := .stopped
    obtain ⟨s', after, armed⟩ := first.arms trailing arrived mem (calm.stop mem) scheduled
    obtain ⟨s'', after, armed, live⟩ := after.unwinds armed
    rw [(stays s'' after live).1] at armed
    cases armed
  case mpr =>
    intro settled s' after _
    have halted := after.halted <| calm.halted settled
    exact ⟨halted.timer, fun _ alone => halted.begun_notMem_marks alone⟩

-- The session is stopped while the timer's rebuild scans, and no change has arrived since it began.
theorem staysStopped_during_rebuild :
    let c := Config.ofPace ⟨4, true⟩
    let store : MemoryStore := {}
    let es : List (Event MemoryStore) := [.notify "a.gorch", .tick 4, .fire, .act 0]
    let s := (ofStore store).after c es
    s.workspace.schedule.busy = true ∧ s.Calm ∧ s.StaysStopped c := by
  intro c store es s
  have facts : s.workspace.schedule.busy = true ∧ s.workspace.schedule.arrived = [] ∧
      ∀ t ∈ s.tasks, t.origin = .timer := by decide +kernel
  -- Only these facts matter, and not how the state is computed.
  clear_value s
  obtain ⟨busy, arrived, timer⟩ := facts
  have calm : s.Calm := fun t mem origin => absurd (timer t mem) origin
  refine ⟨busy, calm, (staysStopped_iff calm).mpr ?_⟩
  rintro ⟨_, some, _⟩
  exact some arrived

-- A change arrives while the timer's rebuild scans, and the session is stopped then. The rebuild is
-- called off and takes up the change, so that the timer is armed and causes another rebuild.
theorem resumed_after_stop :
    let c := Config.ofPace ⟨4, true⟩
    let store : MemoryStore := {}
    let es : List (Event MemoryStore) := [.notify "a.gorch", .tick 4, .fire, .act 0,
      .notify "a.gorch"]
    let s := (ofStore store).after c es
    let left := s.after c [.stop, .act 0]
    let later := left.after c [.tick 4, .fire]
    Run c (fun _ => True) s ((ofStore store).history c es) ∧ s.Calm ∧ AfterStop c s left ∧
      left.tasks = [] ∧ left.workspace.schedule.timer = some 8 ∧ AfterStop c s later ∧
      .begun .scheduled ∈ later.marks c (.act 0) := by
  intro c store es s left later
  have run : Run c (fun _ => True) s ((ofStore store).history c es) := run_of_events store (by simp)
  have facts : (∀ t ∈ s.tasks, t.origin = .timer) ∧ left.tasks = [] ∧
      left.workspace.schedule.timer = some 8 ∧ .begun .scheduled ∈ later.marks c (.act 0) := by
    decide +kernel
  obtain ⟨timer, tasks, armed, begun⟩ := facts
  have calm : s.Calm := fun t mem origin => absurd (timer t mem) origin
  have after : AfterStop c s left := .event .stopped (.act 0) trivial
  have after' : AfterStop c s later := (after.event (.tick 4) trivial).event .fire trivial
  exact ⟨run, calm, after, tasks, armed, after', begun⟩

end Session

end FlowIndex
