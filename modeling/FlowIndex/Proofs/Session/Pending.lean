import FlowIndex.Proofs.Session.Trailing

namespace FlowIndex

-- Whether pending changes are attended to; `prompted` says whether a rebuild of the timer waits to
-- begin.
def Schedule.Attends (prompted : Prop) (q : Schedule) : Prop :=
  q.pending ≠ [] → q.timer.isSome = true ∨ q.busy = true ∨ prompted

namespace Schedule.Attends

variable {pace : Pace} {q : Schedule} {prompted prompted' : Prop}

theorem mono (a : q.Attends prompted) (hp : q.busy = false → prompted → prompted') :
    q.Attends prompted' := by
  intro pending
  obtain timer | busy | waits := a pending
  · exact .inl timer
  · exact .inr <| .inl busy
  · cases busy : q.busy
    case true => exact .inr <| .inl rfl
    case false => exact .inr <| .inr <| hp busy waits

theorem reschedule (a : q.Attends prompted) : (q.reschedule pace).Attends prompted := by
  unfold Schedule.reschedule
  split
  case isTrue => exact fun _ => .inl rfl
  case isFalse => exact a

-- Only the timer's going off can leave changes to a rebuild that has not begun.
theorem play {m : Mark} (a : q.Attends prompted) (armed : m ≠ .disarmed) :
    (q.play pace m).Attends prompted := by
  cases m
  case noted => exact fun _ => .inl rfl
  case begun => exact fun _ => .inr <| .inl rfl
  case released => exact fun pending => absurd rfl pending
  case left => exact a.reschedule
  case disarmed => exact absurd rfl armed
  case forgotten => exact fun pending => absurd rfl pending
  all_goals exact a

theorem foldl_play {ms : List Mark} (a : q.Attends prompted) (armed : .disarmed ∉ ms) :
    (ms.foldl (Schedule.play pace) q).Attends prompted := by
  induction ms generalizing q
  case nil => exact a
  case cons m ms hi =>
    have first : m ≠ .disarmed := Ne.symm <| List.ne_of_not_mem_cons armed
    exact hi (a.play first) <| List.not_mem_of_not_mem_cons armed

end Schedule.Attends

-- Whether an event lets all calls go on: it calls off no rebuild.
def Event.LetsGoOn {σ : Type} : Event σ → Prop
  | .cancel | .stop => False
  | _ => True

namespace Session

variable {σ : Type} [DocumentStore σ] {c : Config} {s : Session σ} {h : List Mark}

-- A rebuild that the timer caused waits to begin.
def TimerWaits (s : Session σ) : Prop :=
  ∃ t ∈ s.tasks, t.origin = .timer ∧ t.cancelled = false ∧ t.work = .queued .refresh

-- The invariant of sessions in which no rebuild is called off.
structure Attends (s : Session σ) : Prop where
  schedule : s.workspace.schedule.Attends s.TimerWaits
  live : ∀ t ∈ s.tasks, t.cancelled = false

theorem disarmed_notMem_marks {e : Event σ} (goesOn : e.LetsGoOn) (he : e ≠ .fire) :
    .disarmed ∉ s.marks c e := by
  have noted {uris : List String} : Mark.disarmed ∉ uris.map Mark.noted := by simp
  have routed {route : Route} : Mark.disarmed ∉ route.marks := by cases route <;> simp [Route.marks]
  cases e
  case changes => exact noted
  case files => exact noted
  case cancel => exact goesOn.elim
  case stop => exact goesOn.elim
  case fire => exact absurd rfl he
  case act index =>
    have phases {p q : Phase} : Mark.disarmed ∉ p.marks q := by
      cases p <;> cases q <;> simp [Phase.marks, routed]
    simp only [marks, List.mem_append, not_or]
    constructor
    · split <;> simp
    · cases s.taken c index
      case none => simp [stepMarks]
      case some => simp [stepMarks, phases]
  all_goals simp [marks]

omit [DocumentStore σ] in
theorem live_of_mem_started {e : Event σ} {t : Task} (mem : t ∈ s.started e) :
    t.cancelled = false := by
  obtain ⟨_, _, _, rfl⟩ | ⟨_, rfl⟩ := started_cases mem
  all_goals rfl

-- When the timer goes off, it goes off for nothing, or a rebuild waits to begin from then on.
theorem Attends.fire (a : s.Attends) :
    (s.apply c .fire).workspace.schedule.Attends (s.apply c .fire).TimerWaits := by
  have tasks : (s.apply c .fire).tasks = s.tasks ++ s.started .fire :=
    s.tasks_apply_of_ne nofun nofun nofun
  rw [schedule_apply]
  simp only [marks]
  split
  case isFalse =>
    refine a.schedule.mono ?_
    rintro _ ⟨t, mem, waits⟩
    refine ⟨t, ?_, waits⟩
    rw [tasks]
    exact List.mem_append_left _ mem
  case isTrue due =>
    intro pending
    cases busy : s.workspace.schedule.busy
    case true => exact .inr <| .inl busy
    case false =>
      refine .inr <| .inr ⟨{ origin := .timer, work := .queued .refresh }, ?_, rfl, rfl, rfl⟩
      have pending : s.workspace.schedule.pending ≠ [] := pending
      rw [tasks]
      simp [started, due, busy, pending]

theorem Attends.apply_of_ne_act {e : Event σ} (a : s.Attends) (goesOn : e.LetsGoOn)
    (he : ∀ index, e ≠ .act index) : (s.apply c e).Attends := by
  have tasks : (s.apply c e).tasks = s.tasks ++ s.started e :=
    s.tasks_apply_of_ne he (by rintro rfl; exact goesOn) (by rintro rfl; exact goesOn)
  refine ⟨?schedule, ?live⟩
  case schedule =>
    by_cases fires : e = .fire
    case pos =>
      subst fires
      exact a.fire
    case neg =>
      have attends : (s.apply c e).workspace.schedule.Attends s.TimerWaits := by
        rw [schedule_apply]
        exact a.schedule.foldl_play <| disarmed_notMem_marks goesOn fires
      refine attends.mono fun _ ⟨t, mem, waits⟩ => ⟨t, ?_, waits⟩
      rw [tasks]
      exact List.mem_append_left _ mem
  case live =>
    intro t mem
    rw [tasks] at mem
    exact List.mem_append.mp mem |>.elim (a.live t) live_of_mem_started

-- A rebuild that waits to begin either begins, or is turned away because another one scans.
theorem Acts.busy_of_queued {index : Nat} {t : Task} {st : Step σ} (acts : Acts c s index t st)
    (live : t.cancelled = false) (work : t.work = .queued .refresh) :
    (s.act c index).workspace.schedule.busy = true := by
  obtain ⟨w', move, silent⟩ := acts.moves
  have outside : t.work.phase = .outside := by rw [work]; rfl
  have kept := move.busy fun scans => by rw [outside] at scans; cases scans
  rw [acts.workspace, Workspace.schedule_of_silent silent]
  by_cases refused : st.2.phase = .outside
  case pos =>
    rw [acts.step live, work] at refused
    have busy := Workspace.busy_of_refused refused
    rw [outside, busy] at kept
    cases after : w'.schedule.busy
    case true => rfl
    case false => simp [after, Phase.isScanning] at kept
  case neg =>
    have scans : st.2.phase.isScanning = true := by
      generalize st.2.phase = p at move refused
      cases move <;> simp_all [Phase.isScanning]
    rw [outside, scans] at kept
    cases after : w'.schedule.busy
    case true => rfl
    case false => simp [after, Phase.isScanning] at kept

theorem Attends.act {index : Nat} (a : s.Attends) : (s.act c index).Attends := by
  cases h : s.taken c index
  case none => rwa [act_eq_self h]
  case some taken =>
    obtain ⟨t, st⟩ := taken
    have acts := acts_of_taken h
    refine ⟨?schedule, ?live⟩
    case schedule =>
      have attends : (s.act c index).workspace.schedule.Attends s.TimerWaits := by
        show (s.apply c (.act index)).workspace.schedule.Attends _
        rw [schedule_apply]
        exact a.schedule.foldl_play <| disarmed_notMem_marks trivial nofun
      refine attends.mono fun idle ⟨t', mem, origin, live, work⟩ => ?_
      refine ⟨t', acts.mem_tasks mem ?_, origin, live, work⟩
      rintro rfl
      simp [acts.busy_of_queued live work] at idle
    case live =>
      intro t' mem
      obtain mem | ⟨work, _, rfl⟩ := acts.tasks_cases mem
      · exact a.live t' mem
      · exact a.live t <| List.mem_of_getElem? acts.task

theorem Run.attends (run : Run c Event.LetsGoOn s h) : s.Attends := by
  induction run
  case start =>
    refine ⟨fun pending => ?_, fun _ mem => absurd mem List.not_mem_nil⟩
    exact absurd rfl pending
  case event e ok hi =>
    obtain ⟨index, rfl⟩ | he := act_or_ne e
    case inl => exact hi.act
    case inr => exact hi.apply_of_ne_act ok he

-- As long as no rebuild is called off, pending changes are attended to.
theorem Run.pending_attended (run : Run c Event.LetsGoOn s h)
    (pending : s.workspace.schedule.pending ≠ []) :
    s.workspace.schedule.timer.isSome = true ∨
      (s.workspace.schedule.busy = true ∧ ∃ t ∈ s.tasks, t.work.phase.isScanning = true) ∨
      ∃ t ∈ s.tasks, t.origin = .timer ∧ t.cancelled = false ∧ t.work = .queued .refresh := by
  obtain timer | busy | waits := run.attends.schedule pending
  · exact .inl timer
  · exact .inr <| .inl ⟨busy, run.exclusive.busy_iff.mp busy⟩
  · exact .inr <| .inr waits

-- The timer goes off, and a rebuild past the schedule begins before that of the timer. A change is
-- noted and the timer goes off once more, for nothing.
theorem pending_attended_in_turn :
    let c := Config.ofPace ⟨4, false⟩
    let store : MemoryStore := {}
    let es : List (Event MemoryStore) := [.notify "a.gorch", .tick 4, .fire, .call 0 .rebuild,
      .act 1, .notify "b.gorch", .tick 4, .fire]
    let s := (ofStore store).after c es
    s.workspace.schedule.pending = ["a.gorch", "b.gorch"] ∧ s.workspace.schedule.timer = none ∧
      ((s.workspace.schedule.busy = true ∧ ∃ t ∈ s.tasks, t.work.phase.isScanning = true) ∨
        ∃ t ∈ s.tasks, t.origin = .timer ∧ t.cancelled = false ∧ t.work = .queued .refresh) := by
  intro c store es s
  have run : Run c Event.LetsGoOn s ((ofStore store).history c es) := run_of_events store <| by
    simp [es, Event.LetsGoOn]
  have facts : s.workspace.schedule.pending = ["a.gorch", "b.gorch"] ∧
      s.workspace.schedule.timer = none := by decide +kernel
  -- Only these facts matter, and not how the state is computed.
  clear_value s
  obtain ⟨pending, timer⟩ := facts
  have attended := run.pending_attended <| by rw [pending]; exact List.cons_ne_nil _ _
  rw [timer] at attended
  exact ⟨pending, timer, attended.resolve_left nofun⟩

end Session

end FlowIndex
