import FlowIndex.Proofs.Session.History
import FlowIndex.Store.Memory

namespace FlowIndex

-- Whether a mark leaves it as it is whether a rebuild is under way.
def Mark.calm : Mark → Bool
  | .begun _ | .released => false
  | _ => true

namespace Schedule

variable {pace : Pace} {q : Schedule}

theorem reschedule_busy : (q.reschedule pace).busy = q.busy := by
  unfold reschedule
  split <;> rfl

theorem play_busy {m : Mark} (h : m.calm = true) : (q.play pace m).busy = q.busy := by
  cases m
  case begun => cases h
  case released => cases h
  case left => exact reschedule_busy
  all_goals rfl

theorem foldl_play_busy {ms : List Mark} (h : ∀ m ∈ ms, m.calm = true) :
    (ms.foldl (play pace) q).busy = q.busy := by
  induction ms generalizing q
  case nil => rfl
  case cons m ms hi =>
    rw [List.foldl_cons, hi fun m' hm => h m' (List.mem_cons_of_mem _ hm),
      play_busy <| h m List.mem_cons_self]

end Schedule

theorem Route.calm_of_mem_marks {route : Route} {m : Mark} (h : m ∈ route.marks) :
    m.calm = true := by
  cases route <;> simp [marks] at h
  rw [h]
  rfl

theorem calm_of_mem_noted {uris : List String} {m : Mark} (h : m ∈ uris.map Mark.noted) :
    m.calm = true := by
  obtain ⟨uri, _, rfl⟩ := List.mem_map.mp h
  rfl

namespace Workspace

variable {σ : Type} [DocumentStore σ] {c : Config} {w w' : Workspace σ} {t : Task} {p : Phase}

-- A call that scans holds the schedule, and a move hands it over with the phase: what the call
-- takes up, the schedule gives, and the other way round.
theorem Move.busy (h : Move c w t p w')
    (held : t.work.phase.isScanning = true → w.schedule.busy = true) :
    p.isScanning.toNat + w.schedule.busy.toNat =
      t.work.phase.isScanning.toNat + w'.schedule.busy.toNat := by
  have noted {q : Schedule} : (((w.notes c w').map Mark.noted).foldl (Schedule.play c.pace) q).busy =
      q.busy := Schedule.foldl_play_busy fun _ => calm_of_mem_noted
  have routed {route : Route} {q : Schedule} :
      (route.marks.foldl (Schedule.play c.pace) q).busy = q.busy :=
    Schedule.foldl_play_busy fun _ => Route.calm_of_mem_marks
  rw [h.schedule, List.foldl_append, noted]
  cases h
  case pass outside => rw [outside]; rfl
  case begin outside idle _ => rw [outside, idle]; rfl
  case scan work _ _ _ => rw [work]; rfl
  case drop work _ _ =>
    rw [work] at held ⊢
    simp only [Work.phase, Phase.marks, List.foldl_cons, routed, held rfl]
    rfl
  case swap work _ _ _ =>
    rw [work] at held ⊢
    rw [held rfl]
    rfl
  case swapAndLeave work _ _ _ _ =>
    rw [work] at held ⊢
    simp only [Work.phase, Phase.marks, List.foldl_cons, routed, held rfl]
    rfl
  case tell telling => rw [telling]; rfl
  case leave telling =>
    rw [telling]
    simp only [Phase.marks, routed]
    rfl

-- A scan that comes to its end, `next`, with the next step of a call.
structure Finishes (c : Config) (w : Workspace σ) (t : Task) (next : Scan) : Prop where
  live : t.cancelled = false
  step : ∃ route wish scan, t.work = .scanning route wish scan ∧
    scan.step c.extractor w.store = .ok next
  done : next.stage = .done

theorem Move.snapshot (h : Move c w t p w') :
    (∃ next, w.Finishes c t next ∧ w'.snapshot = next.snapshot w.snapshot) ∨
      (∀ next, ¬w.Finishes c t next) ∧ w'.snapshot = w.snapshot := by
  have idle (hp : t.work.phase.isScanning = false) (next : Scan) : ¬w.Finishes c t next := by
    rintro ⟨_, ⟨route, wish, scan, work, _⟩, _⟩
    rw [work] at hp
    cases hp
  cases h
  case pass outside => exact .inr ⟨idle <| by rw [outside]; rfl, granted_snapshot⟩
  case begin outside _ _ => exact .inr ⟨idle <| by rw [outside]; rfl, rfl⟩
  case scan next' work _ step more =>
    refine .inr ⟨?_, rfl⟩
    rintro next ⟨_, ⟨_, _, _, work', step'⟩, done⟩
    cases work.symm.trans work'
    cases step.symm.trans step'
    exact more done
  case drop work _ ends =>
    refine .inr ⟨?_, by rw [granted_snapshot, leave_snapshot]; rfl⟩
    rintro next ⟨live, ⟨_, _, _, work', step'⟩, _⟩
    cases work.symm.trans work'
    obtain cancelled | ⟨f, failed⟩ := ends
    · simp [live] at cancelled
    · cases failed.symm.trans step'
  case swap next work live step done =>
    exact .inl ⟨next, ⟨live, ⟨_, _, _, work, step⟩, done⟩, rfl⟩
  case swapAndLeave next work _ live step done =>
    refine .inl ⟨next, ⟨live, ⟨_, _, _, work, step⟩, done⟩, ?_⟩
    rw [granted_snapshot, leave_snapshot]
    rfl
  case tell telling => exact .inr ⟨idle <| by rw [telling]; rfl, rfl⟩
  case leave telling =>
    exact .inr ⟨idle <| by rw [telling]; rfl, by rw [granted_snapshot, leave_snapshot]⟩

end Workspace

namespace Session

variable {σ : Type} [DocumentStore σ] {c : Config} {s : Session σ} {h : List Mark}
  {allowed : Event σ → Prop}

-- How many calls scan the store.
def scanning (s : Session σ) : Nat :=
  s.tasks.countP (·.work.phase.isScanning)

-- The invariant: the schedule is busy for the one call that scans, if there is one.
def Exclusive (s : Session σ) : Prop :=
  s.scanning = s.workspace.schedule.busy.toNat

omit [DocumentStore σ] in
theorem Exclusive.busy_iff (e : s.Exclusive) :
    s.workspace.schedule.busy = true ↔ ∃ t ∈ s.tasks, t.work.phase.isScanning = true := by
  have alone := Bool.toNat_le s.workspace.schedule.busy
  rw [← Bool.toNat_eq_one, ← List.countP_pos_iff]
  unfold Exclusive scanning at e
  omega

omit [DocumentStore σ] in
theorem countP_next {t : Task} {p : Progress} :
    (t.next p).countP (·.work.phase.isScanning) = p.phase.isScanning.toNat := by
  cases p
  case waits work => cases h : work.phase.isScanning <;> simp [Task.next, Progress.phase, h]
  all_goals rfl

theorem Acts.scanning {index : Nat} {t : Task} {st : Step σ} (acts : Acts c s index t st) :
    s.scanning + st.2.phase.isScanning.toNat =
      (s.act c index).scanning + t.work.phase.isScanning.toNat := by
  obtain ⟨pre, post, before, after⟩ := acts.tasks
  simp only [Session.scanning, before, after, List.countP_append, List.countP_cons, countP_next]
  cases t.work.phase.isScanning <;> simp <;> omega

theorem Exclusive.act {index : Nat} (e : s.Exclusive) : (s.act c index).Exclusive := by
  cases ht : s.taken c index
  case none => rwa [act_eq_self ht]
  case some taken =>
    obtain ⟨t, st⟩ := taken
    have acts := acts_of_taken ht
    obtain ⟨w', move, silent⟩ := acts.moves
    have busy := move.busy fun scans => e.busy_iff.mpr ⟨t, List.mem_of_getElem? acts.task, scans⟩
    have count := acts.scanning
    rw [e] at count
    unfold Exclusive
    rw [acts.workspace, Workspace.schedule_of_silent silent]
    omega

-- Events other than steps neither begin a rebuild nor release one.
theorem calm_of_mem_marks {e : Event σ} (he : ∀ index, e ≠ .act index) {m : Mark}
    (hm : m ∈ s.marks c e) : m.calm = true := by
  cases e
  case act index => exact absurd rfl (he index)
  case changes => exact calm_of_mem_noted hm
  case files => exact calm_of_mem_noted hm
  case fire =>
    simp only [marks] at hm
    split at hm <;> simp at hm
    rw [hm]
    rfl
  all_goals simp [marks] at hm
  all_goals rw [hm]; rfl

omit [DocumentStore σ] in
theorem phase_of_mem_started {e : Event σ} {t : Task} (h : t ∈ s.started e) :
    t.work.phase = .outside := by
  obtain ⟨_, _, _, rfl⟩ | ⟨_, rfl⟩ := started_cases h
  all_goals rfl

theorem Exclusive.apply (e : Event σ) (hs : s.Exclusive) : (s.apply c e).Exclusive := by
  obtain ⟨index, rfl⟩ | he := act_or_ne e
  case inl => exact hs.act
  case inr =>
    have busy : (s.apply c e).workspace.schedule.busy = s.workspace.schedule.busy := by
      rw [schedule_apply]
      exact Schedule.foldl_play_busy fun _ => calm_of_mem_marks he
    have none : (s.started e).countP (·.work.phase.isScanning) = 0 :=
      List.countP_eq_zero.mpr fun t h => by simp [phase_of_mem_started h, Phase.isScanning]
    unfold Exclusive scanning
    rw [busy, ← hs, scanning, countP_tasks_apply he fun _ => rfl, none, Nat.add_zero]

theorem Run.exclusive (run : Run c allowed s h) : s.Exclusive := by
  induction run
  case start => rfl
  case event e _ hi => exact hi.apply e

theorem swaps_iff {index : Nat} : s.swaps c index = true ↔
    ∃ t next, s.tasks[index]? = some t ∧ s.workspace.Finishes c t next := by
  constructor
  case mp =>
    intro hs
    unfold swaps at hs
    split at hs
    case h_1 scan ht =>
      split at hs
      case h_1 next hn => exact ⟨_, next, ht, rfl, ⟨_, _, _, rfl, hn⟩, by simpa using hs⟩
      case h_2 => cases hs
    case h_2 => cases hs
  case mpr =>
    rintro ⟨⟨origin, work, cancelled⟩, next, ht, live, ⟨route, wish, scan, hw, hn⟩, done⟩
    cases hw
    cases live
    simp [swaps, ht, hn, done]

-- What an event does to the snapshot: nothing, or else it puts the next version into place.
theorem snapshot_act (index : Nat) :
    (∃ t next, s.tasks[index]? = some t ∧ s.workspace.Finishes c t next ∧
        (s.act c index).workspace.snapshot = next.snapshot s.workspace.snapshot) ∨
      s.swaps c index = false ∧ (s.act c index).workspace.snapshot = s.workspace.snapshot := by
  cases ht : s.taken c index
  case none =>
    refine .inr ⟨Bool.eq_false_iff.mpr fun swaps => ?_, by rw [act_eq_self ht]⟩
    obtain ⟨t, next, task, live, ⟨_, _, _, work, _⟩, _⟩ := swaps_iff.mp swaps
    simp [taken, task, live, work] at ht
  case some taken =>
    obtain ⟨t, st⟩ := taken
    have acts := acts_of_taken ht
    obtain ⟨w', move, silent⟩ := acts.moves
    rw [acts.workspace, Workspace.snapshot_of_silent silent]
    obtain ⟨next, finishes, hs⟩ | ⟨never, hs⟩ := move.snapshot
    · exact .inl ⟨t, next, acts.task, finishes, hs⟩
    · refine .inr ⟨Bool.eq_false_iff.mpr fun swaps => ?_, hs⟩
      obtain ⟨t', next, task, finishes⟩ := swaps_iff.mp swaps
      cases acts.task.symm.trans task
      exact never next finishes

theorem swapped_notMem_marks {e : Event σ} (he : ∀ index, e ≠ .act index) :
    Mark.swapped ∉ s.marks c e := by
  have noted {uris : List String} : Mark.swapped ∉ uris.map Mark.noted := by simp
  cases e
  case act index => exact absurd rfl (he index)
  case changes => exact noted
  case files => exact noted
  case fire =>
    simp only [marks]
    split <;> simp
  all_goals simp [marks]

theorem count_swapped_act {index : Nat} :
    (s.marks c (.act index)).count .swapped = (s.swaps c index).toNat := by
  have routed {route : Route} : Mark.swapped ∉ route.marks := by cases route <;> simp [Route.marks]
  have phases {p q : Phase} : Mark.swapped ∉ p.marks q := by
    cases p <;> cases q <;> simp [Phase.marks, routed]
  have rest : (s.stepMarks c (s.taken c index)).count Mark.swapped = 0 := by
    cases s.taken c index
    case none => rfl
    case some => simp [stepMarks, List.count_eq_zero, phases]
  rw [marks, List.count_append, rest]
  cases s.swaps c index <;> rfl

theorem Run.version (run : Run c allowed s h) : s.workspace.snapshot.version = h.count .swapped := by
  induction run
  case start => rfl
  case event s h _ e _ hi =>
    rw [List.count_append, List.count_reverse, ← hi]
    obtain ⟨index, rfl⟩ | he := act_or_ne e
    case inl =>
      rw [count_swapped_act]
      show (s.act c index).workspace.snapshot.version = _
      obtain ⟨t, next, task, finishes, hs⟩ | ⟨swaps, hs⟩ := s.snapshot_act (c := c) index
      · rw [hs, swaps_iff.mpr ⟨t, next, task, finishes⟩, Nat.add_comm]
        rfl
      · rw [hs, swaps]
        exact (Nat.zero_add _).symm
    case inr =>
      rw [(frame_apply he).1, List.count_eq_zero.mpr (swapped_notMem_marks he), Nat.zero_add]

-- A rebuild gives the schedule free without a new snapshot. The workspace is as it was, the schedule
-- apart, so that no listener was told of anything, and no change is pending. Only then does the
-- schedule of a rebuild that goes by it take up the changes that arrived.
structure Freed (c : Config) (route : Route) (w w' : Workspace σ) : Prop where
  rest : w' = { w with schedule := w'.schedule }
  busy : w'.schedule.busy = false
  pending : w'.schedule.pending = []
  idle : (w'.leave c route).schedule.busy = false
  back : ∀ uri, uri ∈ (w'.leave c route).schedule.pending ↔
    route = .scheduled ∧ c.pace.trailing = true ∧ uri ∈ w.schedule.arrived

omit [DocumentStore σ] in
theorem freed_release {w : Workspace σ} {route : Route} :
    Freed c route w (w.modifySchedule .release) := by
  refine ⟨rfl, rfl, rfl, ?idle, ?back⟩
  case idle => cases route <;> simp [Workspace.leave, Workspace.modifySchedule,
    Schedule.reschedule_busy, Schedule.release]
  case back =>
    intro uri
    cases route
    case direct => simp [Workspace.leave, Workspace.modifySchedule, Schedule.release]
    case scheduled =>
      cases trailing : c.pace.trailing
      all_goals cases arrived : w.schedule.arrived
      all_goals simp [Workspace.leave, Workspace.modifySchedule, Schedule.reschedule, Schedule.arm,
        Schedule.release, NameSet.mem_union, trailing, arrived]

-- A rebuild reports that it was turned away, and nothing else.
def TurnedAway (r : RebuildResult) : Prop :=
  r.success = false ∧ r.errors.length = 1

-- What is true of a session, and of its next event, after every run.
structure ExactRebuilds (c : Config) (s : Session σ) (h : List Mark) : Prop where
  alone : s.scanning ≤ 1
  busy : s.workspace.schedule.busy = true ↔ ∃ t ∈ s.tasks, t.work.phase.isScanning = true
  version : s.workspace.snapshot.version = h.count .swapped
  -- The snapshot changes when a scan has come to its end, and then to the next version.
  swapped : ∀ e, (s.apply c e).workspace.snapshot = s.workspace.snapshot ∧ .swapped ∉ s.marks c e ∨
    ∃ index t next, e = .act index ∧ s.tasks[index]? = some t ∧ s.workspace.Finishes c t next ∧
      (s.apply c e).workspace.snapshot = next.snapshot s.workspace.snapshot ∧
      (s.apply c e).workspace.snapshot.version = s.workspace.snapshot.version + 1
  -- A rebuild that is asked for while another one is under way ends with one error, and the
  -- workspace is not touched; nor is it for a start that goes on after such a rebuild.
  turnedAway : s.workspace.schedule.busy = true → ∀ index t call, s.tasks[index]? = some t →
    t.cancelled = false → t.work = .queued call → call = .rebuild ∨ call = .refresh →
    ∃ r, TurnedAway r ∧ s.act c index =
      { s with tasks := s.tasks.eraseIdx index }.record (.rebuilt (some r)) t.origin
  turnedAwayWithin : s.workspace.schedule.busy = true → ∀ route wish,
    ∃ r, TurnedAway r ∧ s.workspace.beginRebuild c route wish = s.workspace.grant c (some r) wish
  failed : ∀ index t route wish scan f, s.tasks[index]? = some t → t.cancelled = false →
    t.work = .scanning route wish scan → scan.step c.extractor s.workspace.store = .error f →
    ∃ w' r, Freed c route s.workspace w' ∧ r.success = false ∧
      s.act c index = s.place index t ((w'.leave c route).grant c (some r) wish)
  calledOff : ∀ index t route wish scan, s.tasks[index]? = some t → t.cancelled = true →
    t.work = .scanning route wish scan →
    ∃ w', Freed c route s.workspace w' ∧
      s.act c index = { s with workspace := w'.leave c route, tasks := s.tasks.eraseIdx index }

theorem swapped_cases (e : Event σ) :
    (s.apply c e).workspace.snapshot = s.workspace.snapshot ∧ .swapped ∉ s.marks c e ∨
      ∃ index t next, e = .act index ∧ s.tasks[index]? = some t ∧ s.workspace.Finishes c t next ∧
        (s.apply c e).workspace.snapshot = next.snapshot s.workspace.snapshot ∧
        (s.apply c e).workspace.snapshot.version = s.workspace.snapshot.version + 1 := by
  obtain ⟨index, rfl⟩ | he := act_or_ne e
  case inl =>
    obtain ⟨t, next, task, finishes, hs⟩ | ⟨swaps, hs⟩ := s.snapshot_act (c := c) index
    · exact .inr ⟨index, t, next, rfl, task, finishes, hs, congrArg Snapshot.version hs⟩
    · refine .inl ⟨hs, ?_⟩
      rw [← List.count_eq_zero, count_swapped_act, swaps]
      rfl
  case inr => exact .inl ⟨(frame_apply he).1, swapped_notMem_marks he⟩

theorem Run.exactRebuilds (run : Run c allowed s h) : ExactRebuilds c s h where
  alone := by
    rw [run.exclusive]
    exact Bool.toNat_le _
  busy := run.exclusive.busy_iff
  version := run.version
  swapped := swapped_cases
  turnedAway busy index t call task live work asked := by
    refine ⟨.busy s.workspace.snapshot, ⟨rfl, rfl⟩, ?_⟩
    have step : s.workspace.step c t.work =
        s.workspace.finish (.rebuilt (some (.busy s.workspace.snapshot))) := by
      rw [work]
      obtain rfl | rfl := asked
      all_goals simp [Workspace.step, Workspace.openCall, Workspace.beginRebuild, busy,
        Workspace.grant]
    have act : s.act c index = s.place index t (s.workspace.step c t.work) := by
      simp only [Session.act, task, live, work, Bool.false_eq_true, if_false]
    rw [act, step]
    rfl
  turnedAwayWithin busy route wish := by
    refine ⟨.busy s.workspace.snapshot, ⟨rfl, rfl⟩, ?_⟩
    simp only [Workspace.beginRebuild, busy, if_true]
  failed index t route wish scan f task live work failed := by
    refine ⟨_, scan.failure s.workspace.snapshot f, freed_release, rfl, ?_⟩
    simp only [Session.act, task, live, work, Bool.false_eq_true, if_false, Workspace.step,
      Workspace.scanStep, failed]
  calledOff index t route wish scan task cancelled work := by
    refine ⟨_, freed_release, ?_⟩
    simp only [Session.act, task, cancelled, work, if_true, Workspace.unwind]

-- A rebuild is under way, a change arrives, and another rebuild has been asked for.
theorem exactRebuilds_asked_twice :
    let c := Config.ofPace ⟨4, true⟩
    let store : MemoryStore := {}
    let es := [.call 0 .refresh, .act 0, .notify "a.gorch", .call 1 .rebuild]
    let s := (ofStore store).after c es
    let h := (ofStore store).history c es
    Run c (fun _ => True) s h ∧ s.workspace.schedule.busy = true ∧
      h = [.noted "a.gorch", .begun .scheduled] ∧ ExactRebuilds c s h := by
  intro c store es s h
  have run : Run c (fun _ => True) s h := run_of_events store (by simp)
  exact ⟨run, by decide, by decide, run.exactRebuilds⟩

end Session

end FlowIndex
