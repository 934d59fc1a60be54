import FlowIndex.Proofs.Session.Exclusion

namespace FlowIndex

-- Whether a rebuild scans at the end of a history. The latest mark comes first.
def Scanning : List Mark → Prop
  | [] => False
  | .begun _ :: _ => True
  | .released :: _ => False
  | _ :: h => Scanning h

-- No rebuild began to scan since the latest change of a document was noted.
def Unseen (uri : String) : List Mark → Prop
  | [] => False
  | .begun _ :: _ => False
  | .noted uri' :: h => uri' = uri ∨ Unseen uri h
  | _ :: h => Unseen uri h

-- After the latest change of a document was noted during a scan, another rebuild was left during
-- the same scan.
def Overtaken (uri : String) : List Mark → Prop
  | [] => False
  | .begun _ :: _ => False
  | .noted uri' :: h => uri' ≠ uri ∧ Overtaken uri h
  | .left :: h => Overtaken uri h ∨ Scanning h ∧ Unseen uri h
  | _ :: h => Overtaken uri h

-- Histories are finite, so that all of this can be computed.
instance decidableScanning : (h : List Mark) → Decidable (Scanning h)
  | [] => inferInstanceAs (Decidable False)
  | .begun _ :: _ => inferInstanceAs (Decidable True)
  | .released :: _ => inferInstanceAs (Decidable False)
  | .noted _ :: h | .swapped :: h | .left :: h | .disarmed :: h | .forgotten :: h | .passed _ :: h =>
    decidableScanning h

instance decidableUnseen (uri : String) : (h : List Mark) → Decidable (Unseen uri h)
  | [] => inferInstanceAs (Decidable False)
  | .begun _ :: _ => inferInstanceAs (Decidable False)
  | .noted uri' :: h =>
    let _ := decidableUnseen uri h
    inferInstanceAs (Decidable (uri' = uri ∨ Unseen uri h))
  | .swapped :: h | .released :: h | .left :: h | .disarmed :: h | .forgotten :: h | .passed _ :: h =>
    decidableUnseen uri h

instance decidableOvertaken (uri : String) : (h : List Mark) → Decidable (Overtaken uri h)
  | [] => inferInstanceAs (Decidable False)
  | .begun _ :: _ => inferInstanceAs (Decidable False)
  | .noted uri' :: h =>
    let _ := decidableOvertaken uri h
    inferInstanceAs (Decidable (uri' ≠ uri ∧ Overtaken uri h))
  | .left :: h =>
    let _ := decidableOvertaken uri h
    inferInstanceAs (Decidable (Overtaken uri h ∨ Scanning h ∧ Unseen uri h))
  | .swapped :: h | .released :: h | .disarmed :: h | .forgotten :: h | .passed _ :: h =>
    decidableOvertaken uri h

-- What a schedule holds of the changes in its history, if those that arrive during a rebuild cause
-- another one. `prompted` says whether the timer has a rebuild waiting to begin.
structure Schedule.Accounts (prompted : Prop) (h : List Mark) (q : Schedule) : Prop where
  scanning : Scanning h ↔ q.busy = true
  kept : ∀ uri, Unseen uri h → ¬Overtaken uri h → uri ∈ q.arrived ∨
    q.busy = false ∧ uri ∈ q.pending ∧ (q.timer.isSome = true ∨ prompted)
  lost : ∀ uri, Overtaken uri h → uri ∉ q.arrived ∧ (q.busy = false → uri ∉ q.pending)

theorem Schedule.reschedule_arrived {pace : Pace} {q : Schedule} :
    (q.reschedule pace).arrived = [] := by
  unfold reschedule
  split <;> rfl

namespace Schedule.Accounts

variable {pace : Pace} {q : Schedule} {h : List Mark} {prompted prompted' : Prop}

theorem mono (a : q.Accounts prompted h) (hp : q.busy = false → prompted → prompted') :
    q.Accounts prompted' h where
  scanning := a.scanning
  kept uri unseen current :=
    a.kept uri unseen current |>.imp_right fun ⟨idle, pending, timer⟩ =>
      ⟨idle, pending, timer.imp_right (hp idle)⟩
  lost := a.lost

theorem begin : (q.begin .scheduled).Accounts prompted (.begun .scheduled :: h) where
  scanning := by simp [Scanning, Schedule.begin]
  kept := by simp [Unseen]
  lost := by simp [Overtaken]

theorem swapped (a : q.Accounts prompted h) : q.Accounts prompted (.swapped :: h) :=
  ⟨a.scanning, a.kept, a.lost⟩

theorem passed {time : Nat} (a : q.Accounts prompted h) :
    Accounts prompted (.passed time :: h) { q with now := q.now + time } :=
  ⟨a.scanning, a.kept, a.lost⟩

theorem release (a : q.Accounts prompted h) (busy : q.busy = true) :
    q.release.Accounts prompted (.released :: h) where
  scanning := by simp [Scanning, Schedule.release]
  kept uri unseen current := by
    obtain arrived | ⟨idle, _⟩ := a.kept uri unseen current
    · exact .inl arrived
    · simp [busy] at idle
  lost uri overtaken := ⟨(a.lost uri overtaken).1, fun _ => by simp [Schedule.release]⟩

-- Changes that arrived are taken up when a rebuild is left; if another one scans, it is going to
-- clear them away.
theorem reschedule (a : q.Accounts prompted h) (trailing : pace.trailing = true) :
    (q.reschedule pace).Accounts prompted (.left :: h) := by
  have busy : (q.reschedule pace).busy = q.busy := reschedule_busy
  have pending {uri : String} :
      uri ∈ (q.reschedule pace).pending ↔ uri ∈ q.arrived ∨ uri ∈ q.pending := by
    cases harr : q.arrived <;>
      simp [Schedule.reschedule, trailing, harr, Schedule.arm, NameSet.mem_union]
  have timer : q.timer.isSome = true ∨ q.arrived ≠ [] → (q.reschedule pace).timer.isSome = true := by
    cases harr : q.arrived <;> simp [Schedule.reschedule, trailing, harr, Schedule.arm]
  refine ⟨?scanning, ?kept, ?lost⟩
  case scanning => rw [busy]; exact a.scanning
  case kept =>
    intro uri unseen current
    simp only [Overtaken, not_or, not_and] at current
    have idle : q.busy = false := by
      rw [← Bool.not_eq_true, ← a.scanning]
      exact fun scanning => current.2 scanning unseen
    rw [busy, pending]
    refine .inr ⟨idle, ?_⟩
    obtain harr | ⟨_, hpen, ht⟩ := a.kept uri unseen current.1
    · exact ⟨.inl harr, .inl <| timer <| .inr <| List.ne_nil_of_mem harr⟩
    · exact ⟨.inr hpen, ht.imp_left fun ht => timer <| .inl ht⟩
  case lost =>
    intro uri overtaken
    rw [busy, reschedule_arrived, pending]
    refine ⟨List.not_mem_nil, fun idle => ?_⟩
    have current : ¬Scanning h := by rw [a.scanning, idle]; simp
    obtain overtaken | ⟨scanning, _⟩ := overtaken
    · obtain ⟨harr, hpen⟩ := a.lost uri overtaken
      exact fun h => h.elim harr (hpen idle)
    · exact absurd scanning current

theorem notify {uri : String} (a : q.Accounts prompted h) :
    (q.notify pace uri).Accounts prompted (.noted uri :: h) := by
  have busy : (q.notify pace uri).busy = q.busy := rfl
  have timer : (q.notify pace uri).timer.isSome = true := rfl
  have pending {uri' : String} :
      uri' ∈ (q.notify pace uri).pending ↔ uri' = uri ∨ uri' ∈ q.pending := NameSet.mem_insert
  have arrived {uri' : String} : uri' ∈ (q.notify pace uri).arrived ↔
      (q.busy = true ∧ uri' = uri) ∨ uri' ∈ q.arrived := by
    cases hb : q.busy <;> simp [Schedule.notify, Schedule.arm, hb, NameSet.mem_insert]
  refine ⟨a.scanning, ?kept, ?lost⟩
  case kept =>
    intro uri' unseen current
    rw [arrived, busy, pending]
    by_cases same : uri' = uri
    case pos =>
      cases q.busy
      case true => exact .inl <| .inl ⟨rfl, same⟩
      case false => exact .inr ⟨rfl, .inl same, .inl timer⟩
    case neg =>
      have unseen : Unseen uri' h := unseen.resolve_left fun e => same e.symm
      have current : ¬Overtaken uri' h := fun o => current ⟨fun e => same e.symm, o⟩
      obtain harr | ⟨idle, hpen, _⟩ := a.kept uri' unseen current
      · exact .inl <| .inr harr
      · exact .inr ⟨idle, .inr hpen, .inl timer⟩
  case lost =>
    rintro uri' ⟨other, overtaken⟩
    obtain ⟨harr, hpen⟩ := a.lost uri' overtaken
    rw [arrived, busy, pending]
    have other : uri' ≠ uri := fun e => other e.symm
    exact ⟨by simp [other, harr], fun idle => by simp [other, hpen idle]⟩

theorem notifyAll {uris : List String} (a : q.Accounts prompted h) :
    ((uris.map Mark.noted).foldl (play pace) q).Accounts prompted
      ((uris.map Mark.noted).reverse ++ h) := by
  induction uris generalizing q h
  case nil => exact a
  case cons uri uris hi =>
    simp only [List.map_cons, List.foldl_cons, List.reverse_cons, List.append_assoc]
    exact hi a.notify

-- The timer goes off for nothing during a rebuild and without pending changes, and causes a rebuild
-- otherwise.
theorem disarm (a : q.Accounts prompted h)
    (prompts : q.busy = false → q.pending ≠ [] → prompted') :
    q.disarm.Accounts prompted' (.disarmed :: h) where
  scanning := a.scanning
  kept uri unseen current := by
    obtain arrived | ⟨idle, pending, _⟩ := a.kept uri unseen current
    · exact .inl arrived
    · exact .inr ⟨idle, pending, .inr <| prompts idle <| List.ne_nil_of_mem pending⟩
  lost := a.lost

end Schedule.Accounts

-- Changes arrive only during a scan.
theorem Schedule.arrived_of_noted {pace : Pace} {q : Schedule} (uris : List String)
    (h : ((uris.map Mark.noted).foldl (play pace) q).arrived ≠ []) :
    q.busy = true ∨ q.arrived ≠ [] := by
  induction uris generalizing q
  case nil => exact .inr h
  case cons uri uris hi =>
    have noted : (q.notify pace uri).busy = true ∨ (q.notify pace uri).arrived ≠ [] := hi h
    cases hb : q.busy
    case true => exact .inl rfl
    case false => simpa [Schedule.notify, Schedule.arm, hb] using noted

-- Whether an event may happen if changes are to be kept: it neither forgets pending ones nor calls
-- off rebuilds, and starts none that goes past the schedule.
def Event.KeepsToSchedule {σ : Type} : Event σ → Prop
  | .forget | .cancel | .stop | .call _ .rebuild => False
  | _ => True

-- A call that was not called off, and whose rebuild goes by the schedule.
structure Task.Regular (t : Task) : Prop where
  live : t.cancelled = false
  started : t.work ≠ .queued .rebuild
  scans : t.work.phase ≠ .scanning .direct
  tells : t.work.phase ≠ .telling .direct

namespace Workspace

variable {σ : Type} [DocumentStore σ] {c : Config} {w : Workspace σ}

-- A step cannot come to a rebuild that goes past the schedule.
theorem Move.route {w' : Workspace σ} {t : Task} {p : Phase} (regular : t.Regular)
    (move : w.Move c t p w') : p ≠ .scanning .direct ∧ p ≠ .telling .direct := by
  have scans := regular.scans
  have tells := regular.tells
  cases move
  case begin outside idle direct =>
    refine ⟨?_, by simp⟩
    rintro ⟨⟩
    exact regular.started (direct rfl)
  case scan work _ _ _ => rw [work] at scans; exact ⟨scans, by simp⟩
  case swap work _ _ _ =>
    rw [work] at scans
    refine ⟨by simp, ?_⟩
    rintro ⟨⟩
    exact scans rfl
  case tell telling => rw [telling] at tells; exact ⟨by simp, tells⟩
  all_goals exact ⟨by simp, by simp⟩

-- No step takes a call back to where it has not begun.
theorem next_ne_queued {work work' : Work} {call : Call}
    (next : (w.step c work).2 = .waits work') : work' ≠ .queued call := by
  rintro rfl
  have below : (w.step c work).2.Below work.rank := step_below
  rw [next] at below
  have below : Work.rank (.queued call) < work.rank := below
  rw [Rank.lt_iff] at below
  cases work with
  | comparing why => cases why <;> simp [Work.rank] at below
  | scanning route wish scan =>
    cases hs : scan.stage <;> simp [Work.rank, ScanStage.rank, hs] at below
  | _ => simp [Work.rank] at below

theorem busy_of_refused {w : Workspace σ}
    (outside : (w.step c (.queued .refresh)).2.phase = .outside) : w.schedule.busy = true := by
  by_cases busy : w.schedule.busy = true
  case pos => exact busy
  case neg =>
    simp only [Workspace.step, Workspace.openCall, Workspace.beginRebuild, if_neg busy] at outside
    cases outside

variable {w' : Workspace σ} {t : Task} {p : Phase} {h : List Mark} {prompted prompted' : Prop}

-- The marks of the phases of a move are accounted for. A call that goes from outside of rebuilds
-- into one may be the one that waited for the timer's rebuild.
theorem Move.accounts (move : w.Move c t p w') (regular : t.Regular)
    (trailing : c.pace.trailing = true) (a : w.schedule.Accounts prompted h)
    (held : t.work.phase.isScanning = true → w.schedule.busy = true)
    (waits : t.work.phase ≠ .outside ∨ p = .outside → w.schedule.busy = false → prompted →
      prompted') :
    ((t.work.phase.marks p).foldl (Schedule.play c.pace) w.schedule).Accounts prompted'
      ((t.work.phase.marks p).reverse ++ h) := by
  have scans := regular.scans
  have tells := regular.tells
  cases move with
  | pass _ _ outside =>
    rw [outside]
    exact a.mono <| waits <| .inr rfl
  | @begin _ route outside _ direct =>
    rw [outside]
    cases route
    case direct => exact absurd (direct rfl) regular.started
    case scheduled => exact .begin
  | scan work =>
    rw [work] at waits ⊢
    exact a.mono <| waits <| .inl nofun
  | @drop route _ _ work =>
    rw [work] at held scans waits ⊢
    cases route
    case direct => exact absurd rfl scans
    case scheduled => exact a.mono (waits <| .inl nofun) |>.release (held rfl) |>.reschedule trailing
  | swap work =>
    rw [work] at held waits ⊢
    exact a.mono (waits <| .inl nofun) |>.release (held rfl)
  | @swapAndLeave route _ _ _ work =>
    rw [work] at held scans waits ⊢
    cases route
    case direct => exact absurd rfl scans
    case scheduled => exact a.mono (waits <| .inl nofun) |>.release (held rfl) |>.reschedule trailing
  | tell telling =>
    rw [telling] at waits ⊢
    exact a.mono <| waits <| .inl nofun
  | @leave route _ telling =>
    rw [telling] at tells waits ⊢
    cases route
    case direct => exact absurd rfl tells
    case scheduled => exact a.mono (waits <| .inl nofun) |>.reschedule trailing

-- Changes that are kept apart after a move are kept for a rebuild that scans or tells, unless the
-- move had nothing to do with rebuilds.
theorem Move.taker (move : w.Move c t p w') (regular : t.Regular)
    (held : t.work.phase.isScanning = true → w.schedule.busy = true)
    (arrived : ((t.work.phase.marks p).foldl (Schedule.play c.pace) w.schedule).arrived ≠ []) :
    ((t.work.phase.marks p).foldl (Schedule.play c.pace) w.schedule).busy = true ∨
      p = .telling .scheduled ∨
      t.work.phase = .outside ∧ p = .outside ∧ w.schedule.arrived ≠ [] := by
  have scans := regular.scans
  have tells := regular.tells
  have left {q : Schedule} : ¬(q.reschedule c.pace).arrived ≠ [] :=
    not_not_intro Schedule.reschedule_arrived
  cases move with
  | pass _ _ outside =>
    rw [outside] at arrived
    exact .inr <| .inr ⟨outside, rfl, arrived⟩
  | begin _ outside =>
    rw [outside]
    exact .inl rfl
  | scan work =>
    rw [work] at held ⊢
    exact .inl <| held rfl
  | @drop route _ _ work =>
    rw [work] at scans arrived
    cases route
    case direct => exact absurd rfl scans
    case scheduled => exact absurd arrived left
  | @swap route _ _ _ work =>
    rw [work] at scans
    cases route
    case direct => exact absurd rfl scans
    case scheduled => exact .inr <| .inl rfl
  | @swapAndLeave route _ _ _ work =>
    rw [work] at scans arrived
    cases route
    case direct => exact absurd rfl scans
    case scheduled => exact absurd arrived left
  | @tell route telling =>
    rw [telling] at tells
    cases route
    case direct => exact absurd rfl tells
    case scheduled => exact .inr <| .inl rfl
  | @leave route _ telling =>
    rw [telling] at tells arrived
    cases route
    case direct => exact absurd rfl tells
    case scheduled => exact absurd arrived left

end Workspace

namespace Session

variable {σ : Type} [DocumentStore σ] {c : Config} {s : Session σ} {h : List Mark}

-- A rebuild waits to begin.
def Prompted (s : Session σ) : Prop :=
  ∃ t ∈ s.tasks, t.work = .queued .refresh

-- No rebuild is under way, and none waits to begin.
def Quiet (s : Session σ) : Prop :=
  ∀ t ∈ s.tasks, t.work.phase = .outside ∧ t.work ≠ .queued .refresh

-- The invariant of sessions that keep to the schedule.
structure Trails (s : Session σ) (h : List Mark) : Prop where
  accounts : s.workspace.schedule.Accounts s.Prompted h
  -- Changes are kept apart for a rebuild that is going to take them up.
  taker : s.workspace.schedule.arrived ≠ [] → s.workspace.schedule.busy = true ∨
    ∃ t ∈ s.tasks, t.work.phase = .telling .scheduled
  regular : ∀ t ∈ s.tasks, t.Regular

omit [DocumentStore σ] in
theorem regular_of_mem_started {e : Event σ} (ok : e.KeepsToSchedule) {t : Task}
    (ht : t ∈ s.started e) : t.Regular := by
  have outside := phase_of_mem_started ht
  have regular (live : t.cancelled = false) (started : t.work ≠ .queued .rebuild) : t.Regular :=
    ⟨live, started, by simp [outside], by simp [outside]⟩
  obtain ⟨ticket, call, rfl, rfl⟩ | ⟨_, rfl⟩ := started_cases ht
  case inl =>
    refine regular rfl ?_
    rintro ⟨⟩
    exact ok
  case inr => exact regular rfl nofun

theorem Trails.accounts_apply {e : Event σ} (trails : s.Trails h) (ok : e.KeepsToSchedule)
    (he : ∀ index, e ≠ .act index) :
    (s.apply c e).workspace.schedule.Accounts (s.apply c e).Prompted
      ((s.marks c e).reverse ++ h) := by
  have tasks : (s.apply c e).tasks = s.tasks ++ s.started e :=
    s.tasks_apply_of_ne he (by rintro rfl; exact ok) (by rintro rfl; exact ok)
  have prompted : s.Prompted → (s.apply c e).Prompted := fun ⟨t, mem, work⟩ =>
    ⟨t, by rw [tasks]; exact List.mem_append_left _ mem, work⟩
  rw [schedule_apply]
  have a := trails.accounts.mono fun _ => prompted
  cases e
  case act index => exact absurd rfl (he index)
  case notify => exact a.notify
  case changes => exact a.notifyAll
  case files => exact a.notifyAll
  case tick => exact a.passed
  case fire =>
    simp only [marks]
    split
    case isTrue due =>
      refine trails.accounts.disarm fun idle pending => ?_
      refine ⟨{ origin := .timer, work := .queued .refresh }, ?_, rfl⟩
      rw [tasks]
      simp [started, due, idle, pending]
    case isFalse => exact a
  case forget => cases ok
  case cancel => cases ok
  case stop => cases ok
  all_goals exact a

-- Changes arrive only while the schedule is busy, or had arrived before.
theorem arrived_apply {e : Event σ} (he : ∀ index, e ≠ .act index)
    (arrived : (s.apply c e).workspace.schedule.arrived ≠ []) :
    s.workspace.schedule.busy = true ∨ s.workspace.schedule.arrived ≠ [] := by
  rw [schedule_apply] at arrived
  revert arrived
  cases e
  case act index => exact absurd rfl (he index)
  case notify uri => exact Schedule.arrived_of_noted [uri]
  case changes => exact Schedule.arrived_of_noted _
  case files => exact Schedule.arrived_of_noted _
  case fire =>
    simp only [marks]
    split <;> exact .inr
  all_goals exact .inr

theorem Trails.apply_of_ne_act {e : Event σ} (trails : s.Trails h) (ok : e.KeepsToSchedule)
    (he : ∀ index, e ≠ .act index) : (s.apply c e).Trails ((s.marks c e).reverse ++ h) := by
  have tasks : (s.apply c e).tasks = s.tasks ++ s.started e :=
    s.tasks_apply_of_ne he (by rintro rfl; exact ok) (by rintro rfl; exact ok)
  have busy : (s.apply c e).workspace.schedule.busy = s.workspace.schedule.busy := by
    rw [schedule_apply]
    exact Schedule.foldl_play_busy fun _ => calm_of_mem_marks he
  refine ⟨trails.accounts_apply ok he, fun harr => ?taker, ?regular⟩
  case taker =>
    rw [busy, tasks]
    obtain hb | harr := arrived_apply he harr
    · exact .inl hb
    · obtain hb | ⟨t, mem, telling⟩ := trails.taker harr
      · exact .inl hb
      · exact .inr ⟨t, List.mem_append_left _ mem, telling⟩
  case regular =>
    intro t mem
    rw [tasks] at mem
    exact List.mem_append.mp mem |>.elim (trails.regular t) (regular_of_mem_started ok)

theorem Acts.regular {index : Nat} {t t' : Task} {st : Step σ} (acts : Acts c s index t st)
    (regular : ∀ t ∈ s.tasks, t.Regular) (mem : t' ∈ (s.act c index).tasks) : t'.Regular := by
  have rt := regular t (List.mem_of_getElem? acts.task)
  obtain ⟨w', move, _⟩ := acts.moves
  obtain mem | ⟨work, next, rfl⟩ := acts.tasks_cases mem
  · exact regular t' mem
  · have ⟨scans, tells⟩ := move.route rt
    rw [next] at scans tells
    rw [acts.step rt.live] at next
    exact ⟨rt.live, Workspace.next_ne_queued next, scans, tells⟩

-- A rebuild that waits to begin still waits after the step of another call, and it does not give up
-- its turn as long as no other rebuild is under way.
theorem Acts.prompted {index : Nat} {t : Task} {st : Step σ} (acts : Acts c s index t st)
    (live : t.cancelled = false) (stays : t.work.phase ≠ .outside ∨ st.2.phase = .outside)
    (idle : s.workspace.schedule.busy = false) (prompted : s.Prompted) :
    (s.act c index).Prompted := by
  obtain ⟨t', mem, work⟩ := prompted
  have other : t' ≠ t := by
    rintro rfl
    have outside : st.2.phase = .outside := stays.resolve_left <| not_not_intro (by rw [work]; rfl)
    rw [acts.step live, work] at outside
    have busy := Workspace.busy_of_refused outside
    simp [idle] at busy
  exact ⟨t', acts.mem_tasks mem other, work⟩

section Step

variable {index : Nat} {t : Task} {st : Step σ}

-- What a step does to the schedule: first its own marks, then the changes that it notes.
theorem schedule_act (ht : s.taken c index = some (t, st)) :
    (s.act c index).workspace.schedule =
      ((s.workspace.notes c st.1).map Mark.noted).foldl (Schedule.play c.pace)
        ((t.work.phase.marks st.2.phase).foldl (Schedule.play c.pace) s.workspace.schedule) := by
  have unswapped : (if s.swaps c index then [Mark.swapped] else []).foldl
      (Schedule.play c.pace) s.workspace.schedule = s.workspace.schedule := by
    split <;> rfl
  refine s.schedule_apply (c := c) (.act index) |>.trans ?_
  simp only [marks, stepMarks, ht, List.foldl_append, unswapped]

theorem accounts_swaps (c : Config) (s : Session σ) (index : Nat) {prompted : Prop} {q : Schedule}
    (a : q.Accounts prompted h) :
    q.Accounts prompted ((if s.swaps c index then [Mark.swapped] else []).reverse ++ h) := by
  split
  · exact a.swapped
  · exact a

theorem Trails.accounts_act (trails : s.Trails h) (e : s.Exclusive)
    (trailing : c.pace.trailing = true) (ht : s.taken c index = some (t, st)) :
    (s.act c index).workspace.schedule.Accounts (s.act c index).Prompted
      ((s.marks c (.act index)).reverse ++ h) := by
  have acts := acts_of_taken ht
  have mem : t ∈ s.tasks := List.mem_of_getElem? acts.task
  have regular := trails.regular t mem
  have held (scans : t.work.phase.isScanning = true) := e.busy_iff.mpr ⟨t, mem, scans⟩
  obtain ⟨w', move, _⟩ := acts.moves
  have a := move.accounts regular trailing (accounts_swaps c s index trails.accounts) held <|
    acts.prompted regular.live
  rw [schedule_act ht]
  simpa [marks, stepMarks, ht] using a.notifyAll

theorem Trails.taker_act (trails : s.Trails h) (e : s.Exclusive)
    (ht : s.taken c index = some (t, st))
    (arrived : (s.act c index).workspace.schedule.arrived ≠ []) :
    (s.act c index).workspace.schedule.busy = true ∨
      ∃ t ∈ (s.act c index).tasks, t.work.phase = .telling .scheduled := by
  have acts := acts_of_taken ht
  have mem : t ∈ s.tasks := List.mem_of_getElem? acts.task
  have held (scans : t.work.phase.isScanning = true) := e.busy_iff.mpr ⟨t, mem, scans⟩
  obtain ⟨w', move, _⟩ := acts.moves
  rw [schedule_act ht] at arrived ⊢
  rw [Schedule.foldl_play_busy fun _ => calm_of_mem_noted]
  obtain busy | arrived := Schedule.arrived_of_noted _ arrived
  · exact .inl busy
  obtain busy | telling | ⟨outside, still, arrived⟩ :=
    move.taker (trails.regular t mem) held arrived
  · exact .inl busy
  · obtain ⟨work, next, telling⟩ : ∃ work, st.2 = .waits work ∧ work.phase = .telling .scheduled := by
      cases hp : st.2
      case waits work => rw [hp] at telling; exact ⟨work, rfl, telling⟩
      all_goals rw [hp] at telling; cases telling
    exact .inr ⟨_, acts.mem_next next, telling⟩
  · obtain busy | ⟨t', mem', telling⟩ := trails.taker arrived
    · refine .inl ?_
      simp only [outside, still]
      exact busy
    · refine .inr ⟨t', acts.mem_tasks mem' ?_, telling⟩
      rintro rfl
      simp [outside] at telling

end Step

theorem Trails.act {index : Nat} (trails : s.Trails h) (e : s.Exclusive)
    (trailing : c.pace.trailing = true) :
    (s.act c index).Trails ((s.marks c (.act index)).reverse ++ h) := by
  cases ht : s.taken c index
  case none =>
    rw [act_eq_self ht]
    refine ⟨?_, trails.taker, trails.regular⟩
    simpa [marks, stepMarks, ht] using accounts_swaps c s index trails.accounts
  case some taken =>
    obtain ⟨t, st⟩ := taken
    exact ⟨trails.accounts_act e trailing ht, trails.taker_act e ht,
      fun t' => acts_of_taken ht |>.regular trails.regular⟩

theorem Run.trails (trailing : c.pace.trailing = true) (run : Run c Event.KeepsToSchedule s h) :
    s.Trails h := by
  induction run
  case start =>
    refine ⟨⟨by simp [Scanning, ofStore], ?_, ?_⟩, ?_, ?_⟩
    · exact fun _ unseen => unseen.elim
    · exact fun _ overtaken => overtaken.elim
    · exact fun arrived => absurd rfl arrived
    · exact fun _ mem => absurd mem List.not_mem_nil
  case event s h run e ok hi =>
    obtain ⟨index, rfl⟩ | he := act_or_ne e
    case inl => exact hi.act run.exclusive trailing
    case inr => exact hi.apply_of_ne_act ok he

-- What becomes of an unseen change once no rebuild is under way or waits to begin: it is pending,
-- and the timer is armed, unless it was overtaken.
theorem Run.unseen_pending_iff {uri : String} (trailing : c.pace.trailing = true)
    (run : Run c Event.KeepsToSchedule s h) (quiet : s.Quiet) (unseen : Unseen uri h) :
    uri ∈ s.workspace.schedule.pending ∧ s.workspace.schedule.timer.isSome = true ↔
      ¬Overtaken uri h := by
  have trails := run.trails trailing
  have idle : s.workspace.schedule.busy = false := by
    refine Bool.eq_false_iff.mpr fun busy => ?_
    obtain ⟨t, mem, scans⟩ := run.exclusive.busy_iff.mp busy
    rw [(quiet t mem).1] at scans
    cases scans
  constructor
  case mp =>
    rintro ⟨pending, _⟩ overtaken
    exact (trails.accounts.lost uri overtaken).2 idle pending
  case mpr =>
    intro current
    obtain arrived | ⟨_, pending, timer | ⟨t, mem, work⟩⟩ := trails.accounts.kept uri unseen current
    · obtain busy | ⟨t, mem, telling⟩ := trails.taker <| List.ne_nil_of_mem arrived
      · simp [idle] at busy
      · rw [(quiet t mem).1] at telling
        cases telling
    · exact ⟨pending, timer⟩
    · exact absurd work (quiet t mem).2

-- A change arrives during a rebuild, which then causes another one.
theorem unseen_pending_during_rebuild :
    let c := Config.ofPace ⟨4, true⟩
    let store : MemoryStore := {}
    let es := [.call 0 .refresh, .act 0, .notify "a.gorch", .act 0, .act 0]
    let s := (ofStore store).after c es
    let h := (ofStore store).history c es
    h = [.left, .released, .swapped, .noted "a.gorch", .begun .scheduled] ∧
      Run c Event.KeepsToSchedule s h ∧ s.Quiet ∧ Unseen "a.gorch" h ∧
      "a.gorch" ∈ s.workspace.schedule.pending ∧ s.workspace.schedule.timer.isSome = true := by
  intro c store es s h
  have run : Run c Event.KeepsToSchedule s h := run_of_events store <| by
    simp [es, Event.KeepsToSchedule]
  have facts : s.tasks = [] ∧ h = [.left, .released, .swapped, .noted "a.gorch", .begun .scheduled] ∧
      Unseen "a.gorch" h ∧ ¬Overtaken "a.gorch" h := by decide +kernel
  -- Only these facts matter, and not how the history is computed.
  clear_value s h
  have ⟨tasks, marks, unseen, current⟩ := facts
  have quiet : s.Quiet := fun t mem => by simp [tasks] at mem
  exact ⟨marks, run, quiet, unseen, (run.unseen_pending_iff rfl quiet unseen).mpr current⟩

-- A rebuild is told about the first document while another one scans, to which the second document
-- is added in the meantime. The first rebuild takes up that change when it is left, and the end of
-- the scan clears it away: the second document is neither indexed nor pending, and no rebuild is
-- going to come.
theorem unseen_lost_when_overtaken :
    let c := Config.ofPace ⟨4, true⟩
    let store : MemoryStore := {}
    let first : List (Event MemoryStore) := [.openDocument "a.gorch" none, .call 0 .refresh,
      .act 0, .act 0, .act 0]
    let second : List (Event MemoryStore) := [.store (·.put "a.gorch" ""), .call 1 .refresh,
      .act 1, .act 1, .store (·.put "b.gorch" ""), .notify "b.gorch", .act 0, .act 0, .act 0, .act 0]
    let s := (ofStore store).after c (first ++ second)
    let h := (ofStore store).history c (first ++ second)
    c.pace.trailing = true ∧ Run c Event.KeepsToSchedule s h ∧ s.Quiet ∧ Unseen "b.gorch" h ∧
      "b.gorch" ∉ s.workspace.schedule.pending := by
  intro c store first second s h
  have run : Run c Event.KeepsToSchedule s h := run_of_events store <| by
    simp [first, second, Event.KeepsToSchedule]
  have tasks : s.tasks = [] := by decide +kernel
  have quiet : s.Quiet := fun t mem => by simp [tasks] at mem
  have pending : s.workspace.schedule.pending = [] := by decide +kernel
  exact ⟨rfl, run, quiet, by decide +kernel, by rw [pending]; exact List.not_mem_nil⟩

end Session

end FlowIndex
