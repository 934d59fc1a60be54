import FlowIndex.Proofs.Index.Fold
import FlowIndex.Proofs.Session.Exclusion
import FlowIndex.Session.Run

namespace FlowIndex

namespace Workspace

section Steps

variable {σ : Type} {c : Config} {w w' : Workspace σ} {work : Work} {route : Route} {wish : Wish}
  {scan : Scan}

theorem store_of_silent (h : w.silent = w'.silent) : w.store = w'.store := by
  have := congrArg store h
  exact this

theorem leave_store : (w.leave c route).store = w.store := by
  cases route <;> rfl

variable [DocumentStore σ]

theorem granted_store : (w.granted c wish).store = w.store := by
  unfold granted
  split
  · exact startWatcher_noted.store
  · rfl

theorem Move.store {t : Task} {p : Phase} (move : w.Move c t p w') : w'.store = w.store := by
  cases move
  case pass => exact granted_store
  case begin => rfl
  case scan => rfl
  case drop => exact granted_store.trans leave_store
  case swap => rfl
  case swapAndLeave => exact granted_store.trans leave_store
  case tell => rfl
  case leave => exact granted_store.trans leave_store

-- A step that keeps a call out of rebuilds, or in the telling of one, does not come to a scan.
theorem ne_scanning_of_phase {p : Progress} (h : p.phase.isScanning = false) :
    p ≠ .waits (.scanning route wish scan) := by
  rintro rfl
  cases h

theorem beginRebuild_scanning {route' : Route} {wish' : Wish}
    (h : (w.beginRebuild c route' wish').2 = .waits (.scanning route wish scan)) : scan = {} := by
  unfold beginRebuild at h
  split at h
  · refine absurd h <| ne_scanning_of_phase ?_
    rw [grant_granted.2]
    rfl
  · cases h
    rfl

theorem compareBefore_scanning {wish' : Wish} {stale left : List Struct}
    (h : (w.compareBefore c wish' stale left).2 = .waits (.scanning route wish scan)) :
    scan = {} := by
  cases left
  case cons => cases h
  case nil =>
    simp only [compareBefore] at h
    split at h
    · refine absurd h <| ne_scanning_of_phase ?_
      rw [grant_granted.2]
      rfl
    · exact beginRebuild_scanning h

theorem start_scanning {wish' : Wish}
    (h : (w.start c wish').2 = .waits (.scanning route wish scan)) : scan = {} := by
  unfold start at h
  split at h
  · exact beginRebuild_scanning h
  · exact compareBefore_scanning h

theorem announce_ne_scanning {route' : Route} {wish' : Wish} {result : RebuildResult}
    {s : Snapshot} {ls : List Listener} :
    (w.announce c route' wish' result s ls).2 ≠ .waits (.scanning route wish scan) := by
  refine ne_scanning_of_phase ?_
  obtain ⟨phase, _⟩ | ⟨phase, _⟩ := w.announce_cases (c := c) route' wish' result s ls
  all_goals rw [phase]; rfl

-- A call scans after a step only if it begins to, or takes a step of its scan.
theorem step_scanning (h : (w.step c work).2 = .waits (.scanning route wish scan)) :
    scan = {} ∨ ∃ before, work = .scanning route wish before ∧
      before.step c.extractor w.store = .ok scan := by
  have ne_of_calm (calm : work.operates = false) (outside : work.phase = .outside) :
      (w.step c work).2 ≠ .waits (.scanning route wish scan) :=
    ne_scanning_of_phase (by rw [(step_plain calm outside).outside]; rfl)
  cases work
  case queued call =>
    refine .inl ?_
    cases call
    case rebuild => exact beginRebuild_scanning h
    case refresh => exact beginRebuild_scanning h
    case start => exact start_scanning h
    case watchCommand => exact start_scanning h
    all_goals exact absurd h <| ne_of_calm rfl rfl
  case comparing why s rest stale =>
    refine .inl ?_
    cases why
    case question => exact absurd h <| ne_of_calm rfl rfl
    case start =>
      simp only [step] at h
      split at h
      · cases h
      · exact compareBefore_scanning h
  case scanning route' wish' before =>
    simp only [step, scanStep] at h
    split at h
    · refine absurd h <| ne_scanning_of_phase ?_
      rw [grant_granted.2]
      rfl
    case h_2 next hs =>
      split at h
      · exact absurd h announce_ne_scanning
      · cases h
        exact .inr ⟨before, rfl, hs⟩
  case notifying =>
    simp only [step, notifyStep] at h
    split at h
    · cases h
    · exact absurd h announce_ne_scanning
  all_goals exact absurd h <| ne_of_calm rfl rfl

end Steps

section Alone

variable {σ : Type} [DocumentStore σ] {c : Config} {route : Route} {result : RebuildResult}

-- Listeners see a rebuild through: the telling of them waits for the next store call, or ends with
-- the result, and leaves the store and the snapshot alone.
structure Tells (c : Config) (route : Route) (result : RebuildResult) (w : Workspace σ)
    (st : Step σ) : Prop where
  store : st.1.store = w.store
  snapshot : st.1.snapshot = w.snapshot
  ends : st.2 = .ends (.rebuilt (some result)) ∨
    ∃ s notice later, st.2 = .waits (.notifying route .result result s notice later)

theorem announce_tells (w : Workspace σ) (s : Snapshot) (ls : List Listener) :
    Tells c route result w (w.announce c route .result result s ls) := by
  induction ls generalizing w
  case nil => exact ⟨leave_store, leave_snapshot, .inl rfl⟩
  case cons l later hi =>
    have silent := w.tell_silent s l
    unfold announce
    split
    case h_1 w₁ notice ht =>
      rw [ht] at silent
      exact ⟨store_of_silent silent, snapshot_of_silent silent, .inr ⟨_, _, _, rfl⟩⟩
    case h_2 w₁ ht =>
      rw [ht] at silent
      have tells := hi w₁
      exact ⟨tells.store.trans <| store_of_silent silent,
        tells.snapshot.trans <| snapshot_of_silent silent, tells.ends⟩

theorem notifyStep_tells (w : Workspace σ) (s : Snapshot) (notice : Notice)
    (later : List Listener) :
    Tells c route result w (w.notifyStep c route .result result s notice later) := by
  have silent := w.noticeStep_silent s notice
  unfold notifyStep
  split
  case h_1 w₁ notice hn =>
    rw [hn] at silent
    exact ⟨store_of_silent silent, snapshot_of_silent silent, .inr ⟨_, _, _, rfl⟩⟩
  case h_2 w₁ hn =>
    rw [hn] at silent
    have tells : Tells c route result w₁ _ := w₁.announce_tells s later
    exact ⟨tells.store.trans <| store_of_silent silent,
      tells.snapshot.trans <| snapshot_of_silent silent, tells.ends⟩

-- Lets a call go on as far as it can after a step.
def proceed (c : Config) : Step σ → Step σ
  | (w, .waits work) => w.run c true work
  | (w, .ends o) => (w, .ends o)
  | (w, .stays) => (w, .stays)

theorem run_eq_proceed {w : Workspace σ} {work : Work} (ready : work.isBlocked true = false) :
    w.run c true work = proceed c (w.step c work) := by
  rw [run, if_neg (by simp [ready])]
  split <;> rename_i step <;> rw [step] <;> rfl

theorem run_waits {w w' : Workspace σ} {work next : Work} (ready : work.isBlocked true = false)
    (h : w.step c work = (w', .waits next)) : w.run c true work = w'.run c true next := by
  rw [run_eq_proceed ready, h, proceed]

theorem run_ends {w w' : Workspace σ} {work : Work} {o : Outcome}
    (ready : work.isBlocked true = false) (h : w.step c work = (w', .ends o)) :
    w.run c true work = (w', .ends o) := by
  rw [run_eq_proceed ready, h, proceed]

theorem run_notifying (w : Workspace σ) (s : Snapshot) (notice : Notice) (later : List Listener) :
    ∃ w', w.run c true (.notifying route .result result s notice later) =
      (w', .ends (.rebuilt (some result))) ∧ w'.store = w.store ∧ w'.snapshot = w.snapshot := by
  generalize hw : Work.notifying route .result result s notice later = work
  fun_induction run c true w work generalizing s notice later
  case case1 blocked =>
    subst hw
    cases blocked
  case case2 w work _ w' next hs hi =>
    subst hw
    have tells : Tells c route result w (w', .waits next) := hs ▸ w.notifyStep_tells s notice later
    obtain ends | ⟨s', notice', later', waits⟩ := tells.ends
    · cases ends
    · cases waits
      obtain ⟨w'', run, store, snapshot⟩ := hi s' notice' later' rfl
      exact ⟨w'', run, store.trans tells.store, snapshot.trans tells.snapshot⟩
  case case3 w work _ w' o hs =>
    subst hw
    have tells : Tells c route result w (w', .ends o) := hs ▸ w.notifyStep_tells s notice later
    obtain ends | ⟨_, _, _, waits⟩ := tells.ends
    · cases ends
      exact ⟨w', rfl, tells.store, tells.snapshot⟩
    · cases waits
  case case4 w work _ w' hs =>
    subst hw
    have tells : Tells c route result w (w', .stays) := hs ▸ w.notifyStep_tells s notice later
    obtain ends | ⟨_, _, _, waits⟩ := tells.ends
    · cases ends
    · cases waits

end Alone

section Memory

variable {c : Config} {m : MemoryStore} {w w' : Workspace MemoryStore} {route : Route} {wish : Wish}
  {scan next : Scan} {flows hosts : List String}

theorem scanStep_more (step : scan.step c.extractor w.store = .ok next)
    (more : next.stage ≠ .done) :
    w.step c (.scanning route wish scan) = (w, .waits (.scanning route wish next)) := by
  simp only [Workspace.step, scanStep, step, if_neg more, await]

theorem scanStep_done (step : scan.step c.extractor w.store = .ok next)
    (done : next.stage = .done) :
    w.step c (.scanning route wish scan) = (w.swapped next).announce c route wish
      (next.result w.snapshot) (next.snapshot w.snapshot) w.listeners := by
  simp only [Workspace.step, scanStep, step, if_pos done]
  rfl

-- What a scan of the store of a workspace leads to.
def fold (c : Config) (w : Workspace MemoryStore) (flows hosts : List String) : Scan :=
  w.store.contents.fold c.extractor w.store.time flows hosts

-- A scan on track leads to the fold, with nobody else at work.
theorem run_scanning {scan : Scan} (ready : w.store.Ready flows hosts)
    (track : scan.OnTrack w.store.contents c.extractor w.store.time flows hosts) :
    ∃ w', w.run c true (.scanning route .result scan) =
        (w', .ends (.rebuilt (some ((w.fold c flows hosts).result w.snapshot)))) ∧
      w'.store = w.store ∧ w'.snapshot = (w.fold c flows hosts).snapshot w.snapshot := by
  obtain ⟨next, step, track'⟩ := track.step ready
  by_cases done : next.stage = .done
  case neg =>
    have lower : next.stage.rank < scan.stage.rank := scan_rank step done
    rw [run_waits rfl (scanStep_more step done)]
    exact run_scanning ready track'
  case pos =>
    have same : next = w.fold c flows hosts := track'.eq_fold done
    have tells : Tells c route (next.result w.snapshot) (w.swapped next)
        (w.step c (.scanning route .result scan)) := by
      rw [scanStep_done step done]
      exact announce_tells _ (next.snapshot w.snapshot) w.listeners
    obtain ⟨store, snapshot, ends⟩ := tells
    rw [← same]
    obtain ends | ⟨s, notice, later, waits⟩ := ends
    · exact ⟨_, run_ends rfl (Prod.ext rfl ends), store, snapshot⟩
    · rw [run_waits rfl (Prod.ext rfl waits)]
      obtain ⟨w', run, store', snapshot'⟩ :=
        run_notifying (c := c) (w.step c (.scanning route .result scan)).1 s notice later
      exact ⟨w', run, store'.trans store, snapshot'.trans snapshot⟩
termination_by scan.stage.rank
decreasing_by exact lower

theorem run_rebuild {call : Call} (asked : call = .rebuild ∨ call = .refresh)
    (idle : w.schedule.busy = false) (ready : w.store.Ready flows hosts) :
    ∃ w', w.run c true (.queued call) =
        (w', .ends (.rebuilt (some ((w.fold c flows hosts).result w.snapshot)))) ∧
      w'.store = w.store ∧ w'.snapshot = (w.fold c flows hosts).snapshot w.snapshot := by
  have begins : ∃ route, w.step c (.queued call) =
      (w.modifySchedule (.begin route), .waits (.scanning route .result {})) := by
    obtain rfl | rfl := asked
    · exact ⟨.direct, by simp only [Workspace.step, openCall, beginRebuild, idle]; rfl⟩
    · exact ⟨.scheduled, by simp only [Workspace.step, openCall, beginRebuild, idle]; rfl⟩
  obtain ⟨route, begins⟩ := begins
  have waiting : (Work.queued call).isBlocked true = false := rfl
  rw [run_waits waiting begins]
  exact run_scanning ready .start

end Memory

end Workspace

namespace Session

section Scans

variable {σ : Type} [DocumentStore σ] {c : Config} {s : Session σ} {e : Event σ} {route : Route}
  {wish : Wish} {scan : Scan}

-- The calls do not change the store.
theorem store_apply (e : Event σ) :
    (s.apply c e).workspace.store = e.changed s.workspace.store := by
  obtain ⟨index, rfl⟩ | he := act_or_ne e
  case inl =>
    show (s.act c index).workspace.store = s.workspace.store
    cases ht : s.taken c index
    case none => rw [act_eq_self ht]
    case some taken =>
      have acts := acts_of_taken ht
      obtain ⟨w', move, silent⟩ := acts.moves
      rw [acts.workspace, Workspace.store_of_silent silent, move.store]
  case inr => exact (frame_apply he).2

theorem scanning_apply {t : Task} (mem : t ∈ (s.apply c e).tasks)
    (work : t.work = .scanning route wish scan) :
    scan = {} ∨ ∃ t' ∈ s.tasks, ∃ before, t'.work = .scanning route wish before ∧
      (before = scan ∨ before.step c.extractor s.workspace.store = .ok scan) := by
  cases present_apply mem
  case old listed => exact .inr ⟨t, listed, scan, work, .inl rfl⟩
  case calledOff t' listed _ => exact .inr ⟨t', listed, scan, work, .inl rfl⟩
  case started new =>
    have outside := phase_of_mem_started new
    rw [work] at outside
    cases outside
  case stepped t' _ _ _ listed _ step =>
    cases work
    refine (Workspace.step_scanning <| congrArg Prod.snd step).imp_right ?_
    rintro ⟨before, hw, taken⟩
    exact ⟨t', listed, before, hw, .inr taken⟩

end Scans

variable {c : Config} {s : Session MemoryStore} {m : MemoryStore} {flows hosts : List String}

-- The invariant of sessions over a store that nobody changes.
structure OnTrack (c : Config) (m : MemoryStore) (flows hosts : List String)
    (s : Session MemoryStore) : Prop where
  store : s.workspace.store = m
  scans : ∀ t ∈ s.tasks, ∀ route wish scan, t.work = .scanning route wish scan →
    scan.OnTrack m.contents c.extractor m.time flows hosts

namespace OnTrack

theorem apply (ready : m.Ready flows hosts) {e : Event MemoryStore} (keeps : e.changed m = m)
    (track : s.OnTrack c m flows hosts) : (s.apply c e).OnTrack c m flows hosts := by
  refine ⟨?store, fun t mem route wish scan work => ?scans⟩
  case store => rw [store_apply, track.store, keeps]
  case scans =>
    obtain rfl | ⟨t', old, before, hw, rfl | step⟩ := scanning_apply mem work
    case inl => exact .start
    case inr.inl => exact track.scans t' old route wish before hw
    case inr.inr =>
      obtain ⟨scan', step', on⟩ := (track.scans t' old route wish before hw).step ready
      rw [track.store] at step
      cases step.symm.trans step'
      exact on

theorem after (ready : m.Ready flows hosts) {events : List (Event MemoryStore)}
    (keeps : ∀ e ∈ events, e.changed m = m) (track : s.OnTrack c m flows hosts) :
    (s.after c events).OnTrack c m flows hosts := by
  induction events generalizing s
  case nil => exact track
  case cons e events hi =>
    refine hi (fun e' mem => keeps e' <| List.mem_cons_of_mem _ mem) ?_
    exact track.apply ready <| keeps e List.mem_cons_self

end OnTrack

end Session

open MemoryStore

-- What is true of rebuilds over a store that came about by some edits. The contents that they see
-- are those that the edits make, in whatever order.
structure RebuildsAsFold (c : Config) (es : List Edit) (flows hosts : List String) : Prop where
  flowsListed : (Contents.ofEdits es).Lists .flow flows
  hostsListed : (Contents.ofEdits es).Lists .host hosts
  -- With nobody else at work, a rebuild succeeds.
  alone : ∀ (w : Workspace MemoryStore) (call : Call), w.store = ofEdits es →
    w.schedule.busy = false → call = .rebuild ∨ call = .refresh →
    ∃ w' r, w.run c true (.queued call) = (w', .ends (.rebuilt (some r))) ∧
      w'.store = ofEdits es ∧ (Contents.ofEdits es).Rebuilt c.extractor (ofEdits es).time
        flows hosts w.snapshot w'.snapshot r
  -- Events that leave the store as it is may come between any two steps of a rebuild. Its scan goes
  -- on, or its snapshot is put into place and announced with its result; it never fails.
  amid : ∀ (s : Session MemoryStore) (events : List (Event MemoryStore)),
    s.workspace.store = ofEdits es → (∀ t ∈ s.tasks, t.work.phase.isScanning = false) →
    (∀ e ∈ events, e.changed (ofEdits es) = ofEdits es) →
    ∀ index t route wish scan, (s.after c events).tasks[index]? = some t → t.cancelled = false →
    t.work = .scanning route wish scan →
    let s' := s.after c events
    (∃ next, s'.act c index =
        s'.place index t (s'.workspace, .waits (.scanning route wish next))) ∨
      ∃ next r, let w := s'.workspace.swapped next
        s'.act c index = s'.place index t
          (w.announce c route wish r w.snapshot s'.workspace.listeners) ∧
        (Contents.ofEdits es).Rebuilt c.extractor (ofEdits es).time flows hosts
          s'.workspace.snapshot w.snapshot r
  -- Other stores with the same contents give the same result, from whatever snapshot and schedule.
  independent : ∀ (es' : List Edit) (c' : Config) (w w' v v' : Workspace MemoryStore)
    (call call' : Call) (r r' : RebuildResult), Contents.ofEdits es' = Contents.ofEdits es →
    c'.extractor = c.extractor → w.store = ofEdits es → w'.store = ofEdits es' →
    w.schedule.busy = false → w'.schedule.busy = false →
    call = .rebuild ∨ call = .refresh → call' = .rebuild ∨ call' = .refresh →
    w.run c true (.queued call) = (v, .ends (.rebuilt (some r))) →
    w'.run c' true (.queued call') = (v', .ends (.rebuilt (some r'))) →
    Contents.Alike v.snapshot v'.snapshot r r'

-- A rebuild with nobody else at work, in terms of edits.
theorem Workspace.run_rebuild_ofEdits {c : Config} {es : List Edit} {flows hosts : List String}
    {w : Workspace MemoryStore} {call : Call} (ready : (ofEdits es).Ready flows hosts)
    (store : w.store = ofEdits es) (idle : w.schedule.busy = false)
    (asked : call = .rebuild ∨ call = .refresh) :
    ∃ w' r, w.run c true (.queued call) = (w', .ends (.rebuilt (some r))) ∧
      w'.store = ofEdits es ∧ (Contents.ofEdits es).Rebuilt c.extractor (ofEdits es).time
        flows hosts w.snapshot w'.snapshot r := by
  rw [← store] at ready
  obtain ⟨w', run, store', snapshot⟩ := run_rebuild (c := c) asked idle ready
  refine ⟨w', _, run, store'.trans store, ?_⟩
  rw [snapshot, ← contents_ofEdits, ← store]
  exact Contents.rebuilt_fold w.snapshot

theorem Session.act_rebuild_ofEdits {c : Config} {es : List Edit} {flows hosts : List String}
    {s : Session MemoryStore} {events : List (Event MemoryStore)} {index : Nat} {t : Task}
    {route : Route} {wish : Wish} {scan : Scan} (ready : (ofEdits es).Ready flows hosts)
    (store : s.workspace.store = ofEdits es)
    (idle : ∀ t ∈ s.tasks, t.work.phase.isScanning = false)
    (keeps : ∀ e ∈ events, e.changed (ofEdits es) = ofEdits es)
    (task : (s.after c events).tasks[index]? = some t) (live : t.cancelled = false)
    (work : t.work = .scanning route wish scan) :
    let s' := s.after c events
    (∃ next, s'.act c index =
        s'.place index t (s'.workspace, .waits (.scanning route wish next))) ∨
      ∃ next r, let w := s'.workspace.swapped next
        s'.act c index = s'.place index t
          (w.announce c route wish r w.snapshot s'.workspace.listeners) ∧
        (Contents.ofEdits es).Rebuilt c.extractor (ofEdits es).time flows hosts
          s'.workspace.snapshot w.snapshot r := by
  intro s'
  have start : s.OnTrack c (ofEdits es) flows hosts := by
    refine ⟨store, fun t mem route wish scan work => ?_⟩
    have quiet := idle t mem
    rw [work] at quiet
    cases quiet
  have track : s'.OnTrack c (ofEdits es) flows hosts := start.after ready keeps
  have mem : t ∈ s'.tasks := List.mem_of_getElem? task
  obtain ⟨next, step, on⟩ := (track.scans t mem route wish scan work).step ready
  rw [← track.store] at step
  have act : s'.act c index = s'.place index t (s'.workspace.step c t.work) := by
    simp only [Session.act, s', task, live, work, Bool.false_eq_true, if_false]
  rw [act, work]
  by_cases done : next.stage = .done
  case neg => exact .inl ⟨next, by rw [Workspace.scanStep_more step done]⟩
  case pos =>
    refine .inr ⟨next, next.result s'.workspace.snapshot, ?_, ?_⟩
    · rw [Workspace.scanStep_done step done]
      rfl
    · rw [on.eq_fold done, ← contents_ofEdits]
      exact Contents.rebuilt_fold s'.workspace.snapshot

-- What is true after any rebuild over a store that came about by some edits, as long as nobody edits
-- the store again.
structure AfterRebuilds (c : Config) (es : List Edit) (P : Workspace MemoryStore → Prop) : Prop where
  -- After a rebuild with nobody else at work.
  alone : ∀ (w : Workspace MemoryStore) (call : Call), w.store = ofEdits es →
    w.schedule.busy = false → call = .rebuild ∨ call = .refresh →
    ∃ w' r, w.run c true (.queued call) = (w', .ends (.rebuilt (some r))) ∧
      ∀ v : Workspace MemoryStore, v.store = ofEdits es → v.snapshot = w'.snapshot → P v
  -- After a rebuild of any kind amid events that leave the store as it is: its scan goes on, or its
  -- snapshot is put into place.
  amid : ∀ (s : Session MemoryStore) (events : List (Event MemoryStore)),
    s.workspace.store = ofEdits es → (∀ t ∈ s.tasks, t.work.phase.isScanning = false) →
    (∀ e ∈ events, e.changed (ofEdits es) = ofEdits es) →
    ∀ index t route wish scan, (s.after c events).tasks[index]? = some t → t.cancelled = false →
    t.work = .scanning route wish scan →
    let s' := s.after c events
    (∃ next, s'.act c index =
        s'.place index t (s'.workspace, .waits (.scanning route wish next))) ∨
      ∃ next r, let w := s'.workspace.swapped next
        s'.act c index = s'.place index t
          (w.announce c route wish r w.snapshot s'.workspace.listeners) ∧
        ∀ v : Workspace MemoryStore, v.store = ofEdits es → v.snapshot = w.snapshot → P v

theorem afterRebuilds {c : Config} {es : List Edit} {flows hosts : List String}
    {P : Workspace MemoryStore → Prop} (ready : (ofEdits es).Ready flows hosts)
    (holds : ∀ (v : Workspace MemoryStore) (before : Snapshot) (r : RebuildResult),
      v.store = ofEdits es → (ofEdits es).contents.Rebuilt c.extractor (ofEdits es).time flows hosts
        before v.snapshot r → P v) : AfterRebuilds c es P := by
  rw [contents_ofEdits] at holds
  refine ⟨?alone, ?amid⟩
  case alone =>
    intro w call store idle asked
    obtain ⟨w', r, run, _, rebuilt⟩ := w.run_rebuild_ofEdits (c := c) ready store idle asked
    refine ⟨w', r, run, fun v same snapshot => holds v w.snapshot r same ?_⟩
    rwa [snapshot]
  case amid =>
    intro s events store idle keeps index t route wish scan task live work s'
    obtain more | ⟨next, r, act, rebuilt⟩ :=
      s.act_rebuild_ofEdits ready store idle keeps task live work
    case inl => exact .inl more
    case inr =>
      refine .inr ⟨next, r, act, fun v same snapshot => holds v s'.workspace.snapshot r same ?_⟩
      rwa [snapshot]

theorem AfterRebuilds.imp {c : Config} {es : List Edit} {P Q : Workspace MemoryStore → Prop}
    (after : AfterRebuilds c es P) (imp : ∀ v, v.store = ofEdits es → P v → Q v) :
    AfterRebuilds c es Q where
  alone w call store idle asked := by
    obtain ⟨w', r, run, holds⟩ := after.alone w call store idle asked
    exact ⟨w', r, run, fun v same snapshot => imp v same <| holds v same snapshot⟩
  amid s events store idle keeps index t route wish scan task live work := by
    obtain more | ⟨next, r, act, holds⟩ :=
      after.amid s events store idle keeps index t route wish scan task live work
    case inl => exact .inl more
    case inr => exact .inr ⟨next, r, act, fun v same snapshot => imp v same <| holds v same snapshot⟩

theorem rebuildsAsFold {c : Config} {es : List Edit} (reported : (Contents.ofEdits es).Reported) :
    ∃ flows hosts, RebuildsAsFold c es flows hosts := by
  obtain ⟨flows, hosts, ready⟩ := ready_ofEdits reported
  have lists := ready.flows
  have lists' := ready.hosts
  rw [contents_ofEdits] at lists lists'
  refine ⟨flows, hosts, lists, lists', ?alone, ?amid, ?independent⟩
  case alone =>
    exact fun w call store idle asked => w.run_rebuild_ofEdits ready store idle asked
  case amid =>
    exact fun s events store idle keeps index t route wish scan task live work =>
      s.act_rebuild_ofEdits ready store idle keeps task live work
  case independent =>
    intro es' c' w w' v v' call call' r r' contents extractor store store' idle idle' asked asked'
      run run'
    have reported' : (Contents.ofEdits es').Reported := by rwa [contents]
    obtain ⟨flows', hosts', ready'⟩ := ready_ofEdits reported'
    have sameFlows : flows' = flows := by
      have := ready'.flows
      rw [contents_ofEdits, contents] at this
      exact this.unique lists
    have sameHosts : hosts' = hosts := by
      have := ready'.hosts
      rw [contents_ofEdits, contents] at this
      exact this.unique lists'
    subst sameFlows sameHosts
    obtain ⟨u, q, hu, _, rebuilt⟩ := w.run_rebuild_ofEdits (c := c) ready store idle asked
    obtain ⟨u', q', hu', _, rebuilt'⟩ := w'.run_rebuild_ofEdits (c := c') ready' store' idle' asked'
    cases hu.symm.trans run
    cases hu'.symm.trans run'
    rw [contents, extractor] at rebuilt'
    exact rebuilt.alike rebuilt'

-- A document is unreadable, another one is not, and the Go documents cannot be listed.
theorem rebuildsAsFold_with_failures :
    let c := Config.ofPace ⟨4, false⟩
    let es : List Edit := [.put "b.gorch" "", .put "a.gorch" "", .setUnreadable "a.gorch" true,
      .setListing .host (some (.system "disk on fire"))]
    (Contents.ofEdits es).Reported ∧ ∃ flows hosts, RebuildsAsFold c es flows hosts := by
  intro c es
  have reported : (Contents.ofEdits es).Reported := by
    intro kind fault h
    cases kind
    case flow => cases h
    case host => cases h; rfl
  exact ⟨reported, rebuildsAsFold reported⟩

end FlowIndex
