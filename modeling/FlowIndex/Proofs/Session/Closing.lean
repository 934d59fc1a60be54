import FlowIndex.Proofs.Session.Issues

namespace FlowIndex

namespace Session

variable {σ : Type} [DocumentStore σ] {c : Config} {s s' : Session σ} {uri : String}

-- Whether an event opens a document, or is a step in which a call checks one by request.
def exposes (c : Config) (s : Session σ) (uri : String) : Event σ → Bool
  | .openDocument u _ => u = uri
  | .act index => (s.taken c index).any fun (t, st) =>
    !t.cancelled && t.work.checks || st.2.checked
  | _ => false

-- The states that a session can come to after a document was closed in it, by events that do not
-- expose the document.
inductive Since (c : Config) (uri : String) (s : Session σ) : Session σ → Prop
  | closed : Since c uri s (s.apply c (.closeDocument uri))
  | event {s' : Session σ} (since : Since c uri s s') (e : Event σ)
    (ok : s'.exposes c uri e = false) : Since c uri s (s'.apply c e)

-- A document that is not open and of which nothing is published, nor is going to be by a listener
-- at work.
structure Rests (uri : String) (s : Session σ) : Prop where
  hides : s.workspace.Hides uri
  away : ∀ t ∈ s.tasks, t.cancelled = false → uri ∉ t.work.ahead

omit [DocumentStore σ] in
theorem ahead_of_mem_started {e : Event σ} {t : Task} (mem : t ∈ s.started e) :
    t.work.ahead = [] := by
  obtain ⟨_, _, _, rfl⟩ | ⟨_, rfl⟩ := started_cases mem
  all_goals rfl

theorem away_apply {e : Event σ} (he : ∀ index, e ≠ .act index)
    (away : ∀ t ∈ s.tasks, t.cancelled = false → uri ∉ t.work.ahead) :
    ∀ t ∈ (s.apply c e).tasks, t.cancelled = false → uri ∉ t.work.ahead := by
  intro t mem live
  cases present_apply mem
  case old listed => exact away t listed live
  case calledOff => cases live
  case started new => simp [ahead_of_mem_started new]
  case stepped act _ _ _ => exact absurd act (he _)

theorem hides_apply {e : Event σ} (he : ∀ index, e ≠ .act index) (ok : s.exposes c uri e = false)
    (hides : s.workspace.Hides uri) : (s.apply c e).workspace.Hides uri := by
  cases e
  case act index => exact absurd rfl (he index)
  case changes => exact Workspace.noteChanges_publishes.hides List.not_mem_nil hides
  case files => exact Workspace.handBatch_publishes.hides List.not_mem_nil hides
  case openDocument => exact hides.openDocument <| of_decide_eq_false ok
  case closeDocument => exact hides.closeDocument
  case stop =>
    simp only [apply, stop, Workspace.stopWatcher, modifyWorkspace]
    split <;> exact ⟨hides.absent, hides.hidden⟩
  case fire =>
    simp only [apply, fire]
    split
    · split <;> exact ⟨hides.absent, hides.hidden⟩
    · exact hides
  all_goals exact ⟨hides.absent, hides.hidden⟩

theorem Rests.act {index : Nat} (rests : s.Rests uri) (ok : s.exposes c uri (.act index) = false) :
    (s.act c index).Rests uri := by
  cases h : s.taken c index
  case none => rw [act_eq_self h]; exact rests
  case some taken =>
    obtain ⟨t, st⟩ := taken
    have acts := acts_of_taken h
    have mem := List.mem_of_getElem? acts.task
    have step : st.1.Hides uri ∧ (t.cancelled = false → uri ∉ st.2.ahead) := by
      cases live : t.cancelled
      case true =>
        have left : (s.workspace.unwind c t.work, Progress.stays) = st := by
          simpa [taken, acts.task, live] using h
        rw [← left]
        exact ⟨Workspace.unwind_publishes.hides List.not_mem_nil rests.hides, by simp⟩
      case false =>
        obtain ⟨unchecked, unchecked'⟩ : t.work.checks = false ∧ st.2.checked = false := by
          simpa [exposes, h, live] using ok
        rw [acts.step live] at unchecked' ⊢
        have := Workspace.step_hides rests.hides unchecked unchecked' (rests.away t mem live)
        exact ⟨this.1, fun _ => this.2⟩
    refine ⟨acts.workspace ▸ step.1, fun t' mem' live => ?_⟩
    obtain old | ⟨work, next, rfl⟩ := acts.tasks_cases mem'
    · exact rests.away t' old live
    · have := step.2 live
      rwa [next] at this

theorem Since.rests (since : Since c uri s s')
    (away : ∀ t ∈ s.tasks, t.cancelled = false → uri ∉ t.work.ahead) : s'.Rests uri := by
  induction since
  case closed => exact ⟨s.workspace.hides_closeDocument uri, away⟩
  case event s' since e ok hi =>
    obtain ⟨index, rfl⟩ | he := act_or_ne e
    case inl => exact hi.act ok
    case inr => exact ⟨hides_apply he ok hi.hides, away_apply he hi.away⟩

-- A listener that can read its way to the document, with nobody else doing anything, publishes its
-- problems.
theorem Since.comes {index : Nat} {t : Task} {route : Route} {wish : Wish} {result : RebuildResult}
    {snapshot : Snapshot} {later : List Listener} {u : String} {rest : List (String × Option String)}
    (since : Since c uri s s') (task : s'.tasks[index]? = some t) (live : t.cancelled = false)
    (work : t.work = .notifying route wish result snapshot (.recheck u rest) later)
    (plain : wish.asks = false)
    (reach : reaches s'.workspace.store snapshot uri ((u, none) :: rest) = true) :
    ∃ s'', Since c uri s s'' ∧ (NameMap.get? uri s''.workspace.sink).isSome = true := by
  have goesOn (s' : Session σ) (_ : List Issue) (since : Since c uri s s')
      (ok : s'.requests c (.act index) = false) : Since c uri s (s'.apply c (.act index)) :=
    since.event _ ok
  obtain ⟨s'', _, since, shown, _⟩ := listener_comes [] goesOn since task live work plain reach
  exact ⟨s'', since, shown⟩

-- What was published for a document is gone when it is closed, and stays gone until the document is
-- opened or something is checked by request, if no listener at work had it still ahead. One that
-- had, and that can read its way there, publishes problems of the closed document.
theorem unpublished_since_close (c : Config) (s : Session σ) (uri : String) :
    ((∀ t ∈ s.tasks, t.cancelled = false → uri ∉ t.work.ahead) →
        ∀ s', Since c uri s s' → NameMap.get? uri s'.workspace.sink = none) ∧
      ∀ t ∈ s.tasks, t.cancelled = false → t.work.reaches s.workspace.store uri = true →
        ∃ s', Since c uri s s' ∧ (NameMap.get? uri s'.workspace.sink).isSome = true := by
  constructor
  case left => exact fun away s' since => (since.rests away).hides.hidden
  case right =>
    intro t mem live reach
    obtain ⟨index, task⟩ := List.mem_iff_getElem?.mp mem
    have since : Since c uri s (s.apply c (.closeDocument uri)) := .closed
    cases work : t.work
    case notifying route wish result snapshot notice later =>
      rw [work] at reach
      cases notice
      case sweep => cases reach
      case recheck u rest =>
        simp only [Work.reaches, Bool.and_eq_true, Bool.not_eq_true'] at reach
        exact since.comes task live work reach.1 reach.2
    -- No other call has documents ahead.
    all_goals rw [work] at reach; cases reach

-- A round has come past the first document, and waits to read the second one.
theorem unpublished_since_close_midway :
    let c := Config.ofPace ⟨4, true⟩
    let store := (({} : MemoryStore).put "a.gorch" "").put "b.gorch" ""
    let es : List (Event MemoryStore) := [.openDocument "a.gorch" none,
      .openDocument "b.gorch" none, .call 0 .refresh, .act 0, .act 0, .act 0, .act 0, .act 0,
      .act 0]
    let s := (ofStore store).after c es
    NameMap.get? "a.gorch" s.workspace.sink = some [] ∧
      (∀ s', Since c "a.gorch" s s' → NameMap.get? "a.gorch" s'.workspace.sink = none) ∧
      ∃ s', Since c "b.gorch" s s' ∧ (NameMap.get? "b.gorch" s'.workspace.sink).isSome = true := by
  intro c store es s
  have facts : NameMap.get? "a.gorch" s.workspace.sink = some [] ∧
      (∀ t ∈ s.tasks, t.cancelled = false → "a.gorch" ∉ t.work.ahead) ∧
      ∃ t ∈ s.tasks, t.cancelled = false ∧ t.work.reaches s.workspace.store "b.gorch" = true := by
    decide +kernel
  -- Only these facts matter, and not how the state is computed.
  clear_value s
  obtain ⟨published, away, t, mem, live, reach⟩ := facts
  exact ⟨published, (unpublished_since_close c s "a.gorch").1 away,
    (unpublished_since_close c s "b.gorch").2 t mem live reach⟩

-- The listener waits to read a document that is closed in the meantime.
theorem published_after_close :
    let c := Config.ofPace ⟨4, true⟩
    let store : MemoryStore := {}
    let es : List (Event MemoryStore) := [.openDocument "a.gorch" none, .call 0 .refresh, .act 0,
      .act 0, .act 0, .store (·.put "a.gorch" "")]
    let s := (ofStore store).after c es
    let s' := (s.apply c (.closeDocument "a.gorch")).apply c (.act 0)
    Since c "a.gorch" s s' ∧ s'.tasks.length = 0 ∧ s'.workspace.opened = [] ∧
      s'.workspace.sink = [("a.gorch", [])] := by
  intro c store es s s'
  have ok : (s.apply c (.closeDocument "a.gorch")).exposes c "a.gorch" (.act 0) = false := by
    decide +kernel
  have since : Since c "a.gorch" s s' := .event .closed (.act 0) ok
  exact ⟨since, by decide +kernel⟩

end Session

end FlowIndex
