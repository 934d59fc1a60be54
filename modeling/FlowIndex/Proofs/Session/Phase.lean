import FlowIndex.Session.Event

namespace FlowIndex

-- Where a call stands with respect to rebuilds.
inductive Phase
  | outside
  | scanning (route : Route)
  | telling (route : Route)
deriving DecidableEq, Repr

def Phase.isScanning : Phase → Bool
  | scanning _ => true
  | _ => false

def Work.phase : Work → Phase
  | .scanning route _ _ => .scanning route
  | .notifying route _ _ _ _ _ => .telling route
  | _ => .outside

def Progress.phase : Progress → Phase
  | .waits work => work.phase
  | _ => .outside

-- A rebuild that goes by the schedule forgets the changes that arrived before it, since it is
-- going to see them.
def Schedule.begin (route : Route) (q : Schedule) : Schedule :=
  { q with busy := true, arrived := if route = .scheduled then [] else q.arrived }

def Wish.watches : Wish → Bool
  | .watch | .watchForever => true
  | _ => false

-- Whether a call has yet to rebuild the index or to start a watcher, rebuilds under way apart.
def Work.operates : Work → Bool
  | .queued (.query _) | .queued .waitIdle => false
  | .queued _ | .comparing (.start _) _ _ _ => true
  | .scanning _ wish _ | .notifying _ wish _ _ _ _ => wish.watches
  | _ => false

namespace Workspace

variable {σ : Type} {w : Workspace σ} {c : Config}

-- A workspace without what it shows to the outside: the problems it published, the names it asked
-- the tool for, and what was heard and printed. Queries and listeners change nothing else.
def silent (w : Workspace σ) : Workspace σ :=
  { w with sink := [], asked := [], heard := [], console := [] }

-- The workspace in which a finished scan has put its snapshot into place.
def swapped (w : Workspace σ) (scan : Scan) : Workspace σ :=
  { w with snapshot := scan.snapshot w.snapshot }.modifySchedule .release

section Frame

theorem schedule_of_silent {w' : Workspace σ} (h : w.silent = w'.silent) :
    w.schedule = w'.schedule := by
  have := congrArg schedule h
  exact this

theorem snapshot_of_silent {w' : Workspace σ} (h : w.silent = w'.silent) :
    w.snapshot = w'.snapshot := by
  have := congrArg snapshot h
  exact this

theorem watchers_of_silent {w' : Workspace σ} (h : w.silent = w'.silent) :
    w.watchers = w'.watchers := by
  have := congrArg watchers h
  exact this

theorem publish_silent {s : Snapshot} {uri text : String} {ds : List Diagnostic} {w' : Workspace σ}
    (h : w.publish s uri text = .ok (w', ds)) : w'.silent = w.silent := by
  unfold publish at h
  cases hd : (diagnose s uri text).mapError checkFailure <;> rw [hd] at h
  case error => cases h
  case ok => cases h; rfl

theorem print_silent {markup : String} {w' : Workspace σ} (h : w.print markup = .ok w') :
    w'.silent = w.silent := by
  unfold print at h
  cases hl : (Markup.lines markup).mapError (fun e => Failure.unexpected e.message) <;> rw [hl] at h
  case error => cases h
  case ok => cases h; rfl

theorem askTool_silent {q : Resolution.Sought} : (w.askTool c q).1.silent = w.silent := by
  unfold askTool
  split
  · dsimp only
    split <;> rfl
  · rfl

theorem recheck_silent {s : Snapshot} {items : List (String × Option String)} :
    (w.recheck s items).1.silent = w.silent := by
  induction items generalizing w
  case nil => rfl
  case cons item rest hi =>
    obtain ⟨uri, text⟩ := item
    cases text
    case none => rfl
    case some text =>
      unfold recheck
      split
      · rw [hi, publish_silent ‹_›]
      · rfl

theorem tell_silent (s : Snapshot) (l : Listener) : (w.tell s l).1.silent = w.silent := by
  cases l
  case openDocuments => exact recheck_silent
  case observer => rfl
  case report =>
    simp only [tell]
    split
    · exact print_silent ‹_›
    · rfl

theorem printProblems_go_silent {path : String} {ds : List Diagnostic} :
    (printProblems.go path w ds).1.silent = w.silent := by
  induction ds generalizing w
  case nil => rfl
  case cons d ds hi =>
    unfold printProblems.go
    split
    · rw [hi, print_silent ‹_›]
    · rfl

variable [DocumentStore σ]

theorem printProblems_silent (uri : String) (ds : List Diagnostic) :
    (w.printProblems uri ds).1.silent = w.silent := by
  unfold printProblems
  split
  · rfl
  · exact printProblems_go_silent

theorem printAll_silent {all : List (String × List Diagnostic)} :
    (w.printAll all).1.silent = w.silent := by
  induction all generalizing w
  case nil => rfl
  case cons item rest hi =>
    have h := w.printProblems_silent item.1 item.2
    unfold printAll
    split <;> rename_i hp <;> rw [hp] at h
    · rw [hi, h]
    · exact h

theorem sweepStep_silent (sweep : Sweep) : (w.sweepStep sweep).1.silent = w.silent := by
  cases sweep
  case list =>
    simp only [sweepStep]
    split <;> rfl
  case read =>
    simp only [sweepStep]
    split
    · rfl
    · split
      · exact publish_silent ‹_›
      · rfl

theorem noticeStep_silent (s : Snapshot) (notice : Notice) :
    (w.noticeStep s notice).1.silent = w.silent := by
  cases notice
  case recheck uri rest =>
    simp only [noticeStep]
    split
    · split
      · rw [recheck_silent, publish_silent ‹_›]
      · rfl
    · exact recheck_silent
    · rfl
  case sweep sweep =>
    have h := w.sweepStep_silent sweep
    simp only [noticeStep]
    split <;> rename_i hs <;> rw [hs] at h
    · exact h
    · exact printAll_silent.trans h
    · exact h

end Frame

-- A step that keeps a call outside of rebuilds and leaves the index alone.
structure Plain (w : Workspace σ) (st : Step σ) : Prop where
  silent : st.1.silent = w.silent
  outside : st.2.phase = .outside

section Queries

theorem checkText_plain {uri text : String} : w.Plain (w.checkText uri text) := by
  unfold checkText
  split
  · exact ⟨publish_silent ‹_›, rfl⟩
  · exact ⟨rfl, rfl⟩

theorem resolve_plain {q : Resolution.Sought} : w.Plain (w.resolve c q) := by
  have h := w.askTool_silent (c := c) (q := q)
  unfold resolve
  split <;> rename_i ha <;> rw [ha] at h
  · exact ⟨h, rfl⟩
  · split
    · exact ⟨h, rfl⟩
    · split <;> exact ⟨h, rfl⟩

theorem define_plain {text : String} {p : Position} : w.Plain (w.define c text p) := by
  unfold define
  split
  · exact ⟨rfl, rfl⟩
  · exact resolve_plain

theorem hoverAt_plain {text : String} {p : Position} : w.Plain (w.hoverAt text p) := by
  unfold hoverAt
  repeat' split
  all_goals exact ⟨rfl, rfl⟩

theorem endSearch_plain {name : String} {found : Option Struct} {goal : SearchGoal} :
    w.Plain (w.endSearch name found goal) := by
  cases goal <;> exact ⟨rfl, rfl⟩

theorem search_plain {name : String} {goal : SearchGoal} {uris : List String} :
    w.Plain (w.search name goal uris) := by
  cases uris
  case nil => exact endSearch_plain
  case cons => exact ⟨rfl, rfl⟩

theorem compareFor_plain {q : StaleQuestion} {stale left : List Struct} :
    w.Plain (w.compareFor q stale left) := by
  cases left
  case nil => cases q <;> exact ⟨rfl, rfl⟩
  case cons => exact ⟨rfl, rfl⟩

theorem openQuery_plain {q : Query} : w.Plain (w.openQuery c q) := by
  unfold openQuery
  split
  all_goals first
    | exact ⟨rfl, rfl⟩
    | exact checkText_plain
    | exact define_plain
    | exact hoverAt_plain
    | exact resolve_plain
    | exact compareFor_plain

theorem useText_plain {d : SourceDocument} {why : Reading} : w.Plain (w.useText c d why) := by
  cases why
  case whole => exact ⟨rfl, rfl⟩
  case check => exact checkText_plain
  case definition => exact define_plain
  case hover => exact hoverAt_plain

variable [DocumentStore σ]

theorem searchStep_plain {name uri : String} {goal : SearchGoal} {rest : List String} :
    w.Plain (w.searchStep c name goal uri rest) := by
  unfold searchStep
  split
  · exact search_plain
  · exact endSearch_plain
  · split
    · exact endSearch_plain
    · exact endSearch_plain
    · exact search_plain

end Queries

section Watching

variable [DocumentStore σ]

-- The changes that are noted among some, in order: those of documents of a kind, up to a name that
-- is refused.
def notable (store : σ) : List String → List String
  | [] => []
  | uri :: uris =>
    match DocumentStore.kindOf store uri with
    | .ok none => notable store uris
    | .ok (some _) => uri :: notable store uris
    | .error _ => []

-- The changes that are noted when batches of paths are handed to the watchers that wait. A watcher
-- that broke takes no further batch, and with none left the other batches wait.
def handed (c : Config) (store : σ) : List Nat → List (List String) → List String
  | _, [] => []
  | [], _ :: _ => []
  | watcher :: others, paths :: batches =>
    match Watcher.documentsOf ⟨c.root, c.excluded⟩ c.cwd paths with
    | .ok uris => notable store uris ++ handed c store (others ++ [watcher]) batches
    | .error _ => handed c store others batches

-- The changes that a watcher notes when it is started.
def awaited (c : Config) (w : Workspace σ) : List String :=
  handed c w.store (w.waiting ++ [w.watchers]) w.batches

-- A workspace in which changes were noted, with all that this leaves alone.
structure Noted (pace : Pace) (uris : List String) (w w' : Workspace σ) : Prop where
  store : w'.store = w.store
  snapshot : w'.snapshot = w.snapshot
  watchers : w'.watchers = w.watchers
  schedule : w'.schedule = uris.foldl (fun q uri => q.notify pace uri) w.schedule

omit [DocumentStore σ] in
theorem Noted.refl {pace : Pace} : Noted pace [] w w :=
  ⟨rfl, rfl, rfl, rfl⟩

omit [DocumentStore σ] in
theorem Noted.trans {pace : Pace} {us vs : List String} {w₁ w₂ w₃ : Workspace σ}
    (h : Noted pace us w₁ w₂) (h' : Noted pace vs w₂ w₃) : Noted pace (us ++ vs) w₁ w₃ where
  store := h'.store.trans h.store
  snapshot := h'.snapshot.trans h.snapshot
  watchers := h'.watchers.trans h.watchers
  schedule := by rw [h'.schedule, h.schedule, List.foldl_append]

theorem noteChanges_noted (pace : Pace) (uris : List String) :
    Noted pace (notable w.store uris) w (w.noteChanges pace uris) := by
  induction uris generalizing w
  case nil => exact .refl
  case cons uri uris hi =>
    unfold noteChanges notable noteChange
    cases DocumentStore.kindOf w.store uri
    case error => exact .refl
    case ok kind =>
      cases kind
      case none => exact hi
      case some =>
        have noted : Noted pace [uri] w (w.modifySchedule (.notify pace uri)) := ⟨rfl, rfl, rfl, rfl⟩
        exact noted.trans (hi (w := w.modifySchedule (.notify pace uri)))

theorem handBatch_waiting (batches : List (List String)) (h : w.waiting = []) :
    Noted c.pace [] w (batches.foldl (handBatch c) w) := by
  induction batches generalizing w
  case nil => exact .refl
  case cons paths batches hi =>
    have hw : w.handBatch c paths = { w with batches := w.batches ++ [paths] } := by
      simp only [handBatch, h]
    have noted : Noted c.pace [] w (w.handBatch c paths) := by
      rw [hw]
      exact ⟨rfl, rfl, rfl, rfl⟩
    exact noted.trans <| hi (by rw [hw]; exact h)

theorem noteChanges_waiting {pace : Pace} {uris : List String} :
    (w.noteChanges pace uris).waiting = w.waiting := by
  induction uris generalizing w
  case nil => rfl
  case cons uri uris hi =>
    unfold noteChanges noteChange
    cases DocumentStore.kindOf w.store uri
    case error => rfl
    case ok kind => cases kind <;> exact hi

theorem handBatches_noted (batches : List (List String)) :
    Noted c.pace (handed c w.store w.waiting batches) w (batches.foldl (handBatch c) w) := by
  induction batches generalizing w
  case nil => simpa [handed] using Noted.refl
  case cons paths batches hi =>
    cases hw : w.waiting
    case nil => simpa [handed] using handBatch_waiting (paths :: batches) hw
    case cons watcher others =>
      rw [List.foldl_cons]
      cases hd : Watcher.documentsOf ⟨c.root, c.excluded⟩ c.cwd paths
      case error e =>
        have he : w.handBatch c paths =
            { w with waiting := others, broken := (watcher, e) :: w.broken } := by
          simp only [handBatch, hw, hd]
        have noted : Noted c.pace [] w (w.handBatch c paths) := by
          rw [he]
          exact ⟨rfl, rfl, rfl, rfl⟩
        have := noted.trans (hi (w := w.handBatch c paths))
        simpa only [handed, hd, he, List.nil_append] using this
      case ok uris =>
        let w₁ := { w with waiting := others ++ [watcher] }
        have he : w.handBatch c paths = w₁.noteChanges c.pace uris := by
          simp only [handBatch, hw, hd, w₁]
        have taken : Noted c.pace [] w w₁ := ⟨rfl, rfl, rfl, rfl⟩
        have noted := taken.trans (w₁.noteChanges_noted c.pace uris)
        have := noted.trans (hi (w := w₁.noteChanges c.pace uris))
        rw [noted.store, noteChanges_waiting] at this
        simpa only [handed, hd, he, List.nil_append] using this

theorem startWatcher_noted :
    Noted c.pace (w.awaited c) { w with watchers := w.watchers + 1 } (w.startWatcher c) := by
  let started := { w with
    watchers := w.watchers + 1
    watcher := some w.watchers
    waiting := w.waiting ++ [w.watchers]
    batches := [] }
  have h : Noted c.pace [] { w with watchers := w.watchers + 1 } started := ⟨rfl, rfl, rfl, rfl⟩
  exact h.trans (started.handBatches_noted w.batches)

end Watching

section Moves

variable [DocumentStore σ]

-- What a call does once the index is up to date, its queries apart.
def granted (c : Config) (w : Workspace σ) (wish : Wish) : Workspace σ :=
  if wish.watches then w.startWatcher c else w

-- What a step can do, up to what the workspace shows to the outside: the phase that the call comes
-- to, and the workspace then. A call that watches adds its listener before anything else.
inductive Move (c : Config) (w : Workspace σ) (t : Task) : Phase → Workspace σ → Prop
  | pass (listeners : List Listener) (wish : Wish) (outside : t.work.phase = .outside) :
    Move c w t .outside ({ w with listeners }.granted c wish)
  | begin (listeners : List Listener) {route : Route} (outside : t.work.phase = .outside)
      (idle : w.schedule.busy = false) (direct : route = .direct → t.work = .queued .rebuild) :
    Move c w t (.scanning route) ({ w with listeners }.modifySchedule (.begin route))
  | scan {route : Route} {wish : Wish} {scan next : Scan} (work : t.work = .scanning route wish scan)
      (live : t.cancelled = false) (step : scan.step c.extractor w.store = .ok next)
      (more : next.stage ≠ .done) :
    Move c w t (.scanning route) w
  -- A scan that fails or is called off is dropped, with the snapshot left as it was.
  | drop {route : Route} {wish : Wish} {scan : Scan} (work : t.work = .scanning route wish scan)
      (wish' : Wish) (ends : t.cancelled = true ∨ ∃ f, scan.step c.extractor w.store = .error f) :
    Move c w t .outside (((w.modifySchedule .release).leave c route).granted c wish')
  | swap {route : Route} {wish : Wish} {scan next : Scan} (work : t.work = .scanning route wish scan)
      (live : t.cancelled = false) (step : scan.step c.extractor w.store = .ok next)
      (done : next.stage = .done) :
    Move c w t (.telling route) (w.swapped next)
  -- The same, with listeners that have nothing to wait for.
  | swapAndLeave {route : Route} {wish : Wish} {scan next : Scan}
      (work : t.work = .scanning route wish scan) (wish' : Wish) (live : t.cancelled = false)
      (step : scan.step c.extractor w.store = .ok next) (done : next.stage = .done) :
    Move c w t .outside (((w.swapped next).leave c route).granted c wish')
  | tell {route : Route} (telling : t.work.phase = .telling route) : Move c w t (.telling route) w
  | leave {route : Route} (wish : Wish) (telling : t.work.phase = .telling route) :
    Move c w t .outside ((w.leave c route).granted c wish)

theorem noteChanges_silent {pace : Pace} {uris : List String} :
    (w.noteChanges pace uris).silent = w.silent.noteChanges pace uris := by
  induction uris generalizing w
  case nil => rfl
  case cons uri uris hi =>
    have hs : w.silent.store = w.store := rfl
    unfold noteChanges noteChange
    rw [hs]
    cases DocumentStore.kindOf w.store uri
    case error => rfl
    case ok kind => cases kind <;> exact hi

theorem handBatch_silent {paths : List String} :
    (w.handBatch c paths).silent = w.silent.handBatch c paths := by
  have hw : w.silent.waiting = w.waiting := rfl
  unfold handBatch
  rw [hw]
  split
  · rfl
  · split
    · exact noteChanges_silent
    · rfl

theorem granted_silent {wish : Wish} : (w.granted c wish).silent = w.silent.granted c wish := by
  have hand {batches : List (List String)} {w : Workspace σ} :
      (batches.foldl (handBatch c) w).silent = batches.foldl (handBatch c) w.silent := by
    induction batches generalizing w
    case nil => rfl
    case cons paths batches hi => rw [List.foldl_cons, hi, handBatch_silent, List.foldl_cons]
  unfold granted
  split
  · exact hand
  · rfl

theorem grant_granted {result : Option RebuildResult} {wish : Wish} :
    (w.grant c result wish).1.silent = (w.granted c wish).silent ∧
      (w.grant c result wish).2.phase = .outside := by
  cases wish
  case query q => exact ⟨openQuery_plain.silent, openQuery_plain.outside⟩
  all_goals exact ⟨rfl, rfl⟩

omit [DocumentStore σ] in
theorem leave_silent {route : Route} : (w.leave c route).silent = w.silent.leave c route := by
  cases route <;> rfl

theorem announce_cases (w : Workspace σ) (route : Route) (wish : Wish) (result : RebuildResult)
    (s : Snapshot) (ls : List Listener) :
    let st := w.announce c route wish result s ls
    st.2.phase = .telling route ∧ st.1.silent = w.silent ∨
      st.2.phase = .outside ∧ st.1.silent = ((w.leave c route).granted c wish).silent := by
  induction ls generalizing w
  case nil => exact .inr ⟨grant_granted.2, grant_granted.1⟩
  case cons l later hi =>
    have h := w.tell_silent s l
    unfold announce
    split
    case h_1 ht =>
      rw [ht] at h
      exact .inl ⟨rfl, h⟩
    case h_2 w₁ ht =>
      rw [ht] at h
      obtain ⟨hp, hs⟩ | ⟨hp, hs⟩ := hi w₁
      · exact .inl ⟨hp, hs.trans h⟩
      · refine .inr ⟨hp, ?_⟩
        rw [hs, granted_silent, leave_silent, h, ← leave_silent, ← granted_silent]

-- A step makes a move.
def Moves (c : Config) (w : Workspace σ) (t : Task) (st : Step σ) : Prop :=
  ∃ w', Move c w t st.2.phase w' ∧ st.1.silent = w'.silent

variable {t : Task}

theorem Moves.of {st : Step σ} {p : Phase} {w' : Workspace σ} (hp : st.2.phase = p)
    (h : Move c w t p w') (hs : st.1.silent = w'.silent) : Moves c w t st := by
  subst hp
  exact ⟨w', h, hs⟩

theorem Plain.moves {st : Step σ} (outside : t.work.phase = .outside) (h : w.Plain st) :
    Moves c w t st :=
  .of h.outside (.pass w.listeners .result outside) h.silent

theorem grant_moves {result : Option RebuildResult} {wish : Wish} (listeners : List Listener)
    (outside : t.work.phase = .outside) :
    Moves c w t ({ w with listeners }.grant c result wish) :=
  .of grant_granted.2 (.pass listeners wish outside) grant_granted.1

theorem beginRebuild_moves {route : Route} {wish : Wish} (listeners : List Listener)
    (outside : t.work.phase = .outside) (direct : route = .direct → t.work = .queued .rebuild) :
    Moves c w t ({ w with listeners }.beginRebuild c route wish) := by
  unfold beginRebuild
  split
  case isTrue => exact grant_moves listeners outside
  case isFalse hb => exact ⟨_, .begin listeners outside (by simpa using hb) direct, rfl⟩

theorem compareBefore_moves {wish : Wish} {stale left : List Struct} (listeners : List Listener)
    (outside : t.work.phase = .outside) :
    Moves c w t ({ w with listeners }.compareBefore c wish stale left) := by
  cases left
  case cons => exact ⟨_, .pass listeners .result outside, rfl⟩
  case nil =>
    simp only [compareBefore]
    split
    · exact grant_moves listeners outside
    · exact beginRebuild_moves listeners outside (by simp)

theorem start_moves {wish : Wish} (listeners : List Listener) (outside : t.work.phase = .outside) :
    Moves c w t ({ w with listeners }.start c wish) := by
  unfold start
  split
  · exact beginRebuild_moves listeners outside (by simp)
  · exact compareBefore_moves listeners outside

theorem openCall_moves {call : Call} (h : t.work = .queued call) :
    Moves c w t (w.openCall c call) := by
  have outside : t.work.phase = .outside := by rw [h]; rfl
  cases call
  case query => exact openQuery_plain.moves outside
  case rebuild => exact beginRebuild_moves w.listeners outside fun _ => h
  case refresh => exact beginRebuild_moves w.listeners outside (by simp)
  case start => exact start_moves w.listeners outside
  case watchCommand => exact start_moves (w := w) (w.listeners ++ [.report]) outside
  case waitIdle => exact Plain.moves outside ⟨rfl, rfl⟩

theorem scanStep_moves {route : Route} {wish : Wish} {scan : Scan}
    (h : t.work = .scanning route wish scan) (live : t.cancelled = false) :
    Moves c w t (w.scanStep c route wish scan) := by
  unfold scanStep
  split
  case h_1 f hf => exact .of grant_granted.2 (.drop h wish <| .inr ⟨f, hf⟩) grant_granted.1
  case h_2 next hn =>
    split
    case isTrue hd =>
      obtain ⟨hp, hs⟩ | ⟨hp, hs⟩ := announce_cases (c := c) (w.swapped next) route wish
        (next.result w.snapshot) (next.snapshot w.snapshot) w.listeners
      · exact .of hp (.swap h live hn hd) hs
      · exact .of hp (.swapAndLeave h wish live hn hd) hs
    case isFalse hd => exact ⟨_, .scan h live hn hd, rfl⟩

theorem notifyStep_moves {route : Route} {wish : Wish} {result : RebuildResult} {s : Snapshot}
    {notice : Notice} {later : List Listener}
    (h : t.work = .notifying route wish result s notice later) :
    Moves c w t (w.notifyStep c route wish result s notice later) := by
  have telling : t.work.phase = .telling route := by rw [h]; rfl
  have hn := w.noticeStep_silent s notice
  unfold notifyStep
  split
  case h_1 hw =>
    rw [hw] at hn
    exact .of rfl (.tell telling) hn
  case h_2 w₁ hw =>
    rw [hw] at hn
    obtain ⟨hp, hs⟩ | ⟨hp, hs⟩ := announce_cases (c := c) w₁ route wish result s later
    · exact .of hp (.tell telling) (hs.trans hn)
    · refine .of hp (.leave wish telling) ?_
      rw [hs, granted_silent, leave_silent, hn, ← leave_silent, ← granted_silent]

-- Outside of rebuilds, a call that has not to operate the session leaves the index alone.
theorem step_plain {work : Work} (calm : work.operates = false)
    (outside : work.phase = .outside) : w.Plain (w.step c work) := by
  cases work
  case queued call =>
    cases call
    case query => exact openQuery_plain
    case waitIdle => exact ⟨rfl, rfl⟩
    all_goals cases calm
  case comparing why _ _ _ =>
    cases why
    case start => cases calm
    case question =>
      simp only [step]
      split
      · exact ⟨rfl, rfl⟩
      · exact compareFor_plain
  case scanning => cases outside
  case notifying => cases outside
  case reading =>
    simp only [step]
    split
    · exact ⟨rfl, rfl⟩
    · exact useText_plain
  case sweeping sweep =>
    have swept := w.sweepStep_silent sweep
    simp only [step]
    split <;> rename_i hs <;> rw [hs] at swept
    all_goals exact ⟨swept, rfl⟩
  case listingHosts =>
    simp only [step]
    split
    · exact search_plain
    · exact endSearch_plain
  case searching => exact searchStep_plain
  case idling => exact ⟨rfl, rfl⟩

-- Every step of a call that was not called off is a move.
theorem step_moves (live : t.cancelled = false) : Moves c w t (w.step c t.work) := by
  cases h : t.work
  case queued call => exact openCall_moves h
  case scanning => exact scanStep_moves h live
  case notifying => exact notifyStep_moves h
  all_goals have outside : t.work.phase = .outside := by rw [h]; rfl
  case comparing why s rest stale =>
    cases why
    case question => exact (step_plain rfl rfl).moves outside
    case start =>
      simp only [step]
      split
      · exact Plain.moves outside ⟨rfl, rfl⟩
      · exact compareBefore_moves w.listeners outside
  all_goals exact (step_plain rfl rfl).moves outside

theorem unwind_moves {p : Progress} (cancelled : t.cancelled = true) (ends : p.phase = .outside) :
    Moves c w t (w.unwind c t.work, p) := by
  cases h : t.work
  case scanning => exact .of ends (.drop h .result <| .inl cancelled) rfl
  case notifying => exact .of ends (.leave .result (by rw [h]; rfl)) rfl
  all_goals exact Plain.moves (by rw [h]; rfl) ⟨rfl, ends⟩

end Moves

end Workspace

end FlowIndex
