import FlowIndex.Proofs.Session.Dating
import FlowIndex.Proofs.Store.Memory

namespace FlowIndex

variable {σ : Type} {c : Config} {route : Route} {wish : Wish}

namespace Workspace

variable {w w' w'' : Workspace σ}

theorem opened_of_silent (h : w.silent = w'.silent) : w.opened = w'.opened := by
  have := congrArg opened h
  exact this

-- No document was opened or closed, and no listener went.
structure Retains (w w' : Workspace σ) : Prop where
  opened : w'.opened = w.opened
  listeners : w.listeners ⊆ w'.listeners

namespace Retains

theorem of_eq (opened : w'.opened = w.opened) (listeners : w'.listeners = w.listeners) :
    Retains w w' :=
  ⟨opened, by rw [listeners]; exact List.Subset.refl _⟩

theorem refl : Retains w w :=
  .of_eq rfl rfl

theorem trans (h : Retains w w') (h' : Retains w' w'') : Retains w w'' :=
  ⟨h'.opened.trans h.opened, List.Subset.trans h.listeners h'.listeners⟩

theorem of_silent (silent : w'.silent = w.silent) : Retains w w' := by
  have listeners := congrArg Workspace.listeners silent
  exact .of_eq (opened_of_silent silent) listeners

end Retains

theorem leave_retains : Retains w (w.leave c route) := by
  cases route <;> exact .of_eq rfl rfl

theorem unwind_retains (work : Work) : Retains w (w.unwind c work) := by
  cases work
  case scanning =>
    have released : Retains w (w.modifySchedule .release) := .of_eq rfl rfl
    exact released.trans leave_retains
  case notifying => exact leave_retains
  all_goals exact .refl

variable [DocumentStore σ]

section Watching

theorem noteChanges_retains {pace : Pace} (uris : List String) :
    Retains w (w.noteChanges pace uris) := by
  induction uris generalizing w
  case nil => exact .refl
  case cons uri uris hi =>
    unfold noteChanges noteChange
    cases DocumentStore.kindOf w.store uri
    case error => exact .refl
    case ok kind =>
      cases kind
      case none => exact hi
      case some =>
        have noted : Retains w (w.modifySchedule (.notify pace uri)) := .of_eq rfl rfl
        exact noted.trans hi

theorem handBatch_retains (paths : List String) : Retains w (w.handBatch c paths) := by
  unfold handBatch
  split
  case h_1 => exact .of_eq rfl rfl
  case h_2 watcher others _ =>
    split
    case h_1 uris _ =>
      have taken : Retains w { w with waiting := others ++ [watcher] } := .of_eq rfl rfl
      exact taken.trans (noteChanges_retains uris)
    case h_2 => exact .of_eq rfl rfl

theorem granted_retains : Retains w (w.granted c wish) := by
  have hand {batches : List (List String)} {w : Workspace σ} :
      Retains w (batches.foldl (handBatch c) w) := by
    induction batches generalizing w
    case nil => exact .refl
    case cons paths batches hi => exact (handBatch_retains paths).trans hi
  let started := { w with
    watchers := w.watchers + 1
    watcher := some w.watchers
    waiting := w.waiting ++ [w.watchers]
    batches := [] }
  have begun : Retains w started := .of_eq rfl rfl
  unfold granted
  split
  case isTrue => exact begun.trans hand
  case isFalse => exact .refl

end Watching

section Steps

theorem grant_retains {result : Option RebuildResult} : Retains w (w.grant c result wish).1 :=
  granted_retains.trans <| .of_silent grant_granted.1

theorem beginRebuild_retains : Retains w (w.beginRebuild c route wish).1 := by
  unfold beginRebuild
  split
  case isTrue => exact grant_retains
  case isFalse => exact .of_eq rfl rfl

theorem compareBefore_retains {stale left : List Struct} :
    Retains w (w.compareBefore c wish stale left).1 := by
  unfold compareBefore
  split
  case h_1 => exact .refl
  case h_2 =>
    split
    · exact grant_retains
    · exact beginRebuild_retains

theorem start_retains : Retains w (w.start c wish).1 := by
  unfold start
  split
  · exact beginRebuild_retains
  · exact compareBefore_retains

theorem announce_retains {result : RebuildResult} {s : Snapshot} {ls : List Listener} :
    Retains w (w.announce c route wish result s ls).1 := by
  obtain ⟨_, silent⟩ | ⟨_, silent⟩ := w.announce_cases (c := c) route wish result s ls
  · exact .of_silent silent
  · exact (leave_retains.trans granted_retains).trans <| .of_silent silent

theorem scanStep_retains {scan : Scan} : Retains w (w.scanStep c route wish scan).1 := by
  have released : Retains w (w.modifySchedule .release) := .of_eq rfl rfl
  unfold scanStep
  split
  case h_1 => exact (released.trans leave_retains).trans grant_retains
  case h_2 next _ =>
    split
    case isTrue =>
      have swapped : Retains w (w.swapped next) := .of_eq rfl rfl
      exact swapped.trans announce_retains
    case isFalse => exact .refl

theorem notifyStep_retains {result : RebuildResult} {s : Snapshot} {notice : Notice}
    {later : List Listener} : Retains w (w.notifyStep c route wish result s notice later).1 := by
  have told := Retains.of_silent (w.noticeStep_silent s notice)
  unfold notifyStep
  split <;> rename_i hn <;> rw [hn] at told
  · exact told
  · exact told.trans announce_retains

-- The steps of calls open and close nothing, and at most add a listener.
theorem step_retains (work : Work) : Retains w (w.step c work).1 := by
  cases work
  case queued call =>
    cases call
    case rebuild => exact beginRebuild_retains
    case refresh => exact beginRebuild_retains
    case start => exact start_retains
    case watchCommand =>
      have listening : Retains w { w with listeners := w.listeners ++ [.report] } :=
        ⟨rfl, List.subset_append_left ..⟩
      exact listening.trans start_retains
    all_goals exact .of_silent (step_plain rfl rfl).silent
  case comparing why s rest stale =>
    cases why
    case question => exact .of_silent (step_plain rfl rfl).silent
    case start =>
      simp only [step]
      split
      · exact .refl
      · exact compareBefore_retains
  case scanning => exact scanStep_retains
  case notifying => exact notifyStep_retains
  all_goals exact .of_silent (step_plain rfl rfl).silent

end Steps

end Workspace

namespace Session

variable {s : Session σ}

-- The invariant of sessions.
structure Tracks (s : Session σ) : Prop where
  increasing : NameMap.Increasing s.workspace.opened
  listens : .openDocuments ∈ s.workspace.listeners

namespace Tracks

theorem of_retains {s' : Session σ} (tracks : s.Tracks)
    (retains : s.workspace.Retains s'.workspace) : s'.Tracks :=
  ⟨by rw [retains.opened]; exact tracks.increasing, retains.listeners tracks.listens⟩

variable [DocumentStore σ]

theorem act (tracks : s.Tracks) (index : Nat) : (s.act c index).Tracks := by
  unfold Session.act
  split
  case h_1 => exact tracks
  case h_2 t task =>
    have placed {work : Work} : (s.place index t (s.workspace.step c work)).Tracks := by
      refine tracks.of_retains ?_
      rw [(s.place_tasks _ task).1]
      exact Workspace.step_retains work
    split
    case isTrue => exact tracks.of_retains (Workspace.unwind_retains t.work)
    case isFalse =>
      split
      case h_1 =>
        split
        case isTrue => exact tracks
        case isFalse => exact placed
      case h_2 => exact placed

theorem apply (tracks : s.Tracks) (e : Event σ) : (s.apply c e).Tracks := by
  cases e
  case act index => exact tracks.act index
  case openDocument => exact ⟨tracks.increasing.set, tracks.listens⟩
  case closeDocument => exact ⟨tracks.increasing.erase, tracks.listens⟩
  case listen => exact ⟨tracks.increasing, List.mem_append_left _ tracks.listens⟩
  case changes uris => exact tracks.of_retains (Workspace.noteChanges_retains _)
  case files paths => exact tracks.of_retains (Workspace.handBatch_retains paths)
  case stop =>
    simp only [Session.apply, Session.stop, Workspace.stopWatcher, modifyWorkspace]
    split <;> exact ⟨tracks.increasing, tracks.listens⟩
  case fire =>
    simp only [Session.apply, Session.fire]
    split
    · split <;> exact ⟨tracks.increasing, tracks.listens⟩
    · exact tracks
  all_goals exact ⟨tracks.increasing, tracks.listens⟩

end Tracks

theorem Past.tracks [DocumentStore σ] {older : List σ} (past : Past c s older) : s.Tracks := by
  induction past
  case start => exact ⟨.nil, List.mem_singleton_self _⟩
  case event e hi => exact hi.apply e

end Session

end FlowIndex
