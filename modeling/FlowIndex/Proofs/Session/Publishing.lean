import FlowIndex.Proofs.Session.Phase
import FlowIndex.Proofs.Store.Memory

namespace FlowIndex

section Checks

-- The documents that a round of the listener has still to check.
def Notice.ahead : Notice → List String
  | .recheck uri rest => uri :: rest.map (·.1)
  | .sweep _ => []

def Work.ahead : Work → List String
  | .notifying _ _ _ _ notice _ => notice.ahead
  | _ => []

def Progress.ahead : Progress → List String
  | .waits work => work.ahead
  | _ => []

-- Whether the next step of a call checks a document, other than in a round of the listener.
def Work.checks : Work → Bool
  | .notifying _ _ _ _ (.sweep _) _ => true
  | .reading _ why => why = .check
  | .sweeping _ => true
  | _ => false

-- Whether a call ends as the check of a single document does.
def Progress.checked : Progress → Bool
  | .ends (.problems _) => true
  | _ => false

end Checks

namespace Workspace

variable {σ : Type} {c : Config} {w w' w'' : Workspace σ} {us : List String}

-- What was published on the way from one workspace to another: problems of some of the given
-- documents, while no document was opened or closed.
structure Publishes (us : List String) (w w' : Workspace σ) : Prop where
  opened : w'.opened = w.opened
  sink : ∀ u, NameMap.get? u w'.sink = NameMap.get? u w.sink ∨
    u ∈ us ∧ (NameMap.get? u w'.sink).isSome = true

namespace Publishes

theorem of_eq (opened : w'.opened = w.opened) (sink : w'.sink = w.sink) : Publishes us w w' :=
  ⟨opened, fun _ => .inl <| by rw [sink]⟩

theorem refl : Publishes us w w :=
  of_eq rfl rfl

theorem trans (h : Publishes us w w') (h' : Publishes us w' w'') : Publishes us w w'' where
  opened := h'.opened.trans h.opened
  sink u := by
    obtain same' | new := h'.sink u
    case inr => exact .inr new
    case inl => rw [same']; exact h.sink u

theorem hidden {u : String} (h : Publishes us w w') (other : u ∉ us)
    (hidden : NameMap.get? u w.sink = none) : NameMap.get? u w'.sink = none := by
  obtain same | ⟨mem, _⟩ := h.sink u
  · exact same.trans hidden
  · exact absurd mem other

end Publishes

-- A step that publishes problems of some of the given documents, unless it is the check of a single
-- one, and then has still to check others of them.
structure Shows (us : List String) (w : Workspace σ) (st : Step σ) : Prop where
  published : st.2.checked = false → Publishes us w st.1
  ahead : st.2.ahead ⊆ us

namespace Shows

variable {st : Step σ}

theorem of_eq (opened : st.1.opened = w.opened) (sink : st.1.sink = w.sink)
    (ahead : st.2.ahead = []) : Shows us w st :=
  ⟨fun _ => .of_eq opened sink, by simp [ahead]⟩

theorem after (h : Publishes us w w') (h' : Shows us w' st) : Shows us w st :=
  ⟨fun unchecked => h.trans <| h'.published unchecked, h'.ahead⟩

end Shows

section Queries

theorem checkText_shows {uri text : String} : Shows us w (w.checkText uri text) := by
  unfold checkText
  split
  · exact ⟨by rintro ⟨⟩, List.nil_subset _⟩
  · exact .of_eq rfl rfl rfl

theorem askTool_publishes {q : Resolution.Sought} : Publishes us w (w.askTool c q).1 := by
  unfold askTool
  split
  · dsimp only
    split <;> exact .of_eq rfl rfl
  · exact .refl

theorem resolve_shows {q : Resolution.Sought} : Shows us w (w.resolve c q) := by
  have h : Publishes us w (w.askTool c q).1 := askTool_publishes
  unfold resolve
  split <;> rename_i ha <;> rw [ha] at h
  · exact .after h <| .of_eq rfl rfl rfl
  · repeat' split
    all_goals exact .after h <| .of_eq rfl rfl rfl

theorem define_shows {text : String} {p : Position} : Shows us w (w.define c text p) := by
  unfold define
  split
  · exact .of_eq rfl rfl rfl
  · exact resolve_shows

theorem hoverAt_shows {text : String} {p : Position} : Shows us w (w.hoverAt text p) := by
  unfold hoverAt
  repeat' split
  all_goals exact .of_eq rfl rfl rfl

theorem endSearch_shows {name : String} {found : Option Struct} {goal : SearchGoal} :
    Shows us w (w.endSearch name found goal) := by
  cases goal <;> exact .of_eq rfl rfl rfl

theorem search_shows {name : String} {goal : SearchGoal} {uris : List String} :
    Shows us w (w.search name goal uris) := by
  cases uris
  case nil => exact endSearch_shows
  case cons => exact .of_eq rfl rfl rfl

theorem compareFor_shows {q : StaleQuestion} {stale left : List Struct} :
    Shows us w (w.compareFor q stale left) := by
  cases left
  case nil => cases q <;> exact .of_eq rfl rfl rfl
  case cons => exact .of_eq rfl rfl rfl

theorem openQuery_shows {q : Query} : Shows us w (w.openQuery c q) := by
  unfold openQuery
  split
  all_goals first
    | exact .of_eq rfl rfl rfl
    | exact checkText_shows
    | exact define_shows
    | exact hoverAt_shows
    | exact resolve_shows
    | exact compareFor_shows

theorem useText_shows {d : SourceDocument} {why : Reading} : Shows us w (w.useText c d why) := by
  cases why
  case whole => exact .of_eq rfl rfl rfl
  case check => exact checkText_shows
  case definition => exact define_shows
  case hover => exact hoverAt_shows

variable [DocumentStore σ]

theorem searchStep_shows {name uri : String} {goal : SearchGoal} {rest : List String} :
    Shows us w (w.searchStep c name goal uri rest) := by
  unfold searchStep
  split
  · exact search_shows
  · exact endSearch_shows
  · split
    · exact endSearch_shows
    · exact endSearch_shows
    · exact search_shows

end Queries

section Watching

variable [DocumentStore σ]

theorem noteChanges_publishes {pace : Pace} {uris : List String} :
    Publishes us w (w.noteChanges pace uris) := by
  induction uris generalizing w
  case nil => exact .refl
  case cons uri uris hi =>
    unfold noteChanges noteChange
    cases DocumentStore.kindOf w.store uri
    case error => exact .refl
    case ok kind =>
      cases kind
      case none => exact hi
      case some =>
        have noted : Publishes us w (w.modifySchedule (.notify pace uri)) := .of_eq rfl rfl
        exact noted.trans (hi (w := w.modifySchedule (.notify pace uri)))

theorem handBatch_publishes {paths : List String} : Publishes us w (w.handBatch c paths) := by
  unfold handBatch
  split
  case h_1 => exact .of_eq rfl rfl
  case h_2 watcher others _ =>
    split
    case h_1 =>
      have taken : Publishes us w { w with waiting := others ++ [watcher] } := .of_eq rfl rfl
      exact taken.trans noteChanges_publishes
    case h_2 => exact .of_eq rfl rfl

theorem startWatcher_publishes : Publishes us w (w.startWatcher c) := by
  have hand {batches : List (List String)} {w : Workspace σ} :
      Publishes us w (batches.foldl (handBatch c) w) := by
    induction batches generalizing w
    case nil => exact .refl
    case cons paths batches hi => exact .trans handBatch_publishes hi
  let started := { w with
    watchers := w.watchers + 1
    watcher := some w.watchers
    waiting := w.waiting ++ [w.watchers]
    batches := [] }
  have begun : Publishes us w started := .of_eq rfl rfl
  exact begun.trans hand

theorem grant_shows {result : Option RebuildResult} {wish : Wish} :
    Shows us w (w.grant c result wish) := by
  cases wish
  case result => exact .of_eq rfl rfl rfl
  case watch => exact ⟨fun _ => startWatcher_publishes, List.nil_subset _⟩
  case watchForever => exact ⟨fun _ => startWatcher_publishes, List.nil_subset _⟩
  case query q => exact openQuery_shows

end Watching

section Rounds

variable {s : Snapshot} {uri : String} {items : List (String × Option String)}

theorem publish_publishes {text : String} {ds : List Diagnostic} (mem : uri ∈ us)
    (ok : w.publish s uri text = .ok (w', ds)) : Publishes us w w' := by
  unfold publish at ok
  cases read : (diagnose s uri text).mapError checkFailure <;> rw [read] at ok
  case error => cases ok
  case ok =>
    cases ok
    refine ⟨rfl, fun u => ?_⟩
    by_cases same : u = uri <;> simp [NameMap.get?_set, same, mem]

theorem print_publishes {markup : String} (ok : w.print markup = .ok w') : Publishes us w w' := by
  unfold print at ok
  cases read : (Markup.lines markup).mapError fun e => Failure.unexpected e.message
  case error => rw [read] at ok; cases ok
  case ok => rw [read] at ok; cases ok; exact .of_eq rfl rfl

theorem leave_publishes {route : Route} : Publishes us w (w.leave c route) := by
  cases route <;> exact .of_eq rfl rfl

theorem unwind_publishes {work : Work} : Publishes us w (w.unwind c work) := by
  cases work
  case scanning =>
    have released : Publishes us w (w.modifySchedule .release) := .of_eq rfl rfl
    exact released.trans leave_publishes
  case notifying => exact leave_publishes
  all_goals exact .refl

-- What becomes of the listener, with what it published: its round ends, or goes on with others of
-- the given documents.
structure Round (us : List String) (w : Workspace σ) (r : Workspace σ × Option Notice) : Prop where
  published : Publishes us w r.1
  ahead : ∀ notice, r.2 = some notice → notice.ahead ⊆ us

theorem recheck_round (sub : items.map (·.1) ⊆ us) : Round us w (w.recheck s items) := by
  induction items generalizing w
  case nil => exact ⟨.refl, by simp [recheck]⟩
  case cons item rest hi =>
    obtain ⟨uri, text⟩ := item
    obtain ⟨mem, rest⟩ := List.cons_subset.mp sub
    cases text
    case none =>
      refine ⟨.refl, ?_⟩
      rintro _ ⟨⟩
      exact sub
    case some text =>
      unfold recheck
      split
      case h_1 w₁ _ ok =>
        have round := hi (w := w₁) rest
        exact ⟨(publish_publishes mem ok).trans round.published, round.ahead⟩
      case h_2 => exact ⟨.refl, by simp⟩

theorem tell_round (s : Snapshot) (l : Listener) (sub : w.opened.map (·.1) ⊆ us) :
    Round us w (w.tell s l) := by
  cases l
  case openDocuments => exact recheck_round sub
  case observer => exact ⟨.of_eq rfl rfl, by simp [tell]⟩
  case report =>
    simp only [tell]
    split
    case h_1 ok =>
      refine ⟨print_publishes ok, ?_⟩
      rintro _ ⟨⟩
      exact List.nil_subset _
    case h_2 => exact ⟨.refl, by simp⟩

variable [DocumentStore σ] {route : Route} {wish : Wish} {result : RebuildResult}

theorem announce_shows {ls : List Listener} (sub : w.opened.map (·.1) ⊆ us) :
    Shows us w (w.announce c route wish result s ls) := by
  induction ls generalizing w
  case nil => exact .after leave_publishes grant_shows
  case cons l later hi =>
    have round := w.tell_round s l sub
    unfold announce
    split <;> rename_i told <;> rw [told] at round
    case h_1 notice => exact ⟨fun _ => round.published, round.ahead notice rfl⟩
    case h_2 => exact .after round.published <| hi <| by rw [round.published.opened]; exact sub

theorem beginRebuild_shows : Shows us w (w.beginRebuild c route wish) := by
  unfold beginRebuild
  split
  case isTrue => exact grant_shows
  case isFalse => exact .of_eq rfl rfl rfl

theorem compareBefore_shows {stale left : List Struct} :
    Shows us w (w.compareBefore c wish stale left) := by
  cases left
  case cons => exact .of_eq rfl rfl rfl
  case nil =>
    simp only [compareBefore]
    split
    case isTrue => exact grant_shows
    case isFalse => exact beginRebuild_shows

theorem start_shows : Shows us w (w.start c wish) := by
  unfold start
  split
  case isTrue => exact beginRebuild_shows
  case isFalse => exact compareBefore_shows

theorem openCall_shows {call : Call} : Shows us w (w.openCall c call) := by
  cases call
  case query => exact openQuery_shows
  case rebuild => exact beginRebuild_shows
  case refresh => exact beginRebuild_shows
  case start => exact start_shows
  case watchCommand =>
    have listening : Publishes us w { w with listeners := w.listeners ++ [.report] } :=
      .of_eq rfl rfl
    exact .after listening start_shows
  case waitIdle => exact .of_eq rfl rfl rfl

theorem scanStep_shows {scan : Scan} (sub : w.opened.map (·.1) ⊆ us) :
    Shows us w (w.scanStep c route wish scan) := by
  unfold scanStep
  split
  case h_1 =>
    have released : Publishes us w (w.modifySchedule .release) := .of_eq rfl rfl
    exact .after (released.trans leave_publishes) grant_shows
  case h_2 next _ =>
    split
    case isTrue =>
      have swapped : Publishes us w (w.swapped next) := .of_eq rfl rfl
      exact .after swapped <| announce_shows sub
    case isFalse => exact .of_eq rfl rfl rfl

-- A document that cannot be read has its problems taken back before the round goes on.
theorem noticeStep_round {rest : List (String × Option String)}
    (sub : uri :: rest.map (·.1) ⊆ us) : ∃ w₁, (w₁ = w ∨ w₁ = w.withdraw uri) ∧
      Round us w₁ (w.noticeStep s (.recheck uri rest)) := by
  obtain ⟨mem, rest⟩ := List.cons_subset.mp sub
  simp only [noticeStep]
  split
  case h_1 =>
    refine ⟨w, .inl rfl, ?_⟩
    split
    case h_1 w₁ _ ok =>
      have round := w₁.recheck_round (s := s) rest
      exact ⟨(publish_publishes mem ok).trans round.published, round.ahead⟩
    case h_2 => exact ⟨.refl, by simp⟩
  case h_2 => exact ⟨w.withdraw uri, .inr rfl, recheck_round rest⟩
  case h_3 => exact ⟨w, .inl rfl, .refl, by simp⟩

theorem notifyStep_shows {rest : List (String × Option String)} {later : List Listener}
    (sub : uri :: rest.map (·.1) ⊆ us) (opened : w.opened.map (·.1) ⊆ us) :
    ∃ w₁, (w₁ = w ∨ w₁ = w.withdraw uri) ∧
      Shows us w₁ (w.notifyStep c route wish result s (.recheck uri rest) later) := by
  obtain ⟨w₁, from_w, round⟩ := w.noticeStep_round (s := s) sub
  have same : w₁.opened = w.opened := by obtain rfl | rfl := from_w <;> rfl
  refine ⟨w₁, from_w, ?_⟩
  unfold notifyStep
  split <;> rename_i hn <;> rw [hn] at round
  case h_1 notice => exact ⟨fun _ => round.published, round.ahead notice rfl⟩
  case h_2 =>
    refine .after round.published <| announce_shows ?_
    rw [round.published.opened, same]
    exact opened

-- A step outside of rebuilds publishes nothing, unless it checks something.
theorem step_shows {work : Work} (unchecked : work.checks = false)
    (outside : work.phase = .outside) : Shows us w (w.step c work) := by
  cases work
  case queued => exact openCall_shows
  case comparing why s rest stale =>
    simp only [step]
    split
    case h_1 => exact .of_eq rfl rfl rfl
    case h_2 =>
      cases why
      case question => exact compareFor_shows
      case start => exact compareBefore_shows
  case scanning => cases outside
  case notifying => cases outside
  case reading =>
    simp only [step]
    split
    case h_1 => exact .of_eq rfl rfl rfl
    case h_2 => exact useText_shows
  case sweeping => cases unchecked
  case listingHosts =>
    simp only [step]
    split
    case h_1 => exact search_shows
    case h_2 => exact endSearch_shows
  case searching => exact searchStep_shows
  case idling => exact .of_eq rfl rfl rfl

end Rounds

section Hiding

variable {s : Snapshot} {uri : String}

-- A document that is not open, and of which nothing is published.
structure Hides (uri : String) (w : Workspace σ) : Prop where
  absent : uri ∉ w.opened.map (·.1)
  hidden : NameMap.get? uri w.sink = none

theorem Publishes.hides (h : Publishes us w w') (other : uri ∉ us) (hides : Hides uri w) :
    Hides uri w' :=
  ⟨h.opened ▸ hides.absent, h.hidden other hides.hidden⟩

theorem Shows.hides {st : Step σ} (h : Shows us w st) (unchecked : st.2.checked = false)
    (other : uri ∉ us) (hides : Hides uri w) : Hides uri st.1 ∧ uri ∉ st.2.ahead :=
  ⟨(h.published unchecked).hides other hides, fun mem => other <| h.ahead mem⟩

theorem hides_iff :
    Hides uri w ↔ NameMap.get? uri w.opened = none ∧ NameMap.get? uri w.sink = none := by
  have absent : uri ∉ w.opened.map (·.1) ↔ NameMap.get? uri w.opened = none := by
    rw [NameMap.mem_names_iff, Option.not_isSome_iff_eq_none]
  exact ⟨fun h => ⟨absent.mp h.absent, h.hidden⟩, fun h => ⟨absent.mpr h.1, h.2⟩⟩

theorem Hides.withdraw {u : String} (hides : Hides uri w) : Hides uri (w.withdraw u) := by
  obtain ⟨opened, sink⟩ := hides_iff.mp hides
  rw [hides_iff]
  simp [Workspace.withdraw, NameMap.get?_erase, opened, sink]

theorem hides_closeDocument (uri : String) (w : Workspace σ) : Hides uri (w.closeDocument uri) := by
  rw [hides_iff]
  simp [closeDocument, withdraw, NameMap.get?_erase]

theorem Hides.closeDocument {u : String} (hides : Hides uri w) : Hides uri (w.closeDocument u) := by
  obtain ⟨opened, sink⟩ := hides_iff.mp hides
  rw [hides_iff]
  simp [Workspace.closeDocument, Workspace.withdraw, NameMap.get?_erase, opened, sink]

theorem Hides.openDocument {u : String} {text : Option String} (hides : Hides uri w)
    (other : u ≠ uri) : Hides uri (w.openDocument u text) := by
  obtain ⟨opened, sink⟩ := hides_iff.mp hides
  rw [hides_iff]
  simp [Workspace.openDocument, NameMap.get?_set, opened, sink, other.symm]

variable [DocumentStore σ]

-- A step that checks nothing by itself, of a call that does not have a document ahead, leaves that
-- document hidden, and does not come to have it ahead.
theorem step_hides {work : Work} (hides : Hides uri w) (unchecked : work.checks = false)
    (unchecked' : (w.step c work).2.checked = false) (away : uri ∉ work.ahead) :
    Hides uri (w.step c work).1 ∧ uri ∉ (w.step c work).2.ahead := by
  cases work
  case scanning =>
    exact (scanStep_shows <| List.Subset.refl _).hides unchecked' hides.absent hides
  case notifying route wish result s notice later =>
    cases notice
    case sweep => cases unchecked
    case recheck u rest =>
      let us := (u :: rest.map (·.1)) ++ w.opened.map (·.1)
      have step : ∃ w₁, (w₁ = w ∨ w₁ = w.withdraw u) ∧
          Shows us w₁ (w.notifyStep c route wish result s (.recheck u rest) later) :=
        notifyStep_shows (List.subset_append_left ..) (List.subset_append_right ..)
      obtain ⟨w₁, from_w, shows⟩ := step
      have other : uri ∉ us := fun mem => List.mem_append.mp mem |>.elim away hides.absent
      have hides : Hides uri w₁ := by
        obtain rfl | rfl := from_w
        · exact hides
        · exact hides.withdraw
      exact shows.hides unchecked' other hides
  all_goals exact (step_shows unchecked rfl).hides unchecked' List.not_mem_nil hides

end Hiding

end Workspace

end FlowIndex
