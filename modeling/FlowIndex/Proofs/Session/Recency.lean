import FlowIndex.Proofs.Session.Exclusion
import FlowIndex.Proofs.Session.Issues

namespace FlowIndex

-- The versions that the problems of a document came from, in the order of a history.
def versions (uri : String) (is : List Issue) : List Nat :=
  (is.filter (·.uri = uri)).map (·.version)

theorem mem_versions {uri : String} {is : List Issue} {v : Nat} :
    v ∈ versions uri is ↔ ∃ i ∈ is, i.uri = uri ∧ i.version = v := by
  simp [versions, and_assoc]

theorem versions_append {uri : String} {is js : List Issue} :
    versions uri (is ++ js) = versions uri is ++ versions uri js := by
  simp [versions]

theorem le_version_of_find? {uri : String} {is : List Issue} {i : Issue} {v : Nat}
    (ordered : (versions uri is).Pairwise (· ≥ ·)) (last : is.find? (·.uri = uri) = some i)
    (mem : v ∈ versions uri is) : v ≤ i.version := by
  rw [← List.head?_filter, List.head?_eq_some_iff] at last
  obtain ⟨rest, split⟩ := last
  rw [versions, split, List.map_cons] at ordered mem
  obtain rfl | mem := List.mem_cons.mp mem
  · exact Nat.le_refl _
  · exact (List.pairwise_cons.mp ordered).1 v mem

section Versions

-- The version of the snapshot that a listener at work was told of.
def Work.against : Work → Nat
  | .notifying _ _ _ s _ _ => s.version
  | _ => 0

-- The listeners that come after the one at work.
def Work.later : Work → List Listener
  | .notifying _ _ _ _ _ later => later
  | _ => []

-- Whether a listener at work, or one that comes after it, may still publish problems of a document.
def Work.MayPublish (uri : String) (work : Work) : Prop :=
  uri ∈ work.ahead ∨ .openDocuments ∈ work.later

-- A listener at work that may still publish problems of a document for which problems from a later
-- snapshot than its own were published.
structure Task.Outdated (uri : String) (is : List Issue) (t : Task) : Prop where
  live : t.cancelled = false
  mayPublish : t.work.MayPublish uri
  newer : ∃ v ∈ versions uri is, t.work.against < v

instance (uri : String) (work : Work) : Decidable (work.MayPublish uri) :=
  inferInstanceAs (Decidable (_ ∨ _))

instance (uri : String) (is : List Issue) (t : Task) : Decidable (t.Outdated uri is) :=
  decidable_of_iff (t.cancelled = false ∧ t.work.MayPublish uri ∧
      ∃ v ∈ versions uri is, t.work.against < v)
    ⟨fun ⟨live, mayPublish, newer⟩ => ⟨live, mayPublish, newer⟩,
      fun ⟨live, mayPublish, newer⟩ => ⟨live, mayPublish, newer⟩⟩

theorem Work.against_of_outside {work : Work} (outside : work.phase = .outside) :
    work.against = 0 := by
  cases work
  case notifying => cases outside
  all_goals rfl

end Versions

namespace Workspace

variable {σ : Type} [DocumentStore σ] {c : Config} {w : Workspace σ} {s : Snapshot} {work : Work}

theorem announce_snapshot {route : Route} {wish : Wish} {result : RebuildResult}
    {ls : List Listener} : (w.announce c route wish result s ls).1.snapshot = w.snapshot := by
  obtain ⟨_, silent⟩ | ⟨_, silent⟩ := w.announce_cases (c := c) route wish result s ls
  · exact snapshot_of_silent silent
  · exact (snapshot_of_silent silent).trans <| granted_snapshot.trans leave_snapshot

theorem Finishes.snapshot {t : Task} {next : Scan} (finishes : w.Finishes c t next) :
    (w.step c t.work).1.snapshot = next.snapshot w.snapshot := by
  obtain ⟨_, ⟨route, wish, scan, work, step⟩, done⟩ := finishes
  simp only [work, Workspace.step, scanStep, step, if_pos done]
  exact announce_snapshot

-- All that is published in one step comes from the same snapshot: the new one, or the one that the
-- listener at work was told of.
theorem version_of_mem_issues (w : Workspace σ) (work : Work) :
    ∃ v, (∀ i ∈ w.issues c work, i.version = v) ∧
      (v = w.snapshot.version + 1 ∧ (w.step c work).1.snapshot.version = v ∨
        v = work.against ∧ ∀ i ∈ w.issues c work, work.MayPublish i.uri) := by
  cases work
  case scanning route wish scan =>
    simp only [issues]
    split
    case h_1 next step =>
      split
      case isTrue done =>
        refine ⟨w.snapshot.version + 1, fun i mem => (version_of_mem_announced mem).1, .inl ⟨rfl, ?_⟩⟩
        let t : Task := { origin := .timer, work := .scanning route wish scan }
        have finishes : w.Finishes c t next := ⟨rfl, ⟨_, _, _, rfl, step⟩, done⟩
        exact congrArg Snapshot.version finishes.snapshot
      case isFalse => exact ⟨0, List.forall_mem_nil _, .inr ⟨rfl, List.forall_mem_nil _⟩⟩
    case h_2 => exact ⟨0, List.forall_mem_nil _, .inr ⟨rfl, List.forall_mem_nil _⟩⟩
  case notifying route wish result s notice later =>
    have of_mem {i : Issue} (mem : i ∈ w.issues c (.notifying route wish result s notice later)) :
        i.version = s.version ∧ (i.uri ∈ notice.ahead ∨ .openDocuments ∈ later) := by
      obtain mem | mem := List.mem_append.mp mem
      · exact ⟨(of_mem_noticed mem).1, .inl (of_mem_noticed mem).2⟩
      · split at mem
        · cases mem
        · exact ⟨(version_of_mem_announced mem).1, .inr (version_of_mem_announced mem).2⟩
    exact ⟨s.version, fun i mem => (of_mem mem).1, .inr ⟨rfl, fun i mem => (of_mem mem).2⟩⟩
  all_goals exact ⟨0, List.forall_mem_nil _, .inr ⟨rfl, List.forall_mem_nil _⟩⟩

theorem announce_against {route : Route} {wish : Wish} {result : RebuildResult}
    {ls : List Listener} (next : (w.announce c route wish result s ls).2 = .waits work) :
    work.against ≤ s.version := by
  induction ls generalizing w
  case nil =>
    have outside : ((w.leave c route).grant c (some result) wish).2.phase = .outside :=
      grant_granted.2
    unfold announce at next
    rw [next] at outside
    exact Nat.le_trans (Nat.le_of_eq <| Work.against_of_outside outside) <| Nat.zero_le _
  case cons l later hi =>
    unfold announce at next
    split at next
    case h_1 => cases next; exact Nat.le_refl _
    case h_2 => exact hi next

theorem scanStep_against {next : Work} {route : Route} {wish : Wish} {scan : Scan}
    (waits : (w.scanStep c route wish scan).2 = .waits next) :
    next.against ≤ (w.scanStep c route wish scan).1.snapshot.version := by
  unfold scanStep at waits ⊢
  cases step : scan.step c.extractor w.store <;> simp only [step] at waits
  case error f =>
    have outside : (((w.modifySchedule .release).leave c route).grant c
        (some (scan.failure w.snapshot f)) wish).2.phase = .outside := grant_granted.2
    rw [waits] at outside
    exact Nat.le_trans (Nat.le_of_eq <| Work.against_of_outside outside) <| Nat.zero_le _
  case ok scan' =>
    split at waits
    case isTrue done =>
      simp only [if_pos done, announce_snapshot]
      exact announce_against waits
    case isFalse => cases waits; exact Nat.zero_le _

theorem Move.within {t : Task} {route : Route} {w' : Workspace σ}
    (move : w.Move c t (.telling route) w') : t.work.phase ≠ .outside := by
  intro outside
  cases move
  case swap _ _ work => rw [work] at outside; cases outside
  case tell telling => rw [telling] at outside; cases outside

theorem step_against {next : Work} (waits : (w.step c work).2 = .waits next) :
    next.against ≤ work.against ∨ next.against ≤ (w.step c work).1.snapshot.version := by
  cases phase : work.phase
  case outside =>
    let t : Task := { origin := .timer, work }
    obtain ⟨w', move, _⟩ := w.step_moves (c := c) (t := t) rfl
    rw [waits] at move
    cases next
    case notifying => exact absurd phase move.within
    all_goals exact .inl <| Nat.zero_le _
  case scanning =>
    cases work <;> try cases phase
    case scanning => exact .inr <| scanStep_against waits
  case telling =>
    cases work <;> try cases phase
    case notifying =>
      refine .inl ?_
      simp only [step, notifyStep] at waits
      split at waits
      case h_1 => cases waits; exact Nat.le_refl _
      case h_2 => exact announce_against waits

end Workspace

namespace Session

variable {σ : Type} [DocumentStore σ] {c : Config} {s s' : Session σ} {is : List Issue}
  {uri : String} {allowed : Session σ → List Issue → Event σ → Prop}

-- Events among which nothing is checked by request, so that only the listener publishes.
def Unasked (c : Config) (s : Session σ) (_ : List Issue) (e : Event σ) : Prop :=
  s.requests c e = false

-- The states that a session can come to by events of some kind, each with what was published on the
-- way. The latest publication comes first.
inductive Issued (c : Config) (allowed : Session σ → List Issue → Event σ → Prop) :
    Session σ → List Issue → Prop
  | start (store : σ) : Issued c allowed (.ofStore store) []
  | event {s : Session σ} {is : List Issue} (run : Issued c allowed s is) (e : Event σ)
    (ok : allowed s is e) : Issued c allowed (s.apply c e) ((s.issues c e).reverse ++ is)

-- What the events that follow a state publish.
def published (c : Config) (s : Session σ) : List (Event σ) → List Issue
  | [] => []
  | e :: es => published c (s.apply c e) es ++ (s.issues c e).reverse

-- Whether events are of some kind, each in its turn.
def Allows (c : Config) (allowed : Session σ → List Issue → Event σ → Prop) (s : Session σ)
    (is : List Issue) : List (Event σ) → Prop
  | [] => True
  | e :: es => allowed s is e ∧ Allows c allowed (s.apply c e) ((s.issues c e).reverse ++ is) es

instance decidableAllows [∀ s is e, Decidable (allowed s is e)] (s : Session σ) (is : List Issue) :
    (es : List (Event σ)) → Decidable (s.Allows c allowed is es)
  | [] => inferInstanceAs (Decidable True)
  | e :: es =>
    let _ := decidableAllows (s.apply c e) ((s.issues c e).reverse ++ is) es
    inferInstanceAs (Decidable (_ ∧ _))

instance (e : Event σ) : Decidable (s.Unasked c is e) :=
  inferInstanceAs (Decidable (_ = _))

theorem Issued.after {es : List (Event σ)} (run : Issued c allowed s is)
    (ok : s.Allows c allowed is es) : Issued c allowed (s.after c es) (s.published c es ++ is) := by
  induction es generalizing s is
  case nil => exact run
  case cons e es hi =>
    rw [published, List.append_assoc]
    exact hi (run.event e ok.1) ok.2

theorem issued_of_events {es : List (Event σ)} (store : σ)
    (ok : (ofStore store).Allows c allowed [] es) :
    Issued c allowed ((ofStore store).after c es) ((ofStore store).published c es) := by
  have run : Issued c allowed (ofStore store) [] := .start store
  simpa using run.after ok

theorem Issued.mono {allowed' : Session σ → List Issue → Event σ → Prop}
    (weaker : ∀ s is e, allowed s is e → allowed' s is e) (run : Issued c allowed s is) :
    Issued c allowed' s is := by
  induction run
  case start => exact .start _
  case event e ok hi => exact hi.event e <| weaker _ _ e ok

-- The invariant: nothing comes from a later snapshot than the present one.
structure Bounded (s : Session σ) (is : List Issue) : Prop where
  issued : ∀ i ∈ is, i.version ≤ s.workspace.snapshot.version
  told : ∀ t ∈ s.tasks, t.work.against ≤ s.workspace.snapshot.version

theorem version_le_apply (e : Event σ) :
    s.workspace.snapshot.version ≤ (s.apply c e).workspace.snapshot.version := by
  obtain ⟨same, _⟩ | ⟨_, _, _, _, _, _, _, next⟩ := s.swapped_cases (c := c) e
  · exact Nat.le_of_eq (congrArg Snapshot.version same.symm)
  · exact next ▸ Nat.le_succ _

theorem issues_eq_nil {e : Event σ} (he : ∀ index, e ≠ .act index) : s.issues c e = [] := by
  cases e
  case act index => exact absurd rfl (he index)
  all_goals rfl

-- The version that all that an event publishes comes from: that of the new snapshot, or of the one
-- that the listener at work was told of.
structure Stems (c : Config) (s : Session σ) (e : Event σ) (v : Nat) : Prop where
  version : ∀ i ∈ s.issues c e, i.version = v
  origin : s.workspace.snapshot.version < v ∧ (s.apply c e).workspace.snapshot.version = v ∨
    ∀ i ∈ s.issues c e, ∃ t ∈ s.tasks, t.cancelled = false ∧ t.work.against = v ∧
      t.work.MayPublish i.uri

theorem Stems.of_nil {e : Event σ} (nothing : s.issues c e = []) : s.Stems c e 0 :=
  ⟨by simp [nothing], .inr <| by simp [nothing]⟩

theorem exists_stems (e : Event σ) : ∃ v, s.Stems c e v := by
  obtain ⟨index, rfl⟩ | he := act_or_ne e
  case inr => exact ⟨0, .of_nil <| issues_eq_nil he⟩
  case inl =>
    cases ht : s.taken c index
    case none => exact ⟨0, .of_nil <| by simp only [issues, ht]⟩
    case some taken =>
      obtain ⟨t, st⟩ := taken
      have acts := acts_of_taken ht
      cases live : t.cancelled
      case true => exact ⟨0, .of_nil <| by simp only [issues, ht, live, if_true]⟩
      case false =>
        have same : s.issues c (.act index) = s.workspace.issues c t.work := by
          simp [issues, ht, live]
        have after : (s.apply c (.act index)).workspace = (s.workspace.step c t.work).1 :=
          acts.workspace.trans <| congrArg Prod.fst <| acts.step live
        obtain ⟨v, version, origin⟩ := s.workspace.version_of_mem_issues (c := c) t.work
        rw [← same] at version origin
        refine ⟨v, version, ?_⟩
        obtain ⟨rfl, swapped⟩ | ⟨rfl, told⟩ := origin
        · exact .inl ⟨Nat.lt_succ_self _, by rw [after, swapped]⟩
        · exact .inr fun i mem => ⟨t, List.mem_of_getElem? acts.task, live, rfl, told i mem⟩

theorem Bounded.told_apply {e : Event σ} {t : Task} (bounded : s.Bounded is)
    (mem : t ∈ (s.apply c e).tasks) :
    t.work.against ≤ (s.apply c e).workspace.snapshot.version := by
  have later := s.version_le_apply (c := c) e
  cases present_apply mem
  case old listed => exact Nat.le_trans (bounded.told t listed) later
  case calledOff t' listed _ => exact Nat.le_trans (bounded.told t' listed) later
  case started new =>
    rw [Work.against_of_outside <| phase_of_mem_started new]
    exact Nat.zero_le _
  case stepped t' _ _ _ listed _ step =>
    obtain old | new := Workspace.step_against <| congrArg Prod.snd step
    · exact Nat.le_trans old <| Nat.le_trans (bounded.told t' listed) later
    · rwa [step] at new

theorem Bounded.apply {e : Event σ} (bounded : s.Bounded is) :
    (s.apply c e).Bounded ((s.issues c e).reverse ++ is) := by
  refine ⟨fun i mem => ?issued, fun t => bounded.told_apply⟩
  case issued =>
    have later := s.version_le_apply (c := c) e
    obtain new | old := List.mem_append.mp mem
    case inr => exact Nat.le_trans (bounded.issued i old) later
    case inl =>
      rw [List.mem_reverse] at new
      obtain ⟨v, stems⟩ := s.exists_stems (c := c) e
      rw [stems.version i new]
      obtain ⟨_, swapped⟩ | told := stems.origin
      · exact Nat.le_of_eq swapped.symm
      · obtain ⟨t, mem, _, rfl, _⟩ := told i new
        exact Nat.le_trans (bounded.told t mem) later

theorem Issued.bounded (run : Issued c allowed s is) : s.Bounded is := by
  induction run
  case start => exact ⟨nofun, fun _ mem => absurd mem List.not_mem_nil⟩
  case event hi => exact hi.apply

-- No listener at work is outdated with respect to a document.
def InOrder (uri : String) (is : List Issue) (s : Session σ) : Prop :=
  ∀ t ∈ s.tasks, ¬t.Outdated uri is

instance : Decidable (s.InOrder uri is) :=
  inferInstanceAs (Decidable (∀ _ ∈ _, ¬_))

-- As long as no listener is outdated, the versions that problems of a document come from never go
-- back.
theorem Issued.pairwise_versions
    (run : Issued c (fun s is _ => s.InOrder uri is) s is) :
    (versions uri is).Pairwise (· ≥ ·) := by
  induction run
  case start => exact .nil
  case event s is run e inOrder hi =>
    obtain ⟨v, stems⟩ := s.exists_stems (c := c) e
    have new {v' : Nat} (mem : v' ∈ versions uri (s.issues c e).reverse) : v' = v := by
      obtain ⟨i, found, _, rfl⟩ := mem_versions.mp mem
      exact stems.version i <| List.mem_reverse.mp found
    rw [versions_append, List.pairwise_append]
    refine ⟨?new, hi, ?between⟩
    case new =>
      refine List.pairwise_of_forall_mem_list fun a ha b hb => ?_
      exact Nat.le_of_eq <| (new hb).trans (new ha).symm
    case between =>
      intro a ha b hb
      rw [new ha]
      obtain ⟨later, _⟩ | told := stems.origin
      · obtain ⟨i, mem, _, rfl⟩ := mem_versions.mp hb
        exact Nat.le_of_lt <| Nat.lt_of_le_of_lt (run.bounded.issued i mem) later
      · obtain ⟨i, mem, rfl, _⟩ := mem_versions.mp ha
        obtain ⟨t, started, live, rfl, mayPublish⟩ := told i <| List.mem_reverse.mp mem
        exact Nat.le_of_not_lt fun newer => inOrder t started ⟨live, mayPublish, b, hb, newer⟩

theorem Issued.shown (run : Issued c (Unasked c) s is)
    {ds : List Diagnostic} (shows : NameMap.get? uri s.workspace.sink = some ds) :
    ∃ i, is.find? (·.uri = uri) = some i ∧ i.problems = ds := by
  induction run generalizing ds
  case start => cases shows
  case event s is _ e ok hi =>
    have follows := s.follows_apply ok uri
    rw [shows, shown_eq, shown_eq] at follows
    rw [List.find?_append]
    cases last : (s.issues c e).reverse.find? (·.uri = uri)
    case some i =>
      rw [last] at follows
      obtain same | same := follows
      all_goals cases same; exact ⟨i, rfl, rfl⟩
    case none =>
      rw [last] at follows
      obtain same | same := follows
      · exact hi same.symm
      · cases same

-- A listener that can read its way to a document, with nobody else doing anything, publishes
-- problems of it that come from its own snapshot.
theorem Issued.comes {index : Nat} {t : Task} {route : Route} {wish : Wish} {result : RebuildResult}
    {snapshot : Snapshot} {later : List Listener} {u : String} {rest : List (String × Option String)}
    (run : Issued c (Unasked c) s is) (task : s.tasks[index]? = some t)
    (live : t.cancelled = false)
    (work : t.work = .notifying route wish result snapshot (.recheck u rest) later)
    (plain : wish.asks = false)
    (reach : reaches s.workspace.store snapshot uri ((u, none) :: rest) = true) :
    ∃ (s' : Session σ) (is' : List Issue), Issued c (Unasked c) s' (is' ++ is) ∧
      snapshot.version ∈ versions uri is' := by
  have goesOn (s : Session σ) (is : List Issue) (run : Issued c (Unasked c) s is)
      (ok : s.requests c (.act index) = false) :
      Issued c (Unasked c) (s.apply c (.act index)) ((s.issues c (.act index)).reverse ++ is) :=
    run.event _ ok
  obtain ⟨s', is', run, _, published⟩ := listener_comes is goesOn run task live work plain reach
  exact ⟨s', is', run, mem_versions.mpr published⟩

-- The versions of the snapshots that published problems of a document come from never go back, so
-- that what is shown of it comes from the latest of them, as long as no listener is outdated. One
-- that is, and that can read its way to the document, publishes problems from a snapshot that has
-- been superseded.
theorem versions_in_order (c : Config) (uri : String) :
    (∀ (s : Session σ) is, Issued c (fun s is e => s.Unasked c is e ∧ s.InOrder uri is) s is →
        (versions uri is).Pairwise (· ≥ ·) ∧
        ∀ ds, NameMap.get? uri s.workspace.sink = some ds → ∃ i, is.find? (·.uri = uri) = some i ∧
          i.problems = ds ∧ ∀ v ∈ versions uri is, v ≤ i.version) ∧
      ∀ (s : Session σ) is, Issued c (Unasked c) s is →
        (∀ ds, NameMap.get? uri s.workspace.sink = some ds →
          ∃ i, is.find? (·.uri = uri) = some i ∧ i.problems = ds) ∧
        ∀ t ∈ s.tasks, t.Outdated uri is → t.work.reaches s.workspace.store uri = true →
          ∃ (s' : Session σ) (is' : List Issue), Issued c (Unasked c) s' (is' ++ is) ∧
            ¬(versions uri (is' ++ is)).Pairwise (· ≥ ·) := by
  refine ⟨fun s is run => ?ordered, fun s is run => ⟨fun ds => run.shown, ?outdated⟩⟩
  case ordered =>
    have ordered := (run.mono fun _ _ _ ok => ok.2).pairwise_versions
    refine ⟨ordered, fun ds shows => ?_⟩
    obtain ⟨i, last, problems⟩ := (run.mono fun _ _ _ ok => ok.1).shown shows
    exact ⟨i, last, problems, fun v => le_version_of_find? ordered last⟩
  case outdated =>
    intro t mem outdated reach
    obtain ⟨index, task⟩ := List.mem_iff_getElem?.mp mem
    obtain ⟨v, published, newer⟩ := outdated.newer
    cases work : t.work
    case notifying route wish result snapshot notice later =>
      rw [work] at reach newer
      cases notice
      case sweep => cases reach
      case recheck u rest =>
        simp only [Work.reaches, Bool.and_eq_true, Bool.not_eq_true'] at reach
        obtain ⟨s', is', run', back⟩ := run.comes task outdated.live work reach.1 reach.2
        refine ⟨s', is', run', fun ordered => ?_⟩
        rw [versions_append, List.pairwise_append] at ordered
        exact Nat.not_le_of_lt newer <| ordered.2.2 _ back _ published
    -- No other call has documents ahead.
    all_goals rw [work] at reach; cases reach

-- Two rebuilds have put their snapshots into place, and their listeners wait to read the same
-- document. One after the other they publish problems of it in order. If the second one comes first,
-- the first one is outdated.
theorem versions_in_order_of_two :
    let c := Config.ofPace ⟨4, true⟩
    let store : MemoryStore := {}
    let es : List (Event MemoryStore) := [.openDocument "a.gorch" (some ""),
      .openDocument "b.gorch" none, .call 0 .refresh, .act 0, .act 0, .act 0, .call 1 .refresh,
      .act 1, .act 1, .act 1, .store (·.put "b.gorch" "")]
    let is := (ofStore store).published c (es ++ [.act 0, .act 0])
    let js := (ofStore store).published c (es ++ [.act 1])
    versions "b.gorch" is = [2, 1] ∧ (versions "b.gorch" is).Pairwise (· ≥ ·) ∧
      versions "b.gorch" js = [2] ∧ ∃ (s' : Session MemoryStore) (js' : List Issue),
        Issued c (Unasked c) s' (js' ++ js) ∧ ¬(versions "b.gorch" (js' ++ js)).Pairwise (· ≥ ·) := by
  intro c store es is js
  let s := (ofStore store).after c (es ++ [.act 1])
  have ordered : (ofStore store).Allows c
      (fun s is e => s.Unasked c is e ∧ s.InOrder "b.gorch" is) [] (es ++ [.act 0, .act 0]) := by
    decide +kernel
  have unasked : (ofStore store).Allows c (Unasked c) [] (es ++ [.act 1]) := by decide +kernel
  have facts : versions "b.gorch" is = [2, 1] ∧ versions "b.gorch" js = [2] ∧
      ∃ t ∈ s.tasks, t.Outdated "b.gorch" js ∧ t.work.reaches s.workspace.store "b.gorch" = true := by
    decide +kernel
  obtain ⟨first, second, t, mem, outdated, reach⟩ := facts
  have ⟨inOrder, back⟩ := versions_in_order (σ := MemoryStore) c "b.gorch"
  exact ⟨first, (inOrder _ is <| issued_of_events store ordered).1, second,
    (back s js <| issued_of_events store unasked).2 t mem outdated reach⟩

-- The problems of the second document come from the second rebuild's snapshot, in which a fragment
-- is missing no more, until the first rebuild's listener has read the first document.
theorem versions_go_back :
    let c := Config.ofPace ⟨4, true⟩
    let store : MemoryStore := {}
    let es : List (Event MemoryStore) := [.openDocument "a.gorch" none,
      .openDocument "b.gorch" (some "UNFOLD(\"x\")"), .call 0 .refresh, .act 0, .act 0, .act 0,
      .openDocument "a.gorch" (some ""), .openDocument "b.gorch" (some ""), .call 1 .refresh,
      .act 1, .act 1, .act 1, .store (·.put "a.gorch" ""), .act 0]
    let s := (ofStore store).after c es
    let is := (ofStore store).published c es
    Issued c (Unasked c) s is ∧ s.tasks.length = 0 ∧ versions "b.gorch" is = [1, 2] ∧
      (NameMap.get? "b.gorch" s.workspace.sink).map (·.map (·.code)) = some [.fragmentNotFound] := by
  intro c store es s is
  have unasked : (ofStore store).Allows c (Unasked c) [] es := by decide +kernel
  exact ⟨issued_of_events store unasked, by decide +kernel⟩

end Session

end FlowIndex
