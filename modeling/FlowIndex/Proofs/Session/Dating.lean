import FlowIndex.Proofs.Session.Exclusion
import FlowIndex.Proofs.Session.Rebuild

namespace FlowIndex

variable {σ : Type} [DocumentStore σ] {c : Config} {store stamped : σ} {older older' : List σ}
  {x : Struct} {uri text : String}

namespace Host

theorem of_mem_structs {source path : String} {time : Int} {parser : Parser} {ss : List Struct}
    (ok : structs source uri path time parser = .ok ss) (mem : x ∈ ss) :
    x.uri = uri ∧ x.modified = Double.ofInt time := by
  obtain ⟨package, spec, name, _, rfl⟩ := exists_of_mem_structs ok mem
  exact ⟨rfl, rfl⟩

end Host

theorem Scan.of_mem_extract {extractor : Scan.Extractor} {time : Int} {found : List Struct}
    (ok : Scan.extract extractor store uri text time = .ok found) (mem : x ∈ found) :
    x.uri = uri ∧ x.modified = Double.ofInt time := by
  unfold Scan.extract at ok
  cases path : DocumentStore.relativePath store uri
  case error =>
    rw [path] at ok
    cases ok
  case ok path' =>
    rw [path] at ok
    dsimp only [bind, Except.bind, Except.mapError] at ok
    split at ok
    case h_1 => cases ok
    case h_2 =>
      split at ok
      all_goals cases ok
      exact Host.of_mem_structs ‹_› mem

-- A struct was extracted from a text, with the time of change that its document had in `stamped`.
-- The text was read before that, and both in stores among `older`, the latest of which comes first.
structure Dated (c : Config) (older : List σ) (x : Struct) (text : String) (stamped : σ) : Prop where
  read : ∃ before d, [stamped, before].Sublist older ∧ DocumentStore.read before x.uri = .ok d ∧
    d.text = text
  extracted : ∃ time found, DocumentStore.modified stamped x.uri = .ok time ∧
    Scan.extract c.extractor stamped x.uri text time = .ok found ∧ x ∈ found

theorem Dated.mono (dated : Dated c older x text stamped) (sub : older.Sublist older') :
    Dated c older' x text stamped := by
  obtain ⟨⟨before, d, order, read⟩, extracted⟩ := dated
  exact ⟨⟨before, d, order.trans sub, read⟩, extracted⟩

namespace Scan

variable {scan next : Scan}

-- The structs that a scan found are dated, and a text that waits for its time of change was read.
structure Dates (c : Config) (older : List σ) (scan : Scan) : Prop where
  structs : ∀ x ∈ scan.structs, ∃ text stamped, Dated c older x text stamped
  text : ∀ uri text rest, scan.stage = .stampHost uri text rest →
    ∃ before ∈ older, ∃ d, DocumentStore.read before uri = .ok d ∧ d.text = text

namespace Dates

theorem start : Dates c older {} :=
  ⟨nofun, nofun⟩

theorem mono (dates : scan.Dates c older) (sub : older.Sublist older') : scan.Dates c older' where
  structs x mem := by
    obtain ⟨text, stamped, dated⟩ := dates.structs x mem
    exact ⟨text, stamped, dated.mono sub⟩
  text uri text rest stage := by
    obtain ⟨before, mem, read⟩ := dates.text uri text rest stage
    exact ⟨before, sub.mem mem, read⟩

theorem pass (dates : scan.Dates c older) (structs : next.structs = scan.structs)
    (stage : ∀ uri text rest, next.stage ≠ .stampHost uri text rest) :
    next.Dates c (store :: older) where
  structs := by
    rw [structs]
    exact (dates.mono <| List.sublist_cons_self store older).structs
  text uri text rest same := absurd same <| stage uri text rest

theorem flows_ne (uris : List String) (uri text : String) (rest : List String) :
    ScanStage.flows uris ≠ .stampHost uri text rest := by
  cases uris
  all_goals nofun

theorem hosts_ne (uris : List String) (uri text : String) (rest : List String) :
    ScanStage.hosts uris ≠ .stampHost uri text rest := by
  cases uris
  all_goals nofun

theorem structs_takeFlow (extractor : Extractor) (scan : Scan) (uri text : String) :
    (takeFlow extractor scan uri text).structs = scan.structs := by
  unfold takeFlow
  split
  all_goals rfl

theorem takeListing (dates : scan.Dates c older) {kind : DocumentKind}
    {stages : List String → ScanStage} {listing : Except Failure (List String)}
    (elsewhere : ∀ uris uri text rest, stages uris ≠ .stampHost uri text rest)
    (ok : scan.takeListing kind stages listing = .ok next) : next.Dates c (store :: older) := by
  unfold Scan.takeListing at ok
  split at ok
  all_goals cases ok
  all_goals exact dates.pass rfl <| elsewhere _

theorem skip (dates : scan.Dates c older) {stage : ScanStage} {fault : Failure}
    (elsewhere : ∀ uri text rest, stage ≠ .stampHost uri text rest)
    (ok : scan.skip stage fault = .ok next) : next.Dates c (store :: older) := by
  unfold Scan.skip at ok
  split at ok
  all_goals cases ok
  exact dates.pass rfl elsewhere

theorem step (dates : scan.Dates c older) (ok : scan.step c.extractor store = .ok next) :
    next.Dates c (store :: older) := by
  unfold Scan.step at ok
  split at ok
  case h_1 => exact dates.takeListing flows_ne ok
  case h_2 =>
    split at ok
    case h_1 =>
      cases ok
      exact dates.pass (structs_takeFlow ..) (flows_ne _)
    case h_2 => exact dates.skip (flows_ne _) ok
  case h_3 => exact dates.takeListing hosts_ne ok
  case h_4 uri rest stage =>
    split at ok
    case h_1 d read =>
      cases ok
      refine ⟨(dates.mono <| List.sublist_cons_self store older).structs, ?_⟩
      rintro _ _ _ ⟨⟩
      exact ⟨store, List.mem_cons_self, d, read, rfl⟩
    case h_2 => exact dates.skip (hosts_ne _) ok
  case h_5 uri text rest stage =>
    split at ok
    case h_1 time modified =>
      cases ok
      refine ⟨fun x mem => ?_, fun _ _ _ same => absurd same <| hosts_ne rest _ _ _⟩
      have earlier := (dates.mono <| List.sublist_cons_self store older).structs x
      dsimp only at mem
      unfold takeHost at mem
      split at mem
      case h_1 found extract =>
        obtain mem | mem := List.mem_append.mp mem
        case inl => exact earlier mem
        case inr =>
          obtain ⟨before, known, d, read, same⟩ := dates.text uri text rest stage
          obtain ⟨rfl, _⟩ := of_mem_extract extract mem
          have order : [store, before].Sublist (store :: older) :=
            (List.singleton_sublist.mpr known).cons_cons store
          exact ⟨text, store, ⟨before, d, order, read, same⟩, time, found, modified, extract, mem⟩
      case h_2 => exact earlier mem
    case h_2 => exact dates.skip (hosts_ne _) ok
  case h_6 stage =>
    cases ok
    exact dates.pass rfl <| by simp [stage]

end Dates

end Scan

namespace Session

variable {s : Session σ} {e : Event σ} {route : Route} {wish : Wish} {scan : Scan}

-- The sessions that events lead to, with the stores that were left behind on the way, the latest
-- one first. The present store is not among these.
inductive Past (c : Config) : Session σ → List σ → Prop
  | start (store : σ) : Past c (.ofStore store) []
  | event {s : Session σ} {older : List σ} (past : Past c s older) (e : Event σ) :
    Past c (s.apply c e) (s.workspace.store :: older)

-- The stores that events leave behind, the latest one first.
def leaves (c : Config) (s : Session σ) : List (Event σ) → List σ
  | [] => []
  | e :: es => leaves c (s.apply c e) es ++ [s.workspace.store]

theorem Past.after (past : Past c s older) (es : List (Event σ)) :
    Past c (s.after c es) (s.leaves c es ++ older) := by
  induction es generalizing s older
  case nil => exact past
  case cons e es hi =>
    rw [leaves, List.append_assoc]
    exact hi <| past.event e

-- What holds of the snapshot and of all scans under way.
structure Holds (R : Snapshot → Prop) (Q : Scan → Prop) (s : Session σ) : Prop where
  snapshot : R s.workspace.snapshot
  scans : ∀ t ∈ s.tasks, ∀ route wish scan, t.work = .scanning route wish scan → Q scan

-- An event leaves scans and the snapshot as they are, begins a scan, or takes a step of one, whose
-- snapshot may then be put into place.
theorem Holds.apply {R R' : Snapshot → Prop} {Q Q' : Scan → Prop} (holds : s.Holds R Q)
    (e : Event σ) (start : Q' {}) (kept : ∀ scan, Q scan → Q' scan)
    (step : ∀ before next, Q before → before.step c.extractor s.workspace.store = .ok next →
      Q' next)
    (kept' : ∀ v, R v → R' v) (swap : ∀ next v, Q' next → R' (next.snapshot v)) :
    (s.apply c e).Holds R' Q' := by
  refine ⟨?snapshot, fun t mem route wish scan work => ?scans⟩
  case snapshot =>
    obtain ⟨snapshot, _⟩ | ⟨_, t, next, _, task, finishes, snapshot, _⟩ :=
      s.swapped_cases (c := c) e
    case inl =>
      rw [snapshot]
      exact kept' _ holds.snapshot
    case inr =>
      obtain ⟨_, ⟨route, wish, scan, work, taken⟩, _⟩ := finishes
      have before := holds.scans t (List.mem_of_getElem? task) route wish scan work
      rw [snapshot]
      exact swap _ _ (step _ _ before taken)
  case scans =>
    obtain rfl | ⟨t', mem', before, work', rfl | taken⟩ := scanning_apply mem work
    case inl => exact start
    case inr.inl => exact kept _ (holds.scans t' mem' route wish before work')
    case inr.inr => exact step _ _ (holds.scans t' mem' route wish before work') taken

-- The structs of the snapshot and of all scans under way are dated.
structure Dates (c : Config) (older : List σ) (s : Session σ) : Prop where
  snapshot : ∀ x ∈ s.workspace.snapshot.structs, ∃ text stamped, Dated c older x text stamped
  scans : ∀ t ∈ s.tasks, ∀ route wish scan, t.work = .scanning route wish scan →
    scan.Dates c older

theorem Dates.apply (dates : s.Dates c older) (e : Event σ) :
    (s.apply c e).Dates c (s.workspace.store :: older) := by
  let Known (older : List σ) (v : Snapshot) : Prop :=
    ∀ x ∈ v.structs, ∃ text stamped, Dated c older x text stamped
  have longer : older.Sublist (s.workspace.store :: older) := List.sublist_cons_self ..
  have holds : s.Holds (Known older) (Scan.Dates c older) := ⟨dates.snapshot, dates.scans⟩
  have kept (v : Snapshot) (known : Known older v) : Known (s.workspace.store :: older) v := by
    intro x mem
    obtain ⟨text, stamped, dated⟩ := known x mem
    exact ⟨text, stamped, dated.mono longer⟩
  have applied : (s.apply c e).Holds (Known (s.workspace.store :: older))
      (Scan.Dates c (s.workspace.store :: older)) :=
    holds.apply e .start (fun _ dates => dates.mono longer)
      (fun _ _ dates step => dates.step step) kept fun _ _ dates => dates.structs
  exact ⟨applied.snapshot, applied.scans⟩

theorem Past.dates (past : Past c s older) : s.Dates c older := by
  induction past
  case start =>
    exact ⟨fun _ mem => absurd mem List.not_mem_nil, fun _ mem => absurd mem List.not_mem_nil⟩
  case event _ e hi => exact hi.apply e

end Session

end FlowIndex
