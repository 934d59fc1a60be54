import FlowIndex.Proofs.Diagnostics
import FlowIndex.Proofs.Session.Listed
import FlowIndex.Proofs.Session.Tracking

namespace FlowIndex

variable {σ : Type} {c : Config} {w w' w₁ w₂ : Workspace σ} {route : Route}
  {wish : Wish} {result : RebuildResult} {s : Snapshot} {uri text : String}
  {buffer : Option String} {items rest all : List (String × Option String)}
  {later ls : List Listener}

theorem NameMap.Increasing.get?_head {α : Type} {e : String × α} {m : List (String × α)}
    (h : Increasing (e :: m)) : get? e.1 m = none := by
  obtain ⟨above, _⟩ := List.pairwise_cons.mp h
  cases found : get? e.1 m
  case none => rfl
  case some a => exact absurd (above _ (mem_of_get? found)) (String.lt_irrefl _)

namespace Workspace

variable [DocumentStore σ]

-- The text that an open document is checked with: the unsaved one, or else the one in the store.
def currentText? (store : σ) (uri : String) (buffer : Option String) : Option String :=
  buffer.or ((DocumentStore.read store uri).toOption.map (·.text))

-- What is published for an open document.
def problemsOf (s : Snapshot) (store : σ) (uri : String) (buffer : Option String) :
    Option (List Diagnostic) :=
  (currentText? store uri buffer).bind fun text => (diagnose s uri text).toOption

-- Some open documents were checked, and everything else stayed as it was.
structure Rechecks (s : Snapshot) (items : List (String × Option String)) (w w' : Workspace σ) :
    Prop where
  silent : w'.silent = w.silent
  sink : ∀ uri, NameMap.get? uri w'.sink =
    match NameMap.get? uri items with
    | some buffer => problemsOf s w.store uri buffer
    | none => NameMap.get? uri w.sink

namespace Rechecks

theorem refl : Rechecks s [] w w :=
  ⟨rfl, fun _ => rfl⟩

theorem single (silent : w'.silent = w.silent)
    (own : NameMap.get? uri w'.sink = problemsOf s w.store uri buffer)
    (others : ∀ u, u ≠ uri → NameMap.get? u w'.sink = NameMap.get? u w.sink) :
    Rechecks s [(uri, buffer)] w w' := by
  refine ⟨silent, fun u => ?_⟩
  rw [NameMap.get?_cons]
  by_cases same : u = uri
  case pos => simpa [same] using own
  case neg => simpa [same, NameMap.get?_nil] using others u same

-- Documents that are checked twice are told the same both times.
theorem trans (first : Rechecks s items w w₁) (second : Rechecks s rest w₁ w₂)
    (both : ∀ uri, NameMap.get? uri all = (NameMap.get? uri rest).or (NameMap.get? uri items)) :
    Rechecks s all w w₂ := by
  refine ⟨second.silent.trans first.silent, fun u => ?_⟩
  rw [second.sink u, both u]
  cases NameMap.get? u rest
  case none => exact first.sink u
  case some buffer => rw [Option.some_or, store_of_silent first.silent]

theorem cons (increasing : NameMap.Increasing ((uri, buffer) :: rest))
    (first : Rechecks s [(uri, buffer)] w w₁) (others : Rechecks s rest w₁ w₂) :
    Rechecks s ((uri, buffer) :: rest) w w₂ := by
  refine first.trans others fun u => ?_
  rw [NameMap.get?_cons, NameMap.get?_cons, NameMap.get?_nil]
  by_cases same : u = uri
  case pos =>
    have absent : NameMap.get? uri rest = none := increasing.get?_head
    simp [same, absent]
  case neg => simp [same]

end Rechecks

section Rounds

-- All that is read of a store is a document, or refused as unreadable.
def Refuses (store : σ) : Prop :=
  ∀ uri f, DocumentStore.read store uri = .error f → ∃ u reason, f = .unreadable u reason

variable (printable : ∀ o ∈ s.operators, Diagnostics.Printable o)
include printable

theorem exists_publish (current : currentText? w.store uri buffer = some text) :
    ∃ w₁ ds, w.publish s uri text = .ok (w₁, ds) ∧ Rechecks s [(uri, buffer)] w w₁ := by
  obtain ⟨ds, told, _⟩ := Diagnostics.diagnose_parts printable uri text
  refine ⟨{ w with sink := NameMap.set uri ds w.sink }, ds, by rw [publish, told]; rfl, ?_⟩
  refine .single rfl ?_ fun u other => ?_
  · rw [NameMap.get?_set, if_pos rfl, problemsOf, current, Option.bind_some, told]
    rfl
  · rw [NameMap.get?_set, if_neg other]

-- Goes on after a listener: waits for it, or tells the others.
def relay (c : Config) (route : Route) (wish : Wish) (result : RebuildResult) (s : Snapshot)
    (later : List Listener) : Workspace σ × Option Notice → Step σ
  | (w, some notice) => w.await (.notifying route wish result s notice later)
  | (w, none) => w.announce c route wish result s later

omit printable in
theorem announce_cons (l : Listener) : w.announce c route wish result s (l :: later) =
    relay c route wish result s later (w.tell s l) := by
  rw [announce]
  cases w.tell s l with
  | mk w₁ notice => cases notice <;> rfl

omit printable in
theorem notifyStep_eq (notice : Notice) : w.notifyStep c route wish result s notice later =
    relay c route wish result s later (w.noticeStep s notice) := by
  rw [notifyStep]
  cases w.noticeStep s notice with
  | mk w₁ notice => cases notice <;> rfl

omit printable in
theorem proceed_await (notice : Notice) :
    proceed c (w.await (.notifying route wish result s notice later)) =
      proceed c (relay c route wish result s later (w.noticeStep s notice)) := by
  have ready : (Work.notifying route wish result s notice later).isBlocked true = false := rfl
  show w.run c true _ = _
  rw [run_eq_proceed ready, ← notifyStep_eq]
  rfl

-- A round over open documents comes to its end, whatever is in them.
theorem proceed_recheck (refuses : Refuses w.store) (increasing : NameMap.Increasing items) :
    ∃ w₂, proceed c (relay c route wish result s later (w.recheck s items)) =
        proceed c (w₂.announce c route wish result s later) ∧ Rechecks s items w w₂ := by
  induction items generalizing w
  case nil => exact ⟨w, rfl, .refl⟩
  case cons item rest hi =>
    obtain ⟨uri, buffer⟩ := item
    -- The first document is checked, and so are the others afterwards.
    have after {w₁ : Workspace σ} (first : Rechecks s [(uri, buffer)] w w₁) :
        ∃ w₂, proceed c (relay c route wish result s later (w₁.recheck s rest)) =
          proceed c (w₂.announce c route wish result s later) ∧
            Rechecks s ((uri, buffer) :: rest) w w₂ := by
      have refuses : Refuses w₁.store := store_of_silent first.silent ▸ refuses
      obtain ⟨w₂, ends, others⟩ := hi refuses increasing.of_cons
      exact ⟨w₂, ends, first.cons increasing others⟩
    cases buffer
    case some text =>
      have current : currentText? w.store uri (some text) = some text := rfl
      obtain ⟨w₁, ds, published, first⟩ := exists_publish printable current
      have step : w.recheck s ((uri, some text) :: rest) = w₁.recheck s rest := by
        rw [recheck, published]
      rw [step]
      exact after first
    case none =>
      have wait : w.recheck s ((uri, none) :: rest) = (w, some (.recheck uri rest)) := rfl
      rw [wait, relay, proceed_await]
      cases read : DocumentStore.read w.store uri
      case ok d =>
        have current : currentText? w.store uri none = some d.text := by
          rw [currentText?, read]
          rfl
        obtain ⟨w₁, ds, published, first⟩ := exists_publish printable current
        have step : w.noticeStep s (.recheck uri rest) = w₁.recheck s rest := by
          simp only [noticeStep, read, published]
        rw [step]
        exact after first
      case error f =>
        obtain ⟨u, reason, rfl⟩ := refuses uri f read
        have step : w.noticeStep s (.recheck uri rest) = (w.withdraw uri).recheck s rest := by
          simp only [noticeStep, read]
        rw [step]
        refine after <| .single rfl ?_ fun u other => ?_
        · simp [withdraw, NameMap.get?_erase, problemsOf, currentText?, read, Except.toOption]
        · simp [withdraw, NameMap.get?_erase, other]

-- The documents that listeners check.
def checkedBy (w : Workspace σ) (ls : List Listener) : List (String × Option String) :=
  if .openDocuments ∈ ls then w.opened else []

-- All listeners are told. Those that only hear of it publish nothing.
theorem proceed_announce (refuses : Refuses w.store) (increasing : NameMap.Increasing w.opened)
    (quiet : .report ∉ ls) :
    ∃ w₂, proceed c (w.announce c route wish result s ls) =
        proceed c ((w₂.leave c route).grant c (some result) wish) ∧
      Rechecks s (w.checkedBy ls) w w₂ := by
  induction ls generalizing w
  case nil => exact ⟨w, rfl, .refl⟩
  case cons l later hi =>
    simp only [List.mem_cons, not_or] at quiet
    have rest {w₁ : Workspace σ} (silent : w₁.silent = w.silent) :
        ∃ w₂, proceed c (w₁.announce c route wish result s later) =
            proceed c ((w₂.leave c route).grant c (some result) wish) ∧
          Rechecks s (w.checkedBy later) w₁ w₂ := by
      have opened : w₁.opened = w.opened := opened_of_silent silent
      have refuses : Refuses w₁.store := store_of_silent silent ▸ refuses
      have := hi refuses (opened ▸ increasing) quiet.2
      rwa [checkedBy, opened] at this
    rw [announce_cons]
    cases l
    case report => exact absurd rfl quiet.1
    case observer tag fails =>
      have heard : Rechecks s [] w (w.tell s (.observer tag fails)).1 := ⟨rfl, fun _ => rfl⟩
      obtain ⟨w₂, ends, others⟩ := rest heard.silent
      refine ⟨w₂, ends, heard.trans others fun u => ?_⟩
      simp [checkedBy, NameMap.get?_nil]
    case openDocuments =>
      obtain ⟨w₁, round, checked⟩ := proceed_recheck (s := s) printable refuses increasing
      obtain ⟨w₂, ends, others⟩ := rest checked.silent
      refine ⟨w₂, round.trans ends, checked.trans others fun u => ?_⟩
      by_cases again : Listener.openDocuments ∈ later
      all_goals simp [checkedBy, again, NameMap.get?_nil]

end Rounds

-- What a rebuild that succeeds does to the problems that were published.
structure Rechecked (w w' : Workspace σ) : Prop where
  store : w'.store = w.store
  opened : w'.opened = w.opened
  version : w'.snapshot.version = w.snapshot.version + 1
  buffered : ∀ uri text, NameMap.get? uri w.opened = some (some text) →
    ∃ ds, diagnose w'.snapshot uri text = .ok ds ∧ NameMap.get? uri w'.sink = some ds
  stored : ∀ uri d, NameMap.get? uri w.opened = some none →
    DocumentStore.read w.store uri = .ok d →
    ∃ ds, diagnose w'.snapshot uri d.text = .ok ds ∧ NameMap.get? uri w'.sink = some ds
  missing : ∀ uri f, NameMap.get? uri w.opened = some none →
    DocumentStore.read w.store uri = .error f → NameMap.get? uri w'.sink = none
  others : ∀ uri, NameMap.get? uri w.opened = none →
    NameMap.get? uri w'.sink = NameMap.get? uri w.sink

theorem Rechecks.rechecked {scan : Scan} (names : (scan.snapshot w.snapshot).Names Uri.Accepted)
    (rechecks : Rechecks (scan.snapshot w.snapshot) w.opened (w.swapped scan) w') :
    Rechecked w w' := by
  have snapshot : w'.snapshot = scan.snapshot w.snapshot := snapshot_of_silent rechecks.silent
  have printable := names.printable fun _ accepted => accepted
  have sink {uri : String} {buffer : Option String}
      (mem : NameMap.get? uri w.opened = some buffer) :
      NameMap.get? uri w'.sink = problemsOf (scan.snapshot w.snapshot) w.store uri buffer := by
    rw [rechecks.sink uri, mem]
    rfl
  have told {uri text : String} {buffer : Option String}
      (mem : NameMap.get? uri w.opened = some buffer)
      (current : currentText? w.store uri buffer = some text) :
      ∃ ds, diagnose w'.snapshot uri text = .ok ds ∧ NameMap.get? uri w'.sink = some ds := by
    obtain ⟨ds, told, _⟩ := Diagnostics.diagnose_parts printable uri text
    refine ⟨ds, by rw [snapshot, told], ?_⟩
    rw [sink mem, problemsOf, current, Option.bind_some, told]
    rfl
  have store : w'.store = (w.swapped scan).store := store_of_silent rechecks.silent
  have opened : w'.opened = (w.swapped scan).opened := opened_of_silent rechecks.silent
  refine ⟨store, opened, congrArg Snapshot.version snapshot, ?buffered, ?stored, ?missing, ?others⟩
  case buffered => exact fun uri text mem => told mem rfl
  case stored =>
    intro uri d mem read
    exact told mem <| by simp [currentText?, read, Except.toOption]
  case missing =>
    intro uri f mem read
    rw [sink mem]
    simp [problemsOf, currentText?, read, Except.toOption]
  case others =>
    intro uri absent
    rw [rechecks.sink uri, absent]
    rfl

theorem Rechecked.leave (rechecked : Rechecked w w') : Rechecked w (w'.leave c route) := by
  obtain ⟨store, opened, version, buffered, stored, missing, others⟩ := rechecked
  cases route
  all_goals exact ⟨store, opened, version, buffered, stored, missing, others⟩

end Workspace

theorem MemoryStore.refuses (m : MemoryStore) : Workspace.Refuses m := by
  intro uri f failed
  have failed : m.read uri = .error f := failed
  cases known : kindOf uri
  case none =>
    unfold MemoryStore.read at failed
    simp only [known] at failed
    cases failed
    exact ⟨_, _, rfl⟩
  case some kind =>
    obtain ⟨d, read, _⟩ | ⟨reason, refused, _⟩ := m.read_cases known
    case inl => cases failed.symm.trans read
    case inr =>
      cases failed.symm.trans refused
      exact ⟨_, _, rfl⟩

namespace Workspace

-- A scan comes to its end. If it puts a snapshot into place, the open documents are checked then.
theorem run_scan (route : Route) {w : Workspace MemoryStore} {scan : Scan}
    (names : scan.Names Uri.Accepted) (lists : Lists Uri.Accepted w.store)
    (increasing : NameMap.Increasing w.opened) (listens : .openDocuments ∈ w.listeners)
    (quiet : .report ∉ w.listeners) :
    ∃ w' r, w.run c true (.scanning route .result scan) = (w', .ends (.rebuilt (some r))) ∧
      (r.success = true → Rechecked w w') := by
  have ready : (Work.scanning route .result scan).isBlocked true = false := rfl
  cases step : scan.step c.extractor w.store
  case error f =>
    have ends : w.step c (.scanning route .result scan) =
        ((w.modifySchedule .release).leave c route,
          .ends (.rebuilt (some (scan.failure w.snapshot f)))) := by
      simp only [Workspace.step, scanStep, step, grant, finish]
    exact ⟨_, _, run_ends ready ends, fun success => by cases success⟩
  case ok next =>
    have names : next.Names Uri.Accepted := names.step lists step
    by_cases done : next.stage = .done
    case neg =>
      have lower : next.stage.rank < scan.stage.rank := scan_rank step done
      rw [run_waits ready (scanStep_more step done)]
      exact run_scan route names lists increasing listens quiet
    case pos =>
      let r := next.result w.snapshot
      have held : (next.snapshot w.snapshot).Names Uri.Accepted := names.operators
      have told : ∃ w₂, proceed c ((w.swapped next).announce c route .result r
            (next.snapshot w.snapshot) w.listeners) =
          proceed c ((w₂.leave c route).grant c (some r) .result) ∧
          Rechecks (next.snapshot w.snapshot) ((w.swapped next).checkedBy w.listeners)
            (w.swapped next) w₂ :=
        proceed_announce (held.printable fun _ accepted => accepted) w.store.refuses increasing
          quiet
      obtain ⟨w₂, ends, rechecks⟩ := told
      rw [checkedBy, if_pos listens] at rechecks
      refine ⟨w₂.leave c route, r, ?_, fun _ => (rechecks.rechecked held).leave⟩
      rw [run_eq_proceed ready, scanStep_done step done, ends]
      rfl
termination_by scan.stage.rank
decreasing_by exact lower

-- So does a refresh. It is turned away if another rebuild is under way.
theorem run_refresh {w : Workspace MemoryStore} (lists : Lists Uri.Accepted w.store)
    (increasing : NameMap.Increasing w.opened) (listens : .openDocuments ∈ w.listeners)
    (quiet : .report ∉ w.listeners) :
    ∃ w' r, w.run c true (.queued .refresh) = (w', .ends (.rebuilt (some r))) ∧
      (r.success = true → Rechecked w w') := by
  have ready : (Work.queued .refresh).isBlocked true = false := rfl
  cases busy : w.schedule.busy
  case true =>
    have ends : w.step c (.queued .refresh) = (w, .ends (.rebuilt (some (.busy w.snapshot)))) := by
      simp only [Workspace.step, openCall, beginRebuild, busy, if_true, grant, finish]
    exact ⟨w, _, run_ends ready ends, fun success => by cases success⟩
  case false =>
    let begun := w.modifySchedule (.begin .scheduled)
    have begins : w.step c (.queued .refresh) =
        (begun, .waits (.scanning .scheduled .result {})) := by
      simp only [Workspace.step, openCall, beginRebuild, busy]
      rfl
    obtain ⟨w', r, run, rechecked⟩ :=
      run_scan (c := c) .scheduled (w := begun) .start lists increasing listens quiet
    refine ⟨w', r, (run_waits ready begins).trans run, fun success => ?_⟩
    obtain ⟨store, opened, version, buffered, stored, missing, others⟩ := rechecked success
    exact ⟨store, opened, version, buffered, stored, missing, others⟩

end Workspace

namespace Session

variable {s : Session MemoryStore} {older : List MemoryStore}

-- A refresh with nobody else at work comes to its end. If it succeeds, the open documents are told
-- what is wrong with them by the new snapshot, whatever was published before.
theorem refresh_rechecks (past : Past c s older) (sink : List (String × List Diagnostic))
    (lists : Lists Uri.Accepted s.workspace.store) (quiet : .report ∉ s.workspace.listeners) :
    let w := { s.workspace with sink }
    ∃ w' r, w.run c true (.queued .refresh) = (w', .ends (.rebuilt (some r))) ∧
      (r.success = true → w.Rechecked w') := by
  have tracks := past.tracks
  exact Workspace.run_refresh lists tracks.increasing tracks.listens quiet

open MemoryStore in
-- One of the open documents was not saved, one is unreadable and one is not there. Something was
-- published for a document that is not open, and a listener fails.
theorem refresh_rechecks_unreadable :
    let c := Config.ofPace ⟨4, false⟩
    let es : List Edit := [.put "a.gorch" "REGISTER(\"a\") \x7bOPERATOR(\"x\",\"X\",1)\x7d",
      .put "b.gorch" "", .setUnreadable "b.gorch" true]
    let events : List (Event MemoryStore) := [.store fun _ => ofEdits es,
      .listen (.observer "log" true), .openDocument "a.gorch" none, .openDocument "b.gorch" none,
      .openDocument "c.gorch" none, .openDocument "d.gorch" (some "")]
    let s := (Session.ofStore {}).after c events
    let sink := [("b.gorch", []), ("e.gorch", [])]
    let w := { s.workspace with sink }
    (∃ older, Past c s older) ∧ Lists Uri.Accepted s.workspace.store ∧
      .report ∉ s.workspace.listeners ∧
      ∃ w' r, w.run c true (.queued .refresh) = (w', .ends (.rebuilt (some r))) ∧
        r.success = true ∧ w.Rechecked w' := by
  intro c es events s sink w
  have past : Past c s _ := (Past.start {}).after events
  have lists : Lists Uri.Accepted s.workspace.store := by
    have listed : DocumentStore.list s.workspace.store .flow = .ok ["a.gorch", "b.gorch"] := by
      decide +kernel
    intro uris listed'
    cases listed.symm.trans listed'
    decide +kernel
  have quiet : .report ∉ s.workspace.listeners := by decide
  obtain ⟨w', r, run, rechecked⟩ := refresh_rechecks past sink lists quiet
  have reported : (Contents.ofEdits es).Reported := by
    intro kind fault h
    cases kind <;> cases h
  obtain ⟨flows, hosts, ready⟩ := ready_ofEdits reported
  obtain ⟨v, r', run', _, rebuilt⟩ :=
    w.run_rebuild_ofEdits (c := c) ready rfl rfl (.inr rfl)
  cases run.symm.trans run'
  exact ⟨⟨_, past⟩, lists, quiet, w', r, run, rebuilt.success, rechecked rebuilt.success⟩

end Session

end FlowIndex
