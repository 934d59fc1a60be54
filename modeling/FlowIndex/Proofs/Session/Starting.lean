import FlowIndex.Proofs.Session.Listed

namespace FlowIndex

variable {σ : Type} {P : String → Prop} {c : Config} {w w' : Workspace σ} {route : Route}
  {result : RebuildResult} {s : Snapshot}

-- What is left of a start before its query is asked.
inductive Errand
  | begin
  | comparing (struct : Struct) (rest stale : List Struct)
  | scanning (route : Route) (scan : Scan)
  | notifying (route : Route) (result : RebuildResult) (s : Snapshot) (notice : Notice)
      (later : List Listener)

namespace Errand

def work (q : Query) : Errand → Work
  | .begin => .queued (.start (.query q))
  | .comparing x rest stale => .comparing (.start (.query q)) x rest stale
  | .scanning route scan => .scanning route (.query q) scan
  | .notifying route result s notice later => .notifying route (.query q) result s notice later

-- A scan under way has to do only with names of which `P` holds.
def Names (P : String → Prop) : Errand → Prop
  | .scanning _ scan => scan.Names P
  | _ => True

theorem isBlocked_work (e : Errand) (q : Query) : (e.work q).isBlocked true = false := by
  cases e <;> rfl

end Errand

namespace Workspace

-- The store is as it was, and the names in the index are still ones of which `P` holds.
structure Kept (P : String → Prop) (w w' : Workspace σ) : Prop where
  store : w'.store = w.store
  names : w'.snapshot.Names P

theorem Kept.of_silent (names : w.snapshot.Names P) (silent : w'.silent = w.silent) :
    Kept P w w' :=
  ⟨store_of_silent silent, by rwa [snapshot_of_silent silent]⟩

-- Where a step before the query leads to, whatever the query is.
inductive Goes (P : String → Prop) (c : Config) (w : Workspace σ) : (Query → Step σ) → Prop
  | on {w' : Workspace σ} (kept : Kept P w w') (e : Errand) (names : e.Names P) :
    Goes P c w fun q => (w', .waits (e.work q))
  | asks {w' : Workspace σ} (kept : Kept P w w') : Goes P c w fun q => w'.openQuery c q
  | fails {w' : Workspace σ} (kept : Kept P w w') (f : Failure) :
    Goes P c w fun _ => (w', .ends (.failed f))

theorem Goes.of_store {st : Query → Step σ} (store : w'.store = w.store) (goes : Goes P c w' st) :
    Goes P c w st := by
  cases goes
  case on kept e names => exact .on ⟨kept.store.trans store, kept.names⟩ e names
  case asks kept => exact .asks ⟨kept.store.trans store, kept.names⟩
  case fails kept f => exact .fails ⟨kept.store.trans store, kept.names⟩ f

variable [DocumentStore σ]

section Steps

variable (names : w.snapshot.Names P)
include names

theorem beginRebuild_goes : Goes P c w fun q => w.beginRebuild c route (.query q) := by
  unfold beginRebuild
  cases w.schedule.busy
  case true => exact .asks ⟨rfl, names⟩
  case false =>
    have kept : Kept P w (w.modifySchedule (.begin route)) := ⟨rfl, names⟩
    exact .on kept (.scanning route {}) .start

theorem compareBefore_goes (stale left : List Struct) :
    Goes P c w fun q => w.compareBefore c (.query q) stale left := by
  cases left
  case cons x rest => exact .on ⟨rfl, names⟩ (.comparing x rest stale) trivial
  case nil =>
    unfold compareBefore
    cases stale.isEmpty
    case true => exact .asks ⟨rfl, names⟩
    case false => exact beginRebuild_goes names

theorem start_goes : Goes P c w fun q => w.start c (.query q) := by
  unfold start
  cases w.needsUpdate
  case true => exact beginRebuild_goes names
  case false => exact compareBefore_goes names _ _

theorem announce_goes (ls : List Listener) :
    Goes P c w fun q => w.announce c route (.query q) result s ls := by
  induction ls generalizing w
  case nil =>
    have snapshot : (w.leave c route).snapshot.Names P := by rwa [leave_snapshot]
    exact .asks ⟨leave_store, snapshot⟩
  case cons l later hi =>
    have kept := Kept.of_silent names (w.tell_silent s l)
    unfold announce
    generalize w.tell s l = told at kept
    obtain ⟨w₁, notice⟩ := told
    cases notice
    case none => exact .of_store kept.store (hi kept.names)
    case some notice => exact .on kept (.notifying route result s notice later) trivial

theorem notifyStep_goes (notice : Notice) (later : List Listener) :
    Goes P c w fun q => w.notifyStep c route (.query q) result s notice later := by
  have kept := Kept.of_silent names (w.noticeStep_silent s notice)
  unfold notifyStep
  generalize w.noticeStep s notice = told at kept
  obtain ⟨w₁, notice⟩ := told
  cases notice
  case none => exact .of_store kept.store (announce_goes kept.names later)
  case some notice => exact .on kept (.notifying route result s notice later) trivial

theorem scanStep_goes {scan : Scan} (own : scan.Names P) (lists : Lists P w.store) :
    Goes P c w fun q => w.scanStep c route (.query q) scan := by
  unfold scanStep
  cases step : scan.step c.extractor w.store
  case error f =>
    have snapshot : ((w.modifySchedule .release).leave c route).snapshot.Names P := by
      rwa [leave_snapshot]
    exact .asks ⟨leave_store, snapshot⟩
  case ok next =>
    have own := own.step lists step
    by_cases done : next.stage = .done
    case pos =>
      simp only [if_pos done]
      have swapped : (w.swapped next).snapshot.Names P := own.operators
      have store : (w.swapped next).store = w.store := rfl
      exact .of_store store (announce_goes swapped _)
    case neg =>
      simp only [if_neg done]
      exact .on ⟨rfl, names⟩ (.scanning route next) own

theorem step_goes (e : Errand) (own : e.Names P) (lists : Lists P w.store) :
    Goes P c w fun q => w.step c (e.work q) := by
  cases e
  case begin => exact start_goes names
  case scanning => exact scanStep_goes names own lists
  case notifying => exact notifyStep_goes names _ _
  case comparing x rest stale =>
    simp only [Errand.work, step]
    cases w.isStale x
    case error f => exact .fails ⟨rfl, names⟩ f
    case ok changed => exact compareBefore_goes names _ _

end Steps

-- An errand comes to an end, and the query is asked then unless it failed.
theorem run_errand {w : Workspace σ} (names : w.snapshot.Names P) (e : Errand) (own : e.Names P)
    (lists : Lists P w.store) :
    ∃ w', Kept P w w' ∧
      ((∀ q, w.run c true (e.work q) = proceed c (w'.openQuery c q)) ∨
        ∃ f, ∀ q, w.run c true (e.work q) = (w', .ends (.failed f))) := by
  have goes := step_goes (c := c) names e own lists
  generalize steps : (fun q => w.step c (e.work q)) = st at goes
  have step (q : Query) : w.step c (e.work q) = st q := congrFun steps q
  have run (q : Query) : w.run c true (e.work q) = proceed c (st q) := by
    rw [run_eq_proceed (e.isBlocked_work q), step]
  cases goes
  case on w₁ kept next later =>
    have lower : (next.work .summary).rank < (e.work .summary).rank := by
      have below : (w.step c (e.work .summary)).2.Below (e.work .summary).rank := step_below
      rwa [step] at below
    obtain ⟨w', kept', asks | ⟨f, fails⟩⟩ := run_errand kept.names next later (by rwa [kept.store])
    all_goals refine ⟨w', ⟨kept'.store.trans kept.store, kept'.names⟩, ?_⟩
    case inl => exact .inl fun q => (run q).trans (asks q)
    case inr => exact .inr ⟨f, fun q => (run q).trans (fails q)⟩
  case asks w' kept => exact ⟨w', kept, .inl run⟩
  case fails w' kept f => exact ⟨w', kept, .inr ⟨f, run⟩⟩
termination_by (e.work .summary).rank
decreasing_by exact lower

end Workspace

end FlowIndex
