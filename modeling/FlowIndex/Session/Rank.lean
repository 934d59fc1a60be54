import FlowIndex.Session.Step

namespace FlowIndex

-- Ranks are ordered lexicographically, since the length of a listing is known only when it is made.
structure Rank where
  phase : Nat
  outer : Nat := 0
  part : Nat := 0
  inner : Nat := 0
deriving DecidableEq, Repr

namespace Rank

def toProd (r : Rank) : Nat × Nat × Nat × Nat :=
  (r.phase, r.outer, r.part, r.inner)

instance : WellFoundedRelation Rank :=
  invImage toProd inferInstance

instance : LT Rank := ⟨WellFoundedRelation.rel⟩

theorem lt_iff {r s : Rank} :
    r < s ↔ r.phase < s.phase ∨ r.phase = s.phase ∧ (r.outer < s.outer ∨ r.outer = s.outer ∧
      (r.part < s.part ∨ r.part = s.part ∧ r.inner < s.inner)) := by
  show Prod.Lex (· < ·) (Prod.Lex (· < ·) (Prod.Lex (· < ·) (· < ·))) r.toProd s.toProd ↔ _
  simp only [Prod.lex_def, toProd]

theorem lt_trans {r s t : Rank} (h₁ : r < s) (h₂ : s < t) : r < t := by
  rw [lt_iff] at *
  omega

end Rank

def ScanStage.rank : ScanStage → Rank
  | .listFlows => { phase := 11 }
  | .readFlow _ rest => { phase := 10, outer := rest.length }
  | .listHosts => { phase := 9 }
  | .readHost _ rest => { phase := 8, outer := rest.length, part := 1 }
  | .stampHost _ _ rest => { phase := 8, outer := rest.length }
  | .done => { phase := 7 }

theorem ScanStage.rank_flows {uris : List String} :
    (ScanStage.flows uris).rank < { phase := 10, outer := uris.length } := by
  cases uris <;> simp [flows, rank, Rank.lt_iff]

theorem ScanStage.rank_hosts {uris : List String} :
    (ScanStage.hosts uris).rank < { phase := 8, outer := uris.length } := by
  cases uris <;> simp [hosts, rank, Rank.lt_iff]

theorem Scan.stage_takeListing {scan next : Scan} {kind : DocumentKind}
    {stage : List String → ScanStage} {listing : Except Failure (List String)}
    (h : scan.takeListing kind stage listing = .ok next) : ∃ uris, next.stage = stage uris := by
  unfold takeListing at h
  split at h <;> cases h
  · exact ⟨_, rfl⟩
  · exact ⟨[], rfl⟩

theorem Scan.stage_skip {scan next : Scan} {stage : ScanStage} {f : Failure}
    (h : scan.skip stage f = .ok next) : next.stage = stage := by
  unfold skip at h
  split at h <;> cases h
  rfl

namespace Sweep

def part : Sweep → Nat
  | .list => 1
  | .read _ _ _ => 0

def left : Sweep → Nat
  | .list => 0
  | .read _ rest _ => rest.length

end Sweep

namespace Notice

def part : Notice → Nat
  | .recheck _ _ => 0
  | .sweep s => s.part

def left : Notice → Nat
  | .recheck _ rest => rest.length
  | .sweep s => s.left

end Notice

def Work.rank : Work → Rank
  -- The phases are numbered from the last to the first. A query may follow a rebuild but never the
  -- other way round, so all queries come below all parts of a rebuild.
  | .queued _ => { phase := 13 }
  | .comparing (.start _) _ rest _ => { phase := 12, outer := rest.length }
  | .scanning _ _ scan => scan.stage.rank
  | .notifying _ _ _ _ notice later =>
    { phase := 6, outer := later.length, part := notice.part, inner := notice.left }
  | .comparing (.question _) _ rest _ => { phase := 5, outer := rest.length }
  | .reading _ _ => { phase := 4 }
  | .sweeping s => { phase := 3, part := s.part, inner := s.left }
  | .listingHosts _ _ => { phase := 2 }
  | .searching _ _ _ rest => { phase := 1, outer := rest.length }
  | .idling => { phase := 0 }

def Progress.Below (r : Rank) : Progress → Prop
  | .waits w => w.rank < r
  | _ => True

theorem Progress.Below.mono {r s : Rank} {p : Progress} (h : p.Below r) (hrs : ¬s < r) :
    p.Below s := by
  cases p with
  | waits w =>
    have h : w.rank < r := h
    show w.rank < s
    rw [Rank.lt_iff] at *
    omega
  | ends _ => trivial
  | stays => trivial

namespace Workspace

variable {σ : Type} {c : Config} {w : Workspace σ}

theorem finish_below {o : Outcome} {r : Rank} : (w.finish o).2.Below r :=
  trivial

theorem await_below {work : Work} {r : Rank} (h : work.rank < r) : (w.await work).2.Below r :=
  h

theorem checkText_below {uri text : String} {r : Rank} : (w.checkText uri text).2.Below r := by
  unfold checkText
  split <;> exact finish_below

theorem resolve_below {q : Resolution.Sought} : (w.resolve c q).2.Below { phase := 3 } := by
  unfold resolve
  split
  · exact finish_below
  · split
    · exact finish_below
    · split
      · exact await_below (by simp [Work.rank, Rank.lt_iff])
      · exact finish_below

theorem define_below {text : String} {p : Position} :
    (w.define c text p).2.Below { phase := 3 } := by
  unfold define
  split
  · exact finish_below
  · exact resolve_below

theorem hoverAt_below {text : String} {p : Position} :
    (w.hoverAt text p).2.Below { phase := 3 } := by
  unfold hoverAt
  repeat' split
  all_goals first | exact finish_below | exact await_below (by simp [Work.rank, Rank.lt_iff])

theorem endSearch_below {name : String} {found : Option Struct} {goal : SearchGoal} {r : Rank} :
    (w.endSearch name found goal).2.Below r := by
  cases goal <;> exact finish_below

theorem search_below {name : String} {goal : SearchGoal} {uris : List String} :
    (w.search name goal uris).2.Below { phase := 1, outer := uris.length } := by
  cases uris with
  | nil => exact endSearch_below
  | cons => exact await_below (by simp [Work.rank, Rank.lt_iff])

theorem compareFor_below {q : StaleQuestion} {stale left : List Struct} :
    (w.compareFor q stale left).2.Below { phase := 5, outer := left.length } := by
  cases left with
  | nil => cases q <;> exact finish_below
  | cons => exact await_below (by simp [Work.rank, Rank.lt_iff])

theorem openQuery_below {q : Query} : (w.openQuery c q).2.Below { phase := 6 } := by
  unfold openQuery
  split
  all_goals first
    | exact finish_below
    | exact checkText_below
    | exact await_below (by simp [Work.rank, Rank.lt_iff])
    | exact define_below.mono (by simp [Rank.lt_iff])
    | exact hoverAt_below.mono (by simp [Rank.lt_iff])
    | exact resolve_below.mono (by simp [Rank.lt_iff])
    | exact compareFor_below.mono (by simp [Rank.lt_iff])

theorem recheck_left {s : Snapshot} {items : List (String × Option String)} {notice : Notice}
    {w' : Workspace σ} (h : w.recheck s items = (w', some notice)) :
    notice.part = 0 ∧ notice.left < items.length := by
  induction items generalizing w with
  | nil => cases h
  | cons item rest ih =>
    obtain ⟨uri, text⟩ := item
    cases text with
    | none => cases h; simp [Notice.part, Notice.left]
    | some text =>
      unfold recheck at h
      split at h
      · have := ih h
        simp
        omega
      · cases h

variable [DocumentStore σ]

theorem grant_below {result : Option RebuildResult} {wish : Wish} :
    (w.grant c result wish).2.Below { phase := 6 } := by
  cases wish with
  | query q => exact openQuery_below
  | _ => trivial

theorem beginRebuild_below {route : Route} {wish : Wish} :
    (w.beginRebuild c route wish).2.Below { phase := 12 } := by
  unfold beginRebuild
  split
  · exact grant_below.mono (by simp [Rank.lt_iff])
  · exact await_below (by simp [Work.rank, ScanStage.rank, Rank.lt_iff])

theorem compareBefore_below {wish : Wish} {stale left : List Struct} :
    (w.compareBefore c wish stale left).2.Below { phase := 12, outer := left.length } := by
  cases left with
  | cons => exact await_below (by simp [Work.rank, Rank.lt_iff])
  | nil =>
    show (if stale.isEmpty then _ else _ : Step σ).2.Below _
    split
    · exact grant_below.mono (by simp [Rank.lt_iff])
    · exact beginRebuild_below

theorem start_below {wish : Wish} : (w.start c wish).2.Below { phase := 13 } := by
  unfold start
  split
  · exact beginRebuild_below.mono (by simp [Rank.lt_iff])
  · exact compareBefore_below.mono (by simp [Rank.lt_iff])

theorem announce_below {route : Route} {wish : Wish} {result : RebuildResult} {s : Snapshot}
    {ls : List Listener} :
    (w.announce c route wish result s ls).2.Below { phase := 6, outer := ls.length } := by
  induction ls generalizing w with
  | nil => exact grant_below
  | cons l later ih =>
    unfold announce
    split
    · exact await_below (by simp [Work.rank, Rank.lt_iff])
    · exact ih.mono (by simp [Rank.lt_iff])

theorem scan_rank {scan next : Scan} (h : scan.step c.extractor w.store = .ok next)
    (hd : next.stage ≠ .done) : next.stage.rank < scan.stage.rank := by
  unfold Scan.step at h
  split at h <;> rename_i hs <;> rw [hs]
  case h_1 =>
    obtain ⟨uris, hu⟩ := Scan.stage_takeListing h
    rw [hu]
    exact Rank.lt_trans ScanStage.rank_flows (by simp [ScanStage.rank, Rank.lt_iff])
  case h_2 uri rest =>
    have hn : next.stage = .flows rest := by
      split at h
      · cases h; rfl
      · exact Scan.stage_skip h
    rw [hn]
    exact ScanStage.rank_flows
  case h_3 =>
    obtain ⟨uris, hu⟩ := Scan.stage_takeListing h
    rw [hu]
    exact Rank.lt_trans ScanStage.rank_hosts (by simp [ScanStage.rank, Rank.lt_iff])
  case h_4 =>
    split at h
    · cases h
      simp [ScanStage.rank, Rank.lt_iff]
    · rw [Scan.stage_skip h]
      exact Rank.lt_trans ScanStage.rank_hosts (by simp [ScanStage.rank, Rank.lt_iff])
  case h_5 uri text rest =>
    have hn : next.stage = .hosts rest := by
      split at h
      · cases h; rfl
      · exact Scan.stage_skip h
    rw [hn]
    exact ScanStage.rank_hosts
  case h_6 =>
    cases h
    exact absurd hs hd

theorem scanStep_below {route : Route} {wish : Wish} {scan : Scan} :
    (w.scanStep c route wish scan).2.Below scan.stage.rank := by
  have low {n : Nat} : ¬scan.stage.rank < Rank.mk 6 n 0 0 := by
    cases scan.stage <;> simp [ScanStage.rank, Rank.lt_iff]
  unfold scanStep
  split
  · exact grant_below.mono low
  · rename_i next h
    split
    · exact announce_below.mono low
    · rename_i hd
      exact await_below (scan_rank h hd)

theorem sweepStep_left {sweep next : Sweep} {w' : Workspace σ}
    (h : w.sweepStep sweep = (w', .more next)) :
    next.part < sweep.part ∨ next.part = sweep.part ∧ next.left < sweep.left := by
  have of_on {checked : List (String × List Diagnostic)} {uris : List String}
      (h : SweepStep.on checked uris = .more next) : next.part = 0 ∧ next.left < uris.length := by
    cases uris with
    | nil => cases h
    | cons => cases h; simp [Sweep.part, Sweep.left]
  cases sweep with
  | list =>
    simp only [sweepStep] at h
    split at h
    · simp only [Prod.mk.injEq] at h
      exact .inl (by rw [(of_on h.2).1]; exact Nat.one_pos)
    · cases h
  | read uri rest checked =>
    simp only [sweepStep] at h
    split at h
    · cases h
    · split at h
      · simp only [Prod.mk.injEq] at h
        exact .inr (of_on h.2)
      · cases h

theorem noticeStep_left {s : Snapshot} {notice next : Notice} {w' : Workspace σ}
    (h : w.noticeStep s notice = (w', some next)) :
    next.part < notice.part ∨ next.part = notice.part ∧ next.left < notice.left := by
  cases notice with
  | recheck uri rest =>
    simp only [noticeStep] at h
    split at h
    · split at h
      · exact .inr (recheck_left h)
      · cases h
    · exact .inr (recheck_left h)
    · cases h
  | sweep sweep =>
    simp only [noticeStep] at h
    split at h
    · rename_i hs
      cases h
      exact sweepStep_left hs
    · cases h
    · cases h

theorem openCall_below {call : Call} : (w.openCall c call).2.Below (Work.queued call).rank := by
  unfold openCall
  split
  · exact openQuery_below.mono (by simp [Work.rank, Rank.lt_iff])
  · exact beginRebuild_below.mono (by simp [Work.rank, Rank.lt_iff])
  · exact beginRebuild_below.mono (by simp [Work.rank, Rank.lt_iff])
  · exact start_below
  · exact start_below
  · exact await_below (by simp [Work.rank, Rank.lt_iff])

theorem notifyStep_below {route : Route} {wish : Wish} {result : RebuildResult} {s : Snapshot}
    {notice : Notice} {later : List Listener} :
    (w.notifyStep c route wish result s notice later).2.Below
      (Work.notifying route wish result s notice later).rank := by
  unfold notifyStep
  split
  · rename_i h
    refine await_below ?_
    simpa [Work.rank, Rank.lt_iff] using noticeStep_left h
  · exact announce_below.mono (by simp [Work.rank, Rank.lt_iff])

omit [DocumentStore σ] in
theorem useText_below {d : SourceDocument} {uri : String} {why : Reading} :
    (w.useText c d why).2.Below (Work.reading uri why).rank := by
  unfold useText
  split
  · exact finish_below
  · exact checkText_below
  · exact define_below.mono (by simp [Work.rank, Rank.lt_iff])
  · exact hoverAt_below.mono (by simp [Work.rank, Rank.lt_iff])

theorem searchStep_below {name : String} {goal : SearchGoal} {uri : String} {rest : List String} :
    (w.searchStep c name goal uri rest).2.Below (Work.searching name goal uri rest).rank := by
  unfold searchStep
  split
  · exact search_below
  · exact endSearch_below
  · split
    · exact endSearch_below
    · exact endSearch_below
    · exact search_below

theorem step_below {work : Work} : (w.step c work).2.Below work.rank := by
  unfold step
  split
  case h_1 => exact openCall_below
  case h_2 why s rest stale =>
    split
    · exact finish_below
    · cases why with
      | question q => exact compareFor_below
      | start wish => exact compareBefore_below
  case h_3 => exact scanStep_below
  case h_4 => exact notifyStep_below
  case h_5 =>
    split
    · exact finish_below
    · exact useText_below
  case h_6 =>
    split
    · rename_i h
      refine await_below ?_
      simpa [Work.rank, Rank.lt_iff] using sweepStep_left h
    · exact finish_below
    · exact finish_below
  case h_7 =>
    split
    · exact search_below.mono (by simp [Work.rank, Rank.lt_iff])
    · exact endSearch_below
  case h_8 => exact searchStep_below
  case h_9 => exact finish_below

end Workspace

end FlowIndex
