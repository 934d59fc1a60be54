import FlowIndex.Proofs.Diagnostics
import FlowIndex.Proofs.Index.Lookup
import FlowIndex.Proofs.Session.Dating

namespace FlowIndex

variable {σ : Type} [DocumentStore σ] {P : String → Prop} {c : Config} {store : σ} {older : List σ}

-- The listings of flow documents hold only names of which `P` holds.
def Lists (P : String → Prop) (store : σ) : Prop :=
  ∀ uris, DocumentStore.list store .flow = .ok uris → ∀ uri ∈ uris, P uri

-- The operators of a snapshot are declared in such documents, and their numbers were read.
def Snapshot.Names (P : String → Prop) (s : Snapshot) : Prop :=
  ∀ o ∈ s.operators, P o.uri ∧ o.sequence.repr.length ≤ Text.digitLimit

theorem Snapshot.Names.printable {s : Snapshot} (names : s.Names P)
    (accepted : ∀ uri, P uri → Uri.Accepted uri) : ∀ o ∈ s.operators, Diagnostics.Printable o :=
  fun o mem => ⟨accepted _ (names o mem).1, (names o mem).2⟩

-- The flow documents that a scan has still to read.
def ScanStage.flowsLeft : ScanStage → List String
  | .readFlow uri rest => uri :: rest
  | _ => []

theorem ScanStage.flowsLeft_flows (uris : List String) : (flows uris).flowsLeft = uris := by
  cases uris <;> rfl

theorem ScanStage.flowsLeft_hosts (uris : List String) : (hosts uris).flowsLeft = [] := by
  cases uris <;> rfl

namespace Scan

variable {scan next : Scan} {extractor : Extractor} {uri text : String} {uris : List String}

structure Names (P : String → Prop) (scan : Scan) : Prop where
  operators : ∀ o ∈ scan.operators, P o.uri ∧ o.sequence.repr.length ≤ Text.digitLimit
  left : ∀ uri ∈ scan.stage.flowsLeft, P uri

namespace Names

theorem start : Names P {} :=
  ⟨nofun, nofun⟩

theorem pass (names : scan.Names P) (operators : next.operators = scan.operators)
    (left : ∀ uri ∈ next.stage.flowsLeft, P uri) : next.Names P :=
  ⟨operators ▸ names.operators, left⟩

theorem takeListing (names : scan.Names P) {kind : DocumentKind} {stages : List String → ScanStage}
    {listing : Except Failure (List String)} (empty : (stages []).flowsLeft = [])
    (listed : ∀ uris, listing = .ok uris → ∀ uri ∈ (stages uris).flowsLeft, P uri)
    (ok : scan.takeListing kind stages listing = .ok next) : next.Names P := by
  unfold Scan.takeListing at ok
  split at ok
  all_goals cases ok
  case h_1 uris => exact names.pass rfl <| listed uris rfl
  case h_4 => exact names.pass rfl <| by simp [empty]

theorem skip (names : scan.Names P) {stage : ScanStage} {fault : Failure}
    (left : ∀ uri ∈ stage.flowsLeft, P uri) (ok : scan.skip stage fault = .ok next) :
    next.Names P := by
  unfold Scan.skip at ok
  split at ok
  all_goals cases ok
  exact names.pass rfl left

theorem takeFlow (names : scan.Names P) (named : P uri) :
    ∀ o ∈ (takeFlow extractor scan uri text).operators,
      P o.uri ∧ o.sequence.repr.length ≤ Text.digitLimit := by
  unfold Scan.takeFlow
  split
  case h_1 found declared =>
    intro o mem
    obtain mem | mem := List.mem_append.mp mem
    case inl => exact names.operators o mem
    case inr =>
      exact ⟨(uri_of_mem_operators declared o mem).symm ▸ named,
        short_of_mem_operators declared o mem⟩
  case h_2 => exact names.operators

theorem operators_takeHost (extractor : Extractor) (store : σ) (scan : Scan) (uri text : String)
    (time : Int) : (takeHost extractor store scan uri text time).operators = scan.operators := by
  unfold takeHost
  split
  all_goals rfl

theorem step (names : scan.Names P) (lists : Lists P store)
    (ok : scan.step extractor store = .ok next) : next.Names P := by
  have hosts (uris : List String) : ∀ uri ∈ (ScanStage.hosts uris).flowsLeft, P uri := by
    simp [ScanStage.flowsLeft_hosts]
  unfold Scan.step at ok
  split at ok
  case h_1 =>
    refine names.takeListing rfl (fun uris listing => ?_) ok
    rw [ScanStage.flowsLeft_flows]
    exact lists uris listing
  case h_2 uri rest stage =>
    have left := names.left
    rw [stage] at left
    obtain ⟨own, others⟩ := List.forall_mem_cons.mp left
    have flows : ∀ uri ∈ (ScanStage.flows rest).flowsLeft, P uri := by
      rwa [ScanStage.flowsLeft_flows]
    split at ok
    case h_1 =>
      cases ok
      exact ⟨names.takeFlow own, flows⟩
    case h_2 => exact names.skip flows ok
  case h_3 => exact names.takeListing rfl (fun uris _ => hosts uris) ok
  case h_4 =>
    split at ok
    case h_1 =>
      cases ok
      exact names.pass rfl nofun
    case h_2 => exact names.skip (hosts _) ok
  case h_5 =>
    split at ok
    case h_1 =>
      cases ok
      exact names.pass (operators_takeHost ..) (hosts _)
    case h_2 => exact names.skip (hosts _) ok
  case h_6 =>
    cases ok
    exact names

end Names

end Scan

namespace Session

variable {s : Session σ}

-- As long as all stores list such names only, so do the index and the scans under way.
theorem Past.names (past : Past c s older) (lists : ∀ store ∈ older, Lists P store) :
    s.Holds (Snapshot.Names P) (Scan.Names P) := by
  induction past
  case start =>
    exact ⟨fun _ mem => absurd mem List.not_mem_nil, fun _ mem => absurd mem List.not_mem_nil⟩
  case event _ e hi =>
    obtain ⟨present, lists⟩ := List.forall_mem_cons.mp lists
    exact (hi lists).apply e .start (fun _ names => names)
      (fun _ _ names step => names.step present step) (fun _ names => names)
      fun _ _ names => names.operators

end Session

end FlowIndex
