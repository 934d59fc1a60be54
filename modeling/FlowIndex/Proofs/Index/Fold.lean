import FlowIndex.Index.Scan
import FlowIndex.Proofs.Host.Tree
import FlowIndex.Proofs.Store.Memory

namespace FlowIndex

-- Whether a listing that fails counts as an empty one. Any other failure ends a scan.
def Failure.isReported : Failure → Bool
  | unreadable .. | system _ => true
  | _ => false

namespace Contents

variable {α : Type} (k : Contents) (extractor : Scan.Extractor) (time : String → Int)

-- The text of a document, or why it cannot be read.
def read (uri : String) : Except String String :=
  match k.text? uri with
  | none => .error (Failure.unreadable uri "no such document").message
  | some text =>
    if k.unreadable uri then .error (Failure.unreadable uri "permission denied").message
    else .ok text

-- What a flow document adds to the index, or why it adds nothing.
def flow (uri : String) : Except String (List Operator × List Fragment) :=
  match k.read uri with
  | .error message => .error message
  | .ok text => (Scan.declarations extractor uri text).mapError fun message =>
      s!"Failed to extract declarations from {uri}: {message}"

-- The structs of a Go document, or why they cannot be extracted.
def structs (uri text : String) (modified : Int) : Except String (List Struct) :=
  match extractor.hosts.lookup uri with
  | some message => .error message
  | none => (Host.structs text uri uri modified extractor.parser).mapError UriError.message

def host (uri : String) : Except String (List Struct) :=
  match k.read uri with
  | .error message => .error message
  | .ok text => (structs extractor uri text (time uri)).mapError fun message =>
      s!"Failed to extract structs from {uri}: {message}"

-- What remains of the results for several documents: what those that succeed add, and the messages
-- of the others.
def added (results : List (Except String α)) : List α :=
  results.filterMap fun
    | .ok a => some a
    | .error _ => none

def messages (results : List (Except String α)) : List String :=
  results.filterMap fun
    | .ok _ => none
    | .error message => some message

-- A listing that fails is empty, and adds a message.
def listed (kind : DocumentKind) (uris : List String) : List String :=
  match k.listingFault? kind with
  | none => uris
  | some _ => []

def refusals (kind : DocumentKind) : List String :=
  match k.listingFault? kind with
  | none => []
  | some fault => [s!"Failed to list {kind.label} documents: {fault.message}"]

-- What there is after some flow documents.
def afterFlows (flows : List String) : Scan :=
  let results := flows.map (k.flow extractor)
  { operators := (added results).flatMap (·.1)
    fragments := (added results).flatMap (·.2)
    errors := k.refusals .flow ++ messages results }

-- What there is after some flow documents and some Go documents.
def afterHosts (flows hosts : List String) : Scan :=
  let results := hosts.map (k.host extractor time)
  { k.afterFlows extractor flows with
    structs := (added results).flatten
    errors := (k.afterFlows extractor flows).errors ++ (k.refusals .host ++ messages results) }

-- What there is in the end, for the documents of either kind in order.
def fold (flows hosts : List String) : Scan :=
  { k.afterHosts extractor time (k.listed .flow flows) (k.listed .host hosts) with stage := .done }

-- Any failure of a listing counts as an empty listing.
def Reported : Prop :=
  ∀ kind fault, k.listingFault? kind = some fault → fault.isReported = true

variable {k extractor time}

theorem afterFlows_nil : k.afterFlows extractor [] = { errors := k.refusals .flow } := by
  simp [afterFlows, added, messages]

theorem afterHosts_nil {flows : List String} : k.afterHosts extractor time flows [] =
    { k.afterFlows extractor flows with
      errors := (k.afterFlows extractor flows).errors ++ k.refusals .host } := by
  simp [afterHosts, afterFlows, added, messages]

theorem afterFlows_ok {pre : List String} {uri : String} {operators : List Operator}
    {fragments : List Fragment} (h : k.flow extractor uri = .ok (operators, fragments)) :
    k.afterFlows extractor (pre ++ [uri]) = { k.afterFlows extractor pre with
      operators := (k.afterFlows extractor pre).operators ++ operators
      fragments := (k.afterFlows extractor pre).fragments ++ fragments } := by
  simp [afterFlows, added, messages, h]

theorem afterFlows_error {pre : List String} {uri message : String}
    (h : k.flow extractor uri = .error message) :
    k.afterFlows extractor (pre ++ [uri]) = (k.afterFlows extractor pre).report message := by
  simp [afterFlows, added, messages, h, Scan.report]

theorem afterHosts_ok {flows pre : List String} {uri : String} {structs : List Struct}
    (h : k.host extractor time uri = .ok structs) :
    k.afterHosts extractor time flows (pre ++ [uri]) = { k.afterHosts extractor time flows pre with
      structs := (k.afterHosts extractor time flows pre).structs ++ structs } := by
  simp [afterHosts, added, messages, h]

theorem afterHosts_error {flows pre : List String} {uri message : String}
    (h : k.host extractor time uri = .error message) :
    k.afterHosts extractor time flows (pre ++ [uri]) =
      (k.afterHosts extractor time flows pre).report message := by
  simp [afterHosts, added, messages, h, Scan.report]

end Contents

namespace MemoryStore

variable {m : MemoryStore}

-- What makes a scan of a store come to its end.
structure Ready (m : MemoryStore) (flows hosts : List String) : Prop where
  increasing : NameMap.Increasing m.documents
  flows : m.contents.Lists .flow flows
  hosts : m.contents.Lists .host hosts
  reported : m.contents.Reported

theorem ready_ofEdits {es : List Edit} (reported : (Contents.ofEdits es).Reported) :
    ∃ flows hosts, (ofEdits es).Ready flows hosts :=
  ⟨_, _, ofEdits_increasing, lists_contents ofEdits_increasing .flow,
    lists_contents ofEdits_increasing .host, by rwa [contents_ofEdits]⟩

-- The time of change of a document.
def time (m : MemoryStore) (uri : String) : Int :=
  ((NameMap.get? uri m.documents).map fun d => (d.written : Int)).getD 0

theorem list_eq {kind : DocumentKind} {uris : List String} (h : NameMap.Increasing m.documents)
    (lists : m.contents.Lists kind uris) : m.list kind =
      match m.contents.listingFault? kind with
      | none => .ok uris
      | some fault => .error fault := by
  rw [lists.unique <| lists_contents h kind]
  unfold list contents
  cases kind
  case flow => cases m.flowListing <;> rfl
  case host => cases m.hostListing <;> rfl

theorem read_cases {kind : DocumentKind} {uri : String} (hk : kindOf uri = some kind) :
    (∃ d, m.read uri = .ok d ∧ m.contents.read uri = .ok d.text) ∨
      ∃ reason, m.read uri = .error (.unreadable uri reason) ∧
        m.contents.read uri = .error (Failure.unreadable uri reason).message := by
  unfold read Contents.read contents
  simp only [hk]
  cases NameMap.get? uri m.documents
  case none => exact .inr ⟨"no such document", rfl, rfl⟩
  case some d =>
    by_cases hu : m.unreadable.contains uri = true
    case pos => exact .inr ⟨"permission denied", if_pos hu, if_pos hu⟩
    case neg => exact .inl ⟨⟨uri, kind, d.text, d.written⟩, if_neg hu, if_neg hu⟩

theorem modified_eq {uri text : String} (h : m.contents.text? uri = some text) :
    m.modified uri = .ok (m.time uri) := by
  unfold contents at h
  unfold modified time
  cases hd : NameMap.get? uri m.documents
  case none => simp [hd] at h
  case some d => rfl

end MemoryStore

namespace Scan

-- How far a scan got with the documents of some contents.
inductive OnTrack (k : Contents) (extractor : Extractor) (time : String → Int)
    (flows hosts : List String) : Scan → Prop
  | start : OnTrack k extractor time flows hosts {}
  | flow {pre rest : List String} {uri : String} (left : k.listed .flow flows = pre ++ uri :: rest) :
    OnTrack k extractor time flows hosts
      { k.afterFlows extractor pre with stage := .readFlow uri rest }
  | flowsDone : OnTrack k extractor time flows hosts
      { k.afterFlows extractor (k.listed .flow flows) with stage := .listHosts }
  | host {pre rest : List String} {uri : String} (left : k.listed .host hosts = pre ++ uri :: rest) :
    OnTrack k extractor time flows hosts
      { k.afterHosts extractor time (k.listed .flow flows) pre with stage := .readHost uri rest }
  -- The text is read, and the time of change comes next.
  | stamp {pre rest : List String} {uri text : String}
      (left : k.listed .host hosts = pre ++ uri :: rest) (read : k.read uri = .ok text) :
    OnTrack k extractor time flows hosts
      { k.afterHosts extractor time (k.listed .flow flows) pre with stage := .stampHost uri text rest }
  | done : OnTrack k extractor time flows hosts (k.fold extractor time flows hosts)

namespace OnTrack

variable {k : Contents} {extractor : Extractor} {time : String → Int} {flows hosts : List String}
  {scan : Scan}

theorem flows_left (pre : List String) {rest : List String} (left : k.listed .flow flows = pre ++ rest) :
    OnTrack k extractor time flows hosts { k.afterFlows extractor pre with stage := .flows rest } := by
  cases rest
  case nil =>
    rw [List.append_nil] at left
    rw [← left]
    exact .flowsDone
  case cons uri rest => exact .flow left

theorem hosts_left (pre : List String) {rest : List String} (left : k.listed .host hosts = pre ++ rest) :
    OnTrack k extractor time flows hosts
      { k.afterHosts extractor time (k.listed .flow flows) pre with stage := .hosts rest } := by
  cases rest
  case nil =>
    rw [List.append_nil] at left
    rw [← left]
    exact .done
  case cons uri rest => exact .host left

theorem eq_fold (track : OnTrack k extractor time flows hosts scan) (done : scan.stage = .done) :
    scan = k.fold extractor time flows hosts := by
  cases track
  case done => rfl
  all_goals cases done

theorem takeListing_eq {m : MemoryStore} {kind : DocumentKind} {uris : List String}
    {next : List String → ScanStage} (increasing : NameMap.Increasing m.documents)
    (lists : m.contents.Lists kind uris)
    (reported : ∀ fault, m.contents.listingFault? kind = some fault → fault.isReported = true) :
    scan.takeListing kind next (m.list kind) = .ok { scan with
      errors := scan.errors ++ m.contents.refusals kind
      stage := next (m.contents.listed kind uris) } := by
  rw [MemoryStore.list_eq increasing lists]
  cases hf : m.contents.listingFault? kind
  case none => simp [takeListing, Contents.refusals, Contents.listed, hf]
  case some fault =>
    have reported := reported fault hf
    cases fault <;> simp [Failure.isReported] at reported
    all_goals simp [takeListing, Contents.refusals, Contents.listed, hf, report]

theorem takeFlow_eq {pre : List String} {uri text : String} {stage next : ScanStage}
    (read : k.read uri = .ok text) :
    { takeFlow extractor { k.afterFlows extractor pre with stage } uri text with stage := next } =
      { k.afterFlows extractor (pre ++ [uri]) with stage := next } := by
  cases hd : declarations extractor uri text
  case ok found =>
    have flow : k.flow extractor uri = .ok (found.1, found.2) := by
      simp only [Contents.flow, read, hd]
      rfl
    simp only [takeFlow, hd, Contents.afterFlows_ok flow]
  case error message =>
    have flow : k.flow extractor uri =
        .error s!"Failed to extract declarations from {uri}: {message}" := by
      simp only [Contents.flow, read, hd]
      rfl
    simp only [takeFlow, hd, Contents.afterFlows_error flow, report]

theorem takeHost_eq {m : MemoryStore} {pre : List String} {uri text : String}
    {stage next : ScanStage} (read : k.read uri = .ok text) :
    { takeHost extractor m { k.afterHosts extractor time flows pre with stage } uri text (time uri) with
        stage := next } =
      { k.afterHosts extractor time flows (pre ++ [uri]) with stage := next } := by
  have extract : extract extractor m uri text (time uri) = Contents.structs extractor uri text (time uri) :=
    rfl
  cases hs : Contents.structs extractor uri text (time uri)
  case ok found =>
    have host : k.host extractor time uri = .ok found := by
      simp only [Contents.host, read, hs]
      rfl
    simp only [takeHost, extract, hs, Contents.afterHosts_ok host]
  case error message =>
    have host : k.host extractor time uri =
        .error s!"Failed to extract structs from {uri}: {message}" := by
      simp only [Contents.host, read, hs]
      rfl
    simp only [takeHost, extract, hs, Contents.afterHosts_error host, report]

theorem kindOf_of_left {kind : DocumentKind} {uris pre rest : List String} {uri : String}
    (lists : k.Lists kind uris) (left : k.listed kind uris = pre ++ uri :: rest) :
    MemoryStore.kindOf uri = some kind := by
  refine lists.mem uri |>.mp ?_ |>.2
  unfold Contents.listed at left
  split at left
  · rw [left]
    simp
  · simp at left

theorem text?_of_read {uri text : String} (read : k.read uri = .ok text) :
    k.text? uri = some text := by
  unfold Contents.read at read
  split at read
  · cases read
  · split at read <;> cases read
    assumption

-- Each step keeps a scan on track. In particular it does not fail.
theorem step {m : MemoryStore} (ready : m.Ready flows hosts)
    (track : OnTrack m.contents extractor m.time flows hosts scan) :
    ∃ next, scan.step extractor m = .ok next ∧
      OnTrack m.contents extractor m.time flows hosts next := by
  cases track
  case start =>
    refine ⟨_, takeListing_eq ready.increasing ready.flows (ready.reported .flow), ?_⟩
    have track : OnTrack m.contents extractor m.time flows hosts _ :=
      flows_left [] (List.nil_append (m.contents.listed .flow flows)).symm
    rwa [Contents.afterFlows_nil] at track
  case flow pre rest uri left =>
    have track : OnTrack m.contents extractor m.time flows hosts _ :=
      flows_left (pre ++ [uri]) (left.trans <| List.append_cons ..)
    obtain ⟨d, hr, text⟩ | ⟨reason, hr, refused⟩ :=
      MemoryStore.read_cases <| kindOf_of_left ready.flows left
    · refine ⟨_, ?_, track⟩
      have hr : DocumentStore.read m uri = .ok d := hr
      simp only [Scan.step, hr, takeFlow_eq text]
    · refine ⟨_, ?_, track⟩
      have hr : DocumentStore.read m uri = .error (.unreadable uri reason) := hr
      have flow : m.contents.flow extractor uri = .error (Failure.unreadable uri reason).message := by
        simp only [Contents.flow, refused]
      simp only [Scan.step, hr, skip, report, Contents.afterFlows_error flow]
  case flowsDone =>
    refine ⟨_, takeListing_eq ready.increasing ready.hosts (ready.reported .host), ?_⟩
    have track : OnTrack m.contents extractor m.time flows hosts _ :=
      hosts_left [] (List.nil_append (m.contents.listed .host hosts)).symm
    rwa [Contents.afterHosts_nil] at track
  case host pre rest uri left =>
    obtain ⟨d, hr, text⟩ | ⟨reason, hr, refused⟩ :=
      MemoryStore.read_cases <| kindOf_of_left ready.hosts left
    · refine ⟨_, ?_, .stamp left text⟩
      have hr : DocumentStore.read m uri = .ok d := hr
      simp only [Scan.step, hr]
    · refine ⟨_, ?_, hosts_left (pre ++ [uri]) (left.trans <| List.append_cons ..)⟩
      have hr : DocumentStore.read m uri = .error (.unreadable uri reason) := hr
      have host : m.contents.host extractor m.time uri =
          .error (Failure.unreadable uri reason).message := by
        simp only [Contents.host, refused]
      simp only [Scan.step, hr, skip, report, Contents.afterHosts_error host]
  case stamp pre rest uri text left read =>
    refine ⟨_, ?_, hosts_left (pre ++ [uri]) (left.trans <| List.append_cons ..)⟩
    have hm : DocumentStore.modified m uri = .ok (m.time uri) :=
      MemoryStore.modified_eq <| text?_of_read read
    simp only [Scan.step, hm, takeHost_eq read]
  case done => exact ⟨_, rfl, .done⟩

end OnTrack

end Scan

namespace Contents

variable {k : Contents} {extractor : Scan.Extractor} {time time' : String → Int} {flows hosts : List String}

-- A rebuild succeeded: from the index of `before` to that of `after`, with the result `r`.
structure Rebuilt (k : Contents) (extractor : Scan.Extractor) (time : String → Int)
    (flows hosts : List String) (before after : Snapshot) (r : RebuildResult) : Prop where
  success : r.success = true
  version : after.version = before.version + 1 ∧ r.version = after.version
  operators : after.operators =
    (added ((k.listed .flow flows).map (k.flow extractor))).flatMap (·.1)
  fragments : after.fragments =
    (added ((k.listed .flow flows).map (k.flow extractor))).flatMap (·.2)
  structs : after.structs =
    (added ((k.listed .host hosts).map (k.host extractor time))).flatten
  errors : r.errors =
    k.refusals .flow ++ messages ((k.listed .flow flows).map (k.flow extractor)) ++
      (k.refusals .host ++ messages ((k.listed .host hosts).map (k.host extractor time)))
  counts : r.operators = after.operators.length ∧ r.fragments = after.fragments.length ∧
    r.structs = after.structs.length

-- Two rebuilds had the same result, but for the versions and the times of change.
structure Alike (after after' : Snapshot) (r r' : RebuildResult) : Prop where
  operators : after.operators = after'.operators
  fragments : after.fragments = after'.fragments
  structs : after.structs.map Struct.undated = after'.structs.map Struct.undated
  result : { r with version := 0 } = { r' with version := 0 }

theorem rebuilt_fold (before : Snapshot) :
    k.Rebuilt extractor time flows hosts before ((k.fold extractor time flows hosts).snapshot before)
      ((k.fold extractor time flows hosts).result before) where
  success := rfl
  version := ⟨rfl, rfl⟩
  operators := rfl
  fragments := rfl
  structs := rfl
  errors := rfl
  counts := ⟨rfl, rfl, rfl⟩

theorem added_map {α β : Type} {f : α → β} {rs : List (Except String α)} :
    added (rs.map (Except.map f)) = (added rs).map f := by
  induction rs
  case nil => rfl
  case cons r rs hi => cases r <;> simpa [added, Except.map] using hi

theorem messages_map {α β : Type} {f : α → β} {rs : List (Except String α)} :
    messages (rs.map (Except.map f)) = messages rs := by
  induction rs
  case nil => rfl
  case cons r rs hi => cases r <;> simpa [messages, Except.map] using hi

theorem map_mapError {ε ε' α β : Type} {f : α → β} {g : ε → ε'} (r : Except ε α) :
    (r.mapError g).map f = (r.map f).mapError g := by
  cases r <;> rfl

-- A time of change goes into the structs, and nowhere else.
theorem structs_undated {uri text : String} {t t' : Int} :
    (structs extractor uri text t).map (List.map Struct.undated) =
      (structs extractor uri text t').map (List.map Struct.undated) := by
  unfold structs
  cases extractor.hosts.lookup uri
  case some => rfl
  case none =>
    dsimp only
    rw [map_mapError, map_mapError, Host.map_undated_structs text uri uri extractor.parser t t']

theorem host_undated {uri : String} :
    (k.host extractor time uri).map (List.map Struct.undated) =
      (k.host extractor time' uri).map (List.map Struct.undated) := by
  unfold host
  cases k.read uri
  case error => rfl
  case ok text =>
    show ((structs ..).mapError _).map _ = ((structs ..).mapError _).map _
    rw [map_mapError, map_mapError, structs_undated]

theorem map_host_undated (time' : String → Int) {uris : List String} :
    (uris.map (k.host extractor time)).map (Except.map (List.map Struct.undated)) =
      (uris.map (k.host extractor time')).map (Except.map (List.map Struct.undated)) := by
  rw [List.map_map, List.map_map]
  exact List.map_congr_left fun uri _ => host_undated

theorem Rebuilt.alike {before before' after after' : Snapshot} {r r' : RebuildResult}
    (h : k.Rebuilt extractor time flows hosts before after r)
    (h' : k.Rebuilt extractor time' flows hosts before' after' r') : Alike after after' r r' := by
  have undated : (((k.listed .host hosts).map (k.host extractor time)).map (Except.map _)) = _ :=
    map_host_undated time'
  have operators : after.operators = after'.operators := h.operators.trans h'.operators.symm
  have fragments : after.fragments = after'.fragments := h.fragments.trans h'.fragments.symm
  have structs : after.structs.map Struct.undated = after'.structs.map Struct.undated := by
    have := congrArg (fun results => (added results).flatten) undated
    simpa only [added_map, ← List.map_flatten, ← h.structs, ← h'.structs] using this
  have errors : r.errors = r'.errors := by
    have := congrArg messages undated
    rw [messages_map, messages_map] at this
    rw [h.errors, h'.errors, this]
  have count : after.structs.length = after'.structs.length := by
    simpa only [List.length_map] using congrArg List.length structs
  refine ⟨operators, fragments, structs, ?_⟩
  obtain ⟨c₁, c₂, c₃⟩ := h.counts
  obtain ⟨d₁, d₂, d₃⟩ := h'.counts
  rw [operators] at c₁
  rw [fragments] at c₂
  rw [count] at c₃
  simp only [h.success, h'.success, c₁, c₂, c₃, d₁, d₂, d₃, errors]

end Contents

end FlowIndex
