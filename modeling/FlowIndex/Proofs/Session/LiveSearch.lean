import FlowIndex.Proofs.Host.SourceLines
import FlowIndex.Proofs.Session.Agreement

namespace FlowIndex

-- The first struct of a name does not hang on the times of change.
theorem Struct.undated_find? (name : String) (ss : List Struct) :
    (ss.find? (·.name = name)).map undated = (ss.map undated).find? (·.name = name) := by
  rw [List.find?_map]
  rfl

theorem Host.structs_undated {source uri path : String} {time : Int} {parser : Parser}
    {ss : List Struct} (ok : structs source uri path time parser = .ok ss) (time' : Int) :
    ∃ ss', structs source uri path time' parser = .ok ss' ∧
      ss'.map Struct.undated = ss.map Struct.undated := by
  have undated := map_undated_structs source uri path parser time' time
  rw [ok] at undated
  cases other : structs source uri path time' parser
  all_goals rw [other] at undated
  case error => cases undated
  case ok ss' => exact ⟨ss', rfl, Except.ok.inj undated⟩

section Search

variable {σ : Type} [DocumentStore σ] {c : Config} {w : Workspace σ} {goal : SearchGoal}
  {name uri text path : String} {uris rest : List String} {ss : List Struct}

-- The structs that a document declares, if it can be read.
def structsAt (c : Config) (s : σ) (uri : String) : List Struct :=
  match DocumentStore.read s uri, DocumentStore.relativePath s uri with
  | .ok d, .ok path => (Host.structs d.text uri path 0 c.parser).toOption.getD []
  | _, _ => []

-- The structs that the Go documents declare now, in the order in which the documents are listed.
def liveStructs (c : Config) (s : σ) : List Struct :=
  match DocumentStore.list s .host with
  | .ok uris => uris.flatMap (structsAt c s)
  | .error _ => []

-- A document that a search can look at, or that is refused as unreadable.
structure Searchable (c : Config) (s : σ) (uri : String) : Prop where
  refused : ∀ f, DocumentStore.read s uri = .error f → ∃ reason, f = .unreadable uri reason
  declares : ∀ d, DocumentStore.read s uri = .ok d →
    ∃ path ss, DocumentStore.relativePath s uri = .ok path ∧
      Host.structs d.text uri path 0 c.parser = .ok ss

namespace Workspace

-- A search finds the first struct of the name in a document, though it may not look at the text.
theorem structIn_eq (own : DocumentStore.relativePath w.store uri = .ok path)
    (declared : Host.structs text uri path 0 c.parser = .ok ss) :
    w.structIn c name uri text = .ok (ss.find? (·.name = name)) := by
  unfold structIn
  split
  case isTrue =>
    rw [own]
    show Host.findStruct text name uri path 0 c.parser = _
    rw [Host.findStruct, declared]
    rfl
  case isFalse absent =>
    suffices ss.find? (·.name = name) = none by
      rw [this]
      rfl
    refine List.find?_eq_none.mpr fun s mem same => absent ?_
    rw [← of_decide_eq_true same]
    exact Host.occursIn_of_mem_structs declared mem

-- A search ends in a document that declares the struct, and else goes on.
theorem searchStep_eq (searchable : Searchable c w.store uri) :
    w.searchStep c name goal uri rest =
      match (structsAt c w.store uri).find? (·.name = name) with
      | some s => w.endSearch name (some s) goal
      | none => w.search name goal rest := by
  unfold searchStep structsAt
  cases read : DocumentStore.read w.store uri
  case error f =>
    obtain ⟨reason, rfl⟩ := searchable.refused f read
    rfl
  case ok d =>
    obtain ⟨path, ss, own, declared⟩ := searchable.declares d read
    have looks : w.structIn c name uri d.text = .ok (ss.find? (·.name = name)) :=
      structIn_eq own declared
    simp only [own, declared, looks, Except.toOption, Option.getD_some]
    cases ss.find? (·.name = name)
    case none => rfl
    case some s => rfl

theorem proceed_search_structs (searchable : ∀ uri ∈ uris, Searchable c w.store uri) :
    proceed c (w.search name goal uris) =
      w.endSearch name ((uris.flatMap (structsAt c w.store)).find? (·.name = name)) goal := by
  induction uris
  case nil => exact proceed_endSearch
  case cons uri uris hi =>
    obtain ⟨own, others⟩ := List.forall_mem_cons.mp searchable
    have run : proceed c (w.search name goal (uri :: uris)) =
        proceed c (w.searchStep c name goal uri uris) :=
      run_eq_proceed rfl
    rw [run, searchStep_eq own, List.flatMap_cons, List.find?_append]
    cases (structsAt c w.store uri).find? (·.name = name)
    case none => exact hi others
    case some s => exact proceed_endSearch

-- The search finds nothing if the documents cannot be listed.
theorem run_listingHosts (searchable : ∀ uris, DocumentStore.list w.store .host = .ok uris →
    ∀ uri ∈ uris, Searchable c w.store uri) :
    w.run c true (.listingHosts name goal) =
      w.endSearch name ((liveStructs c w.store).find? (·.name = name)) goal := by
  rw [run_eq_proceed rfl, step, liveStructs]
  cases listed : DocumentStore.list w.store .host
  case ok uris => exact proceed_search_structs <| searchable uris listed
  case error => exact proceed_endSearch

omit [DocumentStore σ] in
-- Where a struct stands and how it is shown does not hang on the time of change.
theorem endSearch_undated {found found' : Option Struct}
    (same : found.map Struct.undated = found'.map Struct.undated) :
    w.endSearch name found goal = w.endSearch name found' goal := by
  have undated (found : Option Struct) :
      w.endSearch name found goal = w.endSearch name (found.map Struct.undated) goal := by
    cases found
    all_goals
      cases goal
      all_goals rfl
  rw [undated found, same, ← undated found']

end Workspace

end Search

namespace MemoryStore

-- No Go document that can be read fails to be extracted.
def Extracts (c : Config) (m : MemoryStore) : Prop :=
  ∀ uri d time, m.read uri = .ok d → d.kind = .host → m.modified uri = .ok time →
    (Scan.extract c.extractor m uri d.text time).isOk = true

theorem Extracts.structs {c : Config} {m : MemoryStore} {uri : String} {d : SourceDocument}
    (extracts : m.Extracts c) (kind : kindOf uri = some .host) (read : m.read uri = .ok d) :
    ∃ ss, Host.structs d.text uri uri (m.time uri) c.parser = .ok ss ∧
      m.contents.host c.extractor m.time uri = .ok ss := by
  have stored := contents_read read
  have isHost : d.kind = .host := Option.some.inj <| (kindOf_of_read read).2.symm.trans kind
  have modified := modified_eq <| Scan.OnTrack.text?_of_read stored
  have ok := extracts uri d _ read isHost modified
  have extract : Scan.extract c.extractor m uri d.text (m.time uri) =
      Contents.structs c.extractor uri d.text (m.time uri) :=
    rfl
  rw [extract] at ok
  cases structs : Contents.structs c.extractor uri d.text (m.time uri)
  case error =>
    rw [structs] at ok
    cases ok
  case ok ss =>
    refine ⟨ss, ?_, Contents.host_eq_ok_iff.mpr ⟨d.text, stored, structs⟩⟩
    unfold Contents.structs at structs
    split at structs
    · cases structs
    · exact Contents.mapError_eq_ok_iff.mp structs

theorem Extracts.searchable {c : Config} {m : MemoryStore} {uri : String} (extracts : m.Extracts c)
    (kind : kindOf uri = some .host) : Searchable c m uri where
  refused f failed := by
    have failed : m.read uri = .error f := failed
    obtain ⟨d, read, _⟩ | ⟨reason, read, _⟩ := read_cases (m := m) kind
    case inl => cases read.symm.trans failed
    case inr =>
      cases read.symm.trans failed
      exact ⟨reason, rfl⟩
  declares d read := by
    obtain ⟨ss, ok, _⟩ := extracts.structs kind read
    obtain ⟨ss', ok', _⟩ := Host.structs_undated ok 0
    exact ⟨uri, ss', rfl, ok'⟩

end MemoryStore

namespace Workspace

variable {c : Config} {v : Workspace MemoryStore} {uri : String}

-- What a snapshot holds of a list of documents after a rebuild of the store.
def structsOf (c : Config) (v : Workspace MemoryStore) (uris : List String) : List Struct :=
  (Contents.added <| uris.map <| v.store.contents.host c.extractor v.store.time).flatten

theorem structsOf_cons (uris : List String) :
    v.structsOf c (uri :: uris) = v.structsOf c [uri] ++ v.structsOf c uris := by
  simp only [structsOf, Contents.added, ← List.flatten_append, ← List.filterMap_append,
    List.map_cons, List.map_nil, List.singleton_append]

theorem map_undated_structsAt (extracts : v.store.Extracts c)
    (kind : MemoryStore.kindOf uri = some .host) :
    (structsAt c v.store uri).map Struct.undated = (v.structsOf c [uri]).map Struct.undated := by
  obtain ⟨d, read, _⟩ | ⟨reason, read, refused⟩ := MemoryStore.read_cases (m := v.store) kind
  case inl =>
    obtain ⟨ss, ok, host⟩ := extracts.structs kind read
    obtain ⟨ss', ok', undated⟩ := Host.structs_undated ok 0
    have declared : structsAt c v.store uri = ss' := by
      have read : DocumentStore.read v.store uri = .ok d := read
      have own : DocumentStore.relativePath v.store uri = .ok uri := rfl
      simp only [structsAt, read, own, ok', Except.toOption, Option.getD_some]
    rw [declared, undated]
    simp [structsOf, Contents.added, host]
  case inr =>
    have declared : structsAt c v.store uri = [] := by
      have read : DocumentStore.read v.store uri = .error (.unreadable uri reason) := read
      simp only [structsAt, read]
    simp [declared, structsOf, Contents.added, Contents.host, refused]

-- What the documents declare now is what a rebuild takes in, but for the times of change.
theorem map_undated_flatMap {uris : List String} (extracts : v.store.Extracts c)
    (kinds : ∀ uri ∈ uris, MemoryStore.kindOf uri = some .host) :
    (uris.flatMap (structsAt c v.store)).map Struct.undated =
      (v.structsOf c uris).map Struct.undated := by
  induction uris
  case nil => rfl
  case cons uri uris hi =>
    obtain ⟨kind, rest⟩ := List.forall_mem_cons.mp kinds
    rw [structsOf_cons, List.flatMap_cons, List.map_append, List.map_append, hi rest,
      map_undated_structsAt extracts kind]

-- After a rebuild, a search for a struct finds what the index knows under its name. Only the time of
-- change may be another one.
structure FindsAsIndexed (c : Config) (v : Workspace MemoryStore) : Prop where
  search : ∀ name goal, v.run c true (.listingHosts name goal) =
    v.endSearch name ((liveStructs c v.store).find? (·.name = name)) goal
  found : ∀ name, ((liveStructs c v.store).find? (·.name = name)).map Struct.undated =
    (v.snapshot.findStruct name).map Struct.undated
  location : ∀ name, v.run c true (.listingHosts name .location) =
    (v, .ends (.location ((v.snapshot.findStruct name).map Resolution.locationOf)))
  hover : ∀ name operator span, v.run c true (.listingHosts name (.hover operator span)) =
    (v, .ends (structHover name (v.snapshot.findStruct name) operator span))
  -- No text that declares the struct is passed over.
  looks : ∀ uri text path time ss, Host.structs text uri path time c.parser = .ok ss →
    ∀ s ∈ ss, Text.occursIn s.name.toList text.toList = true

end Workspace

open MemoryStore

-- A search after a rebuild finds what the index holds, whatever the order of the documents, those
-- that declare a struct more than once and those that cannot be read.
theorem findsAsIndexed_afterRebuilds {c : Config} {es : List Edit}
    (reported : (Contents.ofEdits es).Reported)
    (listed : (Contents.ofEdits es).listingFault? .host = none)
    (extracts : (ofEdits es).Extracts c) : AfterRebuilds c es (·.FindsAsIndexed c) := by
  obtain ⟨flows, hosts, ready⟩ := ready_ofEdits reported
  refine afterRebuilds ready fun v before r store rebuilt => ?_
  rw [← contents_ofEdits] at listed
  have all : (ofEdits es).contents.listed .host hosts = hosts := by
    simp only [Contents.listed, listed]
  have list : DocumentStore.list v.store .host = .ok hosts := by
    rw [store]
    exact (list_eq ready.increasing ready.hosts).trans <| by rw [listed]
  have structs : v.snapshot.structs = v.structsOf c hosts := by
    rw [rebuilt.structs, all, Workspace.structsOf, store]
  rw [← store] at extracts
  have kinds : ∀ uri ∈ hosts, kindOf uri = some .host :=
    fun uri mem => ready.hosts.mem uri |>.mp mem |>.2
  have search (name : String) (goal : SearchGoal) : v.run c true (.listingHosts name goal) =
      v.endSearch name ((liveStructs c v.store).find? (·.name = name)) goal := by
    refine Workspace.run_listingHosts fun uris listed uri mem => extracts.searchable <| kinds uri ?_
    rwa [← Except.ok.inj <| listed.symm.trans list]
  have found (name : String) : ((liveStructs c v.store).find? (·.name = name)).map Struct.undated =
      (v.snapshot.findStruct name).map Struct.undated := by
    rw [liveStructs, list, Snapshot.findStruct, structs, Struct.undated_find?, Struct.undated_find?,
      Workspace.map_undated_flatMap extracts kinds]
  have ends (name : String) (goal : SearchGoal) : v.run c true (.listingHosts name goal) =
      v.endSearch name (v.snapshot.findStruct name) goal := by
    rw [search, Workspace.endSearch_undated (found name)]
  exact {
    search
    found
    location := fun name => ends name .location
    hover := fun name operator span => ends name (.hover operator span)
    looks := fun uri text path time ss ok s mem => Host.occursIn_of_mem_structs ok mem }

-- The struct `T` is declared three times, and the first of its documents cannot be read.
theorem findsAsIndexed_of_duplicates :
    let c := Config.ofPace ⟨4, false⟩
    let es : List Edit := [.put "file:///ws/c.go" "package p;type T struct\x7b\x7d",
      .put "file:///ws/b.go" "package q;type T struct\x7bx int\x7d",
      .put "file:///ws/a.go" "package r;type T struct\x7b\x7d",
      .setUnreadable "file:///ws/a.go" true]
    ((Contents.ofEdits es).Reported ∧ (Contents.ofEdits es).listingFault? .host = none ∧
      (ofEdits es).Extracts c) ∧ AfterRebuilds c es fun v => v.FindsAsIndexed c ∧
        v.run c true (.listingHosts "T" .location) =
          (v, .ends (.location (some ⟨"file:///ws/b.go", ⟨⟨0, 15⟩, ⟨0, 30⟩⟩⟩))) := by
  intro c es
  have reported : (Contents.ofEdits es).Reported := by
    intro kind fault h
    cases kind <;> cases h
  have sound : (ofEdits es).Sound c := sound_of_documents (by decide +kernel) (by decide +kernel)
  refine ⟨⟨reported, rfl, sound.extracted⟩, ?_⟩
  refine (findsAsIndexed_afterRebuilds reported rfl sound.extracted).imp fun v store finds => ⟨finds, ?_⟩
  have live : ((liveStructs c (ofEdits es)).find? (·.name = "T")).map Resolution.locationOf =
      some ⟨"file:///ws/b.go", ⟨⟨0, 15⟩, ⟨0, 30⟩⟩⟩ := by
    decide +kernel
  rw [finds.search, store, Workspace.endSearch, live]
  rfl

end FlowIndex
