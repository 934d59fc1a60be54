import FlowIndex.Proofs.Diagnostics
import FlowIndex.Proofs.Session.Starting
import FlowIndex.Proofs.Store.Spelling

namespace FlowIndex

variable {c : Config} {s : Snapshot} {own u v text : String} {ds ds' all : List Diagnostic}

-- Whether a problem is one of an entry, which is looked up in the index.
def DiagnosticCode.ofEntry : DiagnosticCode → Bool
  | .duplicateName | .duplicateSequence | .structNotFound => true
  | .unregisteredOperator | .fragmentNotFound => false

-- A problem, whatever its document is called.
def Diagnostic.unnamed (d : Diagnostic) : Diagnostic :=
  { d with uri := "" }

namespace Diagnostics

section Foreign

variable (foreign : ∀ o ∈ s.operators, o.uri ≠ u)
include foreign

theorem missingStructs_foreign : missingStructs s u = [] := by
  have none : s.operatorsIn u = [] := by
    simpa [Snapshot.operatorsIn] using foreign
  simp [missingStructs, none]

theorem diagnose_foreign (printable : ∀ o ∈ s.operators, Printable o) (text : String) :
    diagnose s u text =
      .ok (unregisteredCalls s (.ofText u text) ++ missingFragments s (.ofText u text)) := by
  have accepted := fun o mem => (printable o mem).accepted
  obtain ⟨sequences, readSequences, ofSequences⟩ :=
    duplicateSequences_perm accepted (fun o mem => (printable o <| mem_of_mem_sharing mem).short) u
  obtain ⟨names, readNames, ofNames⟩ := duplicateNames_perm accepted u
  have named : (sharing (·.name) s.operators).filter (·.uri = u) = [] := by
    simpa using fun o mem => foreign o (mem_of_mem_sharing mem)
  have numbered : ((sharing (·.sequence) s.operators).filter fun o => o.uri = u ∧ o.sequence ≠ 0) =
      [] := by
    simpa using fun o mem same => absurd same <| foreign o (mem_of_mem_sharing mem)
  rw [numbered] at ofSequences
  rw [named] at ofNames
  rw [diagnose, readSequences, readNames, missingStructs_foreign foreign, ofSequences.eq_nil,
    ofNames.eq_nil]
  simp
  rfl

end Foreign

theorem unnamed_unregisteredCalls (s : Snapshot) (u v text : String) :
    (unregisteredCalls s (.ofText u text)).map (·.unnamed) =
      (unregisteredCalls s (.ofText v text)).map (·.unnamed) := by
  simp only [unregisteredCalls, List.map_map]
  rfl

theorem unnamed_missingFragments (s : Snapshot) (u v text : String) :
    (missingFragments s (.ofText u text)).map (·.unnamed) =
      (missingFragments s (.ofText v text)).map (·.unnamed) := by
  simp only [missingFragments, List.map_map]
  rfl

-- What is told of a document under a name, out of all that is told under its own.
def seen (named : Prop) [Decidable named] (all : List Diagnostic) : List Diagnostic :=
  if named then all else all.filter (!·.code.ofEntry)

theorem filter_ofEntry (codes : ∀ d ∈ ds, d.code.ofEntry = true) :
    (ds.map (·.unnamed)).filter (!·.code.ofEntry) = [] := by
  simpa [Diagnostic.unnamed] using codes

theorem filter_other (codes : ∀ d ∈ ds, d.code.ofEntry = false) :
    (ds.map (·.unnamed)).filter (!·.code.ofEntry) = ds.map (·.unnamed) := by
  simpa [Diagnostic.unnamed] using codes

theorem diagnose_spelled (printable : ∀ o ∈ s.operators, Printable o)
    (foreign : u ≠ own → ∀ o ∈ s.operators, o.uri ≠ u) (told : diagnose s own text = .ok all) :
    ∃ ds, diagnose s u text = .ok ds ∧
      ds.map (·.unnamed) = seen (u = own) (all.map (·.unnamed)) := by
  by_cases same : u = own
  case pos =>
    subst same
    exact ⟨all, told, by simp [seen]⟩
  case neg =>
    obtain ⟨_, told', shared, rfl, codes⟩ := diagnose_parts printable own text
    cases told.symm.trans told'
    refine ⟨_, diagnose_foreign (foreign same) printable text, ?_⟩
    have entries : ∀ d ∈ shared, d.code.ofEntry = true := by
      intro d mem
      obtain code | code := codes d mem
      all_goals rw [code]; rfl
    have structs : ∀ d ∈ missingStructs s own, d.code.ofEntry = true := by
      intro d mem
      obtain ⟨_, _, rfl⟩ := List.mem_map.mp mem
      rfl
    have calls : ∀ d ∈ unregisteredCalls s (.ofText own text), d.code.ofEntry = false := by
      intro d mem
      obtain ⟨_, _, rfl⟩ := List.mem_map.mp mem
      rfl
    have fragments : ∀ d ∈ missingFragments s (.ofText own text), d.code.ofEntry = false := by
      intro d mem
      obtain ⟨_, _, rfl⟩ := List.mem_map.mp mem
      rfl
    rw [seen, if_neg same]
    simp only [List.map_append, List.filter_append, filter_ofEntry entries, filter_other calls,
      filter_other fragments, filter_ofEntry structs, List.nil_append, List.append_nil]
    rw [unnamed_unregisteredCalls s u own, unnamed_missingFragments s u own]

end Diagnostics

namespace Workspace

variable {σ : Type} {w : Workspace σ}

theorem checkText_eq (told : diagnose w.snapshot u text = .ok ds) :
    (w.checkText u text).2 = .ends (.problems ds) := by
  simp only [checkText, publish, told]
  rfl

variable [DocumentStore σ]

theorem proceed_check_text (told : diagnose w.snapshot u text = .ok ds) :
    (proceed c (w.openQuery c (.check u (some text)))).2 = .ends (.problems ds) := by
  have checked := checkText_eq told
  show (proceed c (w.checkText u text)).2 = _
  generalize w.checkText u text = st at checked
  obtain ⟨w', p⟩ := st
  subst checked
  rfl

theorem proceed_check_refused {f : Failure} (read : DocumentStore.read w.store u = .error f) :
    (proceed c (w.openQuery c (.check u none))).2 = .ends (.failed f) := by
  have step : w.step c (.reading u .check) = (w, .ends (.failed f)) := by
    simp only [step, read]
    rfl
  show (w.run c true (.reading u .check)).2 = _
  rw [run_ends rfl step]

theorem proceed_check_read {d : SourceDocument} (read : DocumentStore.read w.store u = .ok d)
    (told : diagnose w.snapshot d.uri d.text = .ok ds) :
    (proceed c (w.openQuery c (.check u none))).2 = .ends (.problems ds) := by
  have step : w.step c (.reading u .check) = w.checkText d.uri d.text := by
    simp only [step, read]
    rfl
  have checked := checkText_eq told
  rw [← step] at checked
  show (w.run c true (.reading u .check)).2 = _
  rw [run_ends rfl (Prod.ext rfl checked)]

end Workspace

-- The outcomes of two checks of a file under the names `u` and `v`, where listings call it `own`.
inductive Alike (own u v : String) : Outcome → Outcome → Prop
  -- Under its own name all problems of its text are told, under others those of entries are not.
  | problems {s : Snapshot} {text : String} {ds ds' all : List Diagnostic}
      (told : diagnose s own text = .ok all)
      (left : ds.map (·.unnamed) = Diagnostics.seen (u = own) (all.map (·.unnamed)))
      (right : ds'.map (·.unnamed) = Diagnostics.seen (v = own) (all.map (·.unnamed)))
      (same : ds.map (·.unnamed) = ds'.map (·.unnamed) ↔
        ((u = own ↔ v = own) ∨ ∀ d ∈ all, d.code.ofEntry = false)) :
    Alike own u v (.problems ds) (.problems ds')
  | failed (f : Failure) : Alike own u v (.failed f) (.failed f)
  | unreadable (reason : String) :
    Alike own u v (.failed (.unreadable u reason)) (.failed (.unreadable v reason))

theorem Alike.of_diagnose (told : diagnose s own text = .ok all)
    (left : ds.map (·.unnamed) = Diagnostics.seen (u = own) (all.map (·.unnamed)))
    (right : ds'.map (·.unnamed) = Diagnostics.seen (v = own) (all.map (·.unnamed))) :
    Alike own u v (.problems ds) (.problems ds') := by
  refine .problems told left right ?_
  rw [left, right]
  have kept : (all.map (·.unnamed)).filter (!·.code.ofEntry) = all.map (·.unnamed) ↔
      ∀ d ∈ all, d.code.ofEntry = false := by
    rw [List.filter_eq_self]
    simp [Diagnostic.unnamed]
  have kept' := eq_comm.trans kept
  by_cases hu : u = own <;> by_cases hv : v = own
  all_goals simp [Diagnostics.seen, hu, hv, kept, kept']

namespace Request

variable {w : Workspace FileStore} {f : FileStore} {path : String} {rest : List String}

-- What a request calls a document leads to the file at the components `rest` below the root.
def LeadsTo (c : Config) (f : FileStore) (path : String) (rest : List String) : Prop :=
  ∃ uri, documentUri c path = .ok uri ∧ f.LeadsTo uri rest

-- A request to check a document, with the name that it is checked under and the outcome. Plain paths
-- are turned into the name that listings use.
structure Checks (c : Config) (w : Workspace FileStore) (own path : String) (text : Option String)
    (u : String) (o : Outcome) : Prop where
  uri : documentUri c path = .ok u
  plain : path.startsWith "file://" = false → u = own
  ends : (w.run c true (.queued ((checkDocument path text).call c))).2 = .ends o

theorem uri_of_plain (rooted : Uri.Rooted c f) (plain : path.startsWith "file://" = false)
    (uri : documentUri c path = .ok u) (leads : f.LeadsTo u rest) :
    u = Uri.ofPath (f.root.under rest) := by
  refine leads.eq_of_canonical ?_
  rw [documentUri, plain] at uri
  have resolved := Path.resolved_resolve rooted.cwd
    (rooted.root.join (Path.wellFormed_ofString path))
  exact ⟨_, resolved, (Uri.eq_ofPath_of_ofFile uri).symm⟩

theorem check_cases (h : w.store.WellFormed) (names : w.snapshot.Names Uri.Canonical)
    (rest : List String) (text : Option String) :
    let own := Uri.ofPath (w.store.root.under rest)
    let outcome (u : String) := (Workspace.proceed c (w.openQuery c (.check u text))).2
    (∃ reason, ∀ u, w.store.LeadsTo u rest →
        outcome u = .ends (.failed (.unreadable u reason))) ∨
      ∃ t all, diagnose w.snapshot own t = .ok all ∧ ∀ u, w.store.LeadsTo u rest →
        ∃ ds, outcome u = .ends (.problems ds) ∧
          ds.map (·.unnamed) = Diagnostics.seen (u = own) (all.map (·.unnamed)) := by
  intro own outcome
  have printable : ∀ o ∈ w.snapshot.operators, Diagnostics.Printable o :=
    names.printable fun uri ⟨p, resolved, same⟩ => same ▸ Uri.accepted_ofPath resolved
  have foreign (u : String) (leads : w.store.LeadsTo u rest) (other : u ≠ own) :
      ∀ o ∈ w.snapshot.operators, o.uri ≠ u :=
    fun o mem same => other <| leads.eq_of_canonical (same ▸ (names o mem).1)
  have told (t : String) : ∃ all, diagnose w.snapshot own t = .ok all := by
    obtain ⟨all, told, _⟩ := Diagnostics.diagnose_parts printable own t
    exact ⟨all, told⟩
  cases text
  case some t =>
    obtain ⟨all, told⟩ := told t
    refine .inr ⟨t, all, told, fun u leads => ?_⟩
    obtain ⟨ds, diagnosed, seen⟩ := Diagnostics.diagnose_spelled printable (foreign u leads) told
    exact ⟨ds, Workspace.proceed_check_text diagnosed, seen⟩
  case none =>
    have read (u : String) (leads : w.store.LeadsTo u rest) :
        DocumentStore.read w.store u = FileStore.toldOf u (w.store.found rest) := leads.read_eq h
    cases found : w.store.found rest
    case error reason =>
      refine .inl ⟨reason, fun u leads => ?_⟩
      exact Workspace.proceed_check_refused ((read u leads).trans (by rw [found]; rfl))
    case ok contents =>
      obtain ⟨kind, t, revision⟩ := contents
      obtain ⟨all, told⟩ := told t
      refine .inr ⟨t, all, told, fun u leads => ?_⟩
      obtain ⟨ds, diagnosed, seen⟩ := Diagnostics.diagnose_spelled printable (foreign u leads) told
      have read : DocumentStore.read w.store u = .ok ⟨u, kind, t, revision⟩ :=
        (read u leads).trans (by rw [found]; rfl)
      exact ⟨ds, Workspace.proceed_check_read read diagnosed, seen⟩

-- Two requests to check a file, with no symbolic link on the way to it, end alike, unless an entry of
-- the file has a problem and just one of them calls the file as listings do.
theorem checks_alike {s : Session FileStore} {older : List FileStore} {a b : String}
    (text : Option String) (past : Session.Past c s older)
    (files : ∀ f ∈ s.workspace.store :: older, f.WellFormed)
    (rooted : Uri.Rooted c s.workspace.store)
    (ha : LeadsTo c s.workspace.store a rest) (hb : LeadsTo c s.workspace.store b rest) :
    let own := Uri.ofPath (s.workspace.store.root.under rest)
    ∃ u v o o', Checks c s.workspace own a text u o ∧ Checks c s.workspace own b text v o' ∧
      Alike own u v o o' := by
  intro own
  obtain ⟨u, named, leads⟩ := ha
  obtain ⟨v, named', leads'⟩ := hb
  obtain ⟨present, before⟩ := List.forall_mem_cons.mp files
  have lists {f : FileStore} (h : f.WellFormed) : Lists Uri.Canonical f :=
    fun uris list => FileStore.canonical_of_list h list
  have names := (past.names fun f mem => lists (before f mem)).snapshot
  -- Both calls come to the same workspace before they ask their queries.
  obtain ⟨w, kept, runs⟩ :=
    Workspace.run_errand (c := c) names .begin trivial (lists present)
  have checks {path u : String} {o : Outcome} (named : documentUri c path = .ok u)
      (leads : s.workspace.store.LeadsTo u rest)
      (ends : (s.workspace.run c true (.queued (.start (.query (.check u text))))).2 = .ends o) :
      Checks c s.workspace own path text u o := by
    refine ⟨named, fun plain => uri_of_plain rooted plain named leads, ?_⟩
    simpa only [call, aboutDocument, named] using ends
  obtain asks | ⟨f, fails⟩ := runs
  case inr =>
    have ends (u : String) :
        (s.workspace.run c true (.queued (.start (.query (.check u text))))).2 =
          .ends (.failed f) := congrArg Prod.snd (fails (.check u text))
    exact ⟨u, v, _, _, checks named leads (ends u), checks named' leads' (ends v), .failed f⟩
  case inl =>
    have ends {u : String} {o : Outcome}
        (ends : (Workspace.proceed c (w.openQuery c (.check u text))).2 = .ends o) :
        (s.workspace.run c true (.queued (.start (.query (.check u text))))).2 = .ends o :=
      (congrArg Prod.snd (asks (.check u text))).trans ends
    have same : w.store = s.workspace.store := kept.store
    obtain ⟨reason, refused⟩ | ⟨t, all, told, shown⟩ :=
      check_cases (c := c) (same ▸ present) kept.names rest text
    case inl =>
      rw [same] at refused
      exact ⟨u, v, _, _, checks named leads (ends (refused u leads)),
        checks named' leads' (ends (refused v leads')), .unreadable reason⟩
    case inr =>
      rw [same] at told shown
      obtain ⟨ds, problems, left⟩ := shown u leads
      obtain ⟨ds', problems', right⟩ := shown v leads'
      exact ⟨u, v, _, _, checks named leads (ends problems), checks named' leads' (ends problems'),
        .of_diagnose told left right⟩

-- A document with an entry of a struct that no document declares.
theorem checks_alike_escaped :
    let source := Text.utf8 "REGISTER(\"p\") \x7bOPERATOR(\"x\",\"X\",1)\x7d y()".toList
    let tree : FileTree := ⟨[(["ws"], .directory), (["ws", "a.gorch"], .file source 1000)]⟩
    let f : FileStore := { tree, cwd := ["ws"], root := ⟨.root, ["ws"]⟩, excluded := [] }
    let c : Config := { root := ⟨.root, ["ws"]⟩, cwd := ⟨.root, ["ws"]⟩, pace := ⟨4, false⟩ }
    let own := "file:///ws/a.gorch"
    let escaped := "file://localhost/ws/./%61.gorch"
    (f.WellFormed ∧ Uri.Rooted c f ∧ LeadsTo c f "../ws/a.gorch" ["a.gorch"] ∧
      LeadsTo c f escaped ["a.gorch"]) ∧
      ∃ u v o o', Checks c { store := f } own "../ws/a.gorch" none u o ∧
        Checks c { store := f } own escaped none v o' ∧ Alike own u v o o' := by
  intro source tree f c own escaped
  have wellFormed : f.WellFormed := ⟨by decide, by decide, by decide⟩
  have rooted : Uri.Rooted c f := ⟨by decide, by decide, by decide, by decide⟩
  have leads (path uri : String) (named : documentUri c path = .ok uri)
      (stands : FileStore.systemPath uri = .ok ⟨.root, ["ws", "a.gorch"]⟩) :
      LeadsTo c f path ["a.gorch"] :=
    ⟨uri, named, _, stands, by decide, source, 1000, by decide +kernel⟩
  have plain : LeadsTo c f "../ws/a.gorch" ["a.gorch"] :=
    leads _ own (by decide +kernel) (by decide +kernel)
  have other : LeadsTo c f escaped ["a.gorch"] :=
    leads _ escaped (by decide +kernel) (by decide +kernel)
  have files : ∀ f' ∈ [f], f'.WellFormed := by simpa using wellFormed
  have same : Uri.ofPath (f.root.under ["a.gorch"]) = own := by decide
  exact ⟨⟨wellFormed, rooted, plain, other⟩,
    same ▸ checks_alike none (.start f) files rooted plain other⟩

-- The missing struct is told of under the name that listings use, and not under another one.
theorem entry_unchecked :
    let source := Text.utf8 "REGISTER(\"p\") \x7bOPERATOR(\"x\",\"X\",1)\x7d".toList
    let tree : FileTree := ⟨[(["ws"], .directory), (["ws", "a.gorch"], .file source 1000)]⟩
    let f : FileStore := { tree, cwd := ["ws"], root := ⟨.root, ["ws"]⟩, excluded := [] }
    let c : Config := { root := ⟨.root, ["ws"]⟩, cwd := ⟨.root, ["ws"]⟩, pace := ⟨4, false⟩ }
    let checked (path : String) : List (Nat × Outcome) :=
      ((Session.ofStore f).after c <|
        .call 0 ((checkDocument path none).call c) :: List.replicate 6 (.act 0)).ended
    let missing : Diagnostic :=
      { code := .structNotFound, uri := "file:///ws/a.gorch", span := ⟨⟨0, 15⟩, ⟨0, 34⟩⟩
        message := "Go struct 'X' not found. Please ensure the struct exists in your Go code." }
    (LeadsTo c f "a.gorch" ["a.gorch"] ∧ LeadsTo c f "file:///ws/%61.gorch" ["a.gorch"]) ∧
      checked "a.gorch" = [(0, .problems [missing])] ∧
      checked "file:///ws/%61.gorch" = [(0, .problems [])] := by
  intro source tree f c checked missing
  have leads (path uri : String) (named : documentUri c path = .ok uri)
      (stands : FileStore.systemPath uri = .ok ⟨.root, ["ws", "a.gorch"]⟩) :
      LeadsTo c f path ["a.gorch"] :=
    ⟨uri, named, _, stands, by decide, source, 1000, by decide +kernel⟩
  refine ⟨⟨leads _ "file:///ws/a.gorch" ?_ ?_, leads _ "file:///ws/%61.gorch" ?_ ?_⟩, ?_, ?_⟩
  all_goals decide +kernel

end Request

end FlowIndex
