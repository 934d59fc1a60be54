import FlowIndex.Proofs.Session.LiveSearch
import FlowIndex.Proofs.Store.Files

namespace FlowIndex

variable {σ : Type} {uri name : String}

section Declared

theorem Host.structs_isOk (accepted : Uri.Accepted uri) (text path : String) (time : Int)
    (parser : Parser) : ∃ ss, structs text uri path time parser = .ok ss := by
  obtain ⟨parts, split⟩ : ∃ parts, Uri.split uri = .ok parts := by
    rw [Uri.Accepted] at accepted
    cases split : Uri.split uri
    case error =>
      rw [split] at accepted
      cases accepted
    case ok parts => exact ⟨parts, rfl⟩
  have directory : ∃ name, directoryName path (some uri) = .ok name := by
    unfold directoryName
    extract_lets name
    split
    case h_1 same =>
      cases same
      rw [Uri.decodedPath, split]
      exact ⟨_, rfl⟩
    case h_2 => exact ⟨_, rfl⟩
  obtain ⟨package, named⟩ :
      ∃ package, packageName text path (some uri) parser = .ok package := by
    unfold packageName packageOf
    split
    case h_1 => exact directory
    case h_2 => exact directory
    case h_3 => exact ⟨_, rfl⟩
  rw [structs_eq_map, named]
  exact ⟨_, rfl⟩

end Declared

section Legible

-- A document that can be named, and that is refused as unreadable if it cannot be read.
structure LegibleAt [DocumentStore σ] (s : σ) (uri : String) : Prop where
  read : ∀ f, DocumentStore.read s uri = .error f → ∃ reason, f = .unreadable uri reason
  path : ∃ path, DocumentStore.relativePath s uri = .ok path
  accepted : Uri.Accepted uri

theorem LegibleAt.searchable [DocumentStore σ] {c : Config} {s : σ} (legible : LegibleAt s uri) :
    Searchable c s uri where
  refused := legible.read
  declares d _ := by
    obtain ⟨path, own⟩ := legible.path
    obtain ⟨ss, declared⟩ := Host.structs_isOk legible.accepted d.text path 0 c.parser
    exact ⟨path, ss, own, declared⟩

-- All Go documents that are listed can be named.
def Legible [DocumentStore σ] (s : σ) : Prop :=
  ∀ uris, DocumentStore.list s .host = .ok uris → ∀ uri ∈ uris, LegibleAt s uri

-- A store in memory only refuses documents as unreadable.
theorem MemoryStore.legible {m : MemoryStore}
    (accepted : ∀ e ∈ m.documents, kindOf e.1 = some .host → Uri.Accepted e.1) : Legible m := by
  intro uris listed uri mem
  have listed : m.list .host = .ok uris := listed
  unfold MemoryStore.list at listed
  split at listed
  case h_1 => cases listed
  case h_2 =>
    cases listed
    obtain ⟨mem, kind⟩ := List.mem_filter.mp mem
    obtain ⟨e, stored, rfl⟩ := List.mem_map.mp mem
    have kind : kindOf e.1 = some .host := of_decide_eq_true kind
    refine ⟨fun f failed => ?_, ⟨_, rfl⟩, accepted e stored kind⟩
    have failed : m.read e.1 = .error f := failed
    obtain ⟨d, read, _⟩ | ⟨reason, read, _⟩ := MemoryStore.read_cases (m := m) kind
    case inl => cases read.symm.trans failed
    case inr =>
      cases read.symm.trans failed
      exact ⟨reason, rfl⟩

theorem FileStore.legible {f : FileStore} (h : f.WellFormed) : Legible f := by
  intro uris listed uri mem
  have listed : f.list .host = .ok uris := listed
  unfold FileStore.list at listed
  split at listed
  case h_1 => cases listed
  case h_2 =>
    cases listed
    obtain ⟨parts, given, rfl⟩ := List.mem_map.mp mem
    obtain ⟨node, rest, mem, _⟩ := mem_listed_iff.mp given
    have found := h.tree.node?_eq mem
    have resolved := h.tree.resolved found
    have path := systemPath_ofPath resolved (h.tree.nullFree found)
    refine ⟨fun fault failed => ?_, ?_, Uri.accepted_ofPath resolved⟩
    case refine_1 =>
      have failed : f.read _ = .error fault := failed
      cases kind : DocumentKind.ofPath? ⟨.root, parts⟩
      case none =>
        rw [read_unsupported (by rw [kindOf_ofPath resolved, kind])] at failed
        exact ⟨_, (Except.error.inj failed).symm⟩
      case some kind =>
        rw [read_eq (by rw [kindOf_ofPath resolved, kind]) path] at failed
        split at failed
        case h_1 => exact ⟨_, (Except.error.inj failed).symm⟩
        case h_2 =>
          split at failed
          case h_1 => exact ⟨_, (Except.error.inj failed).symm⟩
          case h_2 => cases failed
    case refine_2 =>
      refine ⟨(Path.relativeTo f.root ⟨.root, parts⟩).toString, ?_⟩
      show FileStore.relativePath f _ = _
      rw [FileStore.relativePath, Uri.toPath_ofPath resolved]
      rfl

end Legible

-- What the external tool says of a struct. One that fails says nothing.
def Config.told (c : Config) (name : String) : Option Location :=
  match c.tool with
  | some tool => (tool name).toOption.join
  | none => none

-- The name of the struct that a target stands for: its own, or that of an operator's struct.
def Snapshot.structName? (s : Snapshot) (t : Flow.Target) : Option String :=
  match t.kind with
  | .struct => some t.name
  | .operator => (s.operators.find? (·.name = t.name)).map (·.struct)
  | _ => none

theorem Resolution.sought?_eq (s : Snapshot) (t : Flow.Target) : sought? s t =
    if t.kind = .fragment then some ⟨.fragment, t.name⟩ else (s.structName? t).map (⟨.struct, ·⟩) := by
  unfold sought? Snapshot.structName? Snapshot.findOperator
  cases t.kind
  case struct => rfl
  case fragment => rfl
  case operator => simp [Option.map_map, Function.comp_def]
  case keyword => rfl

namespace Workspace

variable {c : Config} {w : Workspace σ} {goal : SearchGoal}

-- The workspace after the tool was asked for a struct, if there is a tool.
def asking (c : Config) (w : Workspace σ) (name : String) : Workspace σ :=
  { w with asked := w.asked ++ if c.tool.isSome then [name] else [] }

-- The place of a struct: what the tool says, or the first struct of the name in the snapshot, or
-- else the first one in the Go documents.
def locate [DocumentStore σ] (c : Config) (w : Workspace σ) (name : String) : Option Location :=
  (c.told name).or <|
    ((w.snapshot.structs.find? (·.name = name)).map Resolution.locationOf).or <|
      ((liveStructs c w.store).find? (·.name = name)).map Resolution.locationOf

theorem askTool_struct : w.askTool c ⟨.struct, name⟩ = (w.asking c name, c.told name) := by
  unfold askTool asking Config.told
  cases c.tool
  case none => simp
  case some tool =>
    cases said : tool name
    all_goals simp [said, Except.toOption]

-- The tool is not asked for a fragment.
theorem resolve_fragment (name : String) : w.resolve c ⟨.fragment, name⟩ =
    (w, .ends (.location
      ((w.snapshot.fragments.find? (·.name = name)).map fun f => ⟨f.uri, f.span⟩))) := by
  have silent : w.askTool c ⟨.fragment, name⟩ = (w, none) := by
    unfold askTool
    cases c.tool <;> rfl
  have indexed : Resolution.inIndex w.snapshot ⟨.fragment, name⟩ =
      (w.snapshot.fragments.find? (·.name = name)).map fun f => ⟨f.uri, f.span⟩ :=
    rfl
  rw [resolve, silent]
  simp only [indexed]
  cases w.snapshot.fragments.find? (·.name = name)
  case none => rfl
  case some f => rfl

section Progress

-- How far a definition gets: it searches the Go documents, or it ended with or without a place.
inductive Locating : Progress → Prop
  | ends (l : Option Location) : Locating (.ends (.location l))
  | listing (name : String) : Locating (.waits (.listingHosts name .location))
  | searching (name uri : String) (rest : List String) :
      Locating (.waits (.searching name .location uri rest))

theorem Locating.isBlocked {work : Work} (h : Locating (.waits work)) :
    work.isBlocked true = false := by
  cases h <;> rfl

theorem endSearch_locating (w : Workspace σ) (name : String) (found : Option Struct) :
    Locating (w.endSearch name found .location).2 :=
  .ends _

theorem search_locating (w : Workspace σ) (name : String) (uris : List String) :
    Locating (w.search name .location uris).2 := by
  cases uris
  case nil => exact .ends _
  case cons uri rest => exact .searching name uri rest

theorem resolve_locating (q : Resolution.Sought) : Locating (w.resolve c q).2 := by
  unfold resolve
  split
  case h_1 => exact .ends _
  case h_2 =>
    split
    case h_1 => exact .ends _
    case h_2 =>
      split
      case isTrue => exact .listing _
      case isFalse => exact .ends _

theorem define_locating (text : String) (p : Position) : Locating (w.define c text p).2 := by
  unfold define
  split
  case h_1 => exact .ends _
  case h_2 q _ => exact resolve_locating q

variable [DocumentStore σ]

theorem step_locating {work : Work} (h : Locating (.waits work)) :
    Locating (w.step c work).2 := by
  cases h
  case listing name =>
    rw [step]
    split
    case h_1 uris _ => exact w.search_locating name uris
    case h_2 => exact w.endSearch_locating name none
  case searching name uri rest =>
    rw [step, searchStep]
    split
    case h_1 => exact w.search_locating name rest
    case h_2 => exact w.endSearch_locating name none
    case h_3 d _ =>
      split
      case h_1 => exact w.endSearch_locating name none
      case h_2 s _ => exact w.endSearch_locating name s
      case h_3 => exact w.search_locating name rest

theorem run_locating {work : Work} (h : Locating (.waits work)) :
    ∃ w' l, w.run c true work = (w', .ends (.location l)) := by
  fun_induction run c true w work
  case case1 blocked => cases h.isBlocked.symm.trans blocked
  case case2 w work _ w' next step hi =>
    have goes := step_locating (w := w) (c := c) h
    rw [step] at goes
    exact hi goes
  case case3 w work _ w' o step =>
    have goes := step_locating (w := w) (c := c) h
    rw [step] at goes
    cases goes
    exact ⟨w', _, rfl⟩
  case case4 w work _ w' step =>
    have goes := step_locating (w := w) (c := c) h
    rw [step] at goes
    cases goes

theorem proceed_locating {step : Step σ} (h : Locating step.2) :
    ∃ w' l, proceed c step = (w', .ends (.location l)) := by
  obtain ⟨w, progress⟩ := step
  cases progress
  case waits work => exact run_locating h
  case ends o =>
    cases h
    exact ⟨w, _, rfl⟩
  case stays => cases h

end Progress

section Search

variable [DocumentStore σ]

theorem proceed_resolve_struct (legible : Legible w.store) (name : String) :
    proceed c (w.resolve c ⟨.struct, name⟩) =
      (w.asking c name, .ends (.location (w.locate c name))) := by
  have indexed : Resolution.inIndex (w.asking c name).snapshot ⟨.struct, name⟩ =
      (w.snapshot.structs.find? (·.name = name)).map Resolution.locationOf :=
    rfl
  rw [resolve, askTool_struct, locate]
  cases c.told name
  case some l => rfl
  case none =>
    simp only [indexed]
    cases w.snapshot.structs.find? (·.name = name)
    case some s => rfl
    case none =>
      exact run_listingHosts fun uris listed uri mem => (legible uris listed uri mem).searchable

-- What a definition comes to, for what the cursor points at.
structure Defines (c : Config) (w : Workspace σ) (q : Query) (target : Option Flow.Target) :
    Prop where
  -- It ends, whatever the store and the tool do.
  ends : ∃ w' l, w.run c true (.queued (.query q)) = (w', .ends (.location l))
  -- The tiers are gone through for a struct, and the tool is asked once.
  struct : Legible w.store → ∀ t ∈ target, ∀ name, w.snapshot.structName? t = some name →
    w.run c true (.queued (.query q)) = (w.asking c name, .ends (.location (w.locate c name)))
  -- A fragment is looked up before the store or any tool is asked.
  fragment : ∀ t ∈ target, t.kind = .fragment → ∀ c, w.openQuery c q =
    (w, .ends (.location
      ((w.snapshot.fragments.find? (·.name = t.name)).map fun f => ⟨f.uri, f.span⟩)))
  -- Nothing else has a definition, and nothing is asked for it.
  other : (∀ t ∈ target, t.kind ≠ .fragment ∧ w.snapshot.structName? t = none) →
    ∀ c, w.openQuery c q = (w, .ends (.location none))

theorem definition_defines (c : Config) (w : Workspace σ) (uri text : String) (p : Position) :
    Defines c w (.definition uri (.ok p) (some text)) (Resolution.targetAt text p) := by
  have opens (c : Config) :
      w.openQuery c (.definition uri (.ok p) (some text)) = w.define c text p :=
    rfl
  have run : w.run c true (.queued (.query (.definition uri (.ok p) (some text)))) =
      proceed c (w.define c text p) :=
    run_eq_proceed rfl
  refine ⟨?ends, ?struct, ?fragment, ?other⟩
  case ends =>
    rw [run]
    exact proceed_locating <| define_locating text p
  case struct =>
    intro legible t target name named
    have other : t.kind ≠ .fragment := by
      intro kind
      simp [Snapshot.structName?, kind] at named
    have sought : Resolution.sought? w.snapshot t = some ⟨.struct, name⟩ := by
      rw [Resolution.sought?_eq, if_neg other, named]
      rfl
    rw [run, define, target, Option.bind_some, sought]
    exact proceed_resolve_struct legible name
  case fragment =>
    intro t target kind c
    have sought : Resolution.sought? w.snapshot t = some ⟨.fragment, t.name⟩ := by
      rw [Resolution.sought?_eq, if_pos kind]
    rw [opens, define, target, Option.bind_some, sought]
    exact resolve_fragment t.name
  case other =>
    intro missing c
    have sought : (Resolution.targetAt text p).bind (Resolution.sought? w.snapshot) = none := by
      refine Option.bind_eq_none_iff.mpr fun t target => ?_
      obtain ⟨other, unnamed⟩ := missing t target
      rw [Resolution.sought?_eq, if_neg other, unnamed]
      rfl
    rw [opens, define, sought]
    rfl

end Search

-- A tool that fails, a snapshot without structs, and three documents: the first of those that declare
-- the struct cannot be read.
theorem definition_defines_live :
    let c : Config :=
      { root := .ofString "/ws", cwd := .ofString "/", pace := ⟨4, false⟩
        tool := some fun _ => .error (.spawn "no tool") }
    let m : MemoryStore :=
      { documents := [("file:///ws/a.go", ⟨"package p;type T struct\x7b\x7d", 1⟩),
          ("file:///ws/b.go", ⟨"package p;type S struct\x7b\x7d", 2⟩),
          ("file:///ws/c.go", ⟨"package q;type T struct\x7b\x7d", 3⟩)]
        unreadable := ["file:///ws/a.go"] }
    let text := "REGISTER(\"p\") \x7bOPERATOR(\"x\",\"T\",1)\x7d"
    Legible m ∧
      run c true { store := m } (.queued (.query (.definition "" (.ok ⟨0, 30⟩) (some text)))) =
        ({ store := m, asked := ["T"] },
          .ends (.location (some ⟨"file:///ws/c.go", ⟨⟨0, 15⟩, ⟨0, 25⟩⟩⟩))) := by
  intro c m text
  have legible : Legible m := MemoryStore.legible (by decide)
  have target : Resolution.targetAt text ⟨0, 30⟩ = some ⟨.struct, "T", ⟨⟨0, 29⟩, ⟨0, 30⟩⟩⟩ := by
    decide +kernel
  have place : locate c { store := m } "T" = some ⟨"file:///ws/c.go", ⟨⟨0, 15⟩, ⟨0, 25⟩⟩⟩ := by
    decide +kernel
  have defines := definition_defines c { store := m } "" text ⟨0, 30⟩
  refine ⟨legible, ?_⟩
  rw [defines.struct legible _ target "T" rfl, place]
  rfl

end Workspace

end FlowIndex
