import FlowIndex.Proofs.Diagnostics
import FlowIndex.Proofs.Flow.Cursor
import FlowIndex.Proofs.Index.Lookup
import FlowIndex.Proofs.Session.Rebuild

namespace FlowIndex

open Diagnostics
open FlowIndex.Flow (Document)

namespace Resolution

-- What is shown of something that was not found differs from what is shown of anything found.
theorem structMarkdown_ne (name : String) (s : Struct) :
    structMarkdown name (some s) none ≠ structMarkdown name none none := by
  intro same
  have := congrArg String.toList <| Except.ok.inj same
  simp [structParts, List.intercalate, toString] at this

-- A struct is shown unless it is shown with an operator whose number is too long.
theorem exists_structHover (name : String) (found : Option Struct) {operator : Option Operator}
    (short : ∀ o ∈ operator, o.sequence.repr.length ≤ Text.digitLimit) (span : Span) :
    ∃ contents, structMarkdown name found operator = .ok contents ∧
      structHover name found operator span = .hover (some ⟨contents, span⟩) := by
  suffices ∃ contents, structMarkdown name found operator = .ok contents by
    obtain ⟨contents, shown⟩ := this
    exact ⟨contents, shown, by rw [structHover, shown]⟩
  cases operator
  case none => exact ⟨_, rfl⟩
  case some o =>
    have short := short o rfl
    exact ⟨_, by rw [structMarkdown, Option.map_some, Option.getD_some, operatorParts,
      Text.writeNumber, if_pos short]; rfl⟩

theorem fragmentMarkdown_eq {f : Fragment} (named : Uri.Accepted f.uri) :
    ∃ contents, fragmentMarkdown f.name (some f) = .ok contents ∧
      contents ≠ s!"**Fragment**: `{f.name}` *(not found)*" := by
  refine ⟨_, by rw [fragmentMarkdown, named.fileName_eq]; rfl, fun same => ?_⟩
  have := congrArg String.toList same
  simp [toString] at this

end Resolution

namespace MemoryStore

-- A search for a struct passes a document over.
def Lacks (m : MemoryStore) (parser : Host.Parser) (name uri : String) : Prop :=
  (∃ reason, m.read uri = .error (.unreadable uri reason)) ∨
    ∃ d, m.read uri = .ok d ∧ Host.findStruct d.text name uri uri 0 parser = .ok none

theorem kindOf_of_read {m : MemoryStore} {uri : String} {d : SourceDocument}
    (read : m.read uri = .ok d) : d.uri = uri ∧ kindOf uri = some d.kind := by
  unfold MemoryStore.read at read
  split at read
  case h_1 kind _ hk _ =>
    split at read <;> cases read
    exact ⟨rfl, hk⟩
  case h_2 => cases read

end MemoryStore

namespace Workspace

variable {c : Config} {v : Workspace MemoryStore} {uri text name : String} {p : Position}
  {goal : SearchGoal} {span : Span} {given : Option String}

section Search

theorem proceed_endSearch {σ : Type} [DocumentStore σ] {v : Workspace σ} {found : Option Struct} :
    proceed c (v.endSearch name found goal) = v.endSearch name found goal := by
  cases goal <;> rfl

theorem proceed_search {uris : List String} (lacks : ∀ uri ∈ uris, v.store.Lacks c.parser name uri) :
    proceed c (v.search name goal uris) = v.endSearch name none goal := by
  induction uris
  case nil => exact proceed_endSearch
  case cons uri uris hi =>
    obtain ⟨passed, rest⟩ := List.forall_mem_cons.mp lacks
    suffices v.searchStep c name goal uri uris = v.search name goal uris by
      rw [← hi rest, ← this]
      exact run_eq_proceed rfl
    obtain ⟨reason, read⟩ | ⟨d, read, absent⟩ := passed
    case inl =>
      have read : DocumentStore.read v.store uri = .error (.unreadable uri reason) := read
      simp only [searchStep, read]
    case inr =>
      have read : DocumentStore.read v.store uri = .ok d := read
      have absent : v.structIn c name uri d.text = .ok none := by
        unfold structIn
        split
        case isTrue => exact absent
        case isFalse => rfl
      simp only [searchStep, read, absent]

-- A search ends without a struct, too, if the Go documents cannot be listed.
theorem proceed_listingHosts
    (lacks : ∀ uris, v.store.list .host = .ok uris → ∀ uri ∈ uris, v.store.Lacks c.parser name uri) :
    proceed c (v.await (.listingHosts name goal)) = v.endSearch name none goal := by
  have run : proceed c (v.await (.listingHosts name goal)) =
      proceed c (v.step c (.listingHosts name goal)) :=
    run_eq_proceed rfl
  rw [run]
  cases list : v.store.list .host
  case error f =>
    have list : DocumentStore.list v.store .host = .error f := list
    simp only [step, list]
    exact proceed_endSearch
  case ok uris =>
    have all := lacks uris list
    have list : DocumentStore.list v.store .host = .ok uris := list
    simp only [step, list]
    exact proceed_search all

end Search

section Answers

-- What a query ends with if it goes on alone.
def answer (c : Config) (v : Workspace MemoryStore) (q : Query) : Progress :=
  (v.run c true (.queued (.query q))).2

-- The text of a document comes along with a query, or else is read.
structure Supplies (v : Workspace MemoryStore) (uri text : String) (given : Option String) :
    Prop where
  read : ∃ d, v.store.read uri = .ok d ∧ d.text = text
  given : given.getD text = text

theorem answer_eq {q : Option String → Query} (why : Reading)
    (reads : v.openQuery c (q none) = v.await (.reading uri why))
    (uses : ∀ d : SourceDocument, d.uri = uri →
      v.openQuery c (q (some d.text)) = v.useText c d why)
    (supplies : v.Supplies uri text given) :
    v.answer c (q given) = (proceed c (v.openQuery c (q (some text)))).2 := by
  obtain ⟨⟨d, read, rfl⟩, stored⟩ := supplies
  have opened (given : Option String) :
      v.answer c (q given) = (proceed c (v.openQuery c (q given))).2 :=
    congrArg Prod.snd <| run_eq_proceed rfl
  rw [opened]
  cases given
  case none =>
    have known : DocumentStore.read v.store uri = .ok d := read
    have step : proceed c (v.await (.reading uri why)) = proceed c (v.useText c d why) := by
      rw [await, proceed, run_eq_proceed rfl]
      simp only [Workspace.step, known]
    rw [reads, step, uses d (MemoryStore.kindOf_of_read read).1]
  case some text =>
    have same : text = d.text := stored
    rw [same]

theorem answer_check (supplies : v.Supplies uri text given) :
    v.answer c (.check uri given) = (proceed c (v.checkText uri text)).2 := by
  refine answer_eq .check rfl (fun d same => ?_) supplies
  rw [← same]
  rfl

theorem answer_definition (supplies : v.Supplies uri text given) :
    v.answer c (.definition uri (.ok p) given) = (proceed c (v.define c text p)).2 :=
  answer_eq (q := .definition uri (.ok p)) (.definition p) rfl (fun _ _ => rfl) supplies

theorem answer_hover (supplies : v.Supplies uri text given) :
    v.answer c (.hover uri (.ok p) given) = (proceed c (v.hoverAt text p)).2 :=
  answer_eq (q := .hover uri (.ok p)) (.hover p) rfl (fun _ _ => rfl) supplies

end Answers

-- What an index knows of the store of which it was made, and of one of its documents.
structure Current (c : Config) (v : Workspace MemoryStore) (uri text : String) : Prop where
  printable : ∀ o ∈ v.snapshot.operators, Printable o
  fragmentNamed : ∀ f ∈ v.snapshot.fragments, Uri.Accepted f.uri
  -- The operators of the document are those of its entries.
  operators : ∃ os, (Document.ofText uri text).operators = .ok os ∧
    ∀ o, o ∈ os ↔ o ∈ v.snapshot.operators ∧ o.uri = uri
  -- No search finds a struct that the index does not hold.
  structs : ∀ name, v.snapshot.findStruct name = none → ∀ uris, v.store.list .host = .ok uris →
    ∀ host ∈ uris, v.store.Lacks c.parser name host

theorem define_fragment (alone : c.tool = none)
    (target : Resolution.targetAt text p = some ⟨.fragment, name, span⟩) :
    ∃ l, (proceed c (v.define c text p)).2 = .ends (.location l) ∧
      (v.snapshot.findFragment name = none ↔ l = none) := by
  refine ⟨(v.snapshot.findFragment name).map fun f => ⟨f.uri, f.span⟩, ?_, by simp⟩
  cases known : v.snapshot.findFragment name
  all_goals
    simp only [define, target, Option.bind_some, Resolution.sought?, resolve, askTool, alone,
      Resolution.inIndex, known, Option.map_none, Option.map_some]
    rfl

namespace Current

variable (current : v.Current c uri text)
include current

theorem hoverAt_operator (target : Resolution.targetAt text p = some ⟨.operator, name, span⟩) :
    ∃ h, (proceed c (v.hoverAt text p)).2 = .ends (.hover h) ∧
      (v.snapshot.findOperator name = none ↔ h = none) := by
  cases found : v.snapshot.findOperator name
  case none =>
    refine ⟨none, ?_, by simp⟩
    simp only [hoverAt, target, Resolution.hoverPlan, found]
    rfl
  case some o =>
    have printable := current.printable o <| List.mem_of_find?_eq_some found
    have short : ∀ o' ∈ some o, o'.sequence.repr.length ≤ Text.digitLimit := by
      simpa using printable.short
    obtain ⟨contents, _, shown⟩ :=
      Resolution.exists_structHover o.struct (v.snapshot.findStruct o.struct) short span
    refine ⟨some ⟨contents, span⟩, ?_, by simp⟩
    cases known : v.snapshot.findStruct o.struct
    all_goals
      rw [known] at shown
      simp only [hoverAt, target, Resolution.hoverPlan, found, known]
    case none =>
      rw [proceed_listingHosts <| current.structs _ known]
      exact congrArg Progress.ends shown
    case some => exact congrArg Progress.ends shown

theorem hoverAt_struct (target : Resolution.targetAt text p = some ⟨.struct, name, span⟩) :
    ∃ h, (proceed c (v.hoverAt text p)).2 = .ends (.hover (some h)) ∧
      (v.snapshot.findStruct name = none ↔
        .ok h.contents = Resolution.structMarkdown name none none) := by
  have short : ∀ o ∈ (none : Option Operator), o.sequence.repr.length ≤ Text.digitLimit := nofun
  obtain ⟨contents, shown, hover⟩ :=
    Resolution.exists_structHover name (v.snapshot.findStruct name) short span
  refine ⟨⟨contents, span⟩, ?_, ?_⟩
  all_goals cases known : v.snapshot.findStruct name
  all_goals rw [known] at shown hover
  case refine_1.none =>
    simp only [hoverAt, target, Resolution.hoverPlan, known]
    rw [proceed_listingHosts <| current.structs _ known]
    exact congrArg Progress.ends hover
  case refine_1.some =>
    simp only [hoverAt, target, Resolution.hoverPlan, known]
    exact congrArg Progress.ends hover
  case refine_2.none => simp [shown]
  case refine_2.some s => simp [← shown, Resolution.structMarkdown_ne]

theorem define_struct (alone : c.tool = none)
    (target : Resolution.targetAt text p = some ⟨.struct, name, span⟩) :
    ∃ l, (proceed c (v.define c text p)).2 = .ends (.location l) ∧
      (v.snapshot.findStruct name = none ↔ l = none) := by
  cases known : v.snapshot.findStruct name
  case none =>
    refine ⟨none, ?_, by simp⟩
    simp only [define, target, Option.bind_some, Resolution.sought?, resolve, askTool, alone,
      Resolution.inIndex, known, Option.map_none, if_true]
    rw [proceed_listingHosts <| current.structs _ known]
    rfl
  case some s =>
    refine ⟨some (Resolution.locationOf s), ?_, by simp⟩
    simp only [define, target, Option.bind_some, Resolution.sought?, resolve, askTool, alone,
      Resolution.inIndex, known, Option.map_some]
    rfl

theorem hoverAt_fragment (target : Resolution.targetAt text p = some ⟨.fragment, name, span⟩) :
    ∃ h, (proceed c (v.hoverAt text p)).2 = .ends (.hover (some h)) ∧
      (v.snapshot.findFragment name = none ↔
        h.contents = s!"**Fragment**: `{name}` *(not found)*") := by
  cases known : v.snapshot.findFragment name
  case none =>
    refine ⟨⟨s!"**Fragment**: `{name}` *(not found)*", span⟩, ?_, by simp⟩
    simp only [hoverAt, target, Resolution.hoverPlan, known]
    rfl
  case some f =>
    have same : f.name = name := by simpa using List.find?_some known
    obtain ⟨contents, shown, differs⟩ :=
      Resolution.fragmentMarkdown_eq <| current.fragmentNamed f <| List.mem_of_find?_eq_some known
    rw [same] at shown differs
    refine ⟨⟨contents, span⟩, ?_, by simp [differs]⟩
    simp only [hoverAt, target, Resolution.hoverPlan, known, shown]
    rfl

theorem checkText_ends : ∃ ds, (proceed c (v.checkText uri text)).2 = .ends (.problems ds) ∧
    diagnose v.snapshot uri text = .ok ds := by
  obtain ⟨ds, ok, _⟩ := Diagnostics.diagnose_parts current.printable uri text
  refine ⟨ds, ?_, ok⟩
  simp only [checkText, publish, ok]
  rfl

section Told

variable {ds : List Diagnostic} (ok : diagnose v.snapshot uri text = .ok ds)
include ok

theorem told_call_iff {call : Flow.Call} (mem : call ∈ (Document.ofText uri text).calls) :
    Told ds .unregisteredOperator call.span ↔ v.snapshot.findOperator call.name = none := by
  rw [told_unregistered_iff current.printable ok]
  constructor
  case mp =>
    rintro ⟨call', mem', missing, same⟩
    rwa [Document.call_eq_of_span (Document.laid_ofText uri text) mem' mem same] at missing
  case mpr => exact fun missing => ⟨call, mem, missing, rfl⟩

theorem told_expansion_iff {token : Flow.Token} {start stop : Nat}
    (mem : (token, start, stop) ∈ Document.expansionsIn (Document.ofText uri text).tokens) :
    Told ds .fragmentNotFound ((Document.ofText uri text).lines.span start stop) ↔
      v.snapshot.findFragment token.value = none := by
  rw [told_fragment_iff current.printable ok]
  constructor
  case mp =>
    rintro ⟨e, mem', missing, same⟩
    obtain ⟨⟨token', start', stop'⟩, found, rfl⟩ := List.mem_map.mp mem'
    have starts := congrArg Span.start same
    rwa [← Document.expansion_name_eq (Document.laid_ofText uri text) found mem starts]
  case mpr => exact fun missing => ⟨_, List.mem_map_of_mem mem, missing, rfl⟩

theorem told_entry_iff {e : Flow.Entry} (mem : e ∈ (Document.ofText uri text).entries) :
    Told ds .structNotFound ((Document.ofText uri text).lines.span e.start e.stop) ↔
      v.snapshot.findStruct e.struct.value = none := by
  obtain ⟨os, read, own⟩ := current.operators
  have mem_iff {o : Operator} : o ∈ v.snapshot.operatorsIn uri ↔ o ∈ os := by
    rw [Snapshot.operatorsIn, List.mem_filter, own, decide_eq_true_eq]
  rw [told_struct_iff current.printable ok]
  constructor
  case mp =>
    rintro ⟨o, mem', missing, same⟩
    obtain ⟨e', found, declares⟩ := Document.exists_entry read <| mem_iff.mp mem'
    obtain ⟨_, struct, place⟩ := Document.of_operatorOf declares
    rw [place] at same
    have starts := congrArg Span.start same
    rwa [struct, Document.entry_struct_eq (Document.laid_ofText uri text) found mem starts]
      at missing
  case mpr =>
    intro missing
    obtain ⟨o, mem', declares⟩ := Document.exists_operator read mem
    obtain ⟨_, struct, place⟩ := Document.of_operatorOf declares
    exact ⟨o, mem_iff.mpr mem', by rwa [struct], place⟩

end Told

end Current

-- A check, and the definitions and hovers at all places of the names in a document, tell the same.
structure Agrees (c : Config) (v : Workspace MemoryStore) (d : Document) (given : Option String)
    (ds : List Diagnostic) : Prop where
  -- A call of an operator that is not registered has no hover.
  calls : ∀ call ∈ d.calls, ∀ p, d.Covers call.span p →
    ∃ h, v.answer c (.hover d.uri (.ok p) given) = .ends (.hover h) ∧
      (Told ds .unregisteredOperator call.span ↔ h = none)
  -- An expansion of a fragment that is not declared has no definition, and its hover says so.
  expansions : ∀ name start stop, (name, start, stop) ∈ Document.expansionsIn d.tokens →
    ∀ p, d.Covers (d.tokenSpan name) p →
    ∃ l h, v.answer c (.definition d.uri (.ok p) given) = .ends (.location l) ∧
      v.answer c (.hover d.uri (.ok p) given) = .ends (.hover (some h)) ∧
      (Told ds .fragmentNotFound (d.lines.span start stop) ↔ l = none) ∧
      (Told ds .fragmentNotFound (d.lines.span start stop) ↔
        h.contents = s!"**Fragment**: `{name.value}` *(not found)*")
  -- An entry of a struct that is not declared has no definition, and its hover is made without one.
  entries : ∀ e ∈ d.entries, ∀ p, d.Covers (d.tokenSpan e.struct) p →
    ∃ l h, v.answer c (.definition d.uri (.ok p) given) = .ends (.location l) ∧
      v.answer c (.hover d.uri (.ok p) given) = .ends (.hover (some h)) ∧
      (Told ds .structNotFound (d.lines.span e.start e.stop) ↔ l = none) ∧
      (Told ds .structNotFound (d.lines.span e.start e.stop) ↔
        .ok h.contents = Resolution.structMarkdown e.struct.value none none)

theorem Current.agrees (current : v.Current c uri text) (supplies : v.Supplies uri text given)
    (alone : c.tool = none) : ∃ ds, v.answer c (.check uri given) = .ends (.problems ds) ∧
      v.Agrees c (.ofText uri text) given ds := by
  have laid := Document.laid_ofText uri text
  obtain ⟨ds, checked, ok⟩ := current.checkText_ends
  refine ⟨ds, (answer_check supplies).trans checked, ?calls, ?expansions, ?entries⟩
  case calls =>
    intro call mem p covers
    obtain ⟨h, shown, iff⟩ :=
      current.hoverAt_operator (Document.targetAt_call laid mem covers)
    exact ⟨h, (answer_hover supplies).trans shown, (current.told_call_iff ok mem).trans iff⟩
  case expansions =>
    intro name start stop mem p covers
    have target := Document.targetAt_expansion laid mem covers
    have told := current.told_expansion_iff ok mem
    obtain ⟨l, found, noLocation⟩ := define_fragment alone target
    obtain ⟨h, shown, notFound⟩ := current.hoverAt_fragment target
    exact ⟨l, h, (answer_definition supplies).trans found, (answer_hover supplies).trans shown,
      told.trans noLocation, told.trans notFound⟩
  case entries =>
    intro e mem p covers
    have target := Document.targetAt_struct laid mem covers
    have told := current.told_entry_iff ok mem
    obtain ⟨l, found, noLocation⟩ := current.define_struct alone target
    obtain ⟨h, shown, notFound⟩ := current.hoverAt_struct target
    exact ⟨l, h, (answer_definition supplies).trans found, (answer_hover supplies).trans shown,
      told.trans noLocation, told.trans notFound⟩

end Workspace

namespace MemoryStore

variable {c : Config} {m : MemoryStore} {flows hosts : List String} {before : Snapshot}
  {r : RebuildResult} {uri text : String}

-- All documents that can be read have names that can be taken apart, and no Go document fails to be
-- extracted.
structure Sound (c : Config) (m : MemoryStore) : Prop where
  named : ∀ uri d, m.read uri = .ok d → Uri.Accepted uri
  extracted : ∀ uri d time, m.read uri = .ok d → d.kind = .host → m.modified uri = .ok time →
    (Scan.extract c.extractor m uri d.text time).isOk = true

theorem sound_of_documents (named : ∀ e ∈ m.documents, Uri.Accepted e.1)
    (extracted : ∀ e ∈ m.documents, kindOf e.1 = some .host →
      (Scan.extract c.extractor m e.1 e.2.text e.2.written).isOk = true) : m.Sound c := by
  have stored {uri : String} {d : SourceDocument} (read : m.read uri = .ok d) :
      ∃ e ∈ m.documents, uri = e.1 ∧ d.text = e.2.text ∧ m.modified uri = .ok e.2.written := by
    unfold MemoryStore.read at read
    split at read
    case h_1 kind known _ found =>
      split at read <;> cases read
      refine ⟨(uri, known), NameMap.mem_of_get? found, rfl, rfl, ?_⟩
      simp only [modified, found]
    case h_2 => cases read
  refine ⟨fun uri d read => ?_, fun uri d time read kind changed => ?_⟩
  · obtain ⟨e, mem, rfl, _⟩ := stored read
    exact named e mem
  · obtain ⟨e, mem, rfl, text, written⟩ := stored read
    cases changed.symm.trans written
    rw [text]
    exact extracted e mem <| (kindOf_of_read read).2.trans <| congrArg some kind

-- A flow document with the given text that is listed, can be read and is extracted.
structure Declares (c : Config) (m : MemoryStore) (uri text : String) : Prop where
  listed : ∃ uris, m.list .flow = .ok uris ∧ uri ∈ uris
  read : ∃ d, m.read uri = .ok d ∧ d.text = text
  declared : (Scan.declarations c.extractor uri text).isOk = true

theorem listed_eq {kind : DocumentKind} {listed uris : List String} (ready : m.Ready flows hosts)
    (lists : m.contents.Lists kind listed) (list : m.list kind = .ok uris) :
    m.contents.listed kind listed = uris := by
  rw [list_eq ready.increasing lists] at list
  unfold Contents.listed
  cases fault : m.contents.listingFault? kind
  case none =>
    rw [fault] at list
    exact Except.ok.inj list
  case some =>
    rw [fault] at list
    cases list

theorem contents_read {d : SourceDocument} (read : m.read uri = .ok d) :
    m.contents.read uri = .ok d.text := by
  obtain ⟨d', read', text⟩ | ⟨reason, read', _⟩ := read_cases (kindOf_of_read read).2
  case inl =>
    cases read.symm.trans read'
    exact text
  case inr => cases read.symm.trans read'

theorem exists_read (read : m.contents.read uri = .ok text) {kind : DocumentKind}
    (known : kindOf uri = some kind) : ∃ d, m.read uri = .ok d := by
  obtain ⟨d, read', _⟩ | ⟨reason, _, refused⟩ := read_cases known
  case inl => exact ⟨d, read'⟩
  case inr => cases read.symm.trans refused

-- A struct that a rebuilt index does not hold is in no Go document that can be read.
theorem lacks_of_rebuilt {v : Snapshot} {name host : String} {uris : List String}
    (rebuilt : m.contents.Rebuilt c.extractor m.time flows hosts before v r)
    (ready : m.Ready flows hosts) (sound : m.Sound c) (missing : v.findStruct name = none)
    (list : m.list .host = .ok uris) (mem : host ∈ uris) : m.Lacks c.parser name host := by
  have listed := listed_eq ready ready.hosts list
  have mem : host ∈ m.contents.listed .host hosts := by rwa [listed]
  have kind : kindOf host = some .host := by
    obtain ⟨pre, post, left⟩ := List.append_of_mem mem
    exact Scan.OnTrack.kindOf_of_left ready.hosts left
  obtain ⟨d, read, text⟩ | ⟨reason, read, _⟩ := read_cases (m := m) kind
  case inr => exact .inl ⟨reason, read⟩
  case inl =>
    refine .inr ⟨d, read, ?_⟩
    have isHost : d.kind = .host := Option.some.inj <| (kindOf_of_read read).2.symm.trans kind
    have modified := modified_eq <| Scan.OnTrack.text?_of_read text
    have ok := sound.extracted host d _ read isHost modified
    have extract : Scan.extract c.extractor m host d.text (m.time host) =
        Contents.structs c.extractor host d.text (m.time host) :=
      rfl
    rw [extract] at ok
    cases structs : Contents.structs c.extractor host d.text (m.time host)
    case error =>
      rw [structs] at ok
      cases ok
    case ok ss =>
      have others : ∀ s ∈ ss, s.name ≠ name := by
        intro s hs same
        have held := rebuilt.mem_structs_iff.mpr ⟨host, mem, d.text, ss, text, structs, hs⟩
        exact List.find?_eq_none.mp missing s held <| decide_eq_true same
      unfold Contents.structs at structs
      split at structs
      · cases structs
      · exact Host.findStruct_eq_none (Contents.mapError_eq_ok_iff.mp structs) others 0

theorem operators_of_rebuilt {v : Snapshot}
    (rebuilt : m.contents.Rebuilt c.extractor m.time flows hosts before v r)
    (ready : m.Ready flows hosts) (declares : m.Declares c uri text) :
    ∃ os, (Document.ofText uri text).operators = .ok os ∧
      ∀ o, o ∈ os ↔ o ∈ v.operators ∧ o.uri = uri := by
  obtain ⟨uris, list, mem⟩ := declares.listed
  rw [← listed_eq ready ready.flows list] at mem
  obtain ⟨d, read, rfl⟩ := declares.read
  have read := contents_read read
  have ok := declares.declared
  cases declared : Scan.declarations c.extractor uri d.text
  case error =>
    rw [declared] at ok
    cases ok
  case ok found =>
    refine ⟨found.1, (Scan.of_declarations declared).1, fun o => ⟨fun own => ?mp, ?mpr⟩⟩
    case mp =>
      exact ⟨rebuilt.mem_operators_iff.mpr ⟨uri, mem, d.text, found, read, declared, own⟩,
        Scan.uri_of_mem_operators declared o own⟩
    case mpr =>
      rintro ⟨held, same⟩
      obtain ⟨uri', _, text', found', read', declared', own⟩ := rebuilt.mem_operators_iff.mp held
      rw [← Scan.uri_of_mem_operators declared' o own, same] at read' declared'
      cases read.symm.trans read'
      cases declared.symm.trans declared'
      exact own

theorem current_of_rebuilt {v : Workspace MemoryStore}
    (rebuilt : m.contents.Rebuilt c.extractor m.time flows hosts before v.snapshot r)
    (ready : m.Ready flows hosts) (sound : m.Sound c) (declares : m.Declares c uri text)
    (store : v.store = m) : v.Current c uri text := by
  have named {uri text : String} (mem : uri ∈ m.contents.listed .flow flows)
      (read : m.contents.read uri = .ok text) : Uri.Accepted uri := by
    obtain ⟨pre, post, left⟩ := List.append_of_mem mem
    obtain ⟨d, read⟩ := exists_read read <| Scan.OnTrack.kindOf_of_left ready.flows left
    exact sound.named uri d read
  refine ⟨?printable, ?fragmentNamed, operators_of_rebuilt rebuilt ready declares, ?structs⟩
  case printable =>
    intro o mem
    obtain ⟨uri', mem, text', found, read, declared, mem'⟩ := rebuilt.mem_operators_iff.mp mem
    refine ⟨?_, Scan.short_of_mem_operators declared o mem'⟩
    rw [Scan.uri_of_mem_operators declared o mem']
    exact named mem read
  case fragmentNamed =>
    intro f mem
    obtain ⟨uri', mem, text', found, read, declared, mem'⟩ := rebuilt.mem_fragments_iff.mp mem
    rw [Scan.uri_of_mem_fragments declared f mem']
    exact named mem read
  case structs =>
    intro name missing uris list host mem
    rw [store] at list ⊢
    exact lacks_of_rebuilt rebuilt ready sound missing list mem

end MemoryStore

open MemoryStore

-- What is true of a flow document after any rebuild over a store that came about by some edits, as
-- long as nobody edits the store again.
structure AgreeAfterRebuilds (c : Config) (es : List Edit) (uri text : String)
    (given : Option String) : Prop where
  -- After a rebuild with nobody else at work.
  alone : ∀ (w : Workspace MemoryStore) (call : Call), w.store = ofEdits es →
    w.schedule.busy = false → call = .rebuild ∨ call = .refresh →
    ∃ w' r, w.run c true (.queued call) = (w', .ends (.rebuilt (some r))) ∧
      ∀ v : Workspace MemoryStore, v.store = ofEdits es → v.snapshot = w'.snapshot →
      ∃ ds, v.answer c (.check uri given) = .ends (.problems ds) ∧
        v.Agrees c (.ofText uri text) given ds
  -- After a rebuild of any kind amid events that leave the store as it is: its scan goes on, or its
  -- snapshot is put into place.
  amid : ∀ (s : Session MemoryStore) (events : List (Event MemoryStore)),
    s.workspace.store = ofEdits es → (∀ t ∈ s.tasks, t.work.phase.isScanning = false) →
    (∀ e ∈ events, e.changed (ofEdits es) = ofEdits es) →
    ∀ index t route wish scan, (s.after c events).tasks[index]? = some t → t.cancelled = false →
    t.work = .scanning route wish scan →
    let s' := s.after c events
    (∃ next, s'.act c index =
        s'.place index t (s'.workspace, .waits (.scanning route wish next))) ∨
      ∃ next r, let w := s'.workspace.swapped next
        s'.act c index = s'.place index t
          (w.announce c route wish r w.snapshot s'.workspace.listeners) ∧
        ∀ v : Workspace MemoryStore, v.store = ofEdits es → v.snapshot = w.snapshot →
        ∃ ds, v.answer c (.check uri given) = .ends (.problems ds) ∧
          v.Agrees c (.ofText uri text) given ds

-- Checks, definitions and hovers agree after a rebuild, whether the document's text comes along
-- with them or is read.
theorem agreeAfterRebuilds {c : Config} {es : List Edit} {uri text : String}
    {given : Option String} (reported : (Contents.ofEdits es).Reported) (alone : c.tool = none)
    (sound : (ofEdits es).Sound c) (declares : (ofEdits es).Declares c uri text)
    (stored : given.getD text = text) : AgreeAfterRebuilds c es uri text given := by
  obtain ⟨flows, hosts, ready⟩ := ready_ofEdits reported
  have agrees {before : Snapshot} {r : RebuildResult} {v : Workspace MemoryStore}
      (rebuilt : (Contents.ofEdits es).Rebuilt c.extractor (ofEdits es).time flows hosts before
        v.snapshot r) (store : v.store = ofEdits es) :
      ∃ ds, v.answer c (.check uri given) = .ends (.problems ds) ∧
        v.Agrees c (.ofText uri text) given ds := by
    rw [← contents_ofEdits] at rebuilt
    have current := current_of_rebuilt rebuilt ready sound declares store
    rw [← store] at declares
    exact current.agrees ⟨declares.read, stored⟩ alone
  refine ⟨?alone, ?amid⟩
  case alone =>
    intro w call store idle asked
    obtain ⟨w', r, run, _, rebuilt⟩ := w.run_rebuild_ofEdits ready store idle asked
    refine ⟨w', r, run, fun v same snapshot => ?_⟩
    rw [← snapshot] at rebuilt
    exact agrees rebuilt same
  case amid =>
    intro s events store idle keeps index t route wish scan task live work s'
    obtain more | ⟨next, r, act, rebuilt⟩ :=
      s.act_rebuild_ofEdits ready store idle keeps task live work
    case inl => exact .inl more
    case inr =>
      refine .inr ⟨next, r, act, fun v same snapshot => ?_⟩
      rw [← snapshot] at rebuilt
      exact agrees rebuilt same

-- The fragment `g` and the struct `U` are declared in documents that cannot be read.
theorem agreeAfterRebuilds_with_unreadable :
    let c := Config.ofPace ⟨4, false⟩
    let text := "REGISTER(\"p\")\x7bOPERATOR(\"x\",\"T\",1) OPERATOR(\"y\",\"U\",2)\x7d\n" ++
      "FRAGMENT(\"f\")\x7b\x7d T() g() UNFOLD(\"f\") UNFOLD(\"g\")"
    let es : List Edit := [.put "file:///ws/a.gorch" text,
      .put "file:///ws/b.gorch" "FRAGMENT(\"g\")\x7b\x7d", .setUnreadable "file:///ws/b.gorch" true,
      .put "file:///ws/t.go" "package p;type T struct\x7b\x7d",
      .put "file:///ws/u.go" "package p;type U struct\x7b\x7d",
      .setUnreadable "file:///ws/u.go" true]
    let d := Document.ofText "file:///ws/a.gorch" text
    (d.calls.map (·.name) = ["T", "g"] ∧ d.expansions.map (·.name) = ["f", "g"] ∧
      d.entries.map (·.struct.value) = ["T", "U"]) ∧ (Contents.ofEdits es).Reported ∧
      (ofEdits es).Sound c ∧ (ofEdits es).Declares c "file:///ws/a.gorch" text ∧
      AgreeAfterRebuilds c es "file:///ws/a.gorch" text none := by
  intro c text es d
  have reported : (Contents.ofEdits es).Reported := by
    intro kind fault h
    cases kind <;> cases h
  have sound : (ofEdits es).Sound c := sound_of_documents (by decide +kernel) (by decide +kernel)
  have declares : (ofEdits es).Declares c "file:///ws/a.gorch" text := by
    refine ⟨⟨["file:///ws/a.gorch", "file:///ws/b.gorch"], ?_, by decide⟩, ⟨_, rfl, rfl⟩, ?_⟩
    all_goals decide +kernel
  refine ⟨by decide +kernel, reported, sound, declares, ?_⟩
  exact agreeAfterRebuilds reported rfl sound declares rfl

end FlowIndex
