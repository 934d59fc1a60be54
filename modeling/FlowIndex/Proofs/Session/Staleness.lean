import FlowIndex.Proofs.Session.Asking
import FlowIndex.Proofs.Store.Clock
import FlowIndex.Store.Files

namespace FlowIndex

variable {σ : Type} [DocumentStore σ] {c : Config} {store stamped : σ} {older : List σ}
  {x : Struct} {text : String} {ticket : Nat}

-- The texts of documents, whether they can be read or not.
structure Texts (σ : Type) [DocumentStore σ] where
  text? : σ → String → Option String
  of_read : ∀ store uri d, DocumentStore.read store uri = .ok d → text? store uri = some d.text

namespace Texts

variable {texts : Texts σ}

-- Times of change are numbers that a double holds, and a document that has another text than it had
-- in an earlier store has a later time of change, too. The latest store comes first.
structure Grows (texts : Texts σ) (stores : List σ) : Prop where
  double : ∀ store ∈ stores, ∀ uri time, DocumentStore.modified store uri = .ok time →
    Double.ofInt time = time
  grows : stores.Pairwise fun later earlier => ∀ uri text text' time time',
    texts.text? earlier uri = some text → texts.text? later uri = some text' →
    DocumentStore.modified earlier uri = .ok time → DocumentStore.modified later uri = .ok time' →
    text ≠ text' → time < time'

-- A struct that is not reported is of a document that holds the text that it held when its time of
-- change was taken.
theorem Grows.text_eq {stores : List σ} (grows : texts.Grows (store :: older))
    (known : ∀ m ∈ stores, m = store ∨ m ∈ older) (dated : Dated c stores x text stamped)
    (unchanged : hasChanged store x = false) {now then' : String}
    (holds : texts.text? store x.uri = some now)
    (held : texts.text? stamped x.uri = some then') : then' = now := by
  obtain ⟨⟨before, d, order, _⟩, time, found, modified, extract, mem⟩ := dated
  obtain rfl | earlier := known stamped <| order.mem List.mem_cons_self
  case inl => exact Option.some.inj <| held.symm.trans holds
  case inr =>
    refine Decidable.byContradiction fun differs => ?_
    have double := grows.double stamped (List.mem_cons_of_mem store earlier) x.uri time modified
    have date := (Scan.of_mem_extract extract mem).2.trans double
    unfold hasChanged at unchanged
    split at unchanged
    case h_1 time' modified' =>
      have later := List.rel_of_pairwise_cons grows.grows earlier x.uri then' now time time' held
        holds modified modified' differs
      rw [decide_eq_false_iff_not] at unchanged
      omega
    case h_2 => cases unchanged

end Texts

namespace Session

variable {s : Session σ} {e : Event σ} {es : List (Event σ)}

theorem store_after (keeps : ∀ e ∈ es, e.changed s.workspace.store = s.workspace.store) :
    (s.after c es).workspace.store = s.workspace.store ∧
      ∀ m ∈ s.leaves c es, m = s.workspace.store := by
  induction es generalizing s
  case nil => exact ⟨rfl, nofun⟩
  case cons e es hi =>
    obtain ⟨first, rest⟩ := List.forall_mem_cons.mp keeps
    have same : (s.apply c e).workspace.store = s.workspace.store := (store_apply e).trans first
    rw [← same] at rest ⊢
    obtain ⟨last, left⟩ := hi rest
    refine ⟨last, fun m mem => ?_⟩
    obtain mem | mem := List.mem_append.mp mem
    case inl => exact left m mem
    case inr => rw [List.mem_singleton.mp mem, same]

end Session

-- What is true of a struct that a question in `store` does not report. It is of a text that was
-- read in one store, and was dated in a later one. If the document was there then, it holds the
-- struct's text now exactly if it is still there and held that text when it was dated.
def Texts.Tells (texts : Texts σ) (c : Config) (stores : List σ) (store : σ) (x : Struct) : Prop :=
  ∃ text stamped, Dated c stores x text stamped ∧ ((texts.text? stamped x.uri).isSome = true →
    (texts.text? store x.uri = some text ↔
      (texts.text? store x.uri).isSome = true ∧ texts.text? stamped x.uri = some text))

theorem Texts.Grows.tells {texts : Texts σ} {stores : List σ} (grows : texts.Grows (store :: older))
    (known : ∀ m ∈ stores, m = store ∨ m ∈ older) (dated : Dated c stores x text stamped)
    (unchanged : hasChanged store x = false) : texts.Tells c stores store x := by
  refine ⟨text, stamped, dated, fun held => ?_⟩
  obtain ⟨then', held⟩ := Option.isSome_iff_exists.mp held
  constructor
  case mp =>
    intro holds
    rw [held, grows.text_eq known dated unchanged holds held, holds]
    exact ⟨rfl, rfl⟩
  case mpr =>
    rintro ⟨holds, same⟩
    obtain ⟨now, holds⟩ := Option.isSome_iff_exists.mp holds
    rw [holds, ← grows.text_eq known dated unchanged holds held, ← held, same]

section Memory

open MemoryStore

def MemoryStore.texts : Texts MemoryStore where
  text? m uri := m.contents.text? uri
  of_read m uri d read := by
    have read : m.read uri = .ok d := read
    unfold MemoryStore.read at read
    split at read
    case h_1 found =>
      split at read <;> cases read
      simp only [contents, found, Option.map_some]
    case h_2 => cases read

theorem MemoryStore.modified_eq_ok_iff {m : MemoryStore} {uri : String} {time : Int} :
    DocumentStore.modified m uri = .ok time ↔
      ∃ d, NameMap.get? uri m.documents = some d ∧ (d.written : Int) = time := by
  show m.modified uri = .ok time ↔ _
  unfold MemoryStore.modified
  cases NameMap.get? uri m.documents <;> simp

-- Times of change in memory grow with each write, as long as the clock does not go beyond the whole
-- numbers that a double holds.
theorem MemoryStore.texts_grow {m : MemoryStore} {older : List MemoryStore}
    (successive : Successive (m :: older)) (small : m.clock < Nat.pow 2 Double.precision) :
    texts.Grows (m :: older) := by
  refine ⟨fun store mem uri time modified => ?double, ?grows⟩
  case double =>
    obtain ⟨d, found, rfl⟩ := modified_eq_ok_iff.mp modified
    exact Double.ofInt_natCast <| Nat.lt_of_le_of_lt (successive.written_le mem found) small
  case grows =>
    refine successive.follows.imp_of_mem fun {later earlier} _ mem follows => ?_
    intro uri text text' time time' held held' modified modified' differs
    obtain ⟨d, found, rfl⟩ := modified_eq_ok_iff.mp modified
    obtain ⟨d', found', rfl⟩ := modified_eq_ok_iff.mp modified'
    obtain same | written := follows.documents uri d' found'
    case inl =>
      have shown : texts.text? earlier uri = texts.text? later uri := by
        simp only [texts, contents, same, found']
      exact absurd (Option.some.inj <| held.symm.trans <| shown.trans held') differs
    case inr =>
      have := successive.clocked earlier mem uri d found
      omega

-- An event changes the store by an edit, if it does.
def Event.Edits : Event MemoryStore → Prop
  | .store change => ∃ edit, change = (·.edit edit)
  | _ => True

-- Sessions over a store in memory that is edited, amid all other events, leave successive stores
-- behind.
theorem Session.successive_after {s : Session MemoryStore} {older : List MemoryStore}
    {es : List (Event MemoryStore)} (successive : Successive (s.workspace.store :: older))
    (edits : ∀ e ∈ es, e.Edits) :
    Successive ((s.after c es).workspace.store :: (s.leaves c es ++ older)) := by
  induction es generalizing s older
  case nil => exact successive
  case cons e es hi =>
    obtain ⟨first, rest⟩ := List.forall_mem_cons.mp edits
    have clocked := successive.clocked _ List.mem_cons_self
    rw [leaves, List.append_assoc]
    refine hi ?_ rest
    rw [store_apply]
    cases e
    case store change =>
      obtain ⟨edit, rfl⟩ := first
      exact successive.cons (.edit _ edit) (clocked.edit edit)
    all_goals exact successive.cons (.refl _) clocked

theorem Session.exists_past {es : List (Event MemoryStore)} (edits : ∀ e ∈ es, e.Edits) :
    let s := (Session.ofStore {}).after c es
    ∃ older, Session.Past c s older ∧ Successive (s.workspace.store :: older) :=
  ⟨_, (Session.Past.start {}).after es, successive_after (.single nofun) edits⟩

end Memory

-- What can be read of a file is its text.
def FileStore.texts : Texts FileStore where
  text? f uri := (f.read uri).toOption.map (·.text)
  of_read f uri d read := by
    have read : f.read uri = .ok d := read
    rw [read]
    rfl

namespace Session

open MemoryStore

-- A question for stale structs that ends, with nobody changing the store from its call on, reports
-- the stale structs of a snapshot that was in place on the way, and leaves out those of which `Tells`
-- tells. Before the call, anything may have happened at any time.
theorem stale_answered {texts : Texts σ} {s : Session σ} {es : List (Event σ)}
    {reported : List Struct} (past : Past c s older)
    (grows : texts.Grows (s.workspace.store :: older)) (new : s.IsNew ticket)
    (keeps : ∀ e ∈ es, e.changed s.workspace.store = s.workspace.store)
    (other : ∀ e ∈ es, ∀ call, e ≠ .call ticket call)
    (ended : (ticket, .stale reported) ∈
      (s.after c (.call ticket (.query .stale) :: es)).ended) :
    ∃ pre, pre <+: es ∧ let begun := .call ticket (.query .stale) :: pre
      let xs := (s.after c begun).workspace.snapshot.structs
      reported = staleOf s.workspace.store xs ∧ ∀ x ∈ xs, x ∉ reported →
        texts.Tells c (s.leaves c begun ++ older) s.workspace.store x := by
  let Known (v : Snapshot) : Prop := ∃ pre, pre <+: es ∧
    (s.after c (.call ticket (.query .stale) :: pre)).workspace.snapshot = v
  have first : Known s.workspace.snapshot := ⟨[], List.nil_prefix, rfl⟩
  have asking := (Asking.start (c := c) new first).after keeps other
    fun pre sub => ⟨pre, sub, rfl⟩
  generalize answer : Outcome.stale reported = o at ended
  obtain ⟨pre, sub, rfl⟩ | _ := asking.ended o ended
  all_goals cases answer
  refine ⟨pre, sub, rfl, fun x mem absent => ?_⟩
  have unchanged : hasChanged s.workspace.store x = false := by
    refine Bool.eq_false_iff.mpr fun changed => absent ?_
    exact List.mem_filter.mpr ⟨mem, changed⟩
  obtain ⟨text, stamped, dated⟩ := (past.after _).dates.snapshot x mem
  refine grows.tells (fun m mem => ?_) dated unchanged
  refine (List.mem_append.mp mem).imp_left fun left => ?_
  refine store_after (fun e mem => ?_) |>.2 m left
  obtain rfl | mem := List.mem_cons.mp mem
  case inl => rfl
  case inr => exact keeps e <| sub.mem mem

-- A file is written to after it was dated in a rebuild, so that its struct is reported, and that of
-- the other file is not.
theorem stale_answered_after_rebuild :
    let c := Config.ofPace ⟨4, false⟩
    let put (uri text : String) : Event MemoryStore := .store (·.edit (.put uri text))
    let es := [put "file:///ws/a.go" "package p;type A struct\x7b\x7d",
      put "file:///ws/b.go" "package p;type B struct\x7b\x7d", .call 0 .refresh, .act 0, .act 0,
      .act 0, .act 0, .act 0, put "file:///ws/a.go" "", .act 0, .act 0]
    let steps : List (Event MemoryStore) := [.act 0, .act 0, .act 0]
    let s := (ofStore {}).after c es
    let a := { name := "A", package := "p", uri := "file:///ws/a.go", path := "file:///ws/a.go"
               span := ⟨⟨0, 15⟩, ⟨0, 25⟩⟩, modified := 1, definition := "type A struct\x7b\x7d" }
    (s.workspace.snapshot.structs.map (·.name) = ["A", "B"] ∧
      (1, .stale [a]) ∈ (s.after c (.call 1 (.query .stale) :: steps)).ended) ∧
    ∃ older, Past c s older ∧ ∃ pre, pre <+: steps ∧ let begun := .call 1 (.query .stale) :: pre
      let xs := (s.after c begun).workspace.snapshot.structs
      [a] = staleOf s.workspace.store xs ∧ ∀ x ∈ xs, x ∉ [a] →
        texts.Tells c (s.leaves c begun ++ older) s.workspace.store x := by
  intro c put es steps s a
  have edits : ∀ e ∈ es, e.Edits := by
    simp only [es, List.forall_mem_cons]
    exact ⟨⟨_, rfl⟩, ⟨_, rfl⟩, trivial, trivial, trivial, trivial, trivial, trivial, ⟨_, rfl⟩,
      trivial, trivial, nofun⟩
  obtain ⟨older, past, successive⟩ := exists_past (c := c) edits
  have reached : (ofStore {}).after c es = s := rfl
  rw [reached] at past successive
  have small : s.workspace.store.clock < Nat.pow 2 Double.precision := by decide +kernel
  have names : s.workspace.snapshot.structs.map (·.name) = ["A", "B"] := by decide +kernel
  have ended : (1, .stale [a]) ∈ (s.after c (.call 1 (.query .stale) :: steps)).ended := by
    decide +kernel
  have tasks : s.tasks.map (·.origin) = [] := by decide +kernel
  have before : s.ended.map (·.1) = [0] := by decide +kernel
  clear reached
  clear_value s
  have new : s.IsNew 1 := by
    refine ⟨fun t mem => ?_, fun o mem => ?_⟩
    case refine_1 =>
      have := List.mem_map_of_mem (f := (·.origin)) mem
      rw [tasks] at this
      cases this
    case refine_2 =>
      have := List.mem_map_of_mem (f := (·.1)) mem
      rw [before] at this
      simp at this
  exact ⟨⟨names, ended⟩, older, past, stale_answered past (texts_grow successive small) new
    (by simp [steps, Event.changed]) (by simp [steps]) ended⟩

-- A document that loses its struct right between its reading and its dating is not reported.
theorem overwritten_unreported :
    let c := Config.ofPace ⟨4, false⟩
    let put (text : String) : Event MemoryStore := .store (·.edit (.put "file:///ws/a.go" text))
    let s := (ofStore {}).after c [put "package p;type A struct\x7b\x7d", .call 0 .refresh, .act 0,
      .act 0, .act 0, .act 0, put "", .act 0]
    s.workspace.snapshot.structs.map (·.name) = ["A"] ∧
      (1, .stale []) ∈ (s.after c [.call 1 (.query .stale), .act 0, .act 0]).ended ∧
      texts.text? s.workspace.store "file:///ws/a.go" = some "" ∧
      (Host.structs "" "file:///ws/a.go" "file:///ws/a.go" 2).toOption = some [] := by
  intro c put s
  refine ⟨?_, ?_, ?_, ?_⟩
  all_goals decide +kernel

-- Nor is a file that a directory has taken the place of, if the file was dated later than the directory.
theorem displaced_unreported :
    let c := Config.ofPace ⟨4, false⟩
    let source := Text.utf8 "package p;type A struct\x7b\x7d".toList
    let f : FileStore :=
      { tree := FileTree.write {} ["ws", "a.go"] source 2147483000, cwd := ["ws"]
        root := ⟨.root, ["ws"]⟩, excluded := [] }
    let moved : FileTree := FileTree.write {} ["ws", "a.go", "notes.txt"] [] 1000
    let s := (ofStore f).after c [.call 0 .refresh, .act 0, .act 0, .act 0, .act 0, .act 0,
      .store fun f => { f with tree := moved }]
    s.workspace.snapshot.structs.map (·.name) = ["A"] ∧
      (1, .stale []) ∈ (s.after c [.call 1 (.query .stale), .act 0, .act 0]).ended ∧
      FileStore.texts.text? s.workspace.store "file:///ws/a.go" = none := by
  intro c source f moved s
  refine ⟨?_, ?_, ?_⟩
  all_goals decide +kernel

end Session

end FlowIndex
