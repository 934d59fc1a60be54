import FlowIndex.Proofs.Session.Dating

namespace FlowIndex

variable {σ : Type} [DocumentStore σ] {c : Config} {store : σ} {x : Struct} {ticket : Nat}

-- Whether a struct is reported as stale. A document without a time of change is gone.
def hasChanged (store : σ) (x : Struct) : Bool :=
  match DocumentStore.modified store x.uri with
  | .ok time => x.modified < time
  | .error _ => true

def staleOf (store : σ) (xs : List Struct) : List Struct :=
  xs.filter (hasChanged store)

theorem hasChanged_of_isStale {w : Workspace σ} {stale : Bool} (ok : w.isStale x = .ok stale) :
    hasChanged w.store x = stale := by
  unfold Workspace.isStale at ok
  unfold hasChanged
  split at ok
  all_goals cases ok
  all_goals simp only [*]

namespace Session

variable {s : Session σ} {e : Event σ}

theorem ended_apply (he : ∀ index, e ≠ .act index) : (s.apply c e).ended = s.ended := by
  cases e
  case act index => exact absurd rfl (he index)
  case fire =>
    simp only [apply, fire]
    split
    · split <;> rfl
    · rfl
  all_goals rfl

omit [DocumentStore σ] in
theorem origin_ne_of_mem_started {t : Task} (other : ∀ call, e ≠ .call ticket call)
    (mem : t ∈ s.started e) : t.origin ≠ .caller ticket := by
  obtain ⟨ticket', call, rfl, rfl⟩ | ⟨_, rfl⟩ := started_cases mem
  case inl =>
    rintro ⟨⟩
    exact other call rfl
  case inr => exact nofun

omit [DocumentStore σ] in
theorem ended_place {index : Nat} {t : Task} {st : Step σ} {o : Outcome}
    (mem : (ticket, o) ∈ (s.place index t st).ended) :
    (ticket, o) ∈ s.ended ∨ t.origin = .caller ticket ∧ st.2 = .ends o := by
  obtain ⟨w, p⟩ := st
  cases p
  case ends o' =>
    cases origin : t.origin
    case timer =>
      simp only [place, record, origin] at mem
      exact .inl mem
    case caller ticket' =>
      simp only [place, record, origin] at mem
      obtain mem | mem := List.mem_append.mp mem
      case inl => exact .inl mem
      case inr =>
        cases List.mem_singleton.mp mem
        exact .inr ⟨rfl, rfl⟩
  all_goals exact .inl mem

-- A step ends at most the call that takes it.
theorem ended_act {index : Nat} {o : Outcome} (mem : (ticket, o) ∈ (s.act c index).ended) :
    (ticket, o) ∈ s.ended ∨ ∃ t ∈ s.tasks, t.origin = .caller ticket ∧
      (s.workspace.step c t.work).2 = .ends o := by
  unfold act at mem
  split at mem
  case h_1 => exact .inl mem
  case h_2 t task =>
    have of_place {work : Work} (same : t.work = work)
        (mem : (ticket, o) ∈ (s.place index t (s.workspace.step c work)).ended) :
        (ticket, o) ∈ s.ended ∨ ∃ t ∈ s.tasks, t.origin = .caller ticket ∧
          (s.workspace.step c t.work).2 = .ends o := by
      refine (ended_place mem).imp_right fun ⟨origin, ends⟩ => ?_
      exact ⟨t, List.mem_of_getElem? task, origin, by rw [same, ends]⟩
    split at mem
    case isTrue => exact .inl mem
    case isFalse =>
      split at mem
      case h_1 idling =>
        split at mem
        case isTrue => exact .inl mem
        case isFalse => exact of_place idling mem
      case h_2 => exact of_place rfl mem

theorem mem_ended_apply {o : Outcome} (mem : (ticket, o) ∈ (s.apply c e).ended) :
    (ticket, o) ∈ s.ended ∨ ∃ t ∈ s.tasks, t.origin = .caller ticket ∧
      (s.workspace.step c t.work).2 = .ends o := by
  obtain ⟨index, rfl⟩ | he := act_or_ne e
  case inl => exact ended_act mem
  case inr =>
    rw [ended_apply he] at mem
    exact .inl mem

end Session

-- A call that asks for stale structs, in sessions that leave a store as it is: it has not begun, or
-- compares the structs of a known snapshot.
inductive Asks (store : σ) (Known : Snapshot → Prop) : Work → Prop
  | queued : Asks store Known (.queued (.query .stale))
  | comparing {v : Snapshot} {done rest : List Struct} {x : Struct} (known : Known v)
    (structs : v.structs = done ++ x :: rest) :
    Asks store Known (.comparing (.question .structs) x rest (staleOf store done))

-- What such a call ends with: the stale structs of a known snapshot, or a comparison's failure.
inductive Answers (store : σ) (Known : Snapshot → Prop) : Outcome → Prop
  | stale {v : Snapshot} (known : Known v) : Answers store Known (.stale (staleOf store v.structs))
  | failed (f : Failure) : Answers store Known (.failed f)

-- What a step of such a call comes to: it goes on to ask, or it ends.
inductive Gets (store : σ) (Known : Snapshot → Prop) : Progress → Prop
  | waits {work : Work} (asks : Asks store Known work) : Gets store Known (.waits work)
  | ends {o : Outcome} (answers : Answers store Known o) : Gets store Known (.ends o)

namespace Asks

variable {Known : Snapshot → Prop} {w : Workspace σ}

theorem compareFor {v : Snapshot} {done rest : List Struct} (known : Known v)
    (structs : v.structs = done ++ rest) :
    Gets w.store Known (w.compareFor .structs (staleOf w.store done) rest).2 := by
  cases rest
  case nil =>
    rw [List.append_nil] at structs
    rw [← structs]
    exact .ends <| .stale known
  case cons x rest => exact .waits <| .comparing known structs

theorem step {work : Work} (asks : Asks w.store Known work) (known : Known w.snapshot) :
    Gets w.store Known (w.step c work).2 := by
  cases asks
  case queued => exact compareFor known (List.nil_append _).symm
  case comparing v done rest x known structs =>
    cases changed : w.isStale x
    case error f =>
      simp only [Workspace.step, changed]
      exact .ends <| .failed f
    case ok stale =>
      have more : (w.step c (.comparing (.question .structs) x rest (staleOf w.store done))).2 =
          (w.compareFor .structs (staleOf w.store (done ++ [x])) rest).2 := by
        simp only [Workspace.step, changed, staleOf, List.filter_append, List.filter_cons,
          hasChanged_of_isStale changed, List.filter_nil]
        cases stale
        case false => simp
        case true => rfl
      rw [more]
      exact compareFor known (structs.trans <| List.append_cons ..)

end Asks

namespace Session

variable {s : Session σ} {e : Event σ} {es : List (Event σ)} {Known : Snapshot → Prop}

-- A ticket that is not in use yet.
structure IsNew (ticket : Nat) (s : Session σ) : Prop where
  tasks : ∀ t ∈ s.tasks, t.origin ≠ .caller ticket
  ended : ∀ o, (ticket, o) ∉ s.ended

-- The calls of a ticket ask for stale structs, in a store that stays as it is.
structure Asking (store : σ) (Known : Snapshot → Prop) (ticket : Nat) (s : Session σ) : Prop where
  same : s.workspace.store = store
  known : Known s.workspace.snapshot
  tasks : ∀ t ∈ s.tasks, t.origin = .caller ticket → Asks store Known t.work
  ended : ∀ o, (ticket, o) ∈ s.ended → Answers store Known o

namespace Asking

theorem step {t : Task} (asking : s.Asking store Known ticket) (listed : t ∈ s.tasks)
    (origin : t.origin = .caller ticket) : Gets store Known (s.workspace.step c t.work).2 := by
  have asks := asking.tasks t listed origin
  rw [← asking.same] at asks ⊢
  exact asks.step asking.known

theorem apply (asking : s.Asking store Known ticket) (known : Known (s.apply c e).workspace.snapshot)
    (keeps : e.changed store = store) (other : ∀ call, e ≠ .call ticket call) :
    (s.apply c e).Asking store Known ticket := by
  refine ⟨?same, known, fun t mem origin => ?tasks, fun o mem => ?ended⟩
  case same => rw [store_apply, asking.same, keeps]
  case tasks =>
    cases present_apply mem
    case old listed => exact asking.tasks t listed origin
    case calledOff timer =>
      rw [timer] at origin
      cases origin
    case started new => exact absurd origin <| origin_ne_of_mem_started other new
    case stepped listed _ step =>
      have gets := asking.step (c := c) listed origin
      rw [step] at gets
      cases gets
      case waits asks => exact asks
  case ended =>
    obtain mem | ⟨t, listed, origin, ends⟩ := mem_ended_apply mem
    case inl => exact asking.ended o mem
    case inr =>
      have gets := asking.step (c := c) listed origin
      rw [ends] at gets
      cases gets
      case ends answers => exact answers

theorem start (new : s.IsNew ticket) (known : Known s.workspace.snapshot) :
    (s.apply c (.call ticket (.query .stale))).Asking s.workspace.store Known ticket := by
  refine ⟨rfl, known, fun t mem origin => ?_, fun o mem => absurd mem <| new.ended o⟩
  obtain mem | mem := List.mem_append.mp mem
  case inl => exact absurd origin <| new.tasks t mem
  case inr =>
    rw [List.mem_singleton.mp mem]
    exact .queued

theorem after (asking : s.Asking store Known ticket) (keeps : ∀ e ∈ es, e.changed store = store)
    (other : ∀ e ∈ es, ∀ call, e ≠ .call ticket call)
    (known : ∀ pre, pre <+: es → Known (s.after c pre).workspace.snapshot) :
    (s.after c es).Asking store Known ticket := by
  induction es generalizing s
  case nil => exact asking
  case cons e es hi =>
    obtain ⟨keep, keeps⟩ := List.forall_mem_cons.mp keeps
    obtain ⟨first, other⟩ := List.forall_mem_cons.mp other
    have next := asking.apply (known [e] <| by simp) keep first
    refine hi next keeps other fun pre sub => known (e :: pre) ?_
    exact List.cons_prefix_cons.mpr ⟨rfl, sub⟩

end Asking

end Session

end FlowIndex
