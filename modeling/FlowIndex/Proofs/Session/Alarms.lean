import FlowIndex.Proofs.Session.Pending

namespace FlowIndex

-- The alarms of a session, by the times at which they were set, and what became of them.
structure Alarms where
  -- Those that can still go off, the latest one first.
  waiting : List Nat := []
  -- The times at which alarms went off, the latest one first.
  rang : List Nat := []
  -- The times at which the timer caused rebuilds, the latest one first.
  caused : List Nat := []
deriving DecidableEq, Repr

namespace Alarms

-- A session that is not armed sets an alarm.
def set (q : Schedule) (a : Alarms) : Alarms :=
  if q.timer.isSome then a else { a with waiting := q.now :: a.waiting }

-- What a mark means for the alarms. The one that is taken back is the one that was set last.
def mark (pace : Pace) (q : Schedule) (a : Alarms) : Mark → Alarms
  | .noted _ => a.set q
  | .left => if pace.trailing && !q.arrived.isEmpty then a.set q else a
  | .disarmed => if q.timer.isSome then { a with waiting := a.waiting.tail } else a
  | _ => a

def marks (pace : Pace) : Schedule → Alarms → List Mark → Alarms
  | _, a, [] => a
  | q, a, m :: ms => marks pace (q.play pace m) (a.mark pace q m) ms

end Alarms

-- How the alarms stand to the schedule: one waits just if the timer is armed, was set the delay
-- before the time at which the timer is due, and not before the last one went off.
structure Alarms.Keep (pace : Pace) (q : Schedule) (a : Alarms) : Prop where
  armed : q.timer.toList = a.waiting.map (· + pace.delay)
  set_le : ∀ t ∈ a.waiting, t ≤ q.now
  behind : ∀ r ∈ a.rang, ∀ t ∈ a.waiting, r ≤ t
  rang_le : ∀ r ∈ a.rang, r ≤ q.now
  apart : a.rang.Pairwise fun later earlier => earlier + pace.delay ≤ later
  caused : a.caused.Sublist a.rang

namespace Alarms

variable {pace : Pace} {q q' : Schedule} {a : Alarms} {ms : List Mark} {t d : Nat}

theorem Keep.waiting_eq (keep : Keep pace q a) :
    q.timer = none ∧ a.waiting = [] ∨ ∃ t, q.timer = some (t + pace.delay) ∧ a.waiting = [t] := by
  have armed := keep.armed
  cases timer : q.timer
  case none =>
    rw [timer] at armed
    exact .inl ⟨rfl, List.map_eq_nil_iff.mp armed.symm⟩
  case some d =>
    rw [timer] at armed
    obtain ⟨t, rest, waiting, rfl, none⟩ := List.map_eq_cons_iff.mp armed.symm
    rw [List.map_eq_nil_iff.mp none] at waiting
    exact .inr ⟨t, rfl, waiting⟩

theorem Keep.of_eq (keep : Keep pace q a) (timer : q'.timer = q.timer) (now : q.now ≤ q'.now) :
    Keep pace q' a where
  armed := timer ▸ keep.armed
  set_le t mem := Nat.le_trans (keep.set_le t mem) now
  behind := keep.behind
  rang_le r mem := Nat.le_trans (keep.rang_le r mem) now
  apart := keep.apart
  caused := keep.caused

-- No alarm waits behind a timer that is not armed.
theorem Keep.silent {rang caused : List Nat} (timer : q.timer = none)
    (rang_le : ∀ r ∈ rang, r ≤ q.now)
    (apart : rang.Pairwise fun later earlier => earlier + pace.delay ≤ later)
    (sublist : caused.Sublist rang) : Keep pace q ⟨[], rang, caused⟩ where
  armed := by rw [timer]; rfl
  set_le _ mem := absurd mem List.not_mem_nil
  behind _ _ _ mem := absurd mem List.not_mem_nil
  rang_le := rang_le
  apart := apart
  caused := sublist

theorem Keep.set (keep : Keep pace q a) (timer : q'.timer = q.timer) (now : q'.now = q.now) :
    Keep pace (q'.arm pace) (a.set q) := by
  obtain ⟨none, waiting⟩ | ⟨t, some, waiting⟩ := keep.waiting_eq
  case inl =>
    have set : a.set q = { a with waiting := [q.now] } := by simp [Alarms.set, none, waiting]
    rw [set]
    constructor
    case armed => simp [Schedule.arm, timer, none, now]
    case set_le => simp [Schedule.arm, now]
    case behind => simpa using keep.rang_le
    case rang_le => simpa [Schedule.arm, now] using keep.rang_le
    case apart => exact keep.apart
    case caused => exact keep.caused
  case inr =>
    have set : a.set q = a := by simp [Alarms.set, some]
    rw [set]
    refine keep.of_eq ?_ (Nat.le_of_eq now.symm)
    simp [Schedule.arm, timer, some]

theorem Keep.mark (keep : Keep pace q a) (m : Mark) :
    Keep pace (q.play pace m) (a.mark pace q m) := by
  cases m
  case noted => exact keep.set rfl rfl
  case begun route => cases route <;> exact keep.of_eq rfl (Nat.le_refl _)
  case passed time => exact keep.of_eq rfl (Nat.le_add_right ..)
  case left =>
    simp only [Schedule.play, Alarms.mark, Schedule.reschedule]
    split
    case isTrue => exact keep.set rfl rfl
    case isFalse => exact keep.of_eq rfl (Nat.le_refl _)
  case disarmed =>
    have none : a.mark pace q .disarmed = { a with waiting := [] } := by
      obtain ⟨timer, waiting⟩ | ⟨t, timer, waiting⟩ := keep.waiting_eq
      case inl => simp [Alarms.mark, timer, ← waiting]
      case inr => simp [Alarms.mark, timer, waiting]
    rw [none]
    exact .silent rfl keep.rang_le keep.apart keep.caused
  all_goals exact keep.of_eq rfl (Nat.le_refl _)

theorem Keep.marks (keep : Keep pace q a) :
    Keep pace (ms.foldl (Schedule.play pace) q) (a.marks pace q ms) := by
  induction ms generalizing q a
  case nil => exact keep
  case cons m ms hi => exact hi <| keep.mark m

-- An alarm goes off, and causes a rebuild or none. The one before it went off before this one was
-- set.
theorem Keep.goOff {n : Nat} (keep : Keep pace q a) (mem : t ∈ a.waiting)
    (due : t + pace.delay ≤ q.now) (single : n ≤ 1) :
    Keep pace q.disarm
      { waiting := a.waiting.erase t, rang := q.now :: a.rang
        caused := List.replicate n q.now ++ a.caused } := by
  obtain ⟨_, waiting⟩ | ⟨t', _, waiting⟩ := keep.waiting_eq
  case inl =>
    rw [waiting] at mem
    cases mem
  case inr =>
    obtain rfl : t = t' := by simpa [waiting] using mem
    have none : a.waiting.erase t = [] := by simp [waiting]
    rw [none]
    refine .silent rfl ?rang_le ?apart ?caused
    case rang_le => exact List.forall_mem_cons.mpr ⟨Nat.le_refl _, keep.rang_le⟩
    case apart =>
      refine .cons (fun r hr => ?_) keep.apart
      have before := keep.behind r hr t mem
      omega
    case caused =>
      obtain rfl | rfl := Nat.le_one_iff_eq_zero_or_eq_one.mp single
      case inl => exact keep.caused.cons _
      case inr => exact keep.caused.cons_cons _

-- Nothing but that it is disarmed moves a timer that is armed, or touches its alarm.
theorem armed_play {m : Mark} (armed : q.timer = some d) (other : m ≠ .disarmed) :
    (q.play pace m).timer = some d ∧ (a.mark pace q m).waiting = a.waiting := by
  cases m
  case disarmed => exact absurd rfl other
  case noted => simp [Schedule.play, Schedule.notify, Schedule.arm, mark, Alarms.set, armed]
  case begun route => cases route <;> exact ⟨armed, rfl⟩
  case left =>
    simp only [Schedule.play, Schedule.reschedule, mark]
    split
    case isTrue => simp [Schedule.arm, Alarms.set, armed]
    case isFalse => exact ⟨armed, rfl⟩
  all_goals exact ⟨armed, rfl⟩

theorem armed_foldl (armed : q.timer = some d) (kept : .disarmed ∉ ms) :
    (ms.foldl (Schedule.play pace) q).timer = some d ∧
      (a.marks pace q ms).waiting = a.waiting := by
  induction ms generalizing q a
  case nil => exact ⟨armed, rfl⟩
  case cons m ms hi =>
    obtain ⟨other, later⟩ : .disarmed ≠ m ∧ .disarmed ∉ ms := by simpa using kept
    obtain ⟨armed, waiting⟩ :
        (q.play pace m).timer = some d ∧ (a.mark pace q m).waiting = a.waiting :=
      armed_play armed other.symm
    rw [← waiting]
    exact hi armed later

end Alarms

namespace Session

variable {σ : Type} [DocumentStore σ] {c : Config} {s s' : Session σ} {a : Alarms} {h : List Mark}

-- The rebuilds under way that the timer caused.
def timerTasks (s : Session σ) : Nat :=
  s.tasks.countP (·.origin = .timer)

-- Notes the rebuilds that the timer caused between two states.
def causes (s s' : Session σ) (a : Alarms) : Alarms :=
  let new := s'.timerTasks - s.timerTasks
  { a with caused := List.replicate new s.workspace.schedule.now ++ a.caused }

-- The alarms after an event other than that one goes off, and after some of them.
def alarms (c : Config) (s : Session σ) (a : Alarms) (e : Event σ) : Alarms :=
  causes s (s.apply c e) (a.marks c.pace s.workspace.schedule (s.marks c e))

def alarmsAfter (c : Config) (s : Session σ) (a : Alarms) : List (Event σ) → Alarms
  | [] => a
  | e :: es => alarmsAfter c (s.apply c e) (s.alarms c a e) es

-- The states that a session can come to, with its alarms. An alarm can go off from when it is due.
inductive Ticks (c : Config) : Session σ → Alarms → Prop
  | start (store : σ) : Ticks c (.ofStore store) {}
  | event {s : Session σ} {a : Alarms} (ticks : Ticks c s a) (e : Event σ) (other : e ≠ .fire) :
    Ticks c (s.apply c e) (s.alarms c a e)
  | goOff {s : Session σ} {a : Alarms} (ticks : Ticks c s a) {t : Nat} (mem : t ∈ a.waiting)
      (due : t + c.pace.delay ≤ s.workspace.schedule.now) :
    Ticks c s.fire
      (causes s s.fire
        { a with waiting := a.waiting.erase t, rang := s.workspace.schedule.now :: a.rang })

omit [DocumentStore σ] in
theorem timerTasks_fire : s.fire.timerTasks ≤ s.timerTasks + 1 := by
  unfold fire
  split
  case isTrue => exact Nat.le_succ _
  case isFalse =>
    simp [timerTasks, spawn, modifyWorkspace]

theorem timerTasks_apply {e : Event σ} (other : e ≠ .fire) :
    (s.apply c e).timerTasks ≤ s.timerTasks := by
  obtain ⟨index, rfl⟩ | he := act_or_ne e
  case inl =>
    cases taken : s.taken c index
    case none => exact Nat.le_of_eq <| congrArg timerTasks <| act_eq_self taken
    case some found =>
      obtain ⟨t, st⟩ := found
      obtain ⟨pre, post, before, after⟩ := (acts_of_taken taken).tasks
      have next : (t.next st.2).countP (·.origin = .timer) ≤ [t].countP (·.origin = .timer) := by
        cases st.2
        case waits work => exact Nat.le_refl _
        all_goals exact Nat.zero_le _
      rw [timerTasks, timerTasks, apply, before, after, List.append_cons pre t post]
      simp only [List.countP_append]
      omega
  case inr =>
    have none : (s.started e).countP (·.origin = .timer) = 0 := by
      cases e
      case fire => exact absurd rfl other
      all_goals rfl
    rw [timerTasks, countP_tasks_apply he fun _ => rfl, none]
    exact Nat.le_refl _

theorem Ticks.keep (ticks : Ticks c s a) : a.Keep c.pace s.workspace.schedule := by
  induction ticks
  case start => exact .silent rfl nofun .nil .slnil
  case event s a ticks e other keep =>
    have none : (s.apply c e).timerTasks - s.timerTasks = 0 :=
      Nat.sub_eq_zero_of_le <| timerTasks_apply other
    rw [alarms, causes, none, schedule_apply]
    exact keep.marks
  case goOff s a ticks t mem due keep =>
    have single : s.fire.timerTasks - s.timerTasks ≤ 1 := by
      have := s.timerTasks_fire
      omega
    have disarmed : s.fire.workspace.schedule = s.workspace.schedule.disarm := by
      unfold fire
      split <;> rfl
    rw [disarmed]
    exact keep.goOff mem due single

theorem Ticks.after {es : List (Event σ)} (ticks : Ticks c s a) (others : ∀ e ∈ es, e ≠ .fire) :
    Ticks c (s.after c es) (s.alarmsAfter c a es) := by
  induction es generalizing s a
  case nil => exact ticks
  case cons e es hi =>
    have ticks := ticks.event e <| others e List.mem_cons_self
    exact hi ticks fun e mem => others e <| List.mem_cons_of_mem _ mem

theorem Run.exists_ticks (run : Run c (fun _ => True) s h) : ∃ a, Ticks c s a := by
  induction run
  case start store => exact ⟨_, .start store⟩
  case event s h run e _ hi =>
    obtain ⟨a, ticks⟩ := hi
    by_cases fires : e = .fire
    case neg => exact ⟨_, ticks.event e fires⟩
    case pos =>
      rw [fires, apply]
      cases due : s.workspace.schedule.isDue s.workspace.schedule.now
      case false => exact ⟨a, ticks⟩
      case true =>
        -- The timer is due, and so is the alarm behind it.
        obtain ⟨timer, _⟩ | ⟨t, timer, waiting⟩ := ticks.keep.waiting_eq
        case inl => simp [Schedule.isDue, timer] at due
        case inr =>
          refine ⟨_, ticks.goOff (t := t) (by simp [waiting]) ?_⟩
          simpa [Schedule.isDue, timer] using due

-- What the timer of a session has to do with its alarms.
structure Timed (c : Config) (s : Session σ) (a : Alarms) : Prop where
  single : a.waiting.length ≤ 1
  armed : s.workspace.schedule.timer.isSome = true ↔ a.waiting ≠ []
  deadline : ∀ d, s.workspace.schedule.timer = some d ↔ ∃ t ∈ a.waiting, d = t + c.pace.delay
  stays : ∀ e : Event σ, e ≠ .fire → e ≠ .cancel → e ≠ .stop → ∀ d,
    s.workspace.schedule.timer = some d →
      (s.apply c e).workspace.schedule.timer = some d ∧ (s.alarms c a e).waiting = a.waiting
  rang_apart : a.rang.Pairwise fun later earlier => earlier + c.pace.delay ≤ later
  caused_rang : a.caused.Sublist a.rang
  caused_apart : a.caused.Pairwise fun later earlier => earlier + c.pace.delay ≤ later

theorem timed_of_ticks (ticks : Ticks c s a) : Timed c s a := by
  have keep := ticks.keep
  have cases := keep.waiting_eq
  constructor
  case single =>
    obtain ⟨_, waiting⟩ | ⟨t, _, waiting⟩ := cases
    all_goals simp [waiting]
  case armed =>
    obtain ⟨timer, waiting⟩ | ⟨t, timer, waiting⟩ := cases
    all_goals simp [timer, waiting]
  case deadline =>
    obtain ⟨timer, waiting⟩ | ⟨t, timer, waiting⟩ := cases
    case inl => simp [timer, waiting]
    case inr => simp [timer, waiting, eq_comm]
  case stays =>
    intro e fire cancel stop d armed
    have goesOn : e.LetsGoOn := by
      cases e
      case cancel => exact cancel rfl
      case stop => exact stop rfl
      all_goals trivial
    have kept := disarmed_notMem_marks (s := s) (c := c) goesOn fire
    rw [schedule_apply]
    exact Alarms.armed_foldl armed kept
  case rang_apart => exact keep.apart
  case caused_rang => exact keep.caused
  case caused_apart => exact keep.apart.sublist keep.caused

-- Whatever happens to a session, there are alarms behind its timer, and any account of them is
-- right.
theorem Run.timed (run : Run c (fun _ => True) s h) :
    (∃ a, Ticks c s a) ∧ ∀ a, Ticks c s a → Timed c s a :=
  ⟨run.exists_ticks, fun _ => timed_of_ticks⟩

-- The second change does not move the timer, which goes off late. The rebuild that it causes is
-- called off along with the alarm of a third change, and sets an alarm for this change when it is
-- left.
theorem timed_trailing_after_cancel :
    let c := Config.ofPace ⟨4, true⟩
    let store : MemoryStore := {}
    let first : List (Event MemoryStore) := [.notify "a.gorch", .tick 3, .notify "b.gorch", .tick 2]
    let second : List (Event MemoryStore) :=
      [.act 0, .notify "c.gorch", .cancel, .act 0, .tick 4]
    let es := first ++ .fire :: (second ++ [.fire])
    let s := (ofStore store).after c es
    ∃ a, Ticks c s a ∧ a = { waiting := [], rang := [9, 5], caused := [9, 5] } ∧
      Run c (fun _ => True) s ((ofStore store).history c es) ∧ Timed c s a := by
  intro c store first second es s
  have run : Run c (fun _ => True) s ((ofStore store).history c es) :=
    run_of_events store fun _ _ => trivial
  have start : Ticks c (ofStore store) {} := .start store
  have others : ∀ e ∈ first, e ≠ .fire := by simp [first]
  have others' : ∀ e ∈ second, e ≠ .fire := by simp [second]
  have ticks := start.after others
  have ticks := ticks.goOff (t := 0) (by decide +kernel) (by decide +kernel)
  have ticks := ticks.after others'
  have ticks := ticks.goOff (t := 5) (by decide +kernel) (by decide +kernel)
  exact ⟨_, ticks, by decide +kernel, run, run.timed.2 _ ticks⟩

end Session

end FlowIndex
