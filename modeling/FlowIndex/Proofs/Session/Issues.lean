import FlowIndex.Proofs.Session.History
import FlowIndex.Proofs.Session.Publishing

namespace FlowIndex

-- A publication of the listener that checks the open documents, with the version of the snapshot
-- that it comes from.
structure Issue where
  uri : String
  version : Nat
  problems : List Diagnostic
deriving DecidableEq, Repr

-- What a round of the listener publishes before it waits or ends, in order.
def Snapshot.issues (s : Snapshot) : List (String × Option String) → List Issue
  | [] | (_, none) :: _ => []
  | (uri, some text) :: rest =>
    match diagnose s uri text with
    | .ok ds => ⟨uri, s.version, ds⟩ :: s.issues rest
    | .error _ => []

-- What the sink has of a document after some publications, in order.
def shown (uri : String) (is : List Issue) (before : Option (List Diagnostic)) :
    Option (List Diagnostic) :=
  is.foldl (fun ds i => if i.uri = uri then some i.problems else ds) before

theorem shown_eq {uri : String} {is : List Issue} {before : Option (List Diagnostic)} :
    shown uri is before = ((is.reverse.find? (·.uri = uri)).map (·.problems)).or before := by
  induction is generalizing before
  case nil => rfl
  case cons i is hi =>
    have tail : shown uri (i :: is) before =
        shown uri is (if i.uri = uri then some i.problems else before) := rfl
    rw [tail, hi, List.reverse_cons, List.find?_append]
    by_cases same : i.uri = uri <;> cases is.reverse.find? (·.uri = uri) <;> simp [same]

theorem isSome_shown {uri : String} {is : List Issue} {before : Option (List Diagnostic)}
    (published : ∃ i ∈ is, i.uri = uri) : (shown uri is before).isSome = true := by
  have last : (is.reverse.find? (·.uri = uri)).isSome = true := by
    simpa [List.find?_isSome] using published
  rw [shown_eq, Option.isSome_or, Option.isSome_map, last, Bool.true_or]

theorem Snapshot.of_mem_issues {s : Snapshot} {items : List (String × Option String)} {i : Issue}
    (mem : i ∈ s.issues items) : i.version = s.version ∧ i.uri ∈ items.map (·.1) := by
  induction items
  case nil => cases mem
  case cons item rest hi =>
    obtain ⟨uri, text⟩ := item
    cases text
    case none => cases mem
    case some text =>
      unfold issues at mem
      split at mem
      case h_1 =>
        obtain rfl | mem := List.mem_cons.mp mem
        · exact ⟨rfl, List.mem_cons_self⟩
        · exact ⟨(hi mem).1, List.mem_cons_of_mem _ (hi mem).2⟩
      case h_2 => cases mem

namespace Workspace

variable {σ : Type} {c : Config} {w w' w'' : Workspace σ} {s : Snapshot} {is js : List Issue}

-- What a listener publishes when it is told of a snapshot.
def told (w : Workspace σ) (s : Snapshot) : Listener → List Issue
  | .openDocuments => s.issues w.opened
  | .observer _ _ | .report => []

-- What the sink shows after some publications.
def Issues (is : List Issue) (w w' : Workspace σ) : Prop :=
  ∀ u, NameMap.get? u w'.sink = shown u is (NameMap.get? u w.sink)

-- The same, with the problems of some documents taken back before.
def Follows (is : List Issue) (w w' : Workspace σ) : Prop :=
  ∀ u, NameMap.get? u w'.sink = shown u is (NameMap.get? u w.sink) ∨
    NameMap.get? u w'.sink = shown u is none

theorem Publishes.issues (h : Publishes [] w w') : Issues [] w w' :=
  fun u => (h.sink u).resolve_right fun new => List.not_mem_nil new.1

theorem Issues.trans (h : Issues is w w') (h' : Issues js w' w'') : Issues (is ++ js) w w'' := by
  intro u
  rw [h', h, shown, shown, shown, List.foldl_append]

theorem Issues.follows (h : Issues is w w') : Follows is w w' :=
  fun u => .inl <| h u

theorem Follows.trans (h : Follows is w w') (h' : Issues js w' w'') :
    Follows (is ++ js) w w'' := by
  intro u
  have append {before : Option (List Diagnostic)} :
      shown u (is ++ js) before = shown u js (shown u is before) := List.foldl_append
  rw [h', append, append]
  obtain same | back := h u
  · exact .inl <| by rw [same]
  · exact .inr <| by rw [back]

theorem Follows.isSome {u : String} (h : Follows is w w') (published : ∃ i ∈ is, i.uri = u) :
    (NameMap.get? u w'.sink).isSome = true := by
  obtain same | back := h u
  · rw [same]; exact isSome_shown published
  · rw [back]; exact isSome_shown published

theorem recheck_issues {items : List (String × Option String)} :
    Issues (s.issues items) w (w.recheck s items).1 := by
  induction items generalizing w
  case nil => exact fun _ => rfl
  case cons item rest hi =>
    obtain ⟨uri, text⟩ := item
    cases text
    case none => exact fun _ => rfl
    case some text =>
      unfold recheck publish Snapshot.issues
      cases diagnose s uri text
      case error => exact fun _ => rfl
      case ok ds =>
        intro u
        refine hi u |>.trans ?_
        simp only [shown, List.foldl_cons, NameMap.get?_set]
        by_cases same : u = uri
        · simp [same]
        · simp [same, Ne.symm same]

theorem tell_issues (s : Snapshot) (l : Listener) : Issues (w.told s l) w (w.tell s l).1 := by
  cases l
  case openDocuments => exact recheck_issues
  case observer => exact fun _ => rfl
  case report =>
    simp only [tell]
    split
    case h_1 ok => exact (print_publishes ok).issues
    case h_2 => exact fun _ => rfl

-- What the listeners that are told of a snapshot publish, up to one that waits.
def announced (w : Workspace σ) (s : Snapshot) : List Listener → List Issue
  | [] => []
  | l :: later =>
    w.told s l ++
      match w.tell s l with
      | (_, some _) => []
      | (w, none) => announced w s later

theorem version_of_mem_announced {ls : List Listener} {i : Issue} (mem : i ∈ w.announced s ls) :
    i.version = s.version ∧ .openDocuments ∈ ls := by
  induction ls generalizing w
  case nil => cases mem
  case cons l later hi =>
    obtain mem | mem := List.mem_append.mp mem
    case inl =>
      cases l
      case openDocuments => exact ⟨(Snapshot.of_mem_issues mem).1, List.mem_cons_self⟩
      all_goals cases mem
    case inr =>
      split at mem
      · cases mem
      · exact ⟨(hi mem).1, List.mem_cons_of_mem _ (hi mem).2⟩

variable [DocumentStore σ]

theorem announce_issues {route : Route} {wish : Wish} {result : RebuildResult} {ls : List Listener}
    (unchecked : (w.announce c route wish result s ls).2.checked = false) :
    Issues (w.announced s ls) w (w.announce c route wish result s ls).1 := by
  induction ls generalizing w
  case nil =>
    have shows : Shows [] w ((w.leave c route).grant c (some result) wish) :=
      .after leave_publishes grant_shows
    exact (shows.published unchecked).issues
  case cons l later hi =>
    have told := w.tell_issues s l
    rcases ht : w.tell s l with ⟨w', notice⟩
    rw [ht] at told
    cases notice
    all_goals simp only [announce, announced, ht] at unchecked ⊢
    case none => exact told.trans <| hi unchecked
    case some =>
      rw [List.append_nil]
      exact told

-- What a listener at work publishes with its next step.
def noticed (w : Workspace σ) (s : Snapshot) : Notice → List Issue
  | .recheck uri rest =>
    match DocumentStore.read w.store uri with
    | .ok d => s.issues ((uri, some d.text) :: rest)
    | .error (.unreadable _ _) => s.issues rest
    | .error _ => []
  | .sweep _ => []

theorem noticeStep_follows (w : Workspace σ) (s : Snapshot) (uri : String)
    (rest : List (String × Option String)) :
    Follows (w.noticed s (.recheck uri rest)) w (w.noticeStep s (.recheck uri rest)).1 := by
  simp only [noticed, noticeStep]
  cases DocumentStore.read w.store uri
  case ok d =>
    have round : Issues (s.issues ((uri, some d.text) :: rest)) w
        (w.recheck s ((uri, some d.text) :: rest)).1 := recheck_issues
    exact round.follows
  case error f =>
    cases f
    case unreadable =>
      intro u
      have round : Issues (s.issues rest) (w.withdraw uri) ((w.withdraw uri).recheck s rest).1 :=
        recheck_issues
      rw [round u]
      by_cases same : u = uri
      · exact .inr <| by simp [withdraw, NameMap.get?_erase, same]
      · exact .inl <| by simp [withdraw, NameMap.get?_erase, same]
    all_goals exact fun _ => .inl rfl

theorem of_mem_noticed {notice : Notice} {i : Issue} (mem : i ∈ w.noticed s notice) :
    i.version = s.version ∧ i.uri ∈ notice.ahead := by
  cases notice
  case sweep => cases mem
  case recheck uri rest =>
    simp only [noticed] at mem
    split at mem
    case h_1 => exact Snapshot.of_mem_issues mem
    case h_2 =>
      have ⟨version, ahead⟩ := Snapshot.of_mem_issues mem
      exact ⟨version, List.mem_cons_of_mem _ ahead⟩
    case h_3 => cases mem

-- What a call publishes with its next step, checks by request apart.
def issues (c : Config) (w : Workspace σ) : Work → List Issue
  | .scanning _ _ scan =>
    match scan.step c.extractor w.store with
    | .ok next =>
      if next.stage = .done then
        (w.swapped next).announced (next.snapshot w.snapshot) w.listeners
      else []
    | .error _ => []
  | .notifying _ _ _ s notice later =>
    w.noticed s notice ++
      match w.noticeStep s notice with
      | (_, some _) => []
      | (w, none) => w.announced s later
  | _ => []

theorem scanStep_issues {route : Route} {wish : Wish} {scan : Scan}
    (unchecked : (w.scanStep c route wish scan).2.checked = false) :
    Issues (w.issues c (.scanning route wish scan)) w (w.scanStep c route wish scan).1 := by
  unfold scanStep at unchecked ⊢
  simp only [issues]
  split
  case h_1 next hn =>
    rw [hn] at unchecked ⊢
    dsimp only at unchecked ⊢
    split
    case isTrue done =>
      rw [if_pos done] at unchecked
      have swapped : Issues [] w (w.swapped next) := fun _ => rfl
      exact swapped.trans <| announce_issues unchecked
    case isFalse => exact fun _ => rfl
  case h_2 f hf =>
    rw [hf] at unchecked ⊢
    have released : Publishes [] w (w.modifySchedule .release) := .of_eq rfl rfl
    have shows : Shows [] w (((w.modifySchedule .release).leave c route).grant c
        (some (scan.failure w.snapshot f)) wish) :=
      .after (released.trans leave_publishes) grant_shows
    exact (shows.published unchecked).issues

theorem notifyStep_follows {route : Route} {wish : Wish} {result : RebuildResult} {uri : String}
    {rest : List (String × Option String)} {later : List Listener}
    (unchecked : (w.notifyStep c route wish result s (.recheck uri rest) later).2.checked = false) :
    Follows (w.issues c (.notifying route wish result s (.recheck uri rest) later)) w
      (w.notifyStep c route wish result s (.recheck uri rest) later).1 := by
  have noticed := w.noticeStep_follows s uri rest
  rcases hn : w.noticeStep s (.recheck uri rest) with ⟨w', notice⟩
  rw [hn] at noticed
  cases notice
  all_goals simp only [notifyStep, issues, hn] at unchecked ⊢
  case none => exact noticed.trans <| announce_issues unchecked
  case some =>
    rw [List.append_nil]
    exact noticed

theorem step_follows {work : Work} (unchecked : work.checks = false)
    (unchecked' : (w.step c work).2.checked = false) :
    Follows (w.issues c work) w (w.step c work).1 := by
  cases work
  case scanning => exact (scanStep_issues unchecked').follows
  case notifying route wish result s notice later =>
    cases notice
    case sweep => cases unchecked
    case recheck => exact notifyStep_follows unchecked'
  all_goals exact ((step_shows unchecked rfl).published unchecked').issues.follows

end Workspace

section Reaching

-- Whether a call wants the index up to date for a query.
def Wish.asks : Wish → Bool
  | .query _ => true
  | _ => false

-- Whether a round comes to a document and finds its problems, if documents stay as they are.
def reaches {σ : Type} [DocumentStore σ] (store : σ) (s : Snapshot) (uri : String) :
    List (String × Option String) → Bool
  | [] => false
  | (u, text) :: rest =>
    match text.elim ((DocumentStore.read store u).map (·.text)) .ok with
    | .ok text => (diagnose s u text).isOk && (u = uri || reaches store s uri rest)
    | .error (.unreadable _ _) => reaches store s uri rest
    | .error _ => false

def Work.reaches {σ : Type} [DocumentStore σ] (store : σ) (uri : String) : Work → Bool
  | .notifying _ wish _ s (.recheck u rest) _ =>
    !wish.asks && FlowIndex.reaches store s uri ((u, none) :: rest)
  | _ => false

variable {σ : Type} [DocumentStore σ] {store : σ} {s : Snapshot} {uri : String} {w : Workspace σ}
  {rest : List (String × Option String)}

-- Problems of a document were published, or a read is waited for on the way to it, with fewer
-- documents behind than before.
def Nears (store : σ) (s : Snapshot) (uri : String) (before : Nat) (is : List Issue)
    (next : Option Notice) : Prop :=
  (∃ i ∈ is, i.uri = uri) ∨ ∃ u rest, next = some (.recheck u rest) ∧
    reaches store s uri ((u, none) :: rest) = true ∧ rest.length < before

theorem nears_cons {u text : String} (reach : reaches store s uri ((u, some text) :: rest) = true)
    (later : ∀ w : Workspace σ, reaches store s uri rest = true →
      Nears store s uri rest.length (s.issues rest) (w.recheck s rest).2) :
    Nears store s uri rest.length (s.issues ((u, some text) :: rest))
      (w.recheck s ((u, some text) :: rest)).2 := by
  simp only [reaches, Option.elim, Bool.and_eq_true, Bool.or_eq_true, decide_eq_true_eq] at reach
  obtain ⟨ok, reach⟩ := reach
  unfold Snapshot.issues Workspace.recheck Workspace.publish
  cases read : diagnose s u text
  case error => rw [read] at ok; cases ok
  case ok ds =>
    obtain here | reach := reach
    case inl => exact .inl ⟨_, List.mem_cons_self, here⟩
    case inr =>
      refine later _ reach |>.imp_left ?_
      rintro ⟨i, mem, same⟩
      exact ⟨i, List.mem_cons_of_mem _ mem, same⟩

theorem recheck_nears {items : List (String × Option String)}
    (reach : reaches store s uri items = true) :
    Nears store s uri items.length (s.issues items) (w.recheck s items).2 := by
  induction items generalizing w
  case nil => cases reach
  case cons item rest hi =>
    obtain ⟨u, text⟩ := item
    cases text
    case none => exact .inr ⟨u, rest, rfl, reach, Nat.lt_succ_self _⟩
    case some text =>
      refine nears_cons (w := w) reach (fun _ => hi) |>.imp_right ?_
      exact fun ⟨u, left, next, reach, fewer⟩ => ⟨u, left, next, reach, Nat.lt_succ_of_lt fewer⟩

theorem noticeStep_nears {u : String} (reach : reaches w.store s uri ((u, none) :: rest) = true) :
    Nears w.store s uri rest.length (w.noticed s (.recheck u rest))
      (w.noticeStep s (.recheck u rest)).2 := by
  rw [reaches, Option.elim] at reach
  simp only [Workspace.noticed, Workspace.noticeStep]
  cases read : DocumentStore.read w.store u <;> rw [read] at reach
  case error f =>
    cases f
    case unreadable => exact recheck_nears reach
    all_goals cases reach
  case ok d =>
    have reach : reaches w.store s uri ((u, some d.text) :: rest) = true := reach
    exact nears_cons reach fun _ reach => recheck_nears reach

theorem Workspace.notifyStep_nears {c : Config} {u : String} (route : Route) (wish : Wish)
    (result : RebuildResult) (later : List Listener)
    (reach : reaches w.store s uri ((u, none) :: rest) = true) :
    let st := w.notifyStep c route wish result s (.recheck u rest) later
    (∃ i ∈ w.noticed s (.recheck u rest), i.uri = uri) ∨ ∃ u' rest',
      st.2 = .waits (.notifying route wish result s (.recheck u' rest') later) ∧
        reaches st.1.store s uri ((u', none) :: rest') = true ∧ rest'.length < rest.length := by
  have store := congrArg Workspace.store <| w.noticeStep_silent s (.recheck u rest)
  obtain published | ⟨u', rest', next, reach, fewer⟩ := noticeStep_nears reach
  case inl => exact .inl published
  case inr =>
    refine .inr ⟨u', rest', ?_⟩
    unfold notifyStep
    split <;> rename_i hn <;> rw [hn] at next store
    case h_1 => cases next; exact ⟨rfl, Eq.symm store ▸ reach, fewer⟩
    case h_2 => cases next

-- It checks nothing by request there, unless a query is behind the call.
theorem Workspace.announce_unchecked {c : Config} {route : Route} {wish : Wish}
    {result : RebuildResult} {ls : List Listener} (plain : wish.asks = false) :
    (w.announce c route wish result s ls).2.checked = false := by
  induction ls generalizing w
  case nil => cases wish <;> first | rfl | cases plain
  case cons l later hi =>
    unfold announce
    split
    case h_1 => rfl
    case h_2 => exact hi

theorem Workspace.notifyStep_unchecked {c : Config} {route : Route} {wish : Wish}
    {result : RebuildResult} {notice : Notice} {later : List Listener} (plain : wish.asks = false) :
    (w.notifyStep c route wish result s notice later).2.checked = false := by
  unfold notifyStep
  split
  case h_1 => rfl
  case h_2 => exact announce_unchecked plain

end Reaching

namespace Session

variable {σ : Type} [DocumentStore σ] {c : Config} {s : Session σ} {uri : String}

-- Whether an event is a step in which a call checks something by request.
def requests (c : Config) (s : Session σ) : Event σ → Bool
  | .act index => (s.taken c index).any fun (t, st) =>
    !t.cancelled && t.work.checks || st.2.checked
  | _ => false

-- What an event publishes, in order.
def issues (c : Config) (s : Session σ) : Event σ → List Issue
  | .act index =>
    match s.taken c index with
    | some (t, _) => if t.cancelled then [] else s.workspace.issues c t.work
    | none => []
  | _ => []

theorem follows_apply {e : Event σ} (ok : s.requests c e = false) :
    Workspace.Follows (s.issues c e) s.workspace (s.apply c e).workspace := by
  cases e
  case act index =>
    show Workspace.Follows _ _ (s.act c index).workspace
    cases ht : s.taken c index
    case none =>
      rw [act_eq_self ht]
      simp only [issues, ht]
      exact fun _ => .inl rfl
    case some taken =>
      obtain ⟨t, st⟩ := taken
      have acts := acts_of_taken ht
      rw [acts.workspace]
      cases live : t.cancelled
      case true =>
        have left : (s.workspace.unwind c t.work, Progress.stays) = st := by
          simpa [Session.taken, acts.task, live] using ht
        rw [← left]
        simp only [issues, ht, live, if_true]
        exact Workspace.unwind_publishes.issues.follows
      case false =>
        obtain ⟨unchecked, unchecked'⟩ : t.work.checks = false ∧ st.2.checked = false := by
          simpa [requests, ht, live] using ok
        rw [acts.step live] at unchecked' ⊢
        simpa [issues, ht, live] using Workspace.step_follows unchecked unchecked'
  case changes => exact Workspace.noteChanges_publishes.issues.follows
  case files => exact Workspace.handBatch_publishes.issues.follows
  case closeDocument uri =>
    intro u
    by_cases same : u = uri
    · exact .inr <| by simp [apply, modifyWorkspace, Workspace.closeDocument, Workspace.withdraw,
        NameMap.get?_erase, same, issues, shown]
    · exact .inl <| by simp [apply, modifyWorkspace, Workspace.closeDocument, Workspace.withdraw,
        NameMap.get?_erase, same, issues, shown]
  case stop =>
    simp only [apply, stop, Workspace.stopWatcher, modifyWorkspace]
    split <;> exact fun _ => .inl rfl
  case fire =>
    simp only [apply, fire]
    split
    · split <;> exact fun _ => .inl rfl
    · exact fun _ => .inl rfl
  all_goals exact fun _ => .inl rfl

-- A listener that can read its way to a document comes there by steps of its own call, and
-- publishes problems of it against the snapshot that it was told of. The induction is on the
-- documents left behind the one that is read.
theorem listener_comes {P : Session σ → List Issue → Prop} {index : Nat} {t : Task} {route : Route}
    {wish : Wish} {result : RebuildResult} {snapshot : Snapshot} {later : List Listener} {u : String}
    {rest : List (String × Option String)} (is : List Issue)
    (goesOn : ∀ s is, P s is → s.requests c (.act index) = false →
      P (s.apply c (.act index)) ((s.issues c (.act index)).reverse ++ is))
    (holds : P s is) (task : s.tasks[index]? = some t) (live : t.cancelled = false)
    (work : t.work = .notifying route wish result snapshot (.recheck u rest) later)
    (plain : wish.asks = false)
    (reach : reaches s.workspace.store snapshot uri ((u, none) :: rest) = true) :
    ∃ s' is', P s' (is' ++ is) ∧ (NameMap.get? uri s'.workspace.sink).isSome = true ∧
      ∃ i ∈ is', i.uri = uri ∧ i.version = snapshot.version := by
  induction len : rest.length using Nat.strongRecOn generalizing s is t u rest
  case ind n hi =>
    let st := s.workspace.notifyStep c route wish result snapshot (.recheck u rest) later
    have taken : s.taken c index = some (t, st) := by
      simp only [Session.taken, task, live, work, Bool.false_eq_true, if_false]
      rfl
    have act : s.apply c (.act index) = s.place index t st := by
      simp only [apply, Session.act, task, live, work, Bool.false_eq_true, if_false]
      rfl
    have unchecked : st.2.checked = false := Workspace.notifyStep_unchecked plain
    have ok : s.requests c (.act index) = false := by
      simp [requests, taken, work, Work.checks, unchecked]
    have holds := goesOn s is holds ok
    obtain ⟨i, mem, same⟩ | ⟨u', rest', next, reach, fewer⟩ :=
      Workspace.notifyStep_nears (c := c) route wish result later reach
    case inl =>
      have version : i.version = snapshot.version := (Workspace.of_mem_noticed mem).1
      have mem : i ∈ s.issues c (.act index) := by
        simp only [issues, taken, live, work, Bool.false_eq_true, if_false]
        exact List.mem_append_left _ mem
      have shown := (follows_apply ok).isSome ⟨i, mem, same⟩
      exact ⟨_, _, holds, shown, i, List.mem_reverse.mpr mem, same, version⟩
    case inr =>
      have workspace := (s.place_tasks st task).1
      rw [act] at holds
      obtain ⟨s', is', holds, shown, i, mem, of⟩ :=
        hi rest'.length (len ▸ fewer) _ holds (task_place task next) live rfl
          (by rw [workspace]; exact reach) rfl
      have mem : i ∈ is' ++ (s.issues c (.act index)).reverse := List.mem_append_left _ mem
      exact ⟨s', _, by rwa [List.append_assoc], shown, i, mem, of⟩

end Session

end FlowIndex
