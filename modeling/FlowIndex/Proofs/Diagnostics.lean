import FlowIndex.Diagnostics
import FlowIndex.Proofs.Flow.Declared
import FlowIndex.Proofs.Text.Digit
import Mathlib.Data.List.Nodup
import Mathlib.Data.List.FinRange

namespace FlowIndex

namespace Uri

-- Whether a name can be taken apart.
def Accepted (uri : String) : Prop :=
  (split uri).isOk = true

instance (uri : String) : Decidable (Accepted uri) :=
  inferInstanceAs (Decidable (_ = true))

-- The name of a document's file; empty where there is none.
def fileLabel (uri : String) : String :=
  (fileName uri).toOption.getD ""

theorem Accepted.fileName_eq {uri : String} (accepted : Accepted uri) :
    fileName uri = .ok (fileLabel uri) := by
  rw [Accepted] at accepted
  rw [fileLabel, fileName, decodedPath]
  cases read : split uri
  case error =>
    rw [read] at accepted
    cases accepted
  case ok parts => rfl

end Uri

namespace Diagnostics

section Groups

variable {α κ : Type} [DecidableEq κ] {key : α → κ} {as : List α} {ks : List κ}

-- The members of a list whose key stands at another place of the list, too.
def sharing (key : α → κ) (as : List α) : List α :=
  ((List.finRange as.length).filter fun i =>
    ∃ j, j ≠ i ∧ key (as.get j) = key (as.get i)).map as.get

theorem one_lt_length_iff {ι : Type} [DecidableEq ι] {i : ι} {is : List ι} (once : is.Nodup)
    (mem : i ∈ is) : 1 < is.length ↔ ∃ j ∈ is, j ≠ i := by
  rw [(List.perm_cons_erase mem).length_eq, List.length_cons]
  simp [List.length_pos_iff_exists_mem, once.mem_erase_iff, and_comm]

theorem shared_iff (key : α → κ) (as : List α) (i : Fin as.length) :
    (∃ j, j ≠ i ∧ key (as.get j) = key (as.get i)) ↔
      1 < (as.filter (key · = key (as.get i))).length := by
  have places : as.filter (key · = key (as.get i)) =
      ((List.finRange as.length).filter fun j => key (as.get j) = key (as.get i)).map as.get := by
    conv_lhs => arg 2; rw [← List.map_get_finRange as]
    rw [List.filter_map]
    rfl
  rw [places, List.length_map, one_lt_length_iff (List.nodup_finRange _ |>.filter _) (i := i)
    (by simp)]
  simp [and_comm]

theorem sharing_eq (key : α → κ) (as : List α) :
    sharing key as = as.filter fun a => 1 < (as.filter (key · = key a)).length := by
  conv_rhs => arg 2; rw [← List.map_get_finRange as]
  rw [List.filter_map, sharing]
  congr 2
  funext i
  simp only [shared_iff, Function.comp_apply]

theorem mem_of_mem_sharing {a : α} (mem : a ∈ sharing key as) : a ∈ as := by
  rw [sharing_eq] at mem
  exact (List.mem_filter.mp mem).1

theorem fiber_filter (key : α → κ) (q : κ → Bool) {k : κ} (hk : q k = true) :
    (as.filter (q <| key ·)).filter (key · = k) = as.filter (key · = k) := by
  rw [List.filter_filter]
  apply List.filter_congr
  intro a _
  by_cases same : key a = k <;> simp [same, hk]

-- A part of the list that takes all members of a key or none shares what the list does.
theorem sharing_filter (key : α → κ) (q : κ → Bool) :
    sharing key (as.filter (q <| key ·)) = (sharing key as).filter (q <| key ·) := by
  rw [sharing_eq, sharing_eq, List.filter_filter, List.filter_filter]
  apply List.filter_congr
  intro a _
  cases ha : q (key a)
  case false => simp
  case true => rw [fiber_filter key q ha, Bool.and_comm]

theorem nodup_eraseDups (ks : List κ) : ks.eraseDups.Nodup := by
  induction len : ks.length using Nat.strong_induction_on generalizing ks
  case h n hi =>
    cases ks
    case nil => simp
    case cons k ks =>
      rw [List.eraseDups_cons, List.nodup_cons]
      have shorter := List.length_filter_le (!· == k) ks
      exact ⟨by simp, hi _ (by rw [← len, List.length_cons]; omega) _ rfl⟩

theorem fibers_perm (once : ks.Nodup) :
    (ks.flatMap fun k => as.filter (key · = k)).Perm (as.filter (key · ∈ ks)) := by
  induction ks
  case nil => simp
  case cons k ks hi =>
    obtain ⟨new, once⟩ := List.nodup_cons.mp once
    have split := List.filter_append_perm (key · = k) (as.filter (key · ∈ k :: ks))
    rw [List.filter_filter, List.filter_filter] at split
    have own : (fun a => decide (key a = k) && decide (key a ∈ k :: ks)) = (key · = k) := by
      funext a
      by_cases eq : key a = k <;> simp [eq]
    have rest : (fun a => !decide (key a = k) && decide (key a ∈ k :: ks)) = (key · ∈ ks) := by
      funext a
      by_cases eq : key a = k <;> simp [eq, new]
    rw [own, rest] at split
    rw [List.flatMap_cons]
    exact hi once |>.append_left _ |>.trans split

end Groups

theorem mapM_error {ε α β : Type} {f : α → Except ε β} {e : ε} {as : List α}
    (all : ∀ a ∈ as, f a = .error e ∨ ∃ b, f a = .ok b) {a : α} (mem : a ∈ as)
    (failed : f a = .error e) : as.mapM f = .error e := by
  induction as
  case nil => cases mem
  case cons a' as hi =>
    obtain ⟨first, others⟩ := List.forall_mem_cons.mp all
    rw [List.mapM_cons]
    obtain first | ⟨b, first⟩ := first
    case inl => rw [first]; rfl
    case inr =>
      obtain rfl | mem := List.mem_cons.mp mem
      case inl => cases failed.symm.trans first
      case inr => rw [first, hi others mem]; rfl

section Conflicts

variable {κ : Type} [DecidableEq κ] {key : Operator → κ} {os : List Operator}

theorem exists_sharing {group : List Operator} (hg : group ∈ conflicts key os) :
    ∃ o ∈ sharing key os, group = os.filter (key · = key o) := by
  obtain ⟨hg, several⟩ := List.mem_filter.mp hg
  obtain ⟨k, _, rfl⟩ := List.mem_map.mp hg
  have several : 1 < (os.filter (key · = k)).length := of_decide_eq_true several
  obtain ⟨o, member⟩ := List.exists_mem_of_length_pos (Nat.zero_lt_of_lt several)
  obtain ⟨mem, same⟩ := List.mem_filter.mp member
  obtain rfl := of_decide_eq_true same
  refine ⟨o, ?_, rfl⟩
  rw [sharing_eq]
  exact List.mem_filter.mpr ⟨mem, decide_eq_true several⟩

theorem fiber_mem_conflicts {o : Operator} (mem : o ∈ sharing key os) :
    os.filter (key · = key o) ∈ conflicts key os := by
  rw [sharing_eq] at mem
  obtain ⟨mem, several⟩ := List.mem_filter.mp mem
  refine List.mem_filter.mpr ⟨List.mem_map.mpr ⟨key o, ?_, rfl⟩, several⟩
  rw [List.mem_eraseDups]
  exact List.mem_map_of_mem mem

theorem conflicts_perm {β : Type} (key : Operator → κ) (os : List Operator) (p : Operator → Bool)
    (tell : List Operator → Operator → β) :
    ((conflicts key os).flatMap fun group => (group.filter p).map (tell group)).Perm
      (((sharing key os).filter p).map fun o => tell (os.filter (key · = key o)) o) := by
  let fiber (k : κ) : List Operator := os.filter (key · = k)
  let ks := (os.map key).eraseDups.filter fun k => 1 < (fiber k).length
  have told (k : κ) : ((fiber k).filter p).map (tell (fiber k)) =
      ((fiber k).filter p).map fun o => tell (fiber (key o)) o := by
    apply List.map_congr_left
    intro o mem
    have same := (List.mem_filter.mp (List.mem_filter.mp mem).1).2
    rw [of_decide_eq_true same]
  have groups : conflicts key os = ks.map fiber := List.filter_map
  have shared : sharing key os = os.filter (key · ∈ ks) := by
    rw [sharing_eq]
    apply List.filter_congr
    intro o mem
    have : key o ∈ os.map key := List.mem_map_of_mem mem
    simp [ks, fiber, this]
  rw [groups, shared, List.flatMap_map]
  simp only [told]
  rw [← List.map_flatMap, ← List.filter_flatMap]
  exact fibers_perm (nodup_eraseDups _ |>.filter _) |>.filter p |>.map _

-- The reports of all groups together. The message of a group goes by its key.
theorem reports_perm {ε : Type} {code : DiagnosticCode} {uri : String} {message : Operator → String}
    {report : List Operator → Except ε (List Diagnostic)}
    (same : ∀ o o', key o' = key o → message o' = message o)
    (ok : ∀ o ∈ sharing key os, report (os.filter (key · = key o)) =
      .ok (reportGroup code (message o) uri (os.filter (key · = key o)))) :
    ∃ ds, (do let groups ← (conflicts key os).mapM report; return groups.flatten) = .ok ds ∧
      ds.Perm (((sharing key os).filter (·.uri = uri)).map fun o =>
        ⟨code, message o, uri, o.span⟩) := by
  have reported : ∀ group ∈ conflicts key os, report group =
      .ok ((group.filter (·.uri = uri)).map fun o => ⟨code, message o, uri, o.span⟩) := by
    intro group hg
    obtain ⟨o, mem, rfl⟩ := exists_sharing hg
    rw [ok o mem, reportGroup]
    congr 1
    apply List.map_congr_left
    intro o' mem'
    have shared := (List.mem_filter.mp (List.mem_filter.mp mem').1).2
    rw [same o o' <| of_decide_eq_true shared]
  refine ⟨_, by rw [Flow.mapM_ok reported]; rfl, ?_⟩
  rw [← List.flatMap_def]
  exact conflicts_perm key os (·.uri = uri) fun _ o => Diagnostic.mk code (message o) uri o.span

theorem head?_fiber (key : Operator → κ) {o : Operator} (mem : o ∈ os) :
    (os.filter (key · = key o)).head?.map key = some (key o) := by
  cases group : os.filter (key · = key o)
  case nil =>
    have := List.filter_eq_nil_iff.mp group o mem
    simp at this
  case cons o' rest =>
    have : o' ∈ os.filter (key · = key o) := group ▸ .head _
    simpa using (List.mem_filter.mp this).2

end Conflicts

section Messages

variable {os : List Operator} {o : Operator} {uri : String}

-- An operator as messages tell it, by a text and the file that declares it.
def placed (text : String) (o : Operator) : String :=
  s!"{text} ({Uri.fileLabel o.uri})"

theorem withFile_eq (accepted : Uri.Accepted o.uri) (text : String) :
    withFile text o = .ok (placed text o) := by
  rw [withFile, accepted.fileName_eq]
  rfl

theorem places_eq {group : List Operator} (accepted : ∀ o ∈ group, Uri.Accepted o.uri)
    (text : Operator → String) : (group.mapM fun o => withFile (text o) o) =
      .ok (group.map fun o => placed (text o) o) :=
  Flow.mapM_ok fun o mem => withFile_eq (accepted o mem) (text o)

-- What is said of an operator that shares its name: all that have the name, in the order of the
-- snapshot.
def nameMessage (os : List Operator) (o : Operator) : String :=
  let places := (os.filter (·.name = o.name)).map fun o => placed (o.package ++ "/" ++ o.path) o
  let place := ", ".intercalate places
  s!"Duplicate operator name '{o.name}'. Found in: {place}"

-- The same for sequence numbers.
def sequenceMessage (os : List Operator) (o : Operator) : String :=
  let places := (os.filter (·.sequence = o.sequence)).map fun o => placed o.name o
  let place := ", ".intercalate places
  s!"Duplicate operator sequence {o.sequence}. Found in: {place}"

theorem nameMessage_congr (o o' : Operator) (same : o'.name = o.name) :
    nameMessage os o' = nameMessage os o := by
  unfold nameMessage
  rw [same]

theorem sequenceMessage_congr (o o' : Operator) (same : o'.sequence = o.sequence) :
    sequenceMessage os o' = sequenceMessage os o := by
  unfold sequenceMessage
  rw [same]

theorem reportName_fiber (accepted : ∀ o ∈ os, Uri.Accepted o.uri) (mem : o ∈ os) (uri : String) :
    reportName uri (os.filter (·.name = o.name)) =
      .ok (reportGroup .duplicateName (nameMessage os o) uri (os.filter (·.name = o.name))) := by
  have own : ∀ o' ∈ os.filter (·.name = o.name), Uri.Accepted o'.uri :=
    fun o' mem => accepted o' (List.mem_of_mem_filter mem)
  have places := places_eq own fun o => o.package ++ "/" ++ o.path
  have name := head?_fiber (·.name) mem
  rw [reportName, places, name]
  rfl

theorem reportSequence_fiber (accepted : ∀ o ∈ os, Uri.Accepted o.uri) (mem : o ∈ os)
    (uri : String) : reportSequence uri (os.filter (·.sequence = o.sequence)) =
      if o.sequence.repr.length ≤ Text.digitLimit then
        .ok (reportGroup .duplicateSequence (sequenceMessage os o) uri
          (os.filter (·.sequence = o.sequence)))
      else .error (.number {}) := by
  have own : ∀ o' ∈ os.filter (·.sequence = o.sequence), Uri.Accepted o'.uri :=
    fun o' mem => accepted o' (List.mem_of_mem_filter mem)
  have places := places_eq own (·.name)
  have number := head?_fiber (·.sequence) mem
  rw [reportSequence, places]
  simp only [number, Option.getD_some, Text.writeNumber]
  split <;> rfl

theorem duplicateNames_perm (accepted : ∀ o ∈ os, Uri.Accepted o.uri) (uri : String) :
    ∃ ds, duplicateNames os uri = .ok ds ∧
      ds.Perm (((sharing (·.name) os).filter (·.uri = uri)).map fun o =>
        ⟨.duplicateName, nameMessage os o, uri, o.span⟩) := by
  unfold duplicateNames
  exact reports_perm nameMessage_congr fun o mem =>
    reportName_fiber accepted (mem_of_mem_sharing mem) uri

-- The operators with a number take all that share one, or none.
theorem sharing_numbered (os : List Operator) :
    sharing (·.sequence) (os.filter (·.sequence ≠ 0)) =
      (sharing (·.sequence) os).filter (·.sequence ≠ 0) :=
  sharing_filter Operator.sequence (decide <| · ≠ 0)

theorem reportSequence_numbered (accepted : ∀ o ∈ os, Uri.Accepted o.uri)
    (mem : o ∈ sharing (·.sequence) (os.filter (·.sequence ≠ 0))) (uri : String) :
    let group := (os.filter (·.sequence ≠ 0)).filter (·.sequence = o.sequence)
    reportSequence uri group = if o.sequence.repr.length ≤ Text.digitLimit then
        .ok (reportGroup .duplicateSequence (sequenceMessage os o) uri group)
      else .error (.number {}) := by
  rw [sharing_numbered] at mem
  obtain ⟨mem, numbered⟩ := List.mem_filter.mp mem
  have fiber : (os.filter (·.sequence ≠ 0)).filter (·.sequence = o.sequence) =
      os.filter (·.sequence = o.sequence) :=
    fiber_filter Operator.sequence (decide <| · ≠ 0) numbered
  rw [fiber]
  exact reportSequence_fiber accepted (mem_of_mem_sharing mem) uri

theorem duplicateSequences_perm (accepted : ∀ o ∈ os, Uri.Accepted o.uri)
    (short : ∀ o ∈ sharing (·.sequence) os, o.sequence.repr.length ≤ Text.digitLimit)
    (uri : String) :
    ∃ ds, duplicateSequences os uri = .ok ds ∧
      ds.Perm (((sharing (·.sequence) os).filter fun o => o.uri = uri ∧ o.sequence ≠ 0).map
        fun o => ⟨.duplicateSequence, sequenceMessage os o, uri, o.span⟩) := by
  have shared : (sharing (·.sequence) (os.filter (·.sequence ≠ 0))).filter (·.uri = uri) =
      (sharing (·.sequence) os).filter fun o => o.uri = uri ∧ o.sequence ≠ 0 := by
    rw [sharing_numbered, List.filter_filter]
    simp only [Bool.decide_and]
  rw [← shared]
  unfold duplicateSequences
  refine reports_perm sequenceMessage_congr fun o mem => ?_
  have numbered := mem
  rw [sharing_numbered] at numbered
  rw [reportSequence_numbered accepted mem, if_pos <| short o (List.mem_of_mem_filter numbered)]

-- A shared number that is too long makes the check fail, whatever is in the other groups.
theorem duplicateSequences_error (accepted : ∀ o ∈ os, Uri.Accepted o.uri)
    (mem : o ∈ sharing (·.sequence) os) (long : Text.digitLimit < o.sequence.repr.length)
    (uri : String) : duplicateSequences os uri = .error (.number {}) := by
  have numbered : o ∈ sharing (·.sequence) (os.filter (·.sequence ≠ 0)) := by
    rw [sharing_numbered]
    refine List.mem_filter.mpr ⟨mem, decide_eq_true fun zero => ?_⟩
    rw [zero] at long
    exact absurd long (by decide)
  have failed := reportSequence_numbered accepted numbered uri
  simp only [if_neg long.not_ge] at failed
  rw [duplicateSequences, mapM_error (fun group hg => ?_) (fiber_mem_conflicts numbered) failed]
  · rfl
  · obtain ⟨o', mem', rfl⟩ := exists_sharing hg
    rw [reportSequence_numbered accepted mem']
    split
    · exact .inr ⟨_, rfl⟩
    · exact .inl rfl

end Messages

-- An operator of which messages can tell.
structure Printable (o : Operator) : Prop where
  accepted : Uri.Accepted o.uri
  short : o.sequence.repr.length ≤ Text.digitLimit

-- The parts of a check: what is told of names and sequence numbers that are shared comes first.
theorem diagnose_parts {s : Snapshot} (printable : ∀ o ∈ s.operators, Printable o)
    (uri text : String) : ∃ ds, diagnose s uri text = .ok ds ∧ ∃ shared, ds = shared ++
        unregisteredCalls s (.ofText uri text) ++ missingFragments s (.ofText uri text) ++
          missingStructs s uri ∧
      ∀ g ∈ shared, g.code = .duplicateSequence ∨ g.code = .duplicateName := by
  have accepted := fun o mem => (printable o mem).accepted
  have short : ∀ o ∈ sharing (·.sequence) s.operators, o.sequence.repr.length ≤ Text.digitLimit :=
    fun o mem => (printable o <| mem_of_mem_sharing mem).short
  obtain ⟨sequences, readSequences, ofSequences⟩ := duplicateSequences_perm accepted short uri
  obtain ⟨names, readNames, ofNames⟩ := duplicateNames_perm accepted uri
  refine ⟨_, by rw [diagnose, readSequences, readNames]; rfl, sequences ++ names, rfl, ?_⟩
  intro g mem
  obtain mem | mem := List.mem_append.mp mem
  case inl =>
    obtain ⟨o, _, rfl⟩ := List.mem_map.mp <| ofSequences.mem_iff.mp mem
    exact .inl rfl
  case inr =>
    obtain ⟨o, _, rfl⟩ := List.mem_map.mp <| ofNames.mem_iff.mp mem
    exact .inr rfl

-- Whether a problem of some kind is told of a place.
def Told (ds : List Diagnostic) (code : DiagnosticCode) (place : Span) : Prop :=
  ∃ g ∈ ds, g.code = code ∧ g.span = place

section Told

variable {s : Snapshot} {uri text : String} {ds ds' shared : List Diagnostic}
  {code : DiagnosticCode} {place : Span}

theorem told_append_iff :
    Told (ds ++ ds') code place ↔ Told ds code place ∨ Told ds' code place := by
  simp only [Told, List.mem_append, or_and_right, exists_or]

theorem not_told_of_shared
    (codes : ∀ g ∈ shared, g.code = .duplicateSequence ∨ g.code = .duplicateName)
    (other : code ≠ .duplicateSequence ∧ code ≠ .duplicateName) : ¬Told shared code place := by
  rintro ⟨g, mem, rfl, _⟩
  exact (codes g mem).elim other.1 other.2

variable (printable : ∀ o ∈ s.operators, Printable o) (ok : diagnose s uri text = .ok ds)
include printable ok

theorem told_iff (other : code ≠ .duplicateSequence ∧ code ≠ .duplicateName) :
    Told ds code place ↔ Told (unregisteredCalls s (.ofText uri text)) code place ∨
      Told (missingFragments s (.ofText uri text)) code place ∨
      Told (missingStructs s uri) code place := by
  obtain ⟨ds', ok', shared, rfl, codes⟩ := diagnose_parts printable uri text
  cases ok.symm.trans ok'
  simp only [told_append_iff, not_told_of_shared codes other, false_or, or_assoc]

theorem told_unregistered_iff : Told ds .unregisteredOperator place ↔
    ∃ c ∈ (Flow.Document.ofText uri text).calls, s.findOperator c.name = none ∧ c.span = place := by
  rw [told_iff printable ok (by decide)]
  simp [Told, unregisteredCalls, missingFragments, missingStructs, and_assoc]

theorem told_fragment_iff : Told ds .fragmentNotFound place ↔
    ∃ e ∈ (Flow.Document.ofText uri text).expansions,
      s.findFragment e.name = none ∧ e.span = place := by
  rw [told_iff printable ok (by decide)]
  simp [Told, unregisteredCalls, missingFragments, missingStructs, and_assoc]

theorem told_struct_iff : Told ds .structNotFound place ↔
    ∃ o ∈ s.operatorsIn uri, s.findStruct o.struct = none ∧ o.span = place := by
  rw [told_iff printable ok (by decide)]
  simp [Told, unregisteredCalls, missingFragments, missingStructs, and_assoc]

end Told

-- The problems of a document with the given text. Operators stand for their places in the snapshot.
def problems (s : Snapshot) (uri text : String) : List Diagnostic :=
  let d := Flow.Document.ofText uri text
  let named := (sharing (·.name) s.operators).filter (·.uri = uri)
  let numbered := (sharing (·.sequence) s.operators).filter fun o =>
    o.uri = uri ∧ o.sequence ≠ 0
  let called := d.calls.filter fun c => ∀ o ∈ s.operators, o.name ≠ c.name
  let expanded := d.expansions.filter fun e => ∀ f ∈ s.fragments, f.name ≠ e.name
  let untyped := s.operators.filter fun o =>
    (∀ t ∈ s.structs, t.name ≠ o.struct) ∧ o.uri = uri
  named.map (fun o => ⟨.duplicateName, nameMessage s.operators o, uri, o.span⟩) ++
    numbered.map (fun o => ⟨.duplicateSequence, sequenceMessage s.operators o, uri, o.span⟩) ++
    called.map (fun c => ⟨.unregisteredOperator,
      s!"Unregistered operator '{c.name}'. Please add it to a REGISTER block.", uri, c.span⟩) ++
    expanded.map (fun e => ⟨.fragmentNotFound,
      s!"FRAGMENT '{e.name}' not found. Please define it in a FRAGMENT block.", uri, e.span⟩) ++
    untyped.map fun o => ⟨.structNotFound,
      s!"Go struct '{o.struct}' not found. Please ensure the struct exists in your Go code.", uri,
      o.span⟩

theorem isNone_find? {α κ : Type} [DecidableEq κ] (key : α → κ) (as : List α) (k : κ) :
    (as.find? (key · = k)).isNone = decide (∀ a ∈ as, key a ≠ k) := by
  rw [Bool.eq_iff_iff]
  simp

-- A check reports each problem once, and nothing else, but fails if a number that has to be told of
-- is too long, in whatever document it is. No number that was read is.
theorem diagnose_perm {s : Snapshot} (accepted : ∀ o ∈ s.operators, Uri.Accepted o.uri)
    (uri text : String) :
    if ∀ o ∈ sharing Operator.sequence s.operators, o.sequence.repr.length ≤ Text.digitLimit then
      ∃ ds, diagnose s uri text = .ok ds ∧ ds.Perm (problems s uri text)
    else diagnose s uri text = .error (.number {}) := by
  split
  case isTrue short =>
    obtain ⟨sequences, readSequences, ofSequences⟩ := duplicateSequences_perm accepted short uri
    obtain ⟨names, readNames, ofNames⟩ := duplicateNames_perm accepted uri
    refine ⟨_, by rw [diagnose, readSequences, readNames]; rfl, ?_⟩
    simp only [unregisteredCalls, missingFragments, missingStructs, Snapshot.operatorsIn,
      Snapshot.findOperator, Snapshot.findFragment, Snapshot.findStruct, isNone_find?,
      List.filter_filter, ← Bool.decide_and, problems]
    exact ofSequences.append ofNames |>.trans List.perm_append_comm |>.append_right _
      |>.append_right _ |>.append_right _
  case isFalse long =>
    push Not at long
    obtain ⟨o, mem, long⟩ := long
    rw [diagnose, duplicateSequences_error accepted mem long]
    rfl

theorem diagnose_perm_of_overlapping_groups :
    let operator (name : String) (sequence line : Nat) (uri : String) : Operator :=
      { name, struct := "T", package := "p", path := "x", sequence, uri,
        span := ⟨⟨line, 0⟩, ⟨line, 8⟩⟩, structSpan := ⟨⟨line, 9⟩, ⟨line, 10⟩⟩ }
    let s : Snapshot :=
      { operators := [operator "a" 1 0 "file:///ws/a.gorch", operator "a" 2 1 "file:///ws/b.gorch",
          operator "b" 2 2 "file:///ws/a.gorch", operator "c" 0 3 "file:///ws/a.gorch",
          operator "d" 0 4 "file:///ws/a.gorch"] }
    (∀ o ∈ s.operators, Uri.Accepted o.uri) ∧
      ∃ ds, diagnose s "file:///ws/a.gorch" "UNFOLD(\"f\")\nb()\ng()" = .ok ds ∧
        (ds.map fun d => (d.message, d.span.start.line)).Perm
          [("Duplicate operator name 'a'. Found in: p/x (a.gorch), p/x (b.gorch)", 0),
            ("Duplicate operator sequence 2. Found in: a (b.gorch), b (a.gorch)", 2),
            ("Unregistered operator 'g'. Please add it to a REGISTER block.", 2),
            ("FRAGMENT 'f' not found. Please define it in a FRAGMENT block.", 0),
            ("Go struct 'T' not found. Please ensure the struct exists in your Go code.", 0),
            ("Go struct 'T' not found. Please ensure the struct exists in your Go code.", 2),
            ("Go struct 'T' not found. Please ensure the struct exists in your Go code.", 3),
            ("Go struct 'T' not found. Please ensure the struct exists in your Go code.", 4)] := by
  intro operator s
  have accepted : ∀ o ∈ s.operators, Uri.Accepted o.uri := by decide +kernel
  have checked := diagnose_perm accepted "file:///ws/a.gorch" "UNFOLD(\"f\")\nb()\ng()"
  rw [if_pos (by decide +kernel)] at checked
  obtain ⟨ds, ok, perm⟩ := checked
  refine ⟨accepted, ds, ok, perm.map _ |>.trans <| .of_eq ?_⟩
  decide +kernel

-- Two entries share a number that was never read.
theorem diagnose_long_sequence :
    let operator (name : String) (line : Nat) : Operator :=
      { name, struct := "T", package := "p", path := "x", sequence := 10 ^ Text.digitLimit
        uri := "file:///ws/a.gorch", span := ⟨⟨line, 0⟩, ⟨line, 8⟩⟩
        structSpan := ⟨⟨line, 9⟩, ⟨line, 10⟩⟩ }
    let s : Snapshot := { operators := [operator "a" 0, operator "b" 1] }
    (∀ o ∈ s.operators, Uri.Accepted o.uri) ∧ ∀ uri text,
      ¬∃ ds, diagnose s uri text = .ok ds ∧ ds.Perm (problems s uri text) := by
  intro operator s
  have accepted : ∀ o ∈ s.operators, Uri.Accepted o.uri := by
    have own : Uri.Accepted "file:///ws/a.gorch" := by decide +kernel
    simp [s, operator, own]
  have long : Text.digitLimit < (operator "a" 0).sequence.repr.length := by
    rw [← Nat.not_le, Text.length_repr_le_iff]
    exact Nat.lt_irrefl _
  have shared : operator "a" 0 ∈ sharing (·.sequence) s.operators := by
    rw [sharing_eq]
    simp [s, operator]
  refine ⟨accepted, fun uri text ⟨ds, ok, _⟩ => ?_⟩
  rw [diagnose, duplicateSequences_error accepted shared long] at ok
  cases ok

example : diagnose {} "file:///ws/a.gorch" "REGISTER(\"p\")\x7b\x7dfoo()" = .ok [] := by
  decide +kernel

end Diagnostics

end FlowIndex
