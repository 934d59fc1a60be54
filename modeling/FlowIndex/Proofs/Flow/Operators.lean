import FlowIndex.Proofs.Flow.Declared
import FlowIndex.Proofs.Flow.Extent
import FlowIndex.Proofs.LineIndex

namespace FlowIndex.Flow

variable {length : Nat} {ts : List Token} {t : Token} {b : Block} {package : String}

section Entries

theorem Entry.start_of_read? {e : Entry} (h : Entry.read? package t ts = some e) :
    e.start = t.start := by
  unfold Entry.read? at h
  grind

theorem Entry.isSome_read? (package package' : String) :
    (Entry.read? package t ts).isSome = (Entry.read? package' t ts).isSome := by
  unfold Entry.read?
  grind

-- The offsets of all that can be read as an entry, in whatever block it stands.
def entryStarts : List Token → List Nat
  | [] => []
  | t :: ts =>
    if t.isIdent "OPERATOR" && (Entry.read? "" t ts).isSome then t.start :: entryStarts ts
    else entryStarts ts

def Block.encloses (b : Block) (offset : Nat) : Bool :=
  b.start < offset && offset < b.stop

theorem starts_entriesIn (b : Block) (ts : List Token) :
    (entriesIn b ts).map (·.start) = (entryStarts ts).filter b.encloses := by
  induction ts
  case nil => rfl
  case cons t ts hi =>
    have enclosed : (b.start < t.start && t.start < b.stop) = b.encloses t.start := rfl
    rw [entriesIn, entryStarts, Entry.isSome_read? "" b.name.value, enclosed]
    cases ident : t.isIdent "OPERATOR"
    case false => simpa using hi
    case true =>
      cases read : Entry.read? b.name.value t ts
      case none => simpa using hi
      case some e =>
        have start := Entry.start_of_read? read
        cases inside : b.encloses t.start
        case false => simpa [inside] using hi
        case true => simpa [inside, start] using hi

theorem starts_sublist (ts : List Token) : (entryStarts ts).Sublist (ts.map (·.start)) := by
  induction ts
  case nil => exact .slnil
  case cons t ts hi =>
    rw [entryStarts, List.map_cons]
    split
    case isTrue => exact hi.cons_cons t.start
    case isFalse => exact hi.cons t.start

theorem Laid.entryStarts (laid : Laid length ts) : (entryStarts ts).Pairwise (· < ·) :=
  List.pairwise_map.mpr laid.starts |>.sublist <| starts_sublist ts

end Entries

namespace Document

variable {d : Document}

-- No block reaches over another one that has entries.
def Apart (d : Document) : Prop :=
  d.registrations.Pairwise fun b b' => b.closed = true ∨ entriesIn b' d.tokens = []

instance (d : Document) : Decidable d.Apart :=
  inferInstanceAs (Decidable (List.Pairwise _ _))

theorem starts_entries (d : Document) : d.entries.map (·.start) =
    d.registrations.flatMap fun b => (entryStarts d.tokens).filter b.encloses := by
  rw [entries, Flow.entries, List.map_flatMap]
  simp only [starts_entriesIn, registrations]

theorem mem_enclosed {o : Nat} (mem : o ∈ (entryStarts ts).filter b.encloses) :
    o ∈ entryStarts ts ∧ b.start < o ∧ o < b.stop := by
  simpa [Block.encloses] using mem

-- Any relation that follows from the order of the offsets, and in which no offset stands to itself,
-- holds along the entries just if the blocks are apart: an entry of a block that another one reaches
-- over is read twice.
theorem pairwise_starts_iff {r : Nat → Nat → Prop} (laid : Laid d.length d.tokens)
    (of_lt : ∀ o o', o < o' → o' ≤ d.length → r o o') (irrefl : ∀ o, ¬r o o) :
    (d.entries.map (·.start)).Pairwise r ↔ d.Apart := by
  have starts := laid.entryStarts
  have within {o : Nat} (mem : o ∈ entryStarts d.tokens) : o < d.length := by
    obtain ⟨t, ht, rfl⟩ := List.mem_map.mp <| (starts_sublist d.tokens).mem mem
    exact Nat.lt_of_lt_of_le (laid.nonempty t ht) (laid.within t ht)
  have own (b : Block) : ((entryStarts d.tokens).filter b.encloses).Pairwise r :=
    starts.filter _ |>.imp_of_mem fun _ mem less =>
      of_lt _ _ less <| Nat.le_of_lt <| within (mem_enclosed mem).1
  have ordered := registrations_ordered laid
  rw [starts_entries, List.pairwise_flatMap]
  constructor
  case mp =>
    rintro ⟨_, related⟩
    refine related.and ordered |>.imp_of_mem fun {b b'} hb _ ⟨related, less, _⟩ => ?_
    cases closed : b.closed
    case true => exact .inl rfl
    case false =>
      have stop : b.stop = d.length := by
        obtain ⟨_, _, _, _, lies⟩ := liesIn_of_mem_registrations hb
        exact (lies.unclosed closed).2
      right
      rw [← List.map_eq_nil_iff, starts_entriesIn, List.eq_nil_iff_forall_not_mem]
      refine fun o mem => irrefl o ?_
      obtain ⟨found, start, _⟩ := mem_enclosed mem
      have before := within found
      exact related o (List.mem_filter.mpr ⟨found, by simp [Block.encloses]; omega⟩) o mem
  case mpr =>
    intro apart
    refine ⟨fun b _ => own b, apart.and ordered |>.imp ?_⟩
    intro b b' ⟨apart, _, stop⟩ o mem o' mem'
    obtain ⟨_, _, before⟩ := mem_enclosed mem
    obtain ⟨found, behind, _⟩ := mem_enclosed mem'
    obtain closed | none := apart
    case inl =>
      have := stop closed
      exact of_lt o o' (by omega) <| Nat.le_of_lt <| within found
    case inr =>
      rw [← starts_entriesIn, none] at mem'
      cases mem'

theorem exists_entry {os : List Operator} (ok : d.operators = .ok os) {o : Operator}
    (mem : o ∈ os) : ∃ e ∈ d.entries, d.operatorOf e = .ok o :=
  exists_of_forall₂ (mapM_eq_ok_iff.mp ok).flip mem

theorem exists_operator {os : List Operator} (ok : d.operators = .ok os) {e : Entry}
    (mem : e ∈ d.entries) : ∃ o ∈ os, d.operatorOf e = .ok o :=
  exists_of_forall₂ (mapM_eq_ok_iff.mp ok) mem

theorem of_operatorOf {e : Entry} {o : Operator} (ok : d.operatorOf e = .ok o) :
    o.uri = d.uri ∧ o.struct = e.struct.value ∧ o.span = d.lines.span e.start e.stop := by
  unfold operatorOf at ok
  cases read : Text.readNumber e.sequence.value.toList
  case error =>
    rw [read] at ok
    cases ok
  case ok =>
    rw [read] at ok
    cases ok
    exact ⟨rfl, rfl, rfl⟩

theorem short_of_operatorOf {e : Entry} {o : Operator} (ok : d.operatorOf e = .ok o) :
    o.sequence.repr.length ≤ Text.digitLimit := by
  unfold operatorOf at ok
  cases read : Text.readNumber e.sequence.value.toList
  case error =>
    rw [read] at ok
    cases ok
  case ok =>
    rw [read] at ok
    cases ok
    exact Text.short_of_readNumber read

theorem span_of_operatorOf {e : Entry} {o : Operator} (ok : d.operatorOf e = .ok o) :
    o.span.start = d.lines.position e.start := by
  rw [(of_operatorOf ok).2.2]
  rfl

theorem spans_of_operators {operators : List Operator} (ok : d.operators = .ok operators) :
    operators.map (·.span.start) = (d.entries.map (·.start)).map d.lines.position := by
  have read := mapM_eq_ok_iff.mp ok
  rw [List.map_map, ← List.forall₂_eq_eq_eq, List.forall₂_map_left_iff, List.forall₂_map_right_iff]
  exact read.flip.imp fun _ _ => span_of_operatorOf

-- Operators come in the order of the text, and no two of them from one place, just if no block that
-- is not closed reaches over another one with entries.
theorem operators_increasing_iff {uri text : String} {operators : List Operator}
    (ok : (ofText uri text).operators = .ok operators) :
    ((operators.map (·.span.start)).Pairwise (· < ·) ↔ (ofText uri text).Apart) ∧
      ((operators.map (·.span.start)).Nodup ↔ (ofText uri text).Apart) := by
  have laid := laid_ofText uri text
  have position_lt {o o' : Nat} (less : o < o') (within : o' ≤ (ofText uri text).length) :
      (ofText uri text).lines.position o < (ofText uri text).lines.position o' :=
    LineIndex.position_lt less within
  rw [spans_of_operators ok]
  constructor
  case left =>
    rw [List.pairwise_map]
    exact pairwise_starts_iff laid (fun _ _ => position_lt) fun _ => Position.lt_irrefl _
  case right =>
    rw [List.Nodup, List.pairwise_map]
    refine pairwise_starts_iff laid (fun o o' less within same => ?_) fun _ => absurd rfl
    exact Position.lt_irrefl _ <| same ▸ position_lt less within

theorem operators_increasing_in_two_blocks :
    let text := "REGISTER(\"p\")\x7bOPERATOR(\"a\",\"A\",2)\x7d " ++
      "REGISTER(\"q\")\x7bOPERATOR(\"b\",\"B\",1)"
    ∃ operators, (ofText "a.gorch" text).operators = .ok operators ∧
      operators.map (·.name) = ["A", "B"] ∧ (operators.map (·.span.start)).Pairwise (· < ·) ∧
      (operators.map (·.span.start)).Nodup := by
  intro text
  have ⟨read, apart⟩ : (ofText "a.gorch" text).operators.map (·.map (·.name)) = .ok ["A", "B"] ∧
      (ofText "a.gorch" text).Apart := by
    decide +kernel
  cases ok : (ofText "a.gorch" text).operators
  case error e =>
    rw [ok] at read
    cases read
  case ok operators =>
    rw [ok] at read
    obtain ⟨increasing, once⟩ := operators_increasing_iff ok
    exact ⟨operators, rfl, Except.ok.inj read, increasing.mpr apart, once.mpr apart⟩

-- The entry of a closed block inside one that is not closed is declared once more, behind an entry
-- that comes later in the text.
theorem operators_twice_in_open_block :
    let text := "REGISTER(\"p\")\x7b\nREGISTER(\"p\")\x7b\n" ++
      "OPERATOR(\"x\",\"X\",1)\x7d\nOPERATOR(\"y\",\"Y\",2)"
    ∃ operators, (ofText "a.gorch" text).operators = .ok operators ∧
      operators.map (·.span.start) = [⟨2, 0⟩, ⟨3, 0⟩, ⟨2, 0⟩] ∧
      ¬(operators.map (·.span.start)).Pairwise (· < ·) ∧
      ¬(operators.map (·.span.start)).Nodup := by
  intro text
  have read : (ofText "a.gorch" text).operators.map (·.map (·.span.start)) =
      .ok [⟨2, 0⟩, ⟨3, 0⟩, ⟨2, 0⟩] := by
    decide +kernel
  cases ok : (ofText "a.gorch" text).operators
  case error e =>
    rw [ok] at read
    cases read
  case ok operators =>
    rw [ok] at read
    have starts : operators.map (·.span.start) = [⟨2, 0⟩, ⟨3, 0⟩, ⟨2, 0⟩] := Except.ok.inj read
    refine ⟨operators, rfl, starts, ?_, ?_⟩
    all_goals rw [starts]; decide

end Document

end FlowIndex.Flow
