import FlowIndex.Host.Reading
import Mathlib.Data.List.Basic
import Mathlib.Data.Option.Basic

namespace FlowIndex.Host

variable {ts : List Token} {xs ys : List Symbol} {x : Symbol} {i j k n : Nat}

section Readings

-- How tokens are read as symbols, one behind the other, from one place among them up to another.
inductive Reads (ts : List Token) : List Symbol → Nat → Nat → Prop
  | nil (i : Nat) : Reads ts [] i i
  | word {w : Word} {xs : List Symbol} {i j : Nat} (starts : w ∈ Word.starts (ts.drop i))
      (later : Reads ts xs (i + w.size) j) : Reads ts (.terminal w.kind :: xs) i j
  | phrase {r : Rule} {xs : List Symbol} {i j k : Nat} (rule : r ∈ Grammar.all)
      (parts : Reads ts r.symbols.toList i j) (later : Reads ts xs j k) :
    Reads ts (.category r.category :: xs) i k

theorem Reads.append (first : Reads ts xs i j) (second : Reads ts ys j k) :
    Reads ts (xs ++ ys) i k := by
  induction first
  case nil => exact second
  case word starts _ hi => exact .word starts <| hi second
  case phrase rule parts _ _ hi => exact .phrase rule parts <| hi second

end Readings

section Words

theorem splitClosing_eq {depth : Nat} {inner rest : List Token} {closing : Token}
    (found : splitClosing depth ts = some (inner, closing, rest)) :
    ts = inner ++ closing :: rest := by
  induction ts generalizing depth inner
  case nil => cases found
  case cons t ts hi =>
    have later {depth : Nat} (found : (splitClosing depth ts).map
        (Prod.map (t :: ·) id) = some (inner, closing, rest)) :
        t :: ts = inner ++ closing :: rest := by
      obtain ⟨⟨inner, rest⟩, later, same⟩ := Option.map_eq_some_iff.mp found
      cases same
      exact congrArg _ <| hi later
    unfold splitClosing at found
    split at found
    case isTrue => exact later found
    case isFalse =>
      split at found
      case isTrue =>
        cases depth
        case zero =>
          cases found
          rfl
        case succ => exact later found
      case isFalse => exact later found

theorem length_markText_le (n : Nat) (ts : List Token) : (Word.markText n ts).length ≤ ts.length := by
  induction ts generalizing n
  case nil => simp [Word.markText]
  case cons t ts hi =>
    unfold Word.markText
    split
    case h_1 => exact Nat.zero_le _
    case h_2 n =>
      split
      case isTrue => exact Nat.zero_le _
      case isFalse =>
        split
        case isTrue => exact Nat.succ_le_succ <| hi n
        case isFalse => exact Nat.succ_le_succ <| Nat.zero_le _

namespace Word

variable {w : Word} {t : Token}

theorem starts_nil (mem : w ∈ starts []) : w = ⟨.stop, 0⟩ :=
  List.mem_singleton.mp mem

-- A word that starts at a token is spelled like a name, or it is a literal, a body, or one that is
-- spelled with marks.
theorem starts_cons (mem : w ∈ starts (t :: ts)) :
    (w.size = 1 ∧ (w.kind = .name ∨ w.kind ∈ names.map (·.2)) ∧ ⟨.name, 1⟩ ∈ starts (t :: ts)) ∨
      0 < w.size ∧ w.size ≤ (t :: ts).length ∧
        w.kind ∈ Terminal.literal :: .body :: marks.map (·.2) := by
  have found {names : List (String × Terminal)} {k : Terminal}
      (mem : k ∈ (names.lookup t.text).toList) : k ∈ names.map (·.2) := by
    obtain ⟨front, back, rfl, _⟩ := List.lookup_eq_some_iff.mp <| Option.mem_toList.mp mem
    simp
  unfold starts at mem ⊢
  cases kind : t.kind
  case name | keyword =>
    simp only [kind] at mem ⊢
    obtain ⟨k, listed, rfl⟩ := List.mem_map.mp mem
    refine .inl ⟨rfl, ?_, by simp⟩
    obtain special | plain := List.mem_append.mp listed
    case inl => exact .inr <| found special
    case inr => exact .inl <| List.mem_singleton.mp plain
  case literal =>
    simp only [kind] at mem
    cases List.mem_singleton.mp mem
    exact .inr ⟨Nat.one_pos, by simp, by simp⟩
  case mark =>
    simp only [kind] at mem
    right
    split at mem
    case isTrue =>
      obtain ⟨⟨inner, closing, rest⟩, split, rfl⟩ := List.mem_map.mp mem
      have tokens := splitClosing_eq <| Option.mem_toList.mp split
      refine ⟨Nat.succ_pos _, ?_, by simp⟩
      simp [tokens]
    case isFalse =>
      obtain ⟨n, listed, found'⟩ := List.mem_filterMap.mp mem
      obtain ⟨_, fits, found'⟩ := Option.bind_eq_some_iff.mp found'
      obtain ⟨k, spelled, same⟩ := Option.bind_eq_some_iff.mp found'
      cases same
      have short := (Option.guard_eq_some' ()).mp fits
      refine ⟨?_, Nat.le_trans short <| length_markText_le 3 _, ?_⟩
      case refine_1 =>
        have positive : ∀ n ∈ [3, 2, 1], 0 < n := by decide
        exact positive n listed
      case refine_2 =>
        obtain ⟨front, back, split, _⟩ := List.lookup_eq_some_iff.mp spelled
        simp [split]

theorem starts_size (mem : w ∈ starts (t :: ts)) :
    w.kind ≠ .stop ∧ 0 < w.size ∧ w.size ≤ (t :: ts).length := by
  have other : Terminal.stop ∉ Terminal.name :: names.map (·.2) ∧
      Terminal.stop ∉ Terminal.literal :: .body :: marks.map (·.2) := by decide
  obtain ⟨size, kind, _⟩ | ⟨positive, fits, kind⟩ := starts_cons mem
  case inl =>
    refine ⟨fun stop => other.1 ?_, by omega, by simp [size]⟩
    rw [← stop]
    exact List.mem_cons.mpr kind
  case inr => exact ⟨fun stop => other.2 <| stop ▸ kind, positive, fits⟩

theorem name_mem_starts (mem : w ∈ starts ts) (special : w.isSpecial = true) :
    { w with kind := .name } ∈ starts ts := by
  have other : ∀ k ∈ Terminal.stop :: .literal :: .body :: marks.map (·.2),
      names.any (·.2 = k) = false := by decide
  have plain (listed : w.kind ∈ Terminal.stop :: .literal :: .body :: marks.map (·.2)) : False := by
    rw [isSpecial, other _ listed] at special
    cases special
  cases ts
  case nil => exact (plain <| by simp [starts_nil mem]).elim
  case cons t ts =>
    obtain ⟨size, _, own⟩ | ⟨_, _, kind⟩ := starts_cons mem
    case inl => rwa [size]
    case inr => exact (plain <| List.mem_cons_of_mem _ kind).elim

theorem starts_stop (mem : w ∈ starts ts) (stop : w.kind = .stop) : ts = [] := by
  cases ts
  case nil => rfl
  case cons => exact absurd stop (starts_size mem).1

theorem starts_size_pos (mem : w ∈ starts ts) (other : w.kind ≠ .stop) : 0 < w.size := by
  cases ts
  case nil => exact absurd (congrArg Word.kind <| starts_nil mem) other
  case cons => exact (starts_size mem).2.1

theorem starts_fits (mem : w ∈ starts ts) : w.size ≤ ts.length := by
  cases ts
  case nil => rw [starts_nil mem]; exact Nat.zero_le _
  case cons => exact (starts_size mem).2.2

theorem mem_of_next? {s : State} (next : next? s ts = some w) : w ∈ starts ts :=
  List.mem_of_find?_eq_some next

end Word

end Words

section Tables

variable {table : CategoryTable} {c d : Category} {s : Terminals} {r : Rule}

theorem Category.ctorIdx_injective (same : c.ctorIdx = d.ctorIdx) : c = d := by
  rw [← Category.ofNat_ctorIdx c, same, Category.ofNat_ctorIdx]

theorem Terminals.isEmpty_union (s s' : Terminals) :
    (s ∪ s').isEmpty = (s.isEmpty && s'.isEmpty) := by
  show decide (s.bits ||| s'.bits = 0) = _
  rw [isEmpty, isEmpty, ← Bool.decide_and]
  exact decide_eq_decide.mpr Nat.or_eq_zero_iff

namespace CategoryTable

-- Whether a phrase is waited for.
def Holds (table : CategoryTable) (c : Category) : Prop :=
  (table.get c).isEmpty = false

theorem get_add (table : CategoryTable) (c d : Category) (s : Terminals) :
    (table.add c s).get d = if c = d then table.get d ∪ ⟨s.bits % 1 <<< width⟩ else table.get d := by
  suffices bits : ((table.add c s).get d).bits =
      (table.get d).bits ||| if c = d then s.bits % 1 <<< width else 0 by
    split at bits
    case isTrue same => rw [if_pos same]; exact congrArg Terminals.mk bits
    case isFalse other =>
      rw [Nat.or_zero] at bits
      rw [if_neg other]
      exact congrArg Terminals.mk bits
  refine Nat.eq_of_testBit_eq fun i => ?_
  simp only [get, add, Nat.one_shiftLeft, Nat.testBit_or, Nat.testBit_mod_two_pow,
    Nat.testBit_shiftRight, Nat.testBit_shiftLeft]
  by_cases same : c = d
  case pos =>
    subst same
    simp only [if_true, Nat.testBit_mod_two_pow, ge_iff_le, Nat.le_add_right, decide_true,
      Nat.add_sub_cancel_left, Bool.true_and, Bool.and_or_distrib_left, Bool.and_self_left]
  case neg =>
    -- The bits of a set end in front of those of the next one.
    have apart := mt Category.ctorIdx_injective same
    have outside : i < width → width * d.ctorIdx + i ≥ width * c.ctorIdx →
        ¬width * d.ctorIdx + i - width * c.ctorIdx < width := by
      rw [width]
      omega
    simp only [if_neg same, Nat.zero_testBit, Bool.or_false]
    grind

theorem Holds.add (holds : table.Holds d) (c : Category) (s : Terminals) :
    (table.add c s).Holds d := by
  rw [Holds, get_add]
  split
  case isTrue => rw [Terminals.isEmpty_union, holds, Bool.false_and]
  case isFalse => exact holds

theorem of_holds_add (holds : (table.add c s).Holds d) : table.Holds d ∨ c = d := by
  by_cases same : c = d
  case pos => exact .inr same
  case neg =>
    rw [Holds, get_add, if_neg same] at holds
    exact .inl holds

theorem not_holds_empty (c : Category) : ¬empty.Holds c := by
  simp [Holds, get, empty, Terminals.isEmpty]

-- Phrases are waited for because they are among some that are to be read, or because another one
-- that is waited for starts with them.
def Justified (seeds : Category → Prop) (table : CategoryTable) : Prop :=
  ∀ d, table.Holds d →
    seeds d ∨ ∃ r ∈ Grammar.all, r.symbol? 0 = some (.category d) ∧ table.Holds r.category

variable {seeds : Category → Prop}

theorem Justified.add (just : table.Justified seeds)
    (new : seeds c ∨ ∃ r ∈ Grammar.all, r.symbol? 0 = some (.category c) ∧ table.Holds r.category)
    (s : Terminals) : (table.add c s).Justified seeds := by
  intro d holds
  have old : seeds d ∨ ∃ r ∈ Grammar.all, r.symbol? 0 = some (.category d) ∧
      table.Holds r.category := by
    obtain old | rfl := of_holds_add holds
    case inl => exact just d old
    case inr => exact new
  exact old.imp_right fun ⟨r, mem, first, waits⟩ => ⟨r, mem, first, waits.add c s⟩

theorem Justified.round (just : table.Justified seeds) :
    (State.expectedRound table).Justified seeds := by
  rw [State.expectedRound]
  refine List.foldlRecOn _ _ just fun table just r mem => ?_
  rw [State.expectedRound.expectFirst]
  split
  case isTrue => exact just
  case isFalse filled =>
    have waits : table.Holds r.category := by simpa [Holds] using filled
    have mem := Array.mem_toList_iff.mp mem
    split
    case h_1 c _ first _ => exact just.add (.inr ⟨r, mem, first, waits⟩) _
    case h_2 c first _ => exact just.add (.inr ⟨r, mem, first, waits⟩) _
    case h_3 => exact just

theorem Justified.saturate (just : table.Justified seeds) (fuel : Nat) :
    (CategoryTable.saturate State.expectedRound fuel table).Justified seeds := by
  induction fuel generalizing table
  case zero => exact just
  case succ fuel hi =>
    rw [CategoryTable.saturate]
    split
    case isTrue => exact just
    case isFalse => exact hi just.round

end CategoryTable

end Tables

section States

variable {s : State} {i : Item} {t : Terminal} {c d : Category} {r : Rule}

theorem Item.mem_of_rule? (rule : i.rule? = some r) : r ∈ Grammar.all :=
  Array.mem_of_getElem? rule

theorem Item.next?_eq_some : i.next? = some x ↔
    ∃ r, i.rule? = some r ∧ r.symbol? i.position = some x := by
  rw [next?, Option.bind_eq_bind, Option.bind_eq_some_iff]

namespace State

theorem justified_start (c : Category) : (start c).expected.Justified (· = c) := by
  rw [start]
  generalize 2 * CategoryTable.size = fuel
  refine CategoryTable.Justified.saturate (fun d holds => ?_) fuel
  obtain old | rfl := CategoryTable.of_holds_add holds
  case inl => exact absurd old <| CategoryTable.not_holds_empty d
  case inr => exact .inl rfl

theorem justified_ofItems (items : List Item) : (ofItems items).expected.Justified
    fun d => ∃ i ∈ items, i.next? = some (.category d) := by
  rw [ofItems]
  generalize 2 * CategoryTable.size = fuel
  refine CategoryTable.Justified.saturate ?_ fuel
  refine List.foldlRecOn _ _ (fun d holds => absurd holds <| CategoryTable.not_holds_empty d) ?_
  intro table just i mem
  split
  case h_1 d next => exact just.add (.inl ⟨i, mem, next⟩) _
  case h_2 => exact just

theorem mem_opened : i ∈ s.opened x ↔ ∃ r, i.rule? = some r ∧ r.symbol? 0 = some x ∧
    s.expected.Holds r.category ∧ i.position = 1 ∧ i.lookahead = s.expected.get r.category := by
  rw [opened, List.mem_filterMap]
  simp only [Prod.exists, List.mem_zipIdx_iff_getElem?, Array.getElem?_toList,
    Option.ite_none_right_eq_some, Bool.and_eq_true, decide_eq_true_eq, Bool.not_eq_true']
  constructor
  case mp =>
    rintro ⟨r, n, rule, ⟨first, holds⟩, same⟩
    cases same
    exact ⟨r, rule, first, holds, rfl, rfl⟩
  case mpr =>
    rintro ⟨r, rule, first, holds, position, lookahead⟩
    refine ⟨r, i.rule, rule, ⟨first, holds⟩, ?_⟩
    rw [← lookahead, ← position]

theorem opened_ne_nil (mem : r ∈ Grammar.all) (first : r.symbol? 0 = some x)
    (waits : s.expected.Holds r.category) : s.opened x ≠ [] := by
  obtain ⟨n, index⟩ := Array.getElem?_of_mem mem
  exact List.ne_nil_of_mem <| mem_opened (i := ⟨n, 1, s.expected.get r.category⟩).mpr
    ⟨r, index, first, waits, rfl, rfl⟩

-- The items behind a symbol: those that waited for it, one place on, and the rules that begin with it.
theorem mem_items_next : i ∈ (s.next x).items ↔
    (∃ j ∈ s.items, j.next? = some x ∧ { j with position := j.position + 1 } = i) ∨
      i ∈ s.opened x := by
  rw [show (s.next x).items = s.items.filterMap (·.advance? x) ++ s.opened x from rfl,
    List.mem_append, List.mem_filterMap]
  simp only [Item.advance?, Option.ite_none_right_eq_some, Option.some.injEq]

theorem next_ne_nil_of_mem (mem : i ∈ s.items) (next : i.next? = some x) :
    (s.next x).items ≠ [] :=
  List.ne_nil_of_mem <| mem_items_next.mpr <| .inl ⟨i, mem, next, rfl⟩

theorem next_ne_nil_of_opened (opened : s.opened x ≠ []) : (s.next x).items ≠ [] := by
  obtain ⟨i, mem⟩ := List.exists_mem_of_ne_nil _ opened
  exact List.ne_nil_of_mem <| mem_items_next.mpr <| .inr mem

theorem next_ne_nil_of_reads (reads : s.reads t = true) : (s.next (.terminal t)).items ≠ [] := by
  rw [State.reads, Bool.or_eq_true, List.any_eq_true] at reads
  obtain ⟨i, mem, next⟩ | opened := reads
  case inl => exact next_ne_nil_of_mem mem <| of_decide_eq_true next
  case inr => exact next_ne_nil_of_opened <| by simpa using opened

theorem next_ne_nil_of_holds_ofItems {items : List Item} (holds : (ofItems items).expected.Holds d) :
    ((ofItems items).next (.category d)).items ≠ [] := by
  obtain ⟨i, mem, next⟩ | ⟨r, mem, first, waits⟩ := justified_ofItems items d holds
  case inl => exact next_ne_nil_of_mem (s := ofItems items) mem next
  case inr => exact next_ne_nil_of_opened <| opened_ne_nil mem first waits

theorem next_ne_nil_of_holds_start (holds : (start c).expected.Holds d) :
    d = c ∨ ((start c).next (.category d)).items ≠ [] := by
  obtain same | ⟨r, mem, first, waits⟩ := justified_start c d holds
  case inl => exact .inl same
  case inr => exact .inr <| next_ne_nil_of_opened <| opened_ne_nil mem first waits

theorem exists_symbol? (items : (s.next x).items ≠ []) :
    ∃ r ∈ Grammar.all, ∃ n, r.symbol? n = some x := by
  obtain ⟨i, mem⟩ := List.exists_mem_of_ne_nil _ items
  obtain ⟨j, _, next, _⟩ | mem := mem_items_next.mp mem
  case inl =>
    obtain ⟨r, rule, next⟩ := Item.next?_eq_some.mp next
    exact ⟨r, Item.mem_of_rule? rule, j.position, next⟩
  case inr =>
    obtain ⟨r, rule, first, _⟩ := mem_opened.mp mem
    exact ⟨r, Item.mem_of_rule? rule, 0, first⟩

-- Whether a rule may have been read here up to a place in it.
def Begun (s : State) (r : Rule) : Nat → Prop
  | 0 => s.expected.Holds r.category
  | n + 1 => ∃ i ∈ s.items, i.rule? = some r ∧ i.position = n + 1

-- Whether something of each rule in the items has been read.
def Proper (s : State) : Prop :=
  ∀ i ∈ s.items, 0 < i.position

theorem proper_next (s : State) (x : Symbol) : (s.next x).Proper := by
  intro i mem
  obtain ⟨j, _, _, rfl⟩ | mem := mem_items_next.mp mem
  case inl => exact Nat.succ_pos _
  case inr =>
    obtain ⟨_, _, _, _, position, _⟩ := mem_opened.mp mem
    exact position ▸ Nat.one_pos

theorem Begun.back (begun : (s.next x).Begun r (n + 1)) (proper : s.Proper) :
    r.symbol? n = some x ∧ s.Begun r n := by
  obtain ⟨i, mem, rule, position⟩ := begun
  obtain ⟨j, old, next, rfl⟩ | mem := mem_items_next.mp mem
  case inl =>
    obtain rfl : j.position = n := Nat.succ.inj position
    obtain ⟨r', rule', next⟩ := Item.next?_eq_some.mp next
    obtain rfl : r' = r := Option.some.inj <| rule'.symm.trans rule
    refine ⟨next, ?_⟩
    obtain ⟨m, succ⟩ := Nat.exists_eq_succ_of_ne_zero <| Nat.ne_of_gt <| proper j old
    rw [succ]
    exact ⟨j, old, rule', succ⟩
  case inr =>
    obtain ⟨r', rule', first, waits, position', _⟩ := mem_opened.mp mem
    obtain rfl : r' = r := Option.some.inj <| rule'.symm.trans rule
    obtain rfl : n = 0 := Nat.succ.inj <| position.symm.trans position'
    exact ⟨first, waits⟩

theorem begun_of_mem_reductions (mem : n ∈ (s.moves t).reductions) (rule : Grammar.all[n]? = some r)
    (filled : 0 < r.symbols.size) : s.Begun r r.symbols.size := by
  have ended : ∀ m ∈ s.reductions t, ∃ i ∈ s.items, i.rule = m.1 ∧ i.rule? = some m.2 ∧
      i.position = m.2.symbols.size := by
    intro m mem
    rw [reductions, List.mem_mergeSort] at mem
    obtain ⟨i, listed, found⟩ := List.mem_filterMap.mp <| List.mem_of_mem_filter mem
    simp only [Option.bind_eq_bind, Option.bind_eq_some_iff, Option.ite_none_right_eq_some,
      Bool.and_eq_true, decide_eq_true_eq] at found
    obtain ⟨r, rule, ⟨position, _⟩, same⟩ := found
    cases same
    exact ⟨i, listed, rfl, rule, position⟩
  have among : n ∈ (s.reductions t).map (·.1) := by
    unfold moves at mem
    dsimp only at mem
    split at mem
    case h_1 => exact mem
    case h_2 =>
      repeat' split at mem
      all_goals first
        | exact mem
        | exact absurd mem List.not_mem_nil
  obtain ⟨m, listed, rfl⟩ := List.mem_map.mp among
  obtain ⟨i, begun, number, rule', position⟩ := ended m listed
  have same : m.2 = r := by
    rw [Item.rule?, number, rule] at rule'
    exact (Option.some.inj rule').symm
  obtain ⟨size, succ⟩ := Nat.exists_eq_succ_of_ne_zero <| Nat.ne_of_gt filled
  rw [same] at position rule'
  rw [succ]
  exact ⟨i, begun, rule', position.trans succ⟩

theorem reads_of_shifts (shifts : (s.moves t).shifts = true) : s.reads t = true := by
  unfold moves at shifts
  grind

end State

end States

end FlowIndex.Host
