import FlowIndex.Flow.Document
import FlowIndex.Proofs.Flow.Reading
import Mathlib.Data.List.Forall2

namespace FlowIndex

namespace Flow

-- What an operator declares, its places in the text apart.
structure Declared where
  name : String
  struct : String
  package : String
  path : String
  sequence : Nat
deriving DecidableEq

-- The struct gives an operator its name if the entry does not.
def EntryText.declared (package : String) (e : EntryText) : Declared :=
  { name := e.name.getD e.struct, struct := e.struct, package, path := e.path
    sequence := e.sequence }

namespace Item

def declared : Item → List Declared
  | registration package entries => entries.map (·.declared package)
  | fragment _ _ => []
  | start _ _ => []

def fragment? : Item → Option String
  | registration _ _ => none
  | fragment name _ => some name
  | start _ _ => none

end Item

end Flow

def Operator.declared (o : Operator) : Flow.Declared :=
  { name := o.name, struct := o.struct, package := o.package, path := o.path
    sequence := o.sequence }

namespace Flow

open Lexeme

variable {o : Nat} {t : Token} {ts rest : List Token} {b : Block} {e : EntryText}
variable {entries : List EntryText} {items : List Item}

-- An entry whose operator is a given one, in whatever document it stands.
def Entry.Declares (e : Entry) (x : Declared) : Prop :=
  ∀ d : Document, ∃ op, d.operatorOf e = .ok op ∧ op.declared = x

theorem EntryText.Valid.read (valid : e.Valid) (h : tokensFrom o e.lexemes = t :: ts)
    (package : String) (rest : List Token) :
    ∃ r, Entry.read? package t (ts ++ rest) = some r ∧ r.Declares (e.declared package) := by
  obtain ⟨hp, hs, hn, hq⟩ := valid
  have read : ∃ r, Entry.read? package t (ts ++ rest) = some r ∧ r.package = package ∧
      r.path.value = e.path ∧ r.struct.value = e.struct ∧
      r.nameToken.value = e.name.getD e.struct ∧ r.sequence.value = e.sequence.repr := by
    obtain ⟨path, struct, name, sequence⟩ := e
    cases name
    case none =>
      cases h
      simp [Entry.read?, tokensFrom, Word.isPunct, Word.isName, hp, hs, Entry.nameToken,
        -Nat.toList_repr]
    case some name =>
      have hn : name ≠ "" := hn name rfl
      cases h
      simp [Entry.read?, tokensFrom, Word.isPunct, Word.isName, hp, hs, hn, Entry.nameToken,
        -Nat.toList_repr]
  obtain ⟨r, read, package, path, struct, name, sequence⟩ := read
  refine ⟨r, read, fun d => ?_⟩
  rw [Document.operatorOf, sequence, Text.readNumber_repr hq]
  refine ⟨_, rfl, ?_⟩
  simp only [Operator.declared, EntryText.declared, package, path, struct, name]

theorem entriesIn_append (h : ∀ t ∈ ts, b.start < t.start → t.start < b.stop →
    t.isIdent "OPERATOR" = false) : entriesIn b (ts ++ rest) = entriesIn b rest := by
  induction ts
  case nil => rfl
  case cons t ts hi =>
    have skip : (b.start < t.start && t.start < b.stop && t.isIdent "OPERATOR") = false := by
      refine Bool.eq_false_iff.mpr fun found => ?_
      simp only [Bool.and_eq_true, decide_eq_true_eq] at found
      rw [h t List.mem_cons_self found.1.1 found.1.2] at found
      cases found.2
    rw [List.cons_append, entriesIn, skip]
    exact hi fun t mem => h t <| List.mem_cons_of_mem _ mem

theorem entriesIn_cons {r : Entry} (start : b.start < t.start) (stop : t.start < b.stop)
    (ident : t.isIdent "OPERATOR" = true) (read : Entry.read? b.name.value t ts = some r) :
    entriesIn b (t :: ts) = r :: entriesIn b ts := by
  simp [entriesIn, start, stop, ident, read]

theorem entriesIn_lines (valid : ∀ e ∈ entries, e.Valid) (start : b.start ≤ o)
    (stop : o + width ((entries.map (·.lexemes)).flatMap (indent :: ·)) < b.stop)
    (rest : List Token) :
    ∃ rs, entriesIn b (tokensFrom o ((entries.map (·.lexemes)).flatMap (indent :: ·)) ++ rest) =
        rs ++ entriesIn b rest ∧
      List.Forall₂ Entry.Declares rs (entries.map (·.declared b.name.value)) := by
  induction entries generalizing o
  case nil => exact ⟨[], rfl, .nil⟩
  case cons e entries hi =>
    have this := valid e List.mem_cons_self
    simp only [List.map_cons, List.flatMap_cons] at stop ⊢
    obtain ⟨t, lpar, ts, tokens, word, place, _, others⟩ :=
      e.isLine.phrase.tokens (o + indent.text.length)
    rw [width_append] at stop
    obtain ⟨rs, later, declared⟩ := hi (o := o + width (indent :: e.lexemes))
      (fun e mem => valid e <| List.mem_cons_of_mem _ mem) (by omega) (by omega)
    obtain ⟨r, read, this⟩ := this.read tokens b.name.value
      (tokensFrom (o + width (indent :: e.lexemes))
        ((entries.map (·.lexemes)).flatMap (indent :: ·)) ++ rest)
    have indented : 0 < indent.text.length := by decide
    have quiet : ∀ t ∈ lpar :: ts, b.start < t.start → t.start < b.stop →
        t.isIdent "OPERATOR" = false :=
      fun t mem _ _ => isIdent_eq_false_of_kind (others t mem) _
    refine ⟨r :: rs, ?_, .cons this declared⟩
    rw [width_cons] at stop
    rw [tokensFrom_append, tokensFrom_indent, tokens, List.cons_append, List.cons_append,
      List.append_assoc,
      entriesIn_cons (by omega) (by omega) ((isIdent_iff word _).mpr rfl) read,
      entriesIn_append quiet, later]
    rfl

theorem entriesIn_block {package : String} {before after : List Token}
    (valid : ∀ e ∈ entries, e.Valid) (hb : ∀ t ∈ before, t.start ≤ o)
    (ha : ∀ t ∈ after, o + width (Item.registration package entries).lexemes ≤ t.start) :
    List.Forall₂ Entry.Declares
      (entriesIn ((Item.registration package entries).block o)
        (before ++ (tokensFrom o (Item.registration package entries).lexemes ++ after)))
      (entries.map (·.declared package)) := by
  generalize hi : Item.registration package entries = item at ha ⊢
  have body : item.body = (entries.map (·.lexemes)).flatMap (indent :: ·) := by
    rw [← hi, Item.body, Item.lines]
  have name : (item.block o).name.value = package := by
    rw [← hi]
    rfl
  have start : (item.block o).start = o := rfl
  have stop : (item.block o).stop = o + width item.lexemes - 1 := rfl
  have length := item.width_lexemes
  obtain ⟨t, lpar, ts, head, word, place, _, others⟩ := item.phrase.tokens o
  obtain ⟨rbrace, tokens, closing, _⟩ := item.tokensFrom_lexemes o
  have quietBefore : ∀ t ∈ before ++ tokensFrom o item.head, (item.block o).start < t.start →
      t.start < (item.block o).stop → t.isIdent "OPERATOR" = false := by
    intro t' mem later _
    rw [start] at later
    rw [head] at mem
    obtain mem | mem := List.mem_append.mp mem
    case inl =>
      have := hb t' mem
      omega
    case inr =>
      obtain rfl | mem := List.mem_cons.mp mem
      case inl => omega
      case inr => exact isIdent_eq_false_of_kind (others t' mem) _
  have quietAfter : ∀ t ∈ rbrace :: after, (item.block o).start < t.start →
      t.start < (item.block o).stop → t.isIdent "OPERATOR" = false := by
    intro t' mem _ earlier
    rw [stop] at earlier
    obtain rfl | mem := List.mem_cons.mp mem
    case inl => simp [Word.isIdent, closing]
    case inr =>
      have := ha t' mem
      omega
  have nothing : entriesIn (item.block o) (rbrace :: after) = [] := by
    rw [← List.append_nil (rbrace :: after), entriesIn_append quietAfter, entriesIn]
  have tokens : before ++ (tokensFrom o item.lexemes ++ after) = before ++ tokensFrom o item.head ++
      (tokensFrom (o + width item.head) item.body ++ rbrace :: after) := by
    rw [tokens]
    simp only [List.append_assoc, List.singleton_append]
  rw [body] at length
  obtain ⟨rs, lines, declared⟩ := entriesIn_lines (b := item.block o) (o := o + width item.head)
    valid (by omega) (by omega) (rbrace :: after)
  rw [tokens, entriesIn_append quietBefore, body, lines, nothing, List.append_nil]
  rwa [name] at declared

theorem entries_items (valid : ∀ item ∈ items, item.Valid) (before : List Token)
    (hb : ∀ t ∈ before, t.start ≤ o) :
    List.Forall₂ Entry.Declares
      ((blocksOf "REGISTER" o items).flatMap
        (entriesIn · (before ++ tokensFrom o (items.flatMap (·.lexemes)))))
      (items.flatMap (·.declared)) := by
  induction items generalizing o before
  case nil => exact .nil
  case cons item items hi =>
    have this := valid item List.mem_cons_self
    have rest := hi (o := o + width item.lexemes)
      (fun item mem => valid item <| List.mem_cons_of_mem _ mem)
      (before ++ tokensFrom o item.lexemes) <| by
        intro t mem
        obtain mem | mem := List.mem_append.mp mem
        case inl =>
          have := hb t mem
          omega
        case inr =>
          obtain ⟨l, _, _, range⟩ := mem_tokensFrom mem
          omega
    have after : ∀ t ∈ tokensFrom (o + width item.lexemes) (items.flatMap (·.lexemes)),
        o + width item.lexemes ≤ t.start := by
      intro t mem
      obtain ⟨l, _, _, start, _⟩ := mem_tokensFrom mem
      exact start
    rw [List.append_assoc, ← tokensFrom_append] at rest
    rw [blocksOf, List.flatMap_append, List.flatMap_cons, List.flatMap_cons]
    refine List.rel_append ?_ rest
    rw [tokensFrom_append]
    cases item
    case registration =>
      have block := entriesIn_block this.2 hb after
      simpa [Item.keyword, Item.declared] using block
    case fragment => simp [Item.keyword, Item.declared]
    case start => simp [Item.keyword, Item.declared]

theorem mapM_eq_ok_iff {ε α β : Type} {f : α → Except ε β} {as : List α} {bs : List β} :
    as.mapM f = .ok bs ↔ List.Forall₂ (fun a b => f a = .ok b) as bs := by
  induction as generalizing bs
  case nil => cases bs <;> simp [pure, Except.pure]
  case cons a as hi =>
    rw [List.mapM_cons, List.forall₂_cons_left_iff]
    cases ha : f a
    case error => simp [bind, Except.bind]
    case ok b =>
      cases has : as.mapM f
      case error => simp [bind, Except.bind, ← hi, has]
      case ok bs' => simp [bind, Except.bind, pure, Except.pure, ← hi, has, eq_comm]

theorem exists_of_forall₂ {α β : Type} {r : α → β → Prop} {as : List α} {bs : List β} {a : α}
    (related : List.Forall₂ r as bs) (mem : a ∈ as) : ∃ b ∈ bs, r a b := by
  induction related
  case nil => cases mem
  case cons a' b as bs own _ hi =>
    obtain rfl | mem := List.mem_cons.mp mem
    case inl => exact ⟨b, List.mem_cons_self, own⟩
    case inr =>
      obtain ⟨b', mem', rest⟩ := hi mem
      exact ⟨b', List.mem_cons_of_mem _ mem', rest⟩

theorem mapM_ok {ε α β : Type} {f : α → Except ε β} {g : α → β} {as : List α}
    (ok : ∀ a ∈ as, f a = .ok (g a)) : as.mapM f = .ok (as.map g) :=
  mapM_eq_ok_iff.mpr <| List.forall₂_map_right_iff.mpr <| List.forall₂_same.mpr ok

theorem operators_of_declares {d : Document} {rs : List Entry} {xs : List Declared}
    (h : List.Forall₂ Entry.Declares rs xs) :
    ∃ ops, rs.mapM d.operatorOf = .ok ops ∧ ops.map (·.declared) = xs := by
  suffices ∃ ops, List.Forall₂ (fun r op => d.operatorOf r = .ok op) rs ops ∧
      ops.map (·.declared) = xs by
    obtain ⟨ops, read, declared⟩ := this
    exact ⟨ops, mapM_eq_ok_iff.mpr read, declared⟩
  induction h
  case nil => exact ⟨[], .nil, rfl⟩
  case cons r x rs xs declares _ hi =>
    obtain ⟨op, ok, declared⟩ := declares d
    obtain ⟨ops, read, rest⟩ := hi
    exact ⟨op :: ops, .cons ok read, by rw [List.map_cons, declared, rest]⟩

theorem names_blocksOf (o : Nat) (items : List Item) :
    (blocksOf "FRAGMENT" o items).map (·.name.value) = items.filterMap Item.fragment? := by
  induction items generalizing o
  case nil => rfl
  case cons item items hi =>
    rw [blocksOf, List.map_append, hi, List.filterMap_cons]
    cases item
    all_goals simp [Item.keyword, Item.fragment?, Item.block, Item.nameToken, Item.name]

end Flow

end FlowIndex
