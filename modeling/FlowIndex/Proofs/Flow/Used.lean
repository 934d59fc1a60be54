import FlowIndex.Flow.Document
import FlowIndex.Proofs.Flow.Reading

namespace FlowIndex.Flow

namespace Statement

def call? : Statement → Option String
  | call name => some name
  | expansion _ => none

def expansion? : Statement → Option String
  | call _ => none
  | expansion name => some name

end Statement

def Item.statements : Item → List Statement
  | registration _ _ => []
  | fragment _ body => body
  | start _ body => body

open Lexeme

variable {o : Nat} {s : String} {ls : List Lexeme} {t : Token} {ts rest : List Token}
variable {items : List Item}

-- A search that takes up nothing but the statements of a document.
structure Search (find : List Token → List String) (found? : Statement → Option String) :
    Prop where
  nil : find [] = []
  head item o rest : find (tokensFrom o (Item.head item) ++ rest) = find rest
  foot o rest : find (tokensFrom o Item.foot ++ rest) = find rest
  entry e o rest : find (tokensFrom o (EntryText.lexemes e) ++ rest) = find rest
  statement s o rest : s.Valid →
    find (tokensFrom o (Statement.lexemes s) ++ rest) = (found? s).toList ++ find rest

namespace Search

variable {find : List Token → List String} {found? : Statement → Option String}

theorem lines {α : Type} {xs : List α} {line : α → List Lexeme} {found : α → Option String}
    (h : ∀ x ∈ xs, ∀ o rest,
      find (tokensFrom o (line x) ++ rest) = (found x).toList ++ find rest) :
    find (tokensFrom o ((xs.map line).flatMap (indent :: ·)) ++ rest) =
      xs.filterMap found ++ find rest := by
  induction xs generalizing o
  case nil => rfl
  case cons x xs hi =>
    have later := hi (o := o + width (indent :: line x)) fun x mem =>
      h x <| List.mem_cons_of_mem _ mem
    rw [List.map_cons, List.flatMap_cons, tokensFrom_append, tokensFrom_indent, List.append_assoc,
      h x List.mem_cons_self, later, List.filterMap_cons]
    cases found x
    all_goals rfl

theorem body (h : Search find found?) {item : Item} (valid : item.Valid) :
    find (tokensFrom o item.body ++ rest) = item.statements.filterMap found? ++ find rest := by
  cases item
  case registration package entries =>
    have found : find (tokensFrom o (Item.registration package entries).body ++ rest) =
        entries.filterMap (fun _ => none) ++ find rest := lines fun e _ o rest => h.entry e o rest
    rwa [List.filterMap_none] at found
  case fragment => exact lines fun s mem o rest => h.statement s o rest <| valid.2 s mem
  case start => exact lines fun s mem o rest => h.statement s o rest <| valid s mem

theorem document (h : Search find found?) (valid : ∀ item ∈ items, item.Valid) :
    find (tokensFrom o (items.flatMap (·.lexemes))) =
      items.flatMap fun item => item.statements.filterMap found? := by
  induction items generalizing o
  case nil => exact h.nil
  case cons item items hi =>
    rw [List.flatMap_cons, List.flatMap_cons, tokensFrom_append, Item.lexemes, tokensFrom_append,
      tokensFrom_append, List.append_assoc, List.append_assoc, h.head,
      h.body (valid item List.mem_cons_self), h.foot,
      hi fun item mem => valid item <| List.mem_cons_of_mem _ mem]

end Search

theorem expansionsIn_append (h : ∀ t ∈ ts, t.isIdent "UNFOLD" = false) :
    Document.expansionsIn (ts ++ rest) = Document.expansionsIn rest := by
  induction ts
  case nil => rfl
  case cons t ts hi =>
    rw [List.cons_append, Document.expansionsIn, h t List.mem_cons_self]
    exact hi fun t mem => h t <| List.mem_cons_of_mem _ mem

theorem expansions_search :
    Search (fun ts => (Document.expansionsIn ts).map (·.1.value)) Statement.expansion? := by
  have skip {s ls o rest} (h : IsPhrase s ls) (ne : s ≠ "UNFOLD") :
      Document.expansionsIn (tokensFrom o ls ++ rest) = Document.expansionsIn rest :=
    expansionsIn_append fun t mem => h.quiet ne mem
  constructor
  case nil => rfl
  case head =>
    intro item o rest
    have ne : item.keyword ≠ "UNFOLD" := by cases item <;> simp [Item.keyword]
    simp only [skip item.phrase ne]
  case foot =>
    intro o rest
    obtain ⟨t, foot, word, _⟩ := Item.tokensFrom_foot o
    rw [foot, expansionsIn_append]
    simp [Word.isIdent, word]
  case entry =>
    intro e o rest
    simp only [skip e.isLine.phrase (by decide)]
  case statement =>
    intro s o rest valid
    cases s
    case call name =>
      have ne : name ≠ "UNFOLD" := valid.ne (by decide)
      simp only [skip valid.isLine.phrase ne]
      rfl
    case expansion name =>
      have named : name ≠ "" := valid
      simp [Statement.lexemes, tokensFrom, Document.expansionsIn, Word.isIdent, nameArgument?,
        Word.isPunct, Word.isName, named, Statement.expansion?]

theorem calledIn_cons (h : t.kind ≠ .ident) :
    Document.calledIn (t :: ts) = Document.calledIn ts := by
  cases ts
  case nil => rfl
  case cons => simp [Document.calledIn, h]

theorem calledIn_append (h : ∀ t ∈ ts, t.kind ≠ .ident) :
    Document.calledIn (ts ++ rest) = Document.calledIn rest := by
  induction ts
  case nil => rfl
  case cons t ts hi =>
    rw [List.cons_append, calledIn_cons <| h t List.mem_cons_self]
    exact hi fun t mem => h t <| List.mem_cons_of_mem _ mem

theorem calledIn_phrase (h : IsPhrase s ls) (o : Nat) (rest : List Token) : ∃ t, t.value = s ∧
    Document.calledIn (tokensFrom o ls ++ rest) = t :: Document.calledIn rest := by
  obtain ⟨t, lpar, ts, tokens, word, _, opening, others⟩ := h.tokens o
  refine ⟨t, by rw [word], ?_⟩
  have kind : t.kind = .ident := by rw [word]
  have quiet : Document.calledIn (lpar :: (ts ++ rest)) = Document.calledIn rest :=
    calledIn_append others
  rw [tokens, List.cons_append, List.cons_append, Document.calledIn, quiet]
  simp [kind, opening]

theorem calls_search :
    Search (fun ts => ((Document.calledIn ts).map (·.value)).filter (!isKeyword ·))
      Statement.call? := by
  have skip {s ls o rest} (h : IsPhrase s ls) (reserved : isKeyword s = true) :
      ((Document.calledIn (tokensFrom o ls ++ rest)).map (·.value)).filter (!isKeyword ·) =
        ((Document.calledIn rest).map (·.value)).filter (!isKeyword ·) := by
    obtain ⟨t, value, called⟩ := calledIn_phrase h o rest
    simp [called, value, reserved]
  constructor
  case nil => rfl
  case head =>
    intro item o rest
    exact skip item.phrase item.isKeyword_keyword
  case foot =>
    intro o rest
    obtain ⟨t, foot, word, _⟩ := Item.tokensFrom_foot o
    rw [foot, calledIn_append]
    simp [word]
  case entry =>
    intro e o rest
    exact skip e.isLine.phrase (by decide)
  case statement =>
    intro s o rest valid
    cases s
    case call name =>
      obtain ⟨t, value, called⟩ := calledIn_phrase valid.isLine.phrase o rest
      have free : isKeyword name = false := valid.2
      simp [called, value, Statement.word, free, Statement.call?]
    case expansion name =>
      have reserved : isKeyword "UNFOLD" = true := by decide
      exact skip valid.isLine.phrase reserved

theorem mem_of_mem_calledIn (mem : t ∈ Document.calledIn ts) : t ∈ ts ∧ t.kind = .ident := by
  fun_induction Document.calledIn ts
  case case1 t' next ts called hi =>
    simp only [Bool.and_eq_true, decide_eq_true_eq] at called
    obtain rfl | mem := List.mem_cons.mp mem
    case inl => exact ⟨List.mem_cons_self, called.1⟩
    case inr => exact ⟨List.mem_cons_of_mem _ (hi mem).1, (hi mem).2⟩
  case case2 hi => exact ⟨List.mem_cons_of_mem _ (hi mem).1, (hi mem).2⟩
  case case3 => cases mem

theorem isKeyword_of_mem_registration {package : String} {entries : List EntryText}
    (mem : t ∈ tokensFrom o (Item.registration package entries).lexemes) (kind : t.kind = .ident) :
    isKeyword t.value = true := by
  obtain ⟨rbrace, tokens, closing, _⟩ := (Item.registration package entries).tokensFrom_lexemes o
  rw [tokens] at mem
  obtain mem | mem := List.mem_append.mp mem
  case inl =>
    rw [(Item.registration package entries).phrase.ident mem kind]
    exact Item.isKeyword_keyword _
  case inr =>
    obtain mem | mem := List.mem_append.mp mem
    case inl =>
      obtain ⟨ls, lines, o', mem⟩ := mem_tokensFrom_lines mem
      obtain ⟨e, _, rfl⟩ := List.mem_map.mp lines
      rw [e.isLine.phrase.ident mem kind]
      decide
    case inr =>
      obtain rfl := List.mem_singleton.mp mem
      simp [closing] at kind

-- Registrations hold no identifiers but reserved words, and the other items stand outside them.
theorem isKeyword_of_contains {b : Block}
    (valid : ∀ item ∈ items, item.Valid) (mem : t ∈ tokensFrom o (items.flatMap (·.lexemes)))
    (kind : t.kind = .ident) (hb : b ∈ blocksOf "REGISTER" o items)
    (inside : b.contains t.start = true) : isKeyword t.value = true := by
  induction items generalizing o
  case nil => cases mem
  case cons item items hi =>
    simp only [Block.contains, Bool.and_eq_true, decide_eq_true_eq] at inside
    have length := item.width_lexemes
    rw [List.flatMap_cons, tokensFrom_append] at mem
    rw [blocksOf] at hb
    obtain mem | mem := List.mem_append.mp mem
    case inl =>
      obtain hb | hb := List.mem_append.mp hb
      case inl =>
        obtain ⟨register, rfl⟩ : item.keyword = "REGISTER" ∧ b = item.block o := by simpa using hb
        cases item
        case registration => exact isKeyword_of_mem_registration mem kind
        case fragment => simp [Item.keyword] at register
        case start => simp [Item.keyword] at register
      case inr =>
        have later := le_start_of_mem_blocksOf hb
        obtain ⟨l, hl, _, _, stop⟩ := mem_tokensFrom mem
        have plain := (valid item List.mem_cons_self).plain.plain l hl
        obtain ⟨c, cs, text, _⟩ := plain.head
        rw [text, List.length_cons] at stop
        omega
    case inr =>
      obtain ⟨_, _, _, start, _⟩ := mem_tokensFrom mem
      obtain hb | hb := List.mem_append.mp hb
      case inl =>
        obtain ⟨_, rfl⟩ : item.keyword = "REGISTER" ∧ b = item.block o := by simpa using hb
        have stop : (item.block o).stop = o + width item.lexemes - 1 := rfl
        omega
      case inr => exact hi (fun item mem => valid item <| List.mem_cons_of_mem _ mem) mem hb

end FlowIndex.Flow
