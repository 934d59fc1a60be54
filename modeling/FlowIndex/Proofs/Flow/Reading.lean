import FlowIndex.Flow.Document
import FlowIndex.Proofs.Flow.Layout

namespace FlowIndex.Flow

open Lexeme

variable {o length : Nat} {ls ls' : List Lexeme} {t : Token} {ts rest : List Token} {s : String}

section Tokens

def width (ls : List Lexeme) : Nat :=
  (ls.flatMap Lexeme.text).length

theorem width_cons (l : Lexeme) (ls : List Lexeme) : width (l :: ls) = l.text.length + width ls := by
  simp [width]

theorem width_append (ls ls' : List Lexeme) : width (ls ++ ls') = width ls + width ls' := by
  simp [width]

theorem tokensFrom_append (o : Nat) (ls ls' : List Lexeme) :
    tokensFrom o (ls ++ ls') = tokensFrom o ls ++ tokensFrom (o + width ls) ls' := by
  induction ls generalizing o
  case nil => rfl
  case cons l ls hi =>
    rw [List.cons_append, tokensFrom, tokensFrom, width_cons, ← Nat.add_assoc]
    cases l.word?
    all_goals simp [hi]

theorem tokensFrom_indent (o : Nat) (ls : List Lexeme) :
    tokensFrom o (indent :: ls) = tokensFrom (o + indent.text.length) ls :=
  rfl

theorem mem_tokensFrom (mem : t ∈ tokensFrom o ls) :
    ∃ l ∈ ls, l.word? = some t.toWord ∧ o ≤ t.start ∧ t.start + l.text.length ≤ o + width ls := by
  induction ls generalizing o
  case nil => cases mem
  case cons l ls hi =>
    rw [tokensFrom] at mem
    rw [width_cons]
    have later (mem : t ∈ tokensFrom (o + l.text.length) ls) := hi mem
    cases hw : l.word?
    case none =>
      rw [hw] at mem
      obtain ⟨l', hl', word, start, stop⟩ := later mem
      exact ⟨l', List.mem_cons_of_mem _ hl', word, by omega, by omega⟩
    case some w =>
      rw [hw] at mem
      obtain rfl | mem := List.mem_cons.mp mem
      case inl =>
        refine ⟨l, List.mem_cons_self, hw, Nat.le_refl o, ?_⟩
        dsimp only
        omega
      case inr =>
        obtain ⟨l', hl', word, start, stop⟩ := later mem
        exact ⟨l', List.mem_cons_of_mem _ hl', word, by omega, by omega⟩

-- The tokens of a phrase: its identifier, the parenthesis and others that are no identifiers.
theorem IsPhrase.tokens (h : IsPhrase s ls) (o : Nat) :
    ∃ t lpar ts, tokensFrom o ls = t :: lpar :: ts ∧ t.toWord = { kind := .ident, value := s } ∧
      t.start = o ∧ lpar.isPunct '(' = true ∧ ∀ t ∈ lpar :: ts, t.kind ≠ .ident := by
  obtain ⟨ls', rfl, others⟩ := h
  refine ⟨_, _, _, rfl, ?_, rfl, rfl, ?_⟩
  case refine_1 => simp
  case refine_2 =>
    rintro t (_ | ⟨_, mem⟩)
    case head => simp
    case tail =>
      obtain ⟨l, hl, word, _⟩ := mem_tokensFrom mem
      exact others l hl _ word

theorem IsPhrase.ident (h : IsPhrase s ls) (mem : t ∈ tokensFrom o ls) (kind : t.kind = .ident) :
    t.value = s := by
  obtain ⟨t', lpar, ts, tokens, word, _, _, others⟩ := h.tokens o
  rw [tokens] at mem
  obtain rfl | mem := List.mem_cons.mp mem
  case inl => rw [word]
  case inr => exact absurd kind <| others t mem

theorem isIdent_eq_false_of_kind (h : t.kind ≠ .ident) (s : String) : t.isIdent s = false := by
  simp [Word.isIdent, h]

theorem IsPhrase.quiet {s' : String} (h : IsPhrase s ls) (ne : s ≠ s')
    (mem : t ∈ tokensFrom o ls) : t.isIdent s' = false := by
  by_cases kind : t.kind = .ident
  case pos => simp [Word.isIdent, h.ident mem kind, ne]
  case neg => exact isIdent_eq_false_of_kind kind _

theorem isIdent_iff (h : t.toWord = { kind := .ident, value := s }) (s' : String) :
    t.isIdent s' = true ↔ s = s' := by
  simp [Word.isIdent, h]

theorem mem_tokensFrom_lines {lines : List (List Lexeme)}
    (mem : t ∈ tokensFrom o (lines.flatMap (indent :: ·))) :
    ∃ ls ∈ lines, ∃ o, t ∈ tokensFrom o ls := by
  induction lines generalizing o
  case nil => cases mem
  case cons ls lines hi =>
    rw [List.flatMap_cons, tokensFrom_append, tokensFrom_indent] at mem
    obtain mem | mem := List.mem_append.mp mem
    case inl => exact ⟨ls, List.mem_cons_self, _, mem⟩
    case inr =>
      obtain ⟨ls', hls, mem⟩ := hi mem
      exact ⟨ls', List.mem_cons_of_mem _ hls, mem⟩

end Tokens

namespace Item

variable {item : Item}

theorem phrase (item : Item) : IsPhrase item.keyword item.head := by
  refine ⟨_, rfl, ?_⟩
  simp

-- The name of a block that starts at an offset.
def nameToken (o : Nat) (item : Item) : Token :=
  let start := o + item.keyword.toList.length + 1
  { kind := .string, value := item.name, start
    stop := start + (Lexeme.quoted item.name).text.length }

def block (o : Nat) (item : Item) : Block :=
  { keyword := item.keyword, name := item.nameToken o, start := o
    stop := o + width item.lexemes - 1, closed := true }

theorem blockHeader?_head (named : item.name ≠ "") (h : tokensFrom o item.head = t :: ts)
    (rest : List Token) :
    blockHeader? (ts ++ rest) = some (item.nameToken o, rest) := by
  cases h
  simp [tokensFrom, blockHeader?, Word.isPunct, Word.isName, named, nameToken, Nat.add_assoc]

theorem tokensFrom_foot (o : Nat) :
    ∃ t, tokensFrom o foot = [t] ∧ t.toWord = { kind := .punct, value := "\x7d" } ∧ t.stop = o + 2 :=
  ⟨_, rfl, rfl, rfl⟩

theorem width_lexemes (item : Item) :
    width item.lexemes = width item.head + width item.body + 3 := by
  rw [lexemes, width_append, width_append]
  rfl

theorem tokensFrom_lexemes (item : Item) (o : Nat) :
    ∃ rbrace, tokensFrom o item.lexemes = tokensFrom o item.head ++
        (tokensFrom (o + width item.head) item.body ++ [rbrace]) ∧
      rbrace.toWord = { kind := .punct, value := "\x7d" } ∧
      rbrace.stop = o + width item.lexemes - 1 := by
  obtain ⟨rbrace, foot, closing, stop⟩ := tokensFrom_foot <| o + width item.head + width item.body
  refine ⟨rbrace, ?_, closing, ?_⟩
  case refine_1 => rw [lexemes, tokensFrom_append, tokensFrom_append, foot]
  case refine_2 =>
    have length := item.width_lexemes
    omega

theorem Valid.braces (valid : item.Valid) (mem : t ∈ tokensFrom o item.body) :
    t.isPunct '{' = false ∧ t.isPunct '}' = false := by
  obtain ⟨ls, lines, o', mem⟩ := mem_tokensFrom_lines mem
  obtain ⟨s, line, _⟩ := valid.lines lines
  obtain ⟨l, hl, word, _⟩ := mem_tokensFrom mem
  exact line.braces l hl _ word

theorem Valid.quiet {keyword : String} (valid : item.Valid)
    (hk : keyword = "REGISTER" ∨ keyword = "FRAGMENT") (mem : t ∈ tokensFrom o item.body) :
    t.isIdent keyword = false := by
  obtain ⟨ls, lines, o', mem⟩ := mem_tokensFrom_lines mem
  obtain ⟨s, line, register, fragment⟩ := valid.lines lines
  obtain rfl | rfl := hk
  case inl => exact line.phrase.quiet register mem
  case inr => exact line.phrase.quiet fragment mem

end Item

section Blocks

variable {keyword : String} {nested : Bool}

theorem closingBrace?_append {depth : Nat}
    (h : ∀ t ∈ ts, t.isPunct '{' = false ∧ t.isPunct '}' = false) :
    closingBrace? depth (ts ++ rest) = closingBrace? depth rest := by
  induction ts
  case nil => rfl
  case cons t ts hi =>
    have ⟨opening, closing⟩ := h t List.mem_cons_self
    simp only [List.cons_append, closingBrace?, opening, closing, Bool.false_eq_true, ↓reduceIte]
    exact hi fun t mem => h t <| List.mem_cons_of_mem _ mem

theorem blocks_append (h : ∀ t ∈ ts, t.isIdent keyword = false) :
    blocks keyword nested length (ts ++ rest) = blocks keyword nested length rest := by
  induction ts
  case nil => rfl
  case cons t ts hi =>
    rw [List.cons_append, blocks, h t List.mem_cons_self]
    exact hi fun t mem => h t <| List.mem_cons_of_mem _ mem

theorem blocks_cons {name brace : Token} {body : List Token} (ident : t.isIdent keyword = true)
    (header : blockHeader? ts = some (name, body))
    (closing : closingBrace? 0 body = some (brace, rest)) :
    blocks keyword nested length (t :: ts) =
      { keyword, name, start := t.start, stop := brace.stop, closed := true } ::
        blocks keyword nested length (if nested then body else rest) := by
  rw [blocks, if_pos ident]
  split
  case h_1 h =>
    rw [header] at h
    cases h
  case h_2 h =>
    rw [header] at h
    cases h
    split
    case h_1 h =>
      rw [closing] at h
      cases h
    case h_2 h =>
      rw [closing] at h
      cases h
      rfl

theorem blocks_headless (ident : t.isIdent keyword = true) (header : blockHeader? ts = none) :
    blocks keyword nested length (t :: ts) = blocks keyword nested length ts := by
  rw [blocks, if_pos ident]
  split
  case h_1 => rfl
  case h_2 h =>
    rw [header] at h
    cases h

theorem blocks_open {name : Token} {body : List Token} (ident : t.isIdent keyword = true)
    (header : blockHeader? ts = some (name, body)) (closing : closingBrace? 0 body = none) :
    blocks keyword nested length (t :: ts) =
      { keyword, name, start := t.start, stop := length, closed := false } ::
        blocks keyword nested length body := by
  rw [blocks, if_pos ident]
  split
  case h_1 h =>
    rw [header] at h
    cases h
  case h_2 h =>
    rw [header] at h
    cases h
    split
    case h_1 => rfl
    case h_2 h =>
      rw [closing] at h
      cases h

-- A printed block is found if it is looked for, and nothing in it is.
theorem blocks_item {item : Item} (valid : item.Valid)
    (named : item.keyword = keyword → item.name ≠ "")
    (hk : keyword = "REGISTER" ∨ keyword = "FRAGMENT") :
    blocks keyword nested length (tokensFrom o item.lexemes ++ rest) =
      (if item.keyword = keyword then [item.block o] else []) ++
        blocks keyword nested length rest := by
  obtain ⟨rbrace, tokens, closing, stop⟩ := item.tokensFrom_lexemes o
  obtain ⟨t, lpar, ts, head, word, start, _, others⟩ := item.phrase.tokens o
  generalize hbody : tokensFrom (o + width item.head) item.body = body at tokens
  have quiet : ∀ t ∈ body, t.isIdent keyword = false := by
    rw [← hbody]
    exact fun t mem => valid.quiet hk mem
  have braces : ∀ t ∈ body, t.isPunct '{' = false ∧ t.isPunct '}' = false := by
    rw [← hbody]
    exact fun t mem => valid.braces mem
  have quietHead : ∀ t ∈ lpar :: ts, t.isIdent keyword = false := fun t mem =>
    isIdent_eq_false_of_kind (others t mem) _
  have inner : blocks keyword nested length (body ++ ([rbrace] ++ rest)) =
      blocks keyword nested length rest := by
    rw [blocks_append quiet, blocks_append]
    simp [Word.isIdent, closing]
  rw [tokens, head, List.append_assoc, List.append_assoc, List.cons_append]
  by_cases ident : item.keyword = keyword
  case pos =>
    have header := Item.blockHeader?_head (named ident) head (body ++ ([rbrace] ++ rest))
    have closed : closingBrace? 0 (body ++ ([rbrace] ++ rest)) = some (rbrace, rest) := by
      rw [closingBrace?_append braces]
      simp [closingBrace?, Word.isPunct, closing]
    rw [blocks_cons ((isIdent_iff word _).mpr ident) header closed, if_pos ident, Item.block,
      ident, start, stop]
    cases nested
    case false => rfl
    case true => exact congrArg _ inner
  case neg =>
    have other : t.isIdent keyword = false :=
      Bool.eq_false_iff.mpr fun h => ident <| (isIdent_iff word _).mp h
    rw [if_neg ident, List.nil_append, blocks, other, if_neg Bool.false_ne_true,
      blocks_append quietHead, inner]

-- The blocks of a keyword in items that start at an offset.
def blocksOf (keyword : String) (o : Nat) : List Item → List Block
  | [] => []
  | item :: items =>
    (if item.keyword = keyword then [item.block o] else []) ++
      blocksOf keyword (o + width item.lexemes) items

theorem blocks_items {items : List Item} (valid : ∀ item ∈ items, item.Valid)
    (hk : keyword = "REGISTER" ∨ keyword = "FRAGMENT") :
    blocks keyword nested length (tokensFrom o (items.flatMap (·.lexemes))) =
      blocksOf keyword o items := by
  induction items generalizing o
  case nil => simp [tokensFrom, blocks, blocksOf]
  case cons item items hi =>
    have this := valid item List.mem_cons_self
    have named : item.keyword = keyword → item.name ≠ "" := by
      rintro rfl
      cases item
      case registration => exact this.1
      case fragment => exact this.1
      case start => simp [Item.keyword] at hk
    rw [List.flatMap_cons, tokensFrom_append, blocks_item this named hk, blocksOf,
      hi fun item mem => valid item <| List.mem_cons_of_mem _ mem]

theorem le_start_of_mem_blocksOf {items : List Item} {b : Block}
    (mem : b ∈ blocksOf keyword o items) : o ≤ b.start := by
  induction items generalizing o
  case nil => cases mem
  case cons item items hi =>
    rw [blocksOf] at mem
    obtain mem | mem := List.mem_append.mp mem
    case inl =>
      obtain ⟨_, rfl⟩ : item.keyword = keyword ∧ b = item.block o := by simpa using mem
      exact Nat.le_refl o
    case inr =>
      have := hi mem
      omega

end Blocks

end FlowIndex.Flow
