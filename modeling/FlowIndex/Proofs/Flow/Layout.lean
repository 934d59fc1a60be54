import FlowIndex.Flow.Keyword
import FlowIndex.Proofs.Flow.Lexeme

namespace FlowIndex.Flow

-- Whether a text is an identifier as a whole.
def isIdentifier (s : String) : Bool :=
  match s.toList with
  | [] => false
  | c :: cs => isIdentStart c && cs.all isIdentChar

-- An entry that can be read: nothing is left out but the name, and the number is not too long.
structure EntryText.Valid (e : EntryText) : Prop where
  path : e.path ≠ ""
  struct : e.struct ≠ ""
  name : ∀ name ∈ e.name, name ≠ ""
  sequence : e.sequence.repr.length ≤ Text.digitLimit

-- Calls are those of operators, which no reserved word can name.
def Statement.Valid : Statement → Prop
  | call name => isIdentifier name = true ∧ isKeyword name = false
  | expansion name => name ≠ ""

-- The name of a flow is the only one that may be empty: nothing refers to it.
def Item.Valid : Item → Prop
  | registration package entries => package ≠ "" ∧ ∀ e ∈ entries, e.Valid
  | fragment name body => name ≠ "" ∧ ∀ s ∈ body, s.Valid
  | start _ body => ∀ s ∈ body, s.Valid

instance (e : EntryText) : Decidable e.Valid :=
  decidable_of_iff (e.path ≠ "" ∧ e.struct ≠ "" ∧ (∀ name ∈ e.name, name ≠ "") ∧
      e.sequence.repr.length ≤ Text.digitLimit)
    ⟨fun ⟨path, struct, name, sequence⟩ => ⟨path, struct, name, sequence⟩,
      fun ⟨path, struct, name, sequence⟩ => ⟨path, struct, name, sequence⟩⟩

instance : DecidablePred Statement.Valid
  | .call _ => inferInstanceAs (Decidable (_ ∧ _))
  | .expansion _ => inferInstanceAs (Decidable (_ ≠ _))

instance : DecidablePred Item.Valid
  | .registration _ _ => inferInstanceAs (Decidable (_ ∧ _))
  | .fragment _ _ => inferInstanceAs (Decidable (_ ∧ _))
  | .start _ body => inferInstanceAs (Decidable (∀ s ∈ body, s.Valid))

namespace Plain

variable {ls ls' : List Lexeme} {l : Lexeme}

theorem cons (plain : l.IsPlain) (h : Plain ls) (apart : ∀ l' ∈ ls.head?, l.Apart l') :
    Plain (l :: ls) :=
  ⟨List.forall_mem_cons.mpr ⟨plain, h.plain⟩, h.apart.cons apart⟩

theorem append (h : Plain ls) (h' : Plain ls')
    (apart : ∀ l ∈ ls.getLast?, ∀ l' ∈ ls'.head?, l.Apart l') : Plain (ls ++ ls') :=
  ⟨List.forall_mem_append.mpr ⟨h.plain, h'.plain⟩, h.apart.append h'.apart apart⟩

end Plain

namespace Lexeme

def word (s : String) : Lexeme := .ident s.toList

def quoted (s : String) : Lexeme := .string (escape s.toList) true

-- What stands before a line, and before the brace that closes a block.
def indent : Lexeme := .blank ('\n' :: "    ".toList)

def lineEnd : Lexeme := .blank ['\n']

@[simp]
theorem text_word (s : String) : (word s).text = s.toList :=
  rfl

@[simp]
theorem text_quoted (s : String) : (quoted s).text = Flow.quoted s := by
  simp [quoted, text, Flow.quoted]

@[simp]
theorem text_blank (cs : List Char) : (blank cs).text = cs :=
  rfl

@[simp]
theorem text_number (cs : List Char) : (number cs).text = cs :=
  rfl

@[simp]
theorem text_punct (c : Char) : (punct c).text = [c] :=
  rfl

@[simp]
theorem word?_word (s : String) : (word s).word? = some { kind := .ident, value := s } := by
  simp [word, word?]

@[simp]
theorem word?_quoted (s : String) : (quoted s).word? = some { kind := .string, value := s } := by
  simp [quoted, word?, unescape_escape]

@[simp]
theorem word?_blank (cs : List Char) : (blank cs).word? = none :=
  rfl

@[simp]
theorem word?_number (cs : List Char) :
    (number cs).word? = some { kind := .number, value := String.ofList cs } :=
  rfl

@[simp]
theorem word?_punct (c : Char) :
    (punct c).word? = some { kind := .punct, value := String.singleton c } :=
  rfl

theorem isPlain_word {s : String} (h : isIdentifier s = true) : (word s).IsPlain := by
  unfold isIdentifier at h
  cases hs : s.toList
  case nil => simp [hs] at h
  case cons c cs =>
    simp only [hs, Bool.and_eq_true, List.all_eq_true] at h
    exact ⟨c, cs, hs, h.1, h.2⟩

theorem isPlain_quoted (s : String) : (quoted s).IsPlain :=
  ⟨rfl, _, rfl⟩

theorem isPlain_number (n : Nat) : (number n.repr.toList).IsPlain := by
  refine ⟨?_, fun c mem => Text.isDigit_of_isDigit <| Text.isDigit_of_mem_repr mem⟩
  rw [Nat.toList_repr]
  exact Nat.toDigits_ne_nil

theorem isPlain_blank : (blank [' ']).IsPlain ∧ indent.IsPlain ∧ lineEnd.IsPlain := by
  simp [IsPlain, indent, lineEnd, Text.isBlank, Text.blankRanges]

theorem isPlain_punct {c : Char} (h : c ∈ ['(', ')', ',', '{', '}']) : (punct c).IsPlain := by
  simp only [List.mem_cons, List.not_mem_nil, or_false] at h
  obtain rfl | rfl | rfl | rfl | rfl := h
  all_goals exact ⟨by decide, by decide, by decide, by decide, by decide⟩

end Lexeme

open Lexeme

section Lines

def EntryText.lexemes (e : EntryText) : List Lexeme :=
  let name := match e.name with
    | none => []
    | some name => [.quoted name, .punct ',', .blank [' ']]
  [.word "OPERATOR", .punct '(', .quoted e.path, .punct ',', .blank [' '], .quoted e.struct,
    .punct ',', .blank [' ']] ++ name ++ [.number e.sequence.repr.toList, .punct ')']

def Statement.lexemes : Statement → List Lexeme
  | call name => [.word name, .punct '(', .punct ')']
  | expansion name => [.word "UNFOLD", .punct '(', .quoted name, .punct ')']

def lineText (ls : List Lexeme) : List Char :=
  "    ".toList ++ ls.flatMap Lexeme.text ++ ['\n']

theorem EntryText.render_eq (e : EntryText) : e.render = lineText e.lexemes := by
  obtain ⟨path, struct, name, sequence⟩ := e
  unfold render lexemes lineText
  cases name
  all_goals
    dsimp only
    simp only [List.flatMap_cons, List.flatMap_nil, text_word, text_quoted, text_blank, text_number,
      text_punct, String.reduceToList, List.append_assoc, List.cons_append, List.nil_append,
      List.append_nil]

theorem Statement.render_eq (s : Statement) : s.render = lineText s.lexemes := by
  unfold render lexemes lineText
  cases s
  all_goals
    dsimp only
    simp only [List.flatMap_cons, List.flatMap_nil, text_word, text_quoted, text_punct,
      String.reduceToList, List.append_assoc, List.cons_append, List.nil_append,
      List.append_nil]

-- An identifier and its opening parenthesis, without a further identifier behind them.
def IsPhrase (s : String) (ls : List Lexeme) : Prop :=
  ∃ ls', ls = .word s :: .punct '(' :: ls' ∧ ∀ l ∈ ls', ∀ w ∈ l.word?, w.kind ≠ .ident

-- A line by itself: no lexeme runs into the next one, nor into a blank on either side, and no brace
-- opens or closes a block.
structure IsLine (s : String) (ls : List Lexeme) : Prop extends Plain ls where
  phrase : IsPhrase s ls
  braces : ∀ l ∈ ls, ∀ w ∈ l.word?, w.isPunct '{' = false ∧ w.isPunct '}' = false
  last : ∀ l ∈ ls.getLast?, ∃ c, l = .punct c

theorem EntryText.isLine (e : EntryText) : IsLine "OPERATOR" e.lexemes := by
  have operator : isIdentifier "OPERATOR" = true := by decide
  obtain ⟨path, struct, name, sequence⟩ := e
  refine ⟨⟨?plain, ?apart⟩, ?phrase, ?braces, ?last⟩
  case plain =>
    cases name
    all_goals
      simp [lexemes, isPlain_word operator, isPlain_quoted, isPlain_number, isPlain_blank,
        isPlain_punct, -Nat.toList_repr]
  case apart =>
    cases name
    all_goals simp [lexemes, Apart, Lexeme.word, Lexeme.quoted]
  case phrase =>
    refine ⟨_, rfl, ?_⟩
    cases name
    all_goals simp
  case braces =>
    cases name
    all_goals simp [lexemes, Word.isPunct]
  case last =>
    cases name
    all_goals simp [lexemes]

-- The identifier that a line starts with.
def Statement.word : Statement → String
  | call name => name
  | expansion _ => "UNFOLD"

theorem Statement.Valid.ne {name s : String} (valid : (call name).Valid)
    (reserved : isKeyword s = true) : name ≠ s := by
  rintro rfl
  rw [valid.2] at reserved
  cases reserved

theorem Statement.Valid.isLine {s : Statement} (valid : s.Valid) : IsLine s.word s.lexemes := by
  have unfolds : isIdentifier "UNFOLD" = true := by decide
  refine ⟨⟨?plain, ?apart⟩, ?phrase, ?braces, ?last⟩
  case plain =>
    cases s
    case call name => simp [lexemes, isPlain_word valid.1, isPlain_punct]
    case expansion name => simp [lexemes, isPlain_word unfolds, isPlain_quoted, isPlain_punct]
  case apart =>
    cases s
    all_goals simp [lexemes, Apart, Lexeme.word, Lexeme.quoted]
  case phrase =>
    cases s
    all_goals
      refine ⟨_, rfl, ?_⟩
      simp
  case braces =>
    cases s
    all_goals simp [lexemes, Word.isPunct]
  case last =>
    cases s
    all_goals simp [lexemes]

end Lines

namespace Item

def keyword : Item → String
  | registration _ _ => "REGISTER"
  | fragment _ _ => "FRAGMENT"
  | start _ _ => "START"

def name : Item → String
  | registration name _ => name
  | fragment name _ => name
  | start name _ => name

def lines : Item → List (List Lexeme)
  | registration _ entries => entries.map (·.lexemes)
  | fragment _ body => body.map (·.lexemes)
  | start _ body => body.map (·.lexemes)

def head (item : Item) : List Lexeme :=
  [.word item.keyword, .punct '(', .quoted item.name, .punct ')', .blank [' '], .punct '{']

def body (item : Item) : List Lexeme :=
  item.lines.flatMap (indent :: ·)

def foot : List Lexeme :=
  [lineEnd, .punct '}', lineEnd]

def lexemes (item : Item) : List Lexeme :=
  item.head ++ (item.body ++ foot)

-- A line feed stands before each line and before the closing brace. The printer puts it behind the
-- opening brace and each line, which is the same text.
theorem text_lines (lines : List (List Lexeme)) :
    '\n' :: (lines.map lineText).flatten =
      (lines.flatMap (indent :: ·)).flatMap Lexeme.text ++ ['\n'] := by
  induction lines
  case nil => rfl
  case cons ls lines hi =>
    rw [List.map_cons, List.flatten_cons, List.flatMap_cons, List.flatMap_append,
      List.append_assoc, ← hi, lineText]
    simp [indent]

theorem render_eq (item : Item) : item.render = item.lexemes.flatMap Lexeme.text := by
  have block : item.render = renderBlock item.keyword item.name (item.lines.map lineText) := by
    cases item
    all_goals
      simp only [render, keyword, name, lines, List.map_map, Function.comp_def,
        EntryText.render_eq, Statement.render_eq]
  have lines := text_lines item.lines
  rw [block, renderBlock, lexemes, List.flatMap_append, List.flatMap_append, body]
  simp [head, foot, Flow.quoted, lineEnd, lines]

theorem isKeyword_keyword (item : Item) : isKeyword item.keyword = true := by
  cases item
  all_goals
    simp only [keyword]
    decide

theorem plain_head (item : Item) : Plain item.head := by
  have keyword : isIdentifier item.keyword = true := by
    cases item
    all_goals
      simp only [Item.keyword]
      decide
  constructor
  case plain =>
    simp [head, isPlain_word keyword, isPlain_quoted, isPlain_blank, isPlain_punct]
  case apart =>
    simp [head, Apart, Lexeme.word, Lexeme.quoted]

theorem plain_foot : Plain foot := by
  constructor
  case plain => simp [foot, isPlain_blank, isPlain_punct]
  case apart => simp [foot, Apart, lineEnd]

theorem plain_lines {lines : List (List Lexeme)} (h : ∀ ls ∈ lines, ∃ s, IsLine s ls) :
    Plain (lines.flatMap (indent :: ·) ++ foot) := by
  induction lines
  case nil => exact plain_foot
  case cons ls lines hi =>
    obtain ⟨s, line⟩ := h ls List.mem_cons_self
    have rest := hi fun ls mem => h ls <| List.mem_cons_of_mem _ mem
    obtain ⟨ls', rfl, _⟩ := line.phrase
    rw [List.flatMap_cons, List.append_assoc]
    refine Plain.append (.cons isPlain_blank.2.1 line.toPlain ?_) rest ?_
    case refine_1 =>
      rintro _ ⟨⟩
      trivial
    case refine_2 =>
      intro l mem l' _
      rw [List.getLast?_cons_cons] at mem
      obtain ⟨c, rfl⟩ := line.last l mem
      trivial

theorem Valid.lines {item : Item} (valid : item.Valid) {ls : List Lexeme} (mem : ls ∈ item.lines) :
    ∃ s, IsLine s ls ∧ s ≠ "REGISTER" ∧ s ≠ "FRAGMENT" := by
  have statement {s : Statement} (valid : s.Valid) :
      s.word ≠ "REGISTER" ∧ s.word ≠ "FRAGMENT" := by
    cases s
    case call => exact ⟨valid.ne (by decide), valid.ne (by decide)⟩
    case expansion => simp [Statement.word]
  cases item
  case registration =>
    obtain ⟨e, _, rfl⟩ := List.mem_map.mp mem
    exact ⟨_, e.isLine, by decide, by decide⟩
  case fragment =>
    obtain ⟨s, hs, rfl⟩ := List.mem_map.mp mem
    exact ⟨_, (valid.2 s hs).isLine, statement <| valid.2 s hs⟩
  case start =>
    obtain ⟨s, hs, rfl⟩ := List.mem_map.mp mem
    exact ⟨_, (valid s hs).isLine, statement <| valid s hs⟩

theorem Valid.plain {item : Item} (valid : item.Valid) : Plain item.lexemes := by
  refine item.plain_head.append (plain_lines fun ls mem => ?_) ?_
  case refine_1 =>
    obtain ⟨s, line, _⟩ := valid.lines mem
    exact ⟨s, line⟩
  case refine_2 =>
    rintro _ ⟨⟩ _ _
    trivial

end Item

theorem plain_items {items : List Item} (valid : ∀ item ∈ items, item.Valid) :
    Plain (items.flatMap (·.lexemes)) := by
  induction items
  case nil => exact ⟨by simp, .nil⟩
  case cons item items hi =>
    have rest := hi fun item mem => valid item <| List.mem_cons_of_mem _ mem
    rw [List.flatMap_cons]
    refine (valid item List.mem_cons_self).plain.append rest ?_
    have last : item.lexemes.getLast? = some lineEnd := by simp [Item.lexemes, Item.foot]
    rw [last]
    rintro _ ⟨⟩
    cases items
    case nil => simp
    case cons =>
      rintro _ ⟨⟩
      trivial

theorem tokens_render {items : List Item} (valid : ∀ item ∈ items, item.Valid) :
    tokens (render items).toList = tokensFrom 0 (items.flatMap (·.lexemes)) := by
  have text : (render items).toList = (items.flatMap (·.lexemes)).flatMap Lexeme.text := by
    simp only [render, String.toList_ofList, List.flatMap_assoc, Item.render_eq]
  rw [tokens, text, lexemes_flatMap_text <| plain_items valid]

end FlowIndex.Flow
