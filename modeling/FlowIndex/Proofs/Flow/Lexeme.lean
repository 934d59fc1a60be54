import FlowIndex.Flow.Printer
import FlowIndex.Proofs.Flow.Cut
import FlowIndex.Proofs.Text.Digit
import Mathlib.Data.List.Chain

namespace FlowIndex

namespace Flow

open Text

section Classes

variable {c : Char}

theorem range_of_isIdentStart (h : isIdentStart c = true) :
    65 ≤ c.toNat ∧ c.toNat ≤ 90 ∨ c.toNat = 95 ∨ 97 ≤ c.toNat ∧ c.toNat ≤ 122 := by
  simp only [isIdentStart, Bool.or_eq_true, decide_eq_true_eq] at h
  obtain alpha | rfl := h
  case inl =>
    obtain upper | lower := (Bool.or_eq_true _ _).mp alpha
    case inl =>
      have upper : 65 ≤ c.val ∧ c.val ≤ 90 := of_decide_eq_true upper
      simp only [UInt32.le_iff_toNat_le] at upper
      exact .inl upper
    case inr =>
      have lower : (decide (97 ≤ c.val) && decide (c.val ≤ 122)) = true := lower
      simp only [Bool.and_eq_true, decide_eq_true_eq, UInt32.le_iff_toNat_le] at lower
      exact .inr <| .inr lower
  case inr => exact .inr <| .inl rfl

theorem isBlank_eq_false_of_isIdentStart (h : isIdentStart c = true) : isBlank c = false := by
  refine Bool.eq_false_iff.mpr fun blank => ?_
  have range := range_of_isIdentStart h
  obtain ⟨r, mem, hr⟩ := range_of_isBlank blank
  have apart : ∀ r ∈ blankRanges, r.2 < 65 ∨ 122 < r.1 := by decide
  have := apart r mem
  omega

theorem isDigit_eq_false_of_isIdentStart (h : isIdentStart c = true) : isDigit c = false := by
  refine Bool.eq_false_iff.mpr fun digit => ?_
  have range := range_of_isIdentStart h
  obtain ⟨z, mem, hz⟩ := zero_of_isDigit digit
  have apart : ∀ z ∈ zeroDigits, z + 10 ≤ 65 ∨ 122 < z := by decide
  have := apart z mem
  omega

theorem isIdentChar_eq_false (start : isIdentStart c = false) (digit : isDigit c = false) :
    isIdentChar c = false := by
  have ascii : c.isDigit = false := by
    refine Bool.eq_false_iff.mpr fun ascii => ?_
    rw [isDigit_of_isDigit ascii] at digit
    cases digit
  simp only [isIdentStart, Bool.or_eq_false_iff] at start
  simp [isIdentChar, Char.isAlphanum, start, ascii]

theorem cut_ident {cs rest : List Char} (start : isIdentStart c = true)
    (all : ∀ c ∈ cs, isIdentChar c = true) (stops : ∀ c ∈ rest.head?, isIdentChar c = false) :
    Cut c (cs ++ rest) (.ident (c :: cs), rest) := by
  have slash : c ≠ '/' := by
    rintro rfl
    cases start
  have cut : Cut c (cs ++ rest) _ := .ident (.of_ne (isBlank_eq_false_of_isIdentStart start) slash) start
  obtain ⟨take, drop⟩ := takeWhile_dropWhile all stops
  rwa [take, drop] at cut

-- What a character starts if it is neither blank nor part of a word, nor a slash or quote.
structure IsMark (c : Char) : Prop where
  blank : isBlank c = false
  slash : c ≠ '/'
  quote : c ≠ '"'
  start : isIdentStart c = false
  digit : isDigit c = false

end Classes

namespace Lexeme

-- Lexemes that are whole pieces of their class, comments and open strings apart.
def IsPlain : Lexeme → Prop
  | blank cs => cs ≠ [] ∧ ∀ c ∈ cs, isBlank c = true
  | comment _ => False
  | string body closed => closed = true ∧ ∃ cs, body = escape cs
  | ident cs => ∃ c cs', cs = c :: cs' ∧ isIdentStart c = true ∧ ∀ c ∈ cs', isIdentChar c = true
  | number cs => cs ≠ [] ∧ ∀ c ∈ cs, isDigit c = true
  | punct c => IsMark c

-- Whether one lexeme ends where another one starts.
def Apart : Lexeme → Lexeme → Prop
  | blank _, blank _ => False
  | ident _, ident _ => False
  | ident _, number _ => False
  | number _, number _ => False
  | _, _ => True

variable {l l' : Lexeme} {rest : List Char}

-- The text that may come behind a lexeme.
def Stops (l : Lexeme) (rest : List Char) : Prop :=
  match l with
  | blank _ => ∀ c ∈ rest.head?, isBlank c = false
  | ident _ => ∀ c ∈ rest.head?, isIdentChar c = false
  | number _ => ∀ c ∈ rest.head?, isDigit c = false
  | _ => True

theorem Stops.nil : l.Stops [] := by
  cases l <;> simp [Stops]

theorem IsPlain.head (plain : l.IsPlain) : ∃ c cs, l.text = c :: cs ∧
    match l with
    | blank _ => isBlank c = true
    | string _ _ => c = '"'
    | ident _ => isIdentStart c = true
    | number _ => isDigit c = true
    | punct _ => IsMark c
    | comment _ => False := by
  cases l
  case blank cs =>
    obtain ⟨ne, all⟩ := plain
    obtain ⟨c, cs, rfl⟩ := List.exists_cons_of_ne_nil ne
    exact ⟨c, cs, rfl, all c List.mem_cons_self⟩
  case comment => exact plain.elim
  case string => exact ⟨_, _, rfl, rfl⟩
  case ident =>
    obtain ⟨c, cs, rfl, start, _⟩ := plain
    exact ⟨c, cs, rfl, start⟩
  case number cs =>
    obtain ⟨ne, all⟩ := plain
    obtain ⟨c, cs, rfl⟩ := List.exists_cons_of_ne_nil ne
    exact ⟨c, cs, rfl, all c List.mem_cons_self⟩
  case punct c => exact ⟨c, [], rfl, plain⟩

theorem Apart.stops (apart : l.Apart l') (plain : l'.IsPlain) : l.Stops (l'.text ++ rest) := by
  obtain ⟨c, cs, text, head⟩ := plain.head
  rw [text, List.cons_append]
  cases l
  case blank =>
    rintro _ ⟨⟩
    cases l'
    case blank => exact apart.elim
    case comment => exact head.elim
    case string => rw [head]; decide
    case ident => exact isBlank_eq_false_of_isIdentStart head
    case number =>
      refine Bool.eq_false_iff.mpr fun blank => ?_
      rw [isDigit_eq_false_of_isBlank blank] at head
      cases head
    case punct => exact head.blank
  case ident =>
    rintro _ ⟨⟩
    cases l'
    case blank =>
      refine isIdentChar_eq_false ?_ <| isDigit_eq_false_of_isBlank head
      refine Bool.eq_false_iff.mpr fun start => ?_
      rw [isBlank_eq_false_of_isIdentStart start] at head
      cases head
    case comment => exact head.elim
    case string => rw [head]; decide
    case ident => exact apart.elim
    case number => exact apart.elim
    case punct => exact isIdentChar_eq_false head.start head.digit
  case number =>
    rintro _ ⟨⟩
    cases l'
    case blank => exact isDigit_eq_false_of_isBlank head
    case comment => exact head.elim
    case string => rw [head]; decide
    case ident => exact isDigit_eq_false_of_isIdentStart head
    case number => exact apart.elim
    case punct => exact head.digit
  all_goals trivial

theorem IsPlain.cut (plain : l.IsPlain) (stops : l.Stops rest) : ∃ c cs, Cut c cs (l, rest) := by
  cases l
  case blank cs =>
    obtain ⟨ne, all⟩ := plain
    obtain ⟨c, cs, rfl⟩ := List.exists_cons_of_ne_nil ne
    obtain ⟨take, drop⟩ := takeWhile_dropWhile (fun c mem => all c <| List.mem_cons_of_mem _ mem) stops
    have cut : Cut c (cs ++ rest) _ := .blank <| all c List.mem_cons_self
    rw [take, drop] at cut
    exact ⟨c, _, cut⟩
  case comment => exact plain.elim
  case string body closed =>
    obtain ⟨rfl, cs, rfl⟩ := plain
    exact ⟨'"', _, .closed rfl <| splitString_escape cs rest⟩
  case ident =>
    obtain ⟨c, cs, rfl, start, all⟩ := plain
    exact ⟨c, _, cut_ident start all stops⟩
  case number cs =>
    obtain ⟨ne, all⟩ := plain
    obtain ⟨c, cs, rfl⟩ := List.exists_cons_of_ne_nil ne
    have digit := all c List.mem_cons_self
    have blank : isBlank c = false := by
      refine Bool.eq_false_iff.mpr fun blank => ?_
      simp [isDigit_eq_false_of_isBlank blank] at digit
    have start : isIdentStart c = false := by
      refine Bool.eq_false_iff.mpr fun start => ?_
      simp [isDigit_eq_false_of_isIdentStart start] at digit
    have slash : c ≠ '/' := by rintro rfl; exact absurd digit (by decide)
    have quote : c ≠ '"' := by rintro rfl; exact absurd digit (by decide)
    obtain ⟨take, drop⟩ := takeWhile_dropWhile (fun c mem => all c <| List.mem_cons_of_mem _ mem) stops
    have cut : Cut c (cs ++ rest) _ := .number (.of_ne blank slash) quote start digit
    rw [take, drop] at cut
    exact ⟨c, _, cut⟩
  case punct c =>
    obtain ⟨blank, slash, quote, start, digit⟩ := plain
    exact ⟨c, rest, .punct (.of_ne blank slash) quote start digit⟩

theorem lexemes_append (plain : l.IsPlain) (stops : l.Stops rest) :
    lexemes (l.text ++ rest) = l :: lexemes rest := by
  obtain ⟨c, cs, cut⟩ := plain.cut stops
  rw [cut.text_append, lexemes, cut.eq]

end Lexeme

-- Lists of lexemes whose text is cut nowhere else.
structure Plain (ls : List Lexeme) : Prop where
  plain : ∀ l ∈ ls, l.IsPlain
  apart : ls.IsChain Lexeme.Apart

theorem lexemes_flatMap_text {ls : List Lexeme} (h : Plain ls) :
    lexemes (ls.flatMap Lexeme.text) = ls := by
  induction ls
  case nil => rw [List.flatMap_nil, lexemes]
  case cons l ls hi =>
    have plain := h.plain l List.mem_cons_self
    have tail := hi ⟨fun l mem => h.plain l <| List.mem_cons_of_mem _ mem, h.apart.tail⟩
    have stops : l.Stops (ls.flatMap Lexeme.text) := by
      cases ls
      case nil => exact .nil
      case cons l' ls =>
        have apart := h.apart.rel
        exact apart.stops <| h.plain l' (List.mem_cons_of_mem _ List.mem_cons_self)
    rw [List.flatMap_cons, Lexeme.lexemes_append plain stops, tail]

end Flow

end FlowIndex
