import FlowIndex.Host.Parameters
import FlowIndex.Proofs.Text.Comment
import FlowIndex.Proofs.Text.Run

namespace FlowIndex.Host

variable {l : Lexeme} {ls : List Lexeme} {c quote : Char} {cs rest : List Char} {t : Token}

section Characters

theorem isNameChar_of_isDigit (digit : c.isDigit = true) : isNameChar c = true := by
  simp [isNameChar, Char.isAlphanum, digit]

theorem ne_of_isNameChar (name : isNameChar c = true) :
    c ≠ '/' ∧ c ≠ '"' ∧ c ≠ runeQuote ∧ c ≠ rawQuote := by
  refine ⟨?_, ?_, ?_, ?_⟩
  all_goals
    rintro rfl
    exact absurd name <| by decide

theorem isBlank_eq_false_of_isDigit (digit : c.isDigit = true) : isBlank c = false := by
  refine Bool.eq_false_iff.mpr fun blank => ?_
  have range : 48 ≤ c.toNat ∧ c.toNat ≤ 57 := by
    simpa [Char.isDigit, UInt32.le_iff_toNat_le] using digit
  simp only [isBlank, Bool.or_eq_true, decide_eq_true_eq] at blank
  obtain (((rfl | rfl) | rfl) | rfl) | mark := blank
  case inr => omega
  all_goals exact absurd digit <| by decide

end Characters

section Elements

-- What may stand between two quotes. A backslash takes the next character with it.
inductive Quotable (quote : Char) : List Char → Prop
  | nil : Quotable quote []
  | plain {c : Char} {cs : List Char} (open' : c ≠ quote) (escape : c ≠ '\\')
      (later : Quotable quote cs) : Quotable quote (c :: cs)
  | escaped {c : Char} {cs : List Char} (later : Quotable quote cs) : Quotable quote ('\\' :: c :: cs)

-- Whether a lexeme is a whole element of the language that ends where `rest` begins.
inductive Stands : Lexeme → List Char → Prop
  | blanks {cs rest : List Char} (filled : cs ≠ []) (inside : ∀ c ∈ cs, isBlank c = true)
      (stops : ∀ c ∈ rest.head?, isBlank c = false) : Stands (.gap cs) rest
  | remark {cs rest : List Char} (inside : '\n' ∉ cs) (stops : ∀ c ∈ rest.head?, c = '\n') :
    Stands (.gap ('/' :: '/' :: cs)) rest
  | comment {cs rest : List Char} (inside : ¬['*', '/'] <:+: cs ++ ['*']) :
    Stands (.gap ('/' :: '*' :: (cs ++ ['*', '/']))) rest
  | quoted {quote : Char} {cs rest : List Char} (kind : quote = '"' ∨ quote = runeQuote)
      (inside : Quotable quote cs) : Stands (.literal (quote :: (cs ++ [quote]))) rest
  | raw {cs rest : List Char} (inside : rawQuote ∉ cs) :
    Stands (.literal (rawQuote :: (cs ++ [rawQuote]))) rest
  | number {c : Char} {cs rest : List Char} (start : c.isDigit = true)
      (inside : ∀ d ∈ cs, (isNameChar d || d = '.') = true)
      (stops : ∀ d ∈ rest.head?, (isNameChar d || d = '.') = false) : Stands (.literal (c :: cs)) rest
  | word {c : Char} {cs rest : List Char} (start : isNameChar c = true) (digit : c.isDigit = false)
      (blank : isBlank c = false) (inside : ∀ d ∈ cs, isNameChar d = true)
      (stops : ∀ d ∈ rest.head?, isNameChar d = false) : Stands (.word (c :: cs)) rest
  | mark {c : Char} {rest : List Char} (blank : isBlank c = false) (name : isNameChar c = false)
      (quote : c ≠ '"' ∧ c ≠ runeQuote ∧ c ≠ rawQuote)
      (stops : c = '/' → rest.head? ≠ some '/' ∧ rest.head? ≠ some '*') : Stands (.mark c) rest

-- Rows of lexemes each of which ends where the next one begins.
inductive Elements : List Lexeme → Prop
  | nil : Elements []
  | cons {l : Lexeme} {ls : List Lexeme} (stands : Stands l (ls.flatMap Lexeme.text))
      (later : Elements ls) : Elements (l :: ls)

theorem Quotable.splitQuoted_append (inside : Quotable quote cs) (escape : quote ≠ '\\')
    (rest : List Char) : splitQuoted quote (cs ++ quote :: rest) = (cs ++ [quote], rest) := by
  have plain {c : Char} (other : c ≠ '\\') (cs : List Char) : splitQuoted quote (c :: cs) =
      if c = quote then ([c], cs)
      else (c :: (splitQuoted quote cs).1, (splitQuoted quote cs).2) := by
    rw [splitQuoted]
    exact fun _ _ same => absurd same other
  induction inside
  case nil => rw [List.nil_append, plain escape, if_pos rfl, List.nil_append]
  case plain c cs other escape _ hi =>
    rw [List.cons_append, plain escape, if_neg other, hi, List.cons_append]
  case escaped c cs _ hi =>
    rw [List.cons_append, List.cons_append, splitQuoted, hi]
    rfl

theorem splitRaw_append_cons (inside : quote ∉ cs) (rest : List Char) :
    splitRaw quote (cs ++ quote :: rest) = (cs ++ [quote], rest) := by
  induction cs
  case nil => rw [List.nil_append, splitRaw, if_pos rfl, List.nil_append]
  case cons c cs hi =>
    obtain ⟨other, inside⟩ := not_or.mp <| mt List.mem_cons.mpr inside
    rw [List.cons_append, splitRaw, if_neg <| Ne.symm other, hi inside, List.cons_append]

theorem Stands.lexemes_append (stands : Stands l rest) :
    lexemes (l.text ++ rest) = l :: lexemes rest := by
  suffices ∃ c cs, l.text ++ rest = c :: cs ∧ splitLexeme c cs = (l, rest) by
    obtain ⟨c, cs, text, split⟩ := this
    rw [text, lexemes, split]
  have slash : isBlank '/' = false := by decide
  cases stands
  case blanks cs filled inside stops =>
    obtain ⟨c, cs, rfl⟩ := List.exists_cons_of_ne_nil filled
    have blank := inside c List.mem_cons_self
    obtain ⟨take, drop⟩ := Text.takeWhile_dropWhile
      (fun d mem => inside d <| List.mem_cons_of_mem c mem) stops
    exact ⟨c, cs ++ rest, rfl, by rw [splitLexeme, if_pos blank, take, drop]⟩
  case remark cs inside stops =>
    have inside : ∀ d ∈ cs, decide (d ≠ '\n') = true := by
      intro d mem
      exact decide_eq_true fun same => inside <| same ▸ mem
    have stops : ∀ d ∈ rest.head?, decide (d ≠ '\n') = false := by
      intro d mem
      exact decide_eq_false <| not_not.mpr <| stops d mem
    obtain ⟨take, drop⟩ := Text.takeWhile_dropWhile inside stops
    refine ⟨'/', '/' :: (cs ++ rest), rfl, ?_⟩
    simp only [ne_eq, decide_not] at take drop
    simp [splitLexeme, slash, take, drop]
  case comment cs inside =>
    refine ⟨'/', '*' :: (cs ++ '*' :: '/' :: rest), by simp [Lexeme.text], ?_⟩
    simp [splitLexeme, slash, Text.splitComment_append_end inside]
  case quoted quote cs kind inside =>
    refine ⟨quote, cs ++ quote :: rest, by simp [Lexeme.text], ?_⟩
    have other : quote ≠ '\\' ∧ isBlank quote = false ∧ quote ≠ '/' := by
      obtain rfl | rfl := kind
      all_goals decide
    simp [splitLexeme, other, kind, inside.splitQuoted_append other.1]
  case raw cs inside =>
    refine ⟨rawQuote, cs ++ rawQuote :: rest, by simp [Lexeme.text], ?_⟩
    have other : isBlank rawQuote = false ∧ rawQuote ≠ '/' ∧ rawQuote ≠ '"' ∧ rawQuote ≠ runeQuote := by
      decide
    simp [splitLexeme, other, splitRaw_append_cons inside]
  case number c cs start inside stops =>
    obtain ⟨take, drop⟩ := Text.takeWhile_dropWhile inside stops
    have blank := isBlank_eq_false_of_isDigit start
    have other := ne_of_isNameChar <| isNameChar_of_isDigit start
    exact ⟨c, cs ++ rest, rfl, by simp [splitLexeme, blank, start, other, take, drop]⟩
  case word c cs start digit blank inside stops =>
    obtain ⟨take, drop⟩ := Text.takeWhile_dropWhile inside stops
    have other := ne_of_isNameChar start
    exact ⟨c, cs ++ rest, rfl, by simp [splitLexeme, blank, digit, start, other, take, drop]⟩
  case mark c blank name quote stops =>
    have digit : c.isDigit = false := by
      refine Bool.eq_false_iff.mpr fun digit => ?_
      simp [isNameChar_of_isDigit digit] at name
    refine ⟨c, rest, rfl, ?_⟩
    by_cases slash : c = '/'
    case pos =>
      obtain ⟨first, second⟩ := stops slash
      simp [splitLexeme, blank, digit, name, quote, first, second]
    case neg => simp [splitLexeme, blank, digit, name, quote, slash]

theorem Elements.lexemes_eq (elements : Elements ls) : lexemes (ls.flatMap Lexeme.text) = ls := by
  induction elements
  case nil => rw [List.flatMap_nil, lexemes]
  case cons stands _ hi => rw [List.flatMap_cons, stands.lexemes_append, hi]

theorem Elements.tokens_eq (elements : Elements ls) :
    tokens (ls.flatMap Lexeme.text) = tokensFrom 0 false ls := by
  rw [tokens, elements.lexemes_eq]

end Elements

section Order

-- Tokens that stand one behind the other. Line ends are the only ones without a text.
structure Ordered (ts : List Token) : Prop where
  apart : ts.Pairwise fun t t' => t.stop ≤ t'.start
  filled : ∀ t ∈ ts, t.start < t.stop ∨ t.isLineEnd = true

theorem Ordered.tail {ts : List Token} (ordered : Ordered (t :: ts)) : Ordered ts where
  apart := ordered.apart.tail
  filled t mem := ordered.filled t <| List.mem_cons_of_mem _ mem

theorem Ordered.of_append {us ts : List Token} (ordered : Ordered (us ++ ts)) : Ordered ts where
  apart := (List.pairwise_append.mp ordered.apart).2.1
  filled t mem := ordered.filled t <| List.mem_append_right us mem

theorem Lexeme.token?_place {offset : Nat} (found : l.token? offset = some t) :
    t.start = offset ∧ t.stop = offset + l.text.length := by
  cases l
  all_goals cases found
  all_goals exact ⟨rfl, rfl⟩

theorem ordered_tokensFrom (filled : ∀ l ∈ ls, l.text ≠ []) (offset : Nat) (ended : Bool) :
    Ordered (tokensFrom offset ended ls) ∧ ∀ t ∈ tokensFrom offset ended ls, offset ≤ t.start := by
  induction ls generalizing offset ended
  case nil => exact ⟨⟨.nil, nofun⟩, nofun⟩
  case cons l ls hi =>
    have length := List.length_pos_iff.mpr <| filled l List.mem_cons_self
    have later (ended : Bool) := hi (fun l mem => filled l <| List.mem_cons_of_mem _ mem)
      (offset + l.text.length) ended
    have behind (ended : Bool) {t : Token} (mem : t ∈ tokensFrom (offset + l.text.length) ended ls) :
        offset ≤ t.start := by
      have := (later ended).2 t mem
      omega
    have cons {t : Token} (ended : Bool) (start : t.start = offset)
        (stop : t.stop ≤ offset + l.text.length)
        (filled : t.start < t.stop ∨ t.isLineEnd = true) :
        Ordered (t :: tokensFrom (offset + l.text.length) ended ls) ∧
          ∀ t' ∈ t :: tokensFrom (offset + l.text.length) ended ls, offset ≤ t'.start := by
      obtain ⟨ordered, from'⟩ := later ended
      refine ⟨⟨List.pairwise_cons.mpr ⟨fun t' mem => Nat.le_trans stop <| from' t' mem, ordered.apart⟩,
        fun t' mem => ?_⟩, fun t' mem => ?_⟩
      all_goals obtain rfl | mem := List.mem_cons.mp mem
      case refine_1.inl => exact filled
      case refine_1.inr => exact ordered.filled t' mem
      case refine_2.inl => exact Nat.le_of_eq start.symm
      case refine_2.inr => exact behind ended mem
    unfold tokensFrom
    dsimp only
    split
    case h_1 t found =>
      obtain ⟨start, stop⟩ := Lexeme.token?_place found
      exact cons _ start (Nat.le_of_eq stop) <| .inl <| by omega
    case h_2 =>
      split
      case isTrue =>
        exact cons false rfl (Nat.le_add_right _ _) <| .inr <| by simp [Token.isLineEnd, Token.isMark]
      case isFalse => exact ⟨(later ended).1, fun t mem => behind ended mem⟩

theorem text_ne_nil_of_mem_lexemes (mem : l ∈ lexemes cs) : l.text ≠ [] := by
  fun_induction lexemes cs
  case case1 => cases mem
  case case2 c cs split hi =>
    obtain rfl | mem := List.mem_cons.mp mem
    case inl => exact Lexeme.text_splitLexeme_ne_nil c cs
    case inr => exact hi mem

theorem ordered_tokens (cs : List Char) : Ordered (tokens cs) :=
  (ordered_tokensFrom (fun _ mem => text_ne_nil_of_mem_lexemes mem) 0 false).1

end Order

section Texts

theorem Lexeme.token?_text {offset : Nat} (found : l.token? offset = some t) :
    t.text = String.ofList l.text := by
  cases l
  case gap => cases found
  case mark =>
    cases found
    exact String.singleton_eq_ofList
  all_goals
    cases found
    rfl

-- Where a token stands in a text, its own text stands.
structure Token.Spelled (t : Token) (cs : List Char) : Prop where
  within : t.stop ≤ cs.length
  text : t.text = String.ofList ((cs.drop t.start).take (t.stop - t.start))

theorem spelled_of_mem_tokensFrom {pre : List Char} {ended : Bool}
    (mem : t ∈ tokensFrom pre.length ended ls) (line : t.isLineEnd = false) :
    t.Spelled (pre ++ ls.flatMap Lexeme.text) := by
  induction ls generalizing pre ended
  case nil => cases mem
  case cons l ls hi =>
    have later {ended : Bool} (mem : t ∈ tokensFrom (pre.length + l.text.length) ended ls) :
        t.Spelled (pre ++ (l :: ls).flatMap Lexeme.text) := by
      rw [← List.length_append] at mem
      rw [List.flatMap_cons, ← List.append_assoc]
      exact hi mem
    unfold tokensFrom at mem
    dsimp only at mem
    split at mem
    case h_1 t' found =>
      obtain rfl | mem := List.mem_cons.mp mem
      case inr => exact later mem
      case inl =>
        obtain ⟨start, stop⟩ := Lexeme.token?_place found
        constructor
        case within =>
          rw [stop, List.flatMap_cons, List.length_append, List.length_append]
          omega
        case text =>
          rw [Lexeme.token?_text found, start, stop, List.drop_left, List.flatMap_cons,
            Nat.add_sub_cancel_left, List.take_left]
    case h_2 =>
      split at mem
      case isFalse => exact later mem
      case isTrue =>
        obtain rfl | mem := List.mem_cons.mp mem
        case inl => simp [Token.isLineEnd, Token.isMark] at line
        case inr => exact later mem

theorem spelled_of_mem_tokens (mem : t ∈ tokens cs) (line : t.isLineEnd = false) : t.Spelled cs := by
  have spelled : t.Spelled ([] ++ (lexemes cs).flatMap Lexeme.text) :=
    spelled_of_mem_tokensFrom mem line
  rwa [List.nil_append, flatMap_text_lexemes] at spelled

end Texts

end FlowIndex.Host
