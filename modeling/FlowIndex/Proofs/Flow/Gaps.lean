import FlowIndex.Proofs.Flow.Slices

namespace FlowIndex.Flow

open Text

variable {cs rest text more : List Char} {c : Char} {l : Lexeme} {ls : List Lexeme}
  {w : Word} {t : Token} {o : Nat}

section Gaps

-- A run of blanks or a comment in front of a text.
inductive Skipped : List Char → List Char → Prop
  | blanks {cs rest : List Char} (some : cs ≠ []) (blank : ∀ c ∈ cs, isBlank c = true)
    (ends : ∀ c ∈ rest.head?, isBlank c = false) : Skipped cs rest
  | line {body rest : List Char} (inside : '\n' ∉ body) (ends : ∀ c ∈ rest.head?, c = '\n') :
    Skipped ('/' :: '/' :: body) rest
  | block {body rest : List Char} (first : ¬['*', '/'] <:+: body ++ ['*']) :
    Skipped ('/' :: '*' :: (body ++ ['*', '/'])) rest
  -- A comment without an end mark goes on to the end of the text.
  | openBlock {body : List Char} (none : ¬['*', '/'] <:+: body) : Skipped ('/' :: '*' :: body) []

-- Runs of blanks and comments, one behind the other, in front of a text.
inductive Gap : List Char → List Char → Prop
  | nil {rest : List Char} : Gap [] rest
  | cons {text more rest : List Char} (skipped : Skipped text (more ++ rest))
    (later : Gap more rest) : Gap (text ++ more) rest

theorem Gap.concat (gap : Gap text (more ++ rest)) (skipped : Skipped more rest) :
    Gap (text ++ more) rest := by
  generalize behind : more ++ rest = all at gap
  induction gap
  case nil =>
    have single : Gap (more ++ []) rest := .cons (by rwa [List.nil_append]) .nil
    rwa [List.append_nil] at single
  case cons own later hi =>
    subst behind
    rw [List.append_assoc]
    exact .cons (by rwa [List.append_assoc]) <| hi rfl

theorem Cut.skipped (cut : Cut c cs (l, rest)) (word : l.word? = none) : Skipped l.text rest := by
  cases cut
  case blank blank =>
    refine .blanks (List.cons_ne_nil _ _) (List.forall_mem_cons.mpr ⟨blank, ?_⟩) head_dropWhile
    exact List.all_eq_true.mp List.all_takeWhile
  case line slash second =>
    obtain ⟨cs, rfl⟩ := List.head?_eq_some_iff.mp second
    subst slash
    have inside : '\n' ∉ cs.takeWhile (· ≠ '\n') := fun mem => by
      simpa using List.all_eq_true.mp List.all_takeWhile _ mem
    exact .line inside fun c mem => by simpa using head_dropWhile c mem
  case block slash second =>
    obtain ⟨cs, rfl⟩ := List.head?_eq_some_iff.mp second
    subst slash
    obtain ⟨body, closed, first⟩ | ⟨whole, none⟩ := splitComment_cases cs
    case inl =>
      show Skipped ('/' :: '*' :: (splitComment cs).1) (splitComment cs).2
      rw [closed]
      exact .block first
    case inr =>
      show Skipped ('/' :: '*' :: (splitComment cs).1) (splitComment cs).2
      rw [whole]
      exact .openBlock none
  all_goals cases word

-- What stands behind an offset in front of the tokens, between them and behind them.
def Gaps (cs : List Char) : Nat → List Token → Prop
  | o, [] => Gap (cs.drop o) []
  | o, t :: ts => Gap (cs.extract o t.start) (cs.drop t.start) ∧ Gaps cs t.stop ts

theorem gaps_tokensFrom (tiled : Tiled ls) (pre : List Char) {gap : List Char}
    (begun : Gap gap (ls.flatMap Lexeme.text)) (start : o = pre.length + gap.length) :
    Gaps (pre ++ gap ++ ls.flatMap Lexeme.text) pre.length (tokensFrom o ls) := by
  induction tiled generalizing pre gap o
  case nil =>
    rw [List.flatMap_nil, List.append_nil, tokensFrom, Gaps, List.drop_left]
    exact begun
  case cons c cs l ls cut tiled hi =>
    have split : pre ++ gap ++ (l :: ls).flatMap Lexeme.text =
        pre ++ gap ++ l.text ++ ls.flatMap Lexeme.text := by
      rw [List.flatMap_cons, List.append_assoc _ l.text]
    have stop : o + l.text.length = (pre ++ gap ++ l.text).length := by
      rw [start, List.length_append, List.length_append]
    rw [tokensFrom]
    cases word : l.word?
    case none =>
      have further := hi pre (begun.concat <| cut.skipped word) (o := o + l.text.length) <| by
        rw [stop, List.append_assoc, List.length_append]
      rwa [split, List.append_assoc pre]
    case some w =>
      have further := hi (pre ++ gap ++ l.text) .nil (o := o + l.text.length) <| by
        rw [stop, List.length_nil, Nat.add_zero]
      rw [List.append_nil, ← split, ← stop] at further
      refine ⟨?_, further⟩
      have front : (pre ++ gap).length = o := by rw [List.length_append, start]
      rw [List.extract_eq_take_drop, ← front, List.drop_left, List.append_assoc, List.drop_left,
        List.length_append, Nat.add_sub_cancel_left, List.take_left]
      exact begun

end Gaps

section Spelling

-- What the contents of a string stand for: no quote and no line feed is left alone, and a backslash
-- leaves the character behind it as it is.
inductive Contents : List Char → List Char → Prop
  | nil : Contents [] []
  | plain {c : Char} {body value : List Char} (quote : c ≠ '"') (escape : c ≠ '\\')
    (newline : c ≠ '\n') (later : Contents body value) : Contents (c :: body) (c :: value)
  | escaped {c : Char} {body value : List Char} (later : Contents body value) :
    Contents ('\\' :: c :: body) (c :: value)

theorem contents_splitString (cs : List Char) :
    Contents (splitString cs).1 (unescape (splitString cs).1) := by
  fun_induction splitString cs
  case case3 split hi =>
    rw [split] at hi
    rw [unescape]
    exact .escaped hi
  case case5 c cs none some mark body rest split hi =>
    have plain : c ≠ '\\' := by
      rintro rfl
      cases cs
      case nil => exact none rfl rfl
      case cons => exact some _ _ rfl rfl
    rw [split] at hi
    rw [Bool.or_eq_true, decide_eq_true_iff, decide_eq_true_iff, not_or] at mark
    rw [unescape]
    case x_1 => exact fun _ _ same => absurd same plain
    exact .plain mark.1 plain mark.2 hi
  all_goals exact .nil

-- How a word is written in front of a text.
inductive Spells : Word → List Char → List Char → Prop
  | ident {c : Char} {cs rest : List Char} (start : isIdentStart c = true)
    (inside : ∀ c ∈ cs, isIdentChar c = true) (ends : ∀ c ∈ rest.head?, isIdentChar c = false) :
    Spells { kind := .ident, value := String.ofList (c :: cs) } (c :: cs) rest
  | number {cs rest : List Char} (some : cs ≠ []) (inside : ∀ c ∈ cs, isDigit c = true)
    (ends : ∀ c ∈ rest.head?, isDigit c = false) :
    Spells { kind := .number, value := String.ofList cs } cs rest
  | punct {c : Char} {rest : List Char} (worded : Worded c rest) (quote : c ≠ '"')
    (start : isIdentStart c = false) (digit : isDigit c = false) :
    Spells { kind := .punct, value := String.ofList [c] } [c] rest
  | closed {body value rest : List Char} (contents : Contents body value) :
    Spells { kind := .string, value := String.ofList value } ('"' :: (body ++ ['"'])) rest
  -- An open string stops at a line feed, at the end of the text or at a backslash that is its end.
  | unclosed {body value rest : List Char} (contents : Contents body value)
    (stops : rest = [] ∨ rest = ['\\'] ∨ rest.head? = some '\n') :
    Spells { kind := .string, value := String.ofList value, closed := false } ('"' :: body) rest

theorem Cut.spells (cut : Cut c cs (l, rest)) (word : l.word? = some w) : Spells w l.text rest := by
  cases cut
  case blank | line | block => cases word
  case closed body quote split =>
    cases word
    have contents := contents_splitString cs
    rw [split] at contents
    exact .closed contents
  case unclosed body quote split stop =>
    cases word
    have contents := contents_splitString cs
    have ends := stringEnd_splitString cs
    rw [split] at contents ends
    have text : (Lexeme.string body false).text = '"' :: body := by simp [Lexeme.text]
    rw [text]
    refine .unclosed contents ?_
    obtain none | lone | quote | newline := ends
    case inl => exact .inl none
    case inr.inl => exact .inr <| .inl lone
    case inr.inr.inl => exact absurd quote stop
    case inr.inr.inr => exact .inr <| .inr newline
  case ident start =>
    cases word
    exact .ident start (List.all_eq_true.mp List.all_takeWhile) head_dropWhile
  case number digit =>
    cases word
    refine .number (List.cons_ne_nil _ _) (List.forall_mem_cons.mpr ⟨digit, ?_⟩) head_dropWhile
    exact List.all_eq_true.mp List.all_takeWhile
  case punct worded quote start digit =>
    cases word
    rw [String.singleton_eq_ofList]
    exact .punct worded quote start digit

theorem spells_token (mem : t ∈ tokens cs) :
    Spells t.toWord (cs.extract t.start t.stop) (cs.drop t.stop) := by
  obtain ⟨ts, us, split⟩ := List.append_of_mem mem
  obtain ⟨pre, l, post, row, own, _⟩ := exists_readFrom split
  have tiled := tiled_lexemes cs
  rw [row] at tiled
  obtain ⟨⟨_, _, cut⟩, _⟩ := tiled_cons_iff.mp tiled.behind
  have text : cs = pre.flatMap Lexeme.text ++ (l.text ++ post.flatMap Lexeme.text) := by
    rw [← flatMap_text_lexemes cs, row, List.flatMap_append, List.flatMap_cons]
  have start : t.start = (pre.flatMap Lexeme.text).length := by rw [own.start, Nat.zero_add, width]
  rw [List.extract_eq_take_drop, own.stop, Nat.add_sub_cancel_left, ← List.drop_drop, start, text,
    List.drop_left, List.take_left, List.drop_left]
  exact cut.spells own.word

end Spelling

-- Tokens tile a text: they stand side by side in it, each of them is spelled by its piece of the
-- text, and the pieces between them are gaps.
structure Tiles (cs : List Char) (ts : List Token) : Prop where
  nonempty : ∀ t ∈ ts, t.start < t.stop
  within : ∀ t ∈ ts, t.stop ≤ cs.length
  increasing : ts.Pairwise (·.start < ·.start)
  disjoint : ts.Pairwise (·.stop ≤ ·.start)
  gaps : Gaps cs 0 ts
  spells : ∀ t ∈ ts, Spells t.toWord (cs.extract t.start t.stop) (cs.drop t.stop)

theorem tiles_tokens (cs : List Char) : Tiles cs (tokens cs) where
  nonempty := (laid_tokens cs).nonempty
  within := (laid_tokens cs).within
  increasing := (laid_tokens cs).starts
  disjoint := (laid_tokens cs).ordered
  gaps := by
    have gaps := gaps_tokensFrom (tiled_lexemes cs) [] .nil rfl
    rwa [List.append_nil, List.nil_append, flatMap_text_lexemes] at gaps
  spells _ mem := spells_token mem

end FlowIndex.Flow
