import FlowIndex.Proofs.Flow.Extent

namespace FlowIndex.Flow

open Text

variable {cs : List Char} {l : Lexeme}

-- A text that ends with a line feed, behind a closing brace and outside all block comments.
structure Ended (cs : List Char) : Prop where
  newline : cs.getLast? = some '\n'
  brace : ∃ t ∈ (tokens cs).getLast?, t.isPunct '}' = true
  comments : ∀ l ∈ lexemes cs, l.isOpen = false

theorem isBlank_of_mem_lexemes {bs : List Char} (mem : .blank bs ∈ lexemes cs) :
    bs ≠ [] ∧ ∀ c ∈ bs, isBlank c = true := by
  obtain ⟨c, cs, rest, cut⟩ := exists_cut_of_mem mem
  cases cut
  case blank blank =>
    have run := List.all_eq_true.mp <| List.all_takeWhile (p := isBlank) (l := cs)
    exact ⟨List.cons_ne_nil _ _, List.forall_mem_cons.mpr ⟨blank, run⟩⟩

theorem comment_end {text : List Char} (mem : .comment text ∈ lexemes cs)
    (closed : (Lexeme.comment text).isOpen = false) : text.getLast? ≠ some '\n' := by
  intro newline
  obtain ⟨c, cs, rest, cut⟩ := exists_cut_of_mem mem
  cases cut
  case line slash _ =>
    obtain head | run := List.mem_cons.mp <| List.mem_of_getLast? newline
    case inl =>
      rw [slash] at head
      cases head
    case inr =>
      have other := List.all_eq_true.mp List.all_takeWhile _ run
      simp at other
  case block slash _ =>
    rw [slash, Lexeme.isOpen, Bool.not_eq_false', List.isSuffixOf_iff_suffix] at closed
    obtain ⟨text, whole⟩ := closed
    simp [← whole, List.getLast?_cons] at newline

-- The last word of a text is none that a line feed is part of, so blanks stand at the end.
theorem Ended.last_blank (ended : Ended cs) : ∃ bs, (lexemes cs).getLast? = some (.blank bs) := by
  obtain ⟨newline, ⟨t, last, mark⟩, comments⟩ := ended
  have whole := flatMap_text_lexemes cs
  obtain none | ⟨ls, l, split⟩ := List.eq_nil_or_concat (lexemes cs)
  case inl =>
    rw [none] at whole
    cases whole
    cases newline
  case inr =>
    rw [List.concat_eq_append] at split
    have mem : l ∈ lexemes cs := by simp [split]
    have text : l.text.getLast? = some '\n' := by
      have filled := text_ne_nil_of_mem_lexemes mem
      rwa [← whole, split, List.flatMap_append, List.flatMap_singleton,
        List.getLast?_append_of_ne_nil _ filled] at newline
    have word {w : Word} (h : l.word? = some w) : w.isPunct '}' = true := by
      rw [tokens, split, tokensFrom_append] at last
      simp only [tokensFrom, h, List.getLast?_concat] at last
      cases last
      exact mark
    cases l
    case blank bs => exact ⟨bs, by rw [split, List.getLast?_concat]⟩
    case comment cs => exact absurd text <| comment_end mem <| comments _ mem
    case string => simpa [Word.isPunct] using word rfl
    case ident => simpa [Word.isPunct] using word rfl
    case number => simpa [Word.isPunct] using word rfl
    case punct c =>
      have same : String.singleton c = String.singleton '}' := by
        simpa [Word.isPunct] using word rfl
      have brace : c = '}' := by simpa using congrArg String.toList same
      rw [brace] at text
      cases text

-- A text that blanks end is cut like any longer one up to its last lexeme, and the last one goes on
-- into what comes behind.
theorem lexemes_more {bs : List Char} (newline : cs.getLast? = some '\n')
    (last : (lexemes cs).getLast? = some (.blank bs)) :
    ∃ ls, lexemes cs = ls ++ [.blank bs] ∧
      ∀ more, lexemes (cs ++ more) = ls ++ lexemes (bs ++ more) := by
  fun_induction lexemes cs
  case case1 => cases newline
  case case2 c cs split hi =>
    have whole := splitLexeme_append c cs
    by_cases final : split.2 = []
    case pos =>
      rw [final, lexemes] at last ⊢
      have blank : split.1 = .blank bs := by simpa using last
      rw [final, blank, List.append_nil] at whole
      refine ⟨[], by rw [blank]; rfl, fun more => ?_⟩
      rw [← whole]
      rfl
    case neg =>
      have stops : split.2.getLast? = some '\n' := by
        rwa [← whole, List.getLast?_append_of_ne_nil _ final] at newline
      have filled : lexemes split.2 ≠ [] := by
        intro none
        have text := flatMap_text_lexemes split.2
        rw [none] at text
        exact final text.symm
      rw [List.getLast?_cons_of_ne_nil filled] at last
      obtain ⟨ls, lexed, later⟩ := hi stops last
      refine ⟨split.1 :: ls, by rw [lexed]; rfl, fun more => ?_⟩
      have cut : splitLexeme c (cs ++ more) = (split.1, split.2 ++ more) :=
        splitLexeme_more stops more
      rw [List.cons_append, lexemes, cut, later]
      rfl

-- Leading blanks of a text only move its tokens.
theorem tokensFrom_trim (o : Nat) (cs : List Char) : tokensFrom o (lexemes cs) =
    tokensFrom (o + (cs.takeWhile isBlank).length) (lexemes (cs.dropWhile isBlank)) := by
  cases cs
  case nil => rfl
  case cons c cs =>
    cases blank : isBlank c
    case false => simp [blank]
    case true =>
      rw [lexemes, (Cut.blank blank).eq]
      simp only [tokensFrom, Lexeme.word?, Lexeme.text, List.takeWhile_cons, List.dropWhile_cons,
        blank, if_true]

theorem tokensFrom_blanks {bs : List Char} (blank : ∀ c ∈ bs, isBlank c = true) (o : Nat)
    (more : List Char) :
    tokensFrom o (lexemes (bs ++ more)) = tokensFrom (o + bs.length) (lexemes more) := by
  rw [tokensFrom_trim, List.takeWhile_append_of_pos blank, List.dropWhile_append_of_pos blank,
    tokensFrom_trim _ more, List.length_append, Nat.add_assoc]

-- Behind a text that has ended, another one has its own tokens, and those of the first one lie
-- before its line feed.
theorem Ended.tokens (ended : Ended cs) : Laid (cs.length - 1) (tokens cs) ∧
    ∀ more, Flow.tokens (cs ++ more) = Flow.tokens cs ++ tokensFrom cs.length (lexemes more) := by
  obtain ⟨bs, last⟩ := ended.last_blank
  obtain ⟨ls, lexed, later⟩ := lexemes_more ended.newline last
  obtain ⟨filled, blank⟩ := isBlank_of_mem_lexemes <| List.mem_of_getLast? last
  have own : Flow.tokens cs = tokensFrom 0 ls := by
    rw [Flow.tokens, lexed, tokensFrom_append]
    exact List.append_nil _
  have length : cs.length = width ls + bs.length := by
    have whole := congrArg List.length <| flatMap_text_lexemes cs
    rw [lexed, List.flatMap_append, List.length_append, List.flatMap_singleton] at whole
    exact whole.symm
  constructor
  case left =>
    have laid : Laid (0 + width ls) (tokensFrom 0 ls) := laid_tokensFrom fun l mem =>
      text_ne_nil_of_mem_lexemes <| lexed ▸ List.mem_append_left _ mem
    have positive := List.length_pos_iff.mpr filled
    rw [own]
    exact ⟨laid.ordered, laid.nonempty, fun t mem => by have := laid.within t mem; omega⟩
  case right =>
    intro more
    rw [own, Flow.tokens, later, tokensFrom_append, tokensFrom_blanks blank, length, Nat.zero_add]

end FlowIndex.Flow
