import FlowIndex.Flow.Token
import FlowIndex.Proofs.Text.Comment
import FlowIndex.Proofs.Text.Run

namespace FlowIndex.Flow

open Text

variable {cs rest rest' : List Char} {c : Char} {l : Lexeme}

section Ways

theorem splitString_cons (plain : c ≠ '\\') : splitString (c :: cs) =
    if c = '"' || c = '\n' then ([], c :: cs)
    else (c :: (splitString cs).1, (splitString cs).2) := by
  rw [splitString]
  case x_1 => exact fun same => absurd same plain
  case x_2 => exact fun _ _ same => absurd same plain

-- A character that starts neither blanks nor a comment.
structure Worded (c : Char) (cs : List Char) : Prop where
  blank : isBlank c = false
  line : ¬(c = '/' ∧ cs.head? = some '/')
  block : ¬(c = '/' ∧ cs.head? = some '*')

theorem Worded.of_ne (blank : isBlank c = false) (slash : c ≠ '/') : Worded c cs :=
  ⟨blank, fun both => slash both.1, fun both => slash both.1⟩

-- The ways in which the first lexeme of a text is cut off.
inductive Cut (c : Char) (cs : List Char) : Lexeme × List Char → Prop
  | blank (blank : isBlank c = true) :
    Cut c cs (.blank (c :: cs.takeWhile isBlank), cs.dropWhile isBlank)
  | line (slash : c = '/') (second : cs.head? = some '/') :
    Cut c cs (.comment (c :: cs.takeWhile (· ≠ '\n')), cs.dropWhile (· ≠ '\n'))
  | block (slash : c = '/') (second : cs.head? = some '*') :
    Cut c cs (.comment (c :: '*' :: (splitComment cs.tail).1), (splitComment cs.tail).2)
  | closed {body rest : List Char} (quote : c = '"')
      (split : splitString cs = (body, '"' :: rest)) :
    Cut c cs (.string body true, rest)
  | unclosed {body rest : List Char} (quote : c = '"') (split : splitString cs = (body, rest))
      (stop : rest.head? ≠ some '"') :
    Cut c cs (.string body false, rest)
  | ident (worded : Worded c cs) (start : isIdentStart c = true) :
    Cut c cs (.ident (c :: cs.takeWhile isIdentChar), cs.dropWhile isIdentChar)
  | number (worded : Worded c cs) (quote : c ≠ '"') (start : isIdentStart c = false)
      (digit : isDigit c = true) :
    Cut c cs (.number (c :: cs.takeWhile isDigit), cs.dropWhile isDigit)
  | punct (worded : Worded c cs) (quote : c ≠ '"') (start : isIdentStart c = false)
      (digit : isDigit c = false) : Cut c cs (.punct c, cs)

theorem cut_splitLexeme (c : Char) (cs : List Char) : Cut c cs (splitLexeme c cs) := by
  unfold splitLexeme
  split
  case isTrue blank => exact .blank blank
  case isFalse blank =>
    split
    case isTrue line =>
      simp only [Bool.and_eq_true, decide_eq_true_eq] at line
      exact .line line.1 line.2
    case isFalse line =>
      split
      case isTrue block =>
        simp only [Bool.and_eq_true, decide_eq_true_eq] at block
        exact .block block.1 block.2
      case isFalse block =>
        have worded : Worded c cs :=
          ⟨by simpa using blank, by simpa using line, by simpa using block⟩
        split
        case isTrue quote =>
          split
          case h_1 body rest split => exact .closed quote split
          case h_2 body rest other split =>
            refine .unclosed quote split fun stop => ?_
            obtain ⟨rest, rfl⟩ := List.head?_eq_some_iff.mp stop
            exact other rest rfl
        case isFalse quote =>
          split
          case isTrue start => exact .ident worded start
          case isFalse start =>
            rw [Bool.not_eq_true] at start
            split
            case isTrue digit => exact .number worded quote start digit
            case isFalse digit => exact .punct worded quote start <| by simpa using digit

theorem Cut.eq {cut : Lexeme × List Char} (h : Cut c cs cut) : splitLexeme c cs = cut := by
  have slash : isBlank '/' = false := by decide
  have quote : isBlank '"' = false := by decide
  cases h
  case blank blank => simp [splitLexeme, blank]
  case line same second =>
    cases same
    simp [splitLexeme, slash, second]
  case block same second =>
    cases same
    simp [splitLexeme, slash, second]
  case closed same split =>
    cases same
    simp [splitLexeme, quote, split]
  case unclosed body rest same split stop =>
    cases same
    cases rest
    case nil => simp [splitLexeme, quote, split]
    case cons d rest =>
      have other : d ≠ '"' := fun same => stop <| congrArg some same
      simp [splitLexeme, quote, split, other]
  case ident worded start =>
    have ne : c ≠ '"' := by
      rintro rfl
      exact absurd start <| by decide
    simp [splitLexeme, worded.blank, worded.line, worded.block, ne, start]
  case number worded ne start digit =>
    simp [splitLexeme, worded.blank, worded.line, worded.block, ne, start, digit]
  case punct worded ne start digit =>
    simp [splitLexeme, worded.blank, worded.line, worded.block, ne, start, digit]

end Ways

section Ends

-- Where the contents of a string end: at its closing quote, at a line feed, or at the end of the
-- text, before which a backslash may be left over.
def StringEnd (rest : List Char) : Prop :=
  rest = [] ∨ rest = ['\\'] ∨ rest.head? = some '"' ∨ rest.head? = some '\n'

theorem stringEnd_splitString (cs : List Char) : StringEnd (splitString cs).2 := by
  fun_induction splitString cs
  case case1 => exact .inl rfl
  case case2 => exact .inr <| .inl rfl
  case case3 hi => simp_all
  case case4 c cs _ _ mark =>
    have mark : c = '"' ∨ c = '\n' := by simpa using mark
    exact .inr <| .inr <| mark.imp (congrArg some) (congrArg some)
  case case5 hi => simp_all

theorem StringEnd.split (ends : StringEnd rest) : splitString rest = ([], rest) := by
  obtain rfl | rfl | quote | newline := ends
  case inl => rfl
  case inr.inl => rfl
  case inr.inr.inl =>
    obtain ⟨rest, rfl⟩ := List.head?_eq_some_iff.mp quote
    simp [splitString]
  case inr.inr.inr =>
    obtain ⟨rest, rfl⟩ := List.head?_eq_some_iff.mp newline
    simp [splitString]

-- The contents of a string do not depend on what ends them.
theorem splitString_change (cs : List Char) (ends : StringEnd rest) :
    splitString ((splitString cs).1 ++ rest) = ((splitString cs).1, rest) := by
  fun_induction splitString cs
  case case1 => exact ends.split
  case case2 => exact ends.split
  case case3 c cs body rest' split hi =>
    rw [split] at hi
    simp [splitString, hi]
  case case4 => exact ends.split
  case case5 c cs none some mark body rest' split hi =>
    have plain : c ≠ '\\' := by
      rintro rfl
      cases cs
      case nil => exact none rfl rfl
      case cons => exact some _ _ rfl rfl
    rw [split] at hi
    rw [List.cons_append, splitString_cons plain, if_neg mark, hi]

-- A block comment without an end mark.
def Lexeme.isOpen : Lexeme → Bool
  | .comment ('/' :: '*' :: cs) => !(['*', '/'].isSuffixOf cs)
  | _ => false

theorem Lexeme.isOpen_comment_iff :
    (Lexeme.comment ('/' :: '*' :: cs)).isOpen = true ↔ ¬['*', '/'] <:+ cs := by
  rw [isOpen, Bool.not_eq_true', ← Bool.not_eq_true, List.isSuffixOf_iff_suffix]

end Ends

namespace Lexeme

-- Whether a lexeme ends in front of a text.
def EndsAt (rest : List Char) : Lexeme → Prop
  | blank _ => ∀ c ∈ rest.head?, isBlank c = false
  | comment ('/' :: '/' :: _) => ∀ c ∈ rest.head?, c = '\n'
  | comment text => (comment text).isOpen = true → rest = []
  | string _ closed => closed = false → rest.head? ≠ some '"' ∧ StringEnd rest
  | ident _ => ∀ c ∈ rest.head?, isIdentChar c = false
  | number _ => ∀ c ∈ rest.head?, isDigit c = false
  | punct c => c = '/' → rest.head? ≠ some '/' ∧ rest.head? ≠ some '*'

-- All that counts is the next character, unless it is a backslash that nothing follows.
theorem EndsAt.head {c : Char} (ends : l.EndsAt (c :: rest)) (other : c :: rest ≠ ['\\'])
    (rest' : List Char) : l.EndsAt (c :: rest') := by
  cases l
  case string body closed =>
    intro unclosed
    obtain ⟨quote, none | lone | stop⟩ := ends unclosed
    case inl => cases none
    case inr.inl => exact absurd lone other
    case inr.inr => exact ⟨quote, .inr <| .inr stop⟩
  case comment text =>
    unfold EndsAt at ends ⊢
    split at ends
    case h_2 => simpa using ends
    case h_3 open_ _ => exact fun closed => absurd (ends closed) <| List.cons_ne_nil _ _
    all_goals simp_all
  all_goals exact ends

theorem EndsAt.more (ends : l.EndsAt rest) (newline : rest.getLast? = some '\n')
    (more : List Char) : l.EndsAt (rest ++ more) := by
  cases rest
  case nil => cases newline
  case cons c rest =>
    refine ends.head (fun same => ?_) _
    rw [same] at newline
    cases newline

end Lexeme

section Cuts

theorem exists_cut_of_mem (mem : l ∈ lexemes cs) : ∃ c cs' rest, Cut c cs' (l, rest) := by
  fun_induction lexemes cs
  case case1 => cases mem
  case case2 c cs split hi =>
    obtain rfl | mem := List.mem_cons.mp mem
    case inl => exact ⟨c, cs, split.2, cut_splitLexeme c cs⟩
    case inr => exact hi mem

theorem Cut.text_append (cut : Cut c cs (l, rest)) : l.text ++ rest = c :: cs := by
  have whole := splitLexeme_append c cs
  rwa [cut.eq] at whole

theorem Cut.endsAt (cut : Cut c cs (l, rest)) : l.EndsAt rest := by
  cases cut
  case blank => exact head_dropWhile
  case line slash second =>
    obtain ⟨cs, rfl⟩ := List.head?_eq_some_iff.mp second
    subst slash
    intro c mem
    simpa using head_dropWhile c mem
  case block slash second =>
    subst slash
    intro opened
    obtain ⟨body, closed, _⟩ | ⟨whole, _⟩ := splitComment_cases cs.tail
    case inl => exact absurd ⟨body, closed.symm⟩ <| Lexeme.isOpen_comment_iff.mp opened
    case inr => rw [whole]
  case closed =>
    intro opened
    cases opened
  case unclosed body split stop =>
    have ends := stringEnd_splitString cs
    rw [split] at ends
    exact fun _ => ⟨stop, ends⟩
  case ident => exact head_dropWhile
  case number => exact head_dropWhile
  case punct worded _ _ _ =>
    exact fun slash => ⟨fun second => worded.line ⟨slash, second⟩,
      fun second => worded.block ⟨slash, second⟩⟩

theorem Cut.text_ne_nil (cut : Cut c cs (l, rest)) : l.text ≠ [] := by
  have filled := Lexeme.text_splitLexeme_ne_nil c cs
  rwa [cut.eq] at filled

-- A lexeme is cut off alike in front of any text that it cannot go on into.
theorem Cut.change (cut : Cut c cs (l, rest)) (ends : l.EndsAt rest') :
    ∃ cs', Cut c cs' (l, rest') := by
  have runs {p : Char → Bool} (stops : ∀ c ∈ rest'.head?, p c = false) :=
    takeWhile_dropWhile (List.all_eq_true.mp <| List.all_takeWhile (p := p) (l := cs)) stops
  have worded (h : Worded c cs) {p : Char → Bool} (own : p c = true) (slash : p '/' = false)
      (cs' : List Char) : Worded c cs' := by
    refine .of_ne h.blank ?_
    rintro rfl
    rw [slash] at own
    cases own
  cases cut
  case blank blank =>
    obtain ⟨take, drop⟩ := runs ends
    have cut : Cut c (cs.takeWhile isBlank ++ rest') _ := .blank blank
    rw [take, drop] at cut
    exact ⟨_, cut⟩
  case line slash second =>
    obtain ⟨cs, rfl⟩ := List.head?_eq_some_iff.mp second
    subst slash
    have stops : ∀ c ∈ rest'.head?, decide (c ≠ '\n') = false := fun c mem => by
      simpa using ends c mem
    obtain ⟨take, drop⟩ := runs (p := (· ≠ '\n')) stops
    have cut : Cut '/' (('/' :: cs).takeWhile (· ≠ '\n') ++ rest') _ := .line rfl rfl
    rw [take, drop] at cut
    exact ⟨_, cut⟩
  case block slash second =>
    obtain ⟨cs, rfl⟩ := List.head?_eq_some_iff.mp second
    subst slash
    rw [List.tail_cons] at ends ⊢
    have comment := splitComment_change fun unended => ends <| Lexeme.isOpen_comment_iff.mpr unended
    have cut : Cut '/' ('*' :: ((splitComment cs).1 ++ rest')) _ := .block rfl rfl
    rw [List.tail_cons, comment] at cut
    exact ⟨_, cut⟩
  case closed body quote split =>
    have ends : StringEnd ('"' :: rest') := .inr <| .inr <| .inl rfl
    have string := splitString_change cs ends
    rw [split] at string
    exact ⟨_, .closed quote string⟩
  case unclosed body quote split stop =>
    obtain ⟨stop', ends⟩ := ends rfl
    have string := splitString_change cs ends
    rw [split] at string
    exact ⟨_, .unclosed quote string stop'⟩
  case ident h start =>
    obtain ⟨take, drop⟩ := runs ends
    have cut : Cut c (cs.takeWhile isIdentChar ++ rest') _ :=
      .ident (worded h start (by decide) _) start
    rw [take, drop] at cut
    exact ⟨_, cut⟩
  case number h quote start digit =>
    obtain ⟨take, drop⟩ := runs ends
    have cut : Cut c (cs.takeWhile isDigit ++ rest') _ :=
      .number (worded h digit (by decide) _) quote start digit
    rw [take, drop] at cut
    exact ⟨_, cut⟩
  case punct h quote start digit =>
    exact ⟨rest', .punct ⟨h.blank, fun both => (ends both.1).1 both.2,
      fun both => (ends both.1).2 both.2⟩ quote start digit⟩

theorem splitLexeme_more (stops : (splitLexeme c cs).2.getLast? = some '\n') (more : List Char) :
    splitLexeme c (cs ++ more) = ((splitLexeme c cs).1, (splitLexeme c cs).2 ++ more) := by
  have cut : Cut c cs ((splitLexeme c cs).1, (splitLexeme c cs).2) := cut_splitLexeme c cs
  obtain ⟨cs', longer⟩ := cut.change <| cut.endsAt.more stops more
  have text := longer.text_append
  rw [← List.append_assoc, cut.text_append] at text
  cases text
  exact longer.eq

end Cuts

end FlowIndex.Flow
