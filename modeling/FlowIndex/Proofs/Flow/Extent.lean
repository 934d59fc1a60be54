import FlowIndex.Proofs.Flow.Cut
import FlowIndex.Proofs.Flow.Reading

namespace FlowIndex.Flow

variable {length o : Nat} {ts ts' pre post : List Token} {t t' : Token}

section Tokens

-- Tokens that lie in a text of some length side by side, none of them empty.
structure Laid (length : Nat) (ts : List Token) : Prop where
  ordered : ts.Pairwise (·.stop ≤ ·.start)
  nonempty : ∀ t ∈ ts, t.start < t.stop
  within : ∀ t ∈ ts, t.stop ≤ length

namespace Laid

theorem sublist (laid : Laid length ts) (h : ts'.Sublist ts) : Laid length ts' where
  ordered := laid.ordered.sublist h
  nonempty t mem := laid.nonempty t <| h.mem mem
  within t mem := laid.within t <| h.mem mem

theorem starts (laid : Laid length ts) : ts.Pairwise (·.start < ·.start) :=
  laid.ordered.imp_of_mem fun mem _ le => Nat.lt_of_lt_of_le (laid.nonempty _ mem) le

theorem start_le (laid : Laid length ts) (mem : t ∈ ts) : t.start ≤ length :=
  Nat.le_trans (Nat.le_of_lt <| laid.nonempty t mem) (laid.within t mem)

theorem stop_le_start (laid : Laid length (ts ++ ts')) (ht : t ∈ ts) (ht' : t' ∈ ts') :
    t.stop ≤ t'.start :=
  List.pairwise_append.mp laid.ordered |>.2.2 t ht t' ht'

theorem start_lt_start (laid : Laid length (ts ++ ts')) (ht : t ∈ ts) (ht' : t' ∈ ts') :
    t.start < t'.start :=
  List.pairwise_append.mp laid.starts |>.2.2 t ht t' ht'

end Laid

theorem text_ne_nil_of_mem_lexemes {cs : List Char} {l : Lexeme} (mem : l ∈ lexemes cs) :
    l.text ≠ [] := by
  obtain ⟨_, _, _, cut⟩ := exists_cut_of_mem mem
  exact cut.text_ne_nil

theorem laid_tokensFrom {ls : List Lexeme} (h : ∀ l ∈ ls, l.text ≠ []) :
    Laid (o + width ls) (tokensFrom o ls) := by
  induction ls generalizing o
  case nil => exact ⟨.nil, nofun, nofun⟩
  case cons l ls hi =>
    have rest := hi (o := o + l.text.length) fun l mem => h l <| List.mem_cons_of_mem _ mem
    have positive := List.length_pos_iff.mpr <| h l List.mem_cons_self
    rw [Nat.add_assoc, ← width_cons] at rest
    rw [tokensFrom]
    cases l.word?
    case none => exact rest
    case some w =>
      have behind (t : Token) (mem : t ∈ tokensFrom (o + l.text.length) ls) :
          o + l.text.length ≤ t.start := by
        obtain ⟨_, _, _, start, _⟩ := mem_tokensFrom mem
        exact start
      refine ⟨List.pairwise_cons.mpr ⟨behind, rest.ordered⟩, ?nonempty, ?within⟩
      case nonempty =>
        apply List.forall_mem_cons.mpr ⟨?_, rest.nonempty⟩
        exact Nat.lt_add_of_pos_right positive
      case within =>
        apply List.forall_mem_cons.mpr ⟨?_, rest.within⟩
        rw [width_cons, ← Nat.add_assoc]
        exact Nat.le_add_right ..

theorem laid_tokens (cs : List Char) : Laid cs.length (tokens cs) := by
  have laid : Laid (0 + width (lexemes cs)) (tokensFrom 0 (lexemes cs)) :=
    laid_tokensFrom fun _ => text_ne_nil_of_mem_lexemes
  rwa [width, flatMap_text_lexemes, Nat.zero_add] at laid

end Tokens

section Blocks

variable {keyword : String} {nested : Bool} {name brace : Token} {body rest : List Token}
variable {bs : List Block} {b : Block}

theorem blockHeader?_eq (h : blockHeader? ts = some (name, body)) :
    ∃ lpar rpar lbrace, ts = lpar :: name :: rpar :: lbrace :: body := by
  unfold blockHeader? at h
  split at h
  case h_1 lpar arg rpar lbrace rest =>
    split at h
    case isTrue =>
      cases h
      exact ⟨lpar, rpar, lbrace, rfl⟩
    case isFalse => cases h
  case h_2 => cases h

theorem closingBrace?_eq {depth : Nat} (h : closingBrace? depth ts = some (brace, rest)) :
    brace.isPunct '}' = true ∧ ∃ inner, ts = inner ++ brace :: rest := by
  fun_induction closingBrace? depth ts
  case case1 => cases h
  case case3 closing =>
    cases h
    exact ⟨closing, [], rfl⟩
  all_goals
    obtain ⟨closing, inner, rfl⟩ := ‹_ = some (brace, rest) → _› h
    exact ⟨closing, _ :: inner, rfl⟩

-- How the blocks of a keyword are found among tokens: each starts with the keyword and a header,
-- and the search goes on behind it, or inside it if it is not closed or blocks nest.
inductive Found (keyword : String) (nested : Bool) (length : Nat) : List Token → List Block → Prop
  | nil : Found keyword nested length [] []
  | skip {t : Token} {ts : List Token} {bs : List Block} (later : Found keyword nested length ts bs) :
    Found keyword nested length (t :: ts) bs
  | opened {t name : Token} {ts body : List Token} {bs : List Block}
      (ident : t.isIdent keyword = true) (header : blockHeader? ts = some (name, body))
      (later : Found keyword nested length body bs) :
    Found keyword nested length (t :: ts)
      ({ keyword, name, start := t.start, stop := length, closed := false } :: bs)
  | closed {t name brace : Token} {ts body rest : List Token} {bs : List Block}
      (ident : t.isIdent keyword = true) (header : blockHeader? ts = some (name, body))
      (closing : closingBrace? 0 body = some (brace, rest))
      (later : Found keyword nested length (if nested then body else rest) bs) :
    Found keyword nested length (t :: ts)
      ({ keyword, name, start := t.start, stop := brace.stop, closed := true } :: bs)

theorem found_blocks (ts : List Token) :
    Found keyword nested length ts (blocks keyword nested length ts) := by
  fun_induction blocks keyword nested length ts
  case case1 => exact .nil
  case case2 hi => exact .skip hi
  case case3 ident _ _ header _ hi => exact .opened ident header hi
  case case4 ident _ _ header _ _ closing hi => exact .closed ident header closing hi
  case case5 hi => exact .skip hi

-- How a block lies in a text: `run` are its own tokens, from its keyword through the brace that
-- closes it, and `post` those behind it. A block that is not closed takes in all that is left.
structure Block.Lies (length : Nat) (run post : List Token) (b : Block) : Prop where
  keyword : ∃ t ∈ run.head?, t.isIdent b.keyword = true ∧ t.start = b.start
  closed : b.closed = true → ∃ t ∈ run.getLast?, t.isPunct '}' = true ∧ t.stop = b.stop
  unclosed : b.closed = false → post = [] ∧ b.stop = length

def Block.LiesIn (length : Nat) (ts : List Token) (b : Block) : Prop :=
  ∃ pre run post, ts = pre ++ (run ++ post) ∧ b.Lies length run post

theorem Block.LiesIn.append (h : b.LiesIn length ts') (ts : List Token) :
    b.LiesIn length (ts ++ ts') := by
  obtain ⟨pre, run, post, rfl, lies⟩ := h
  exact ⟨ts ++ pre, run, post, (List.append_assoc ..).symm, lies⟩

theorem Block.LiesIn.start_mem (h : b.LiesIn length ts) : ∃ t ∈ ts, t.start = b.start := by
  obtain ⟨pre, run, post, rfl, lies⟩ := h
  obtain ⟨t, head, _, start⟩ := lies.keyword
  have mem : t ∈ run := List.mem_of_mem_head? head
  exact ⟨t, by simp [mem], start⟩

theorem Found.keyword_eq (found : Found keyword nested length ts bs) :
    ∀ b ∈ bs, b.keyword = keyword := by
  induction found
  case nil => exact nofun
  case skip hi => exact hi
  case opened hi => exact List.forall_mem_cons.mpr ⟨rfl, hi⟩
  case closed hi => exact List.forall_mem_cons.mpr ⟨rfl, hi⟩

theorem Found.liesIn (found : Found keyword nested length ts bs) :
    ∀ b ∈ bs, b.LiesIn length ts := by
  induction found
  case nil => exact nofun
  case skip t ts bs _ hi => exact fun b mem => (hi b mem).append [t]
  case opened t name ts body bs ident header _ hi =>
    obtain ⟨lpar, rpar, lbrace, rfl⟩ := blockHeader?_eq header
    refine List.forall_mem_cons.mpr
      ⟨?_, fun b mem => (hi b mem).append [t, lpar, name, rpar, lbrace]⟩
    exact ⟨[], t :: lpar :: name :: rpar :: lbrace :: body, [], by simp, ⟨t, rfl, ident, rfl⟩, nofun,
      fun _ => ⟨rfl, rfl⟩⟩
  case closed t name brace ts body rest bs ident header closing _ hi =>
    obtain ⟨lpar, rpar, lbrace, rfl⟩ := blockHeader?_eq header
    obtain ⟨rbrace, inner, rfl⟩ := closingBrace?_eq closing
    let front := [t, lpar, name, rpar, lbrace]
    refine List.forall_mem_cons.mpr ⟨?head, fun b mem => ?tail⟩
    case head =>
      exact ⟨[], front ++ inner ++ [brace], rest, by simp [front], ⟨t, rfl, ident, rfl⟩,
        fun _ => ⟨brace, List.getLast?_concat, rbrace, rfl⟩, nofun⟩
    case tail =>
      have lies := hi b mem
      cases nested
      case false => simpa [front] using lies.append (front ++ (inner ++ [brace]))
      case true => exact lies.append front

theorem Found.behind (found : Found keyword nested length ts' bs) (laid : Laid length (ts ++ ts'))
    (mem : t ∈ ts) : ∀ b ∈ bs, t.start < b.start ∧ t.stop ≤ b.start := by
  intro b hb
  obtain ⟨t', mem', start⟩ := (found.liesIn b hb).start_mem
  rw [← start]
  exact ⟨laid.start_lt_start mem mem', laid.stop_le_start mem mem'⟩

-- Blocks are found in the order of their keywords. One that is closed ends before the next one
-- starts, unless blocks nest.
theorem Found.ordered (found : Found keyword nested length ts bs) (laid : Laid length ts) :
    bs.Pairwise fun b b' =>
      b.start < b'.start ∧ (nested = false → b.closed = true → b.stop ≤ b'.start) := by
  induction found
  case nil => exact .nil
  case skip t ts bs _ hi => exact hi <| laid.sublist <| List.sublist_cons_self t ts
  case opened t name ts body bs ident header later hi =>
    obtain ⟨lpar, rpar, lbrace, rfl⟩ := blockHeader?_eq header
    have apart : Laid length ([t, lpar, name, rpar, lbrace] ++ body) := laid
    have behind := later.behind apart List.mem_cons_self
    exact .cons (fun b mem => ⟨(behind b mem).1, nofun⟩) <| hi <|
      apart.sublist <| List.sublist_append_right ..
  case closed t name brace ts body rest bs ident header closing later hi =>
    obtain ⟨lpar, rpar, lbrace, rfl⟩ := blockHeader?_eq header
    obtain ⟨rbrace, inner, rfl⟩ := closingBrace?_eq closing
    let front := [t, lpar, name, rpar, lbrace]
    cases nested
    case false =>
      have apart : Laid length ((front ++ (inner ++ [brace])) ++ rest) := by
        simpa [front] using laid
      have behind := later.behind apart List.mem_cons_self
      have behindBrace := later.behind apart (t := brace) (by simp)
      exact .cons (fun b mem => ⟨(behind b mem).1, fun _ _ => (behindBrace b mem).2⟩) <| hi <|
        apart.sublist <| List.sublist_append_right ..
    case true =>
      have apart : Laid length (front ++ (inner ++ brace :: rest)) := laid
      have behind := later.behind apart List.mem_cons_self
      exact .cons (fun b mem => ⟨(behind b mem).1, nofun⟩) <| hi <|
        apart.sublist <| List.sublist_append_right ..

theorem Block.Lies.range {run : List Token} (lies : b.Lies length run post)
    (laid : Laid length (pre ++ (run ++ post))) (mem : t ∈ run) :
    b.start ≤ t.start ∧ t.stop ≤ b.stop := by
  have own : Laid length run := laid.sublist <| by simp
  constructor
  case left =>
    obtain ⟨t', head, _, start⟩ := lies.keyword
    obtain ⟨run', rfl⟩ := List.head?_eq_some_iff.mp head
    rw [← start]
    obtain rfl | later := List.mem_cons.mp mem
    case inl => exact Nat.le_refl _
    case inr => exact Nat.le_of_lt <| List.rel_of_pairwise_cons own.starts later
  case right =>
    cases closed : b.closed
    case false =>
      rw [(lies.unclosed closed).2]
      exact own.within t mem
    case true =>
      obtain ⟨brace, last, _, stop⟩ := lies.closed closed
      obtain ⟨inner, rfl⟩ := List.getLast?_eq_some_iff.mp last
      rw [← stop]
      obtain inside | last := List.mem_append.mp mem
      case inl =>
        have before := own.stop_le_start inside List.mem_cons_self
        exact Nat.le_trans before <| Nat.le_of_lt <| own.nonempty brace <| by simp
      case inr => rw [List.mem_singleton.mp last]

-- The tokens of a block among those of its text.
def Block.tokens (b : Block) (ts : List Token) : List Token :=
  let behind := ts.dropWhile (·.start ≠ b.start)
  if b.closed then
    behind.takeWhile (·.stop ≠ b.stop) ++ (behind.dropWhile (·.stop ≠ b.stop)).take 1
  else behind

theorem Block.Lies.tokens_eq {run : List Token} (lies : b.Lies length run post)
    (laid : Laid length (pre ++ (run ++ post))) : b.tokens (pre ++ (run ++ post)) = run := by
  obtain ⟨t, head, _, start⟩ := lies.keyword
  obtain ⟨run', rfl⟩ := List.head?_eq_some_iff.mp head
  have before : ∀ t' ∈ pre, decide (t'.start ≠ b.start) = true := by
    intro t' mem
    have := laid.start_lt_start mem (show t ∈ t :: run' ++ post by simp)
    simp
    omega
  have behind : (pre ++ (t :: run' ++ post)).dropWhile (·.start ≠ b.start) = t :: run' ++ post := by
    rw [List.dropWhile_append_of_pos before]
    simp [start]
  rw [Block.tokens, behind]
  cases closed : b.closed
  case false =>
    obtain ⟨rfl, _⟩ := lies.unclosed closed
    simp
  case true =>
    obtain ⟨brace, last, _, stop⟩ := lies.closed closed
    obtain ⟨inner, run_eq⟩ := List.getLast?_eq_some_iff.mp last
    rw [run_eq] at laid ⊢
    have inside : ∀ t' ∈ inner, decide (t'.stop ≠ b.stop) = true := by
      intro t' mem
      have own : Laid length (inner ++ [brace]) := laid.sublist <| by simp
      have := own.stop_le_start mem List.mem_cons_self
      have := own.nonempty brace (by simp)
      simp
      omega
    rw [List.append_assoc, List.takeWhile_append_of_pos inside, List.dropWhile_append_of_pos inside]
    simp [stop]

-- An offset at which a token starts lies in a block if the token is one of the block's, or else if
-- it stands directly behind the brace that closes the block.
theorem Block.LiesIn.contains_iff (lies : b.LiesIn length ts) (laid : Laid length ts) (mem : t ∈ ts) :
    b.contains t.start = true ↔ t ∈ b.tokens ts ∨ b.closed = true ∧ t.start = b.stop := by
  obtain ⟨pre, run, post, rfl, lies⟩ := lies
  rw [lies.tokens_eq laid, Block.contains, Bool.and_eq_true, decide_eq_true_eq, decide_eq_true_eq]
  have positive := laid.nonempty t mem
  have range (mem : t ∈ run) := lies.range laid mem
  obtain before | inside | behind : t ∈ pre ∨ t ∈ run ∨ t ∈ post := by simpa using mem
  case inl =>
    obtain ⟨t', head, _, start⟩ := lies.keyword
    have mem' : t' ∈ run := List.mem_of_mem_head? head
    have less : t.start < b.start := start ▸ laid.start_lt_start before (by simp [mem'])
    have whole := lies.range laid mem'
    have := laid.nonempty t' (by simp [mem'])
    constructor
    case mp => omega
    case mpr =>
      rintro (inside | ⟨_, same⟩)
      case inl => exact absurd (range inside).1 <| by omega
      case inr => omega
  case inr.inl =>
    have := range inside
    exact ⟨fun _ => .inl inside, fun _ => by omega⟩
  case inr.inr =>
    cases closed : b.closed
    case false =>
      rw [(lies.unclosed closed).1] at behind
      cases behind
    case true =>
      obtain ⟨brace, last, _, stop⟩ := lies.closed closed
      have mem' : brace ∈ run := List.mem_of_mem_getLast? last
      have own : Laid length (run ++ post) := laid.sublist <| by simp
      have le : b.stop ≤ t.start := stop ▸ own.stop_le_start mem' behind
      have := lies.range laid mem'
      have := own.nonempty brace (by simp [mem'])
      constructor
      case mp => exact fun h => .inr ⟨rfl, by omega⟩
      case mpr =>
        rintro (inside | ⟨_, same⟩)
        case inl => exact absurd (range inside).2 <| by omega
        case inr => omega

end Blocks

namespace Document

variable {d : Document} {b : Block}

theorem laid_ofText (uri text : String) :
    Laid (ofText uri text).length (ofText uri text).tokens :=
  laid_tokens text.toList

theorem liesIn_of_mem_registrations (mem : b ∈ d.registrations) :
    b.LiesIn d.length d.tokens :=
  (found_blocks d.tokens).liesIn b mem

theorem keyword_of_mem_registrations (mem : b ∈ d.registrations) :
    b.keyword = "REGISTER" :=
  (found_blocks d.tokens).keyword_eq b mem

theorem registrations_ordered (laid : Laid d.length d.tokens) :
    d.registrations.Pairwise fun b b' =>
      b.start < b'.start ∧ (b.closed = true → b.stop ≤ b'.start) :=
  (found_blocks d.tokens).ordered laid |>.imp fun ⟨start, stop⟩ => ⟨start, stop rfl⟩

end Document

end FlowIndex.Flow
