import FlowIndex.Proofs.Flow.Cut
import FlowIndex.Proofs.Flow.Reading

namespace FlowIndex.Flow

variable {cs rest : List Char} {c : Char} {l l' : Lexeme} {ls pre post : List Lexeme}

section Rows

-- Lexemes each of which ends where the next one starts.
inductive Tiled : List Lexeme → Prop
  | nil : Tiled []
  | cons {c : Char} {cs : List Char} {l : Lexeme} {ls : List Lexeme}
      (cut : Cut c cs (l, ls.flatMap Lexeme.text)) (tiled : Tiled ls) : Tiled (l :: ls)

theorem tiled_cons_iff : Tiled (l :: ls) ↔
    (∃ c cs, Cut c cs (l, ls.flatMap Lexeme.text)) ∧ Tiled ls := by
  constructor
  case mp =>
    intro tiled
    cases tiled
    case cons later cut => exact ⟨⟨_, _, cut⟩, later⟩
  case mpr =>
    rintro ⟨⟨_, _, cut⟩, tiled⟩
    exact .cons cut tiled

theorem tiled_lexemes (cs : List Char) : Tiled (lexemes cs) := by
  fun_induction lexemes cs
  case case1 => exact .nil
  case case2 c cs split hi =>
    refine tiled_cons_iff.mpr ⟨⟨c, cs, ?_⟩, hi⟩
    rw [flatMap_text_lexemes]
    exact cut_splitLexeme c cs

theorem Tiled.lexemes_eq (tiled : Tiled ls) : lexemes (ls.flatMap Lexeme.text) = ls := by
  induction tiled
  case nil => rw [List.flatMap_nil, lexemes]
  case cons cut _ hi => rw [List.flatMap_cons, cut.text_append, lexemes, cut.eq, hi]

theorem Tiled.behind (tiled : Tiled (pre ++ ls)) : Tiled ls := by
  induction pre
  case nil => exact tiled
  case cons hi => exact hi (tiled_cons_iff.mp tiled).2

theorem Tiled.text_ne_nil (tiled : Tiled (l :: ls)) : l.text ≠ [] := by
  obtain ⟨⟨_, _, cut⟩, _⟩ := tiled_cons_iff.mp tiled
  exact cut.text_ne_nil

theorem Tiled.change {ls' : List Lexeme} (tiled : Tiled (l :: ls)) (later : Tiled ls')
    (ends : l.EndsAt (ls'.flatMap Lexeme.text)) : Tiled (l :: ls') := by
  obtain ⟨⟨_, _, cut⟩, _⟩ := tiled_cons_iff.mp tiled
  obtain ⟨_, cut⟩ := cut.change ends
  exact .cons cut later

theorem Tiled.endsAt (tiled : Tiled (l :: ls)) : l.EndsAt (ls.flatMap Lexeme.text) := by
  obtain ⟨⟨_, _, cut⟩, _⟩ := tiled_cons_iff.mp tiled
  exact cut.endsAt

theorem Tiled.exchange (tiled : Tiled (pre ++ l :: post)) (own : Tiled (l' :: post))
    (last : ∀ k ∈ pre.getLast?, k.EndsAt ((l :: post).flatMap Lexeme.text) →
      k.EndsAt ((l' :: post).flatMap Lexeme.text)) :
    Tiled (pre ++ l' :: post) := by
  induction pre
  case nil => exact own
  case cons k pre hi =>
    rw [List.cons_append] at tiled ⊢
    have ends := tiled.endsAt
    have inner := (tiled_cons_iff.mp tiled).2
    obtain _ | ⟨k', pre⟩ := pre
    case nil => exact tiled.change own <| last k rfl ends
    case cons =>
      refine tiled.change (hi inner last) ?_
      obtain ⟨d, ds, text⟩ := List.exists_cons_of_ne_nil inner.text_ne_nil
      have filled : (pre ++ l :: post).flatMap Lexeme.text ≠ [] := by
        have inner : Tiled ((k' :: pre) ++ l :: post) := inner
        have own := inner.behind.text_ne_nil
        simp [own]
      rw [List.cons_append, List.flatMap_cons, text, List.cons_append] at ends ⊢
      refine ends.head (fun lone => ?_) _
      exact List.append_ne_nil_of_right_ne_nil ds filled (List.cons.inj lone).2

end Rows

section Tokens

variable {o : Nat} {w : Word} {t : Token} {ts ts' : List Token}

theorem Lexeme.eq_punct (word : l.word? = some w) (mark : w.isPunct c = true) : l = .punct c := by
  cases l
  case blank | comment => cases word
  case punct c' =>
    cases word
    have same : String.singleton c' = String.singleton c := by simpa [Word.isPunct] using mark
    simpa using congrArg String.toList same
  all_goals
    cases word
    simp [Word.isPunct] at mark

-- The lexeme that a token is read from, and the lexemes in front of it.
structure ReadFrom (o : Nat) (t : Token) (pre : List Lexeme) (l : Lexeme) : Prop where
  word : l.word? = some t.toWord
  start : t.start = o + width pre
  stop : t.stop = t.start + l.text.length

theorem exists_readFrom (tokens : tokensFrom o ls = ts ++ t :: ts') : ∃ pre l post,
    ls = pre ++ l :: post ∧ ReadFrom o t pre l ∧ tokensFrom o pre = ts ∧
      tokensFrom t.stop post = ts' := by
  induction ls generalizing o ts
  case nil => simp [tokensFrom] at tokens
  case cons k ls hi =>
    have later {ts : List Token} (tokens : tokensFrom (o + k.text.length) ls = ts ++ t :: ts') :
        ∃ pre l post, k :: ls = (k :: pre) ++ l :: post ∧ ReadFrom o t (k :: pre) l ∧
          tokensFrom (o + k.text.length) pre = ts ∧ tokensFrom t.stop post = ts' := by
      obtain ⟨pre, l, post, rfl, own, before, behind⟩ := hi tokens
      refine ⟨pre, l, post, rfl, ⟨own.word, ?_, own.stop⟩, before, behind⟩
      rw [own.start, width_cons, Nat.add_assoc]
    rw [tokensFrom] at tokens
    cases word : k.word?
    case none =>
      rw [word] at tokens
      obtain ⟨pre, l, post, row, own, before, behind⟩ := later tokens
      exact ⟨k :: pre, l, post, row, own, by rw [tokensFrom, word, before], behind⟩
    case some w =>
      rw [word] at tokens
      obtain _ | ⟨u, ts⟩ := ts
      case nil =>
        obtain ⟨rfl, behind⟩ := List.cons.inj tokens
        exact ⟨[], k, ls, rfl, ⟨word, rfl, rfl⟩, rfl, behind⟩
      case cons =>
        obtain ⟨rfl, rest⟩ := List.cons.inj tokens
        obtain ⟨pre, l, post, row, own, before, behind⟩ := later rest
        exact ⟨k :: pre, l, post, row, own, by rw [tokensFrom, word, before], behind⟩

end Tokens

end FlowIndex.Flow
