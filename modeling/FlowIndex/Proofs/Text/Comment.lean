import FlowIndex.Text.Comment

namespace FlowIndex.Text

variable {c : Char} {cs : List Char}

theorem splitComment_cons (other : ∀ cs', c = '*' → cs ≠ '/' :: cs') :
    splitComment (c :: cs) = (c :: (splitComment cs).1, (splitComment cs).2) := by
  rw [splitComment]
  exact other

theorem splitComment_append_end (inside : ¬['*', '/'] <:+: cs ++ ['*']) (rest : List Char) :
    splitComment (cs ++ '*' :: '/' :: rest) = (cs ++ ['*', '/'], rest) := by
  induction cs
  case nil => rfl
  case cons c cs hi =>
    have later : ¬['*', '/'] <:+: cs ++ ['*'] := fun found => inside <| found.trans <|
      (List.suffix_cons c _).isInfix
    have ahead : ∀ cs', c = '*' → cs ++ '*' :: '/' :: rest ≠ '/' :: cs' := by
      rintro cs' rfl same
      cases cs
      case nil => cases same
      case cons d cs =>
        cases same
        exact inside ⟨[], cs ++ ['*'], rfl⟩
    rw [List.cons_append, splitComment_cons ahead, hi later, List.cons_append]

theorem splitComment_cases (cs : List Char) :
    (∃ body, (splitComment cs).1 = body ++ ['*', '/'] ∧ ¬['*', '/'] <:+: body ++ ['*']) ∨
      splitComment cs = (cs, []) ∧ ¬['*', '/'] <:+: cs := by
  fun_induction splitComment cs
  case case1 => exact .inr ⟨rfl, by decide⟩
  case case2 => exact .inl ⟨[], rfl, by decide⟩
  case case3 c cs other text rest split hi =>
    rw [split] at hi
    have first {tail : List Char} (head : tail.head? = some '/' → cs.head? = some '/')
        (later : ¬['*', '/'] <:+: tail) : ¬['*', '/'] <:+: c :: tail := by
      intro inside
      obtain start | inside := List.infix_cons_iff.mp inside
      case inr => exact later inside
      case inl =>
        obtain ⟨behind, same⟩ := start
        obtain ⟨rfl, rfl⟩ := List.cons.inj same
        obtain ⟨cs', rfl⟩ := List.head?_eq_some_iff.mp <| head rfl
        exact other cs' rfl rfl
    have whole := splitComment_append cs
    rw [split] at whole
    obtain ⟨body, rfl, none⟩ | ⟨same, none⟩ := hi
    case inl =>
      refine .inl ⟨c :: body, rfl, first (fun slash => ?_) none⟩
      rw [← whole]
      cases body
      case nil => cases slash
      case cons => exact slash
    case inr =>
      obtain ⟨rfl, rfl⟩ := Prod.mk.inj same
      exact .inr ⟨rfl, first id none⟩

-- What a block comment takes does not depend on what comes behind its end mark.
theorem splitComment_change {rest : List Char} (ends : ¬['*', '/'] <:+ (splitComment cs).1 → rest = []) :
    splitComment ((splitComment cs).1 ++ rest) = ((splitComment cs).1, rest) := by
  obtain ⟨body, split, first⟩ | ⟨whole, none⟩ := splitComment_cases cs
  case inl =>
    rw [split, List.append_assoc]
    exact splitComment_append_end first rest
  case inr =>
    rw [whole] at ends ⊢
    rw [ends fun ended => none ended.isInfix, List.append_nil, whole]

end FlowIndex.Text
