import FlowIndex.Proofs.Flow.Extent

namespace FlowIndex.Flow

variable {ts ts' rest : List Token} {t brace : Token}

-- Tokens among which the braces come in pairs.
inductive Balanced : List Token → Prop
  | nil : Balanced []
  | cons {t : Token} {ts : List Token} (opening : t.isPunct '{' = false)
      (closing : t.isPunct '}' = false) (later : Balanced ts) : Balanced (t :: ts)
  | group {lbrace rbrace : Token} {inner ts : List Token} (opening : lbrace.isPunct '{' = true)
      (closing : rbrace.isPunct '}' = true) (inside : Balanced inner) (later : Balanced ts) :
    Balanced (lbrace :: (inner ++ rbrace :: ts))

theorem Word.isPunct_eq_false {w : Word} {c c' : Char} (h : w.isPunct c = true) (ne : c ≠ c') :
    w.isPunct c' = false := by
  simp only [isPunct, Bool.and_eq_true, decide_eq_true_eq] at h
  simp [isPunct, h, ne]

theorem closingBrace?_opening (opening : t.isPunct '{' = true) (depth : Nat) (ts : List Token) :
    closingBrace? depth (t :: ts) = closingBrace? (depth + 1) ts := by
  simp [closingBrace?, opening]

theorem closingBrace?_closing (closing : t.isPunct '}' = true) (ts : List Token) :
    closingBrace? 0 (t :: ts) = some (t, ts) ∧
      ∀ depth, closingBrace? (depth + 1) (t :: ts) = closingBrace? depth ts := by
  have other := Word.isPunct_eq_false closing (show '}' ≠ '{' by decide)
  simp [closingBrace?, closing, other]

theorem closingBrace?_other (opening : t.isPunct '{' = false) (closing : t.isPunct '}' = false)
    (depth : Nat) (ts : List Token) :
    closingBrace? depth (t :: ts) = closingBrace? depth ts := by
  simp [closingBrace?, opening, closing]

theorem Balanced.closingBrace?_append (balanced : Balanced ts) (depth : Nat) (rest : List Token) :
    closingBrace? depth (ts ++ rest) = closingBrace? depth rest := by
  induction balanced generalizing depth rest
  case nil => rfl
  case cons opening closing _ hi =>
    rw [List.cons_append, closingBrace?_other opening closing]
    exact hi depth rest
  case group opening closing _ _ inside later =>
    rw [List.cons_append, List.append_assoc, closingBrace?_opening opening, inside,
      List.cons_append, (closingBrace?_closing closing _).2]
    exact later depth rest

theorem closingBrace?_add (inner outer : Nat) (ts : List Token) :
    closingBrace? (inner + (outer + 1)) ts =
      (closingBrace? inner ts).bind fun (_, rest) => closingBrace? outer rest := by
  induction ts generalizing inner
  case nil => simp [closingBrace?]
  case cons t ts hi =>
    cases opening : t.isPunct '{'
    case true =>
      rw [closingBrace?_opening opening, closingBrace?_opening opening, Nat.add_right_comm]
      exact hi (inner + 1)
    case false =>
      cases closing : t.isPunct '}'
      case true =>
        obtain ⟨last, further⟩ := closingBrace?_closing closing ts
        rw [← Nat.add_assoc, further]
        cases inner
        case zero => rw [last, Nat.zero_add]; rfl
        case succ inner =>
          rw [further, Nat.add_right_comm]
          exact hi inner
      case false =>
        rw [closingBrace?_other opening closing, closingBrace?_other opening closing]
        exact hi inner

theorem closingBrace?_group (opening : t.isPunct '{' = true) (depth : Nat) (ts : List Token) :
    closingBrace? depth (t :: ts) =
      (closingBrace? 0 ts).bind fun (_, rest) => closingBrace? depth rest := by
  rw [closingBrace?_opening opening, ← closingBrace?_add, Nat.zero_add]

theorem balanced_of_closingBrace? {ts : List Token} {brace : Token} {rest : List Token}
    (h : closingBrace? 0 ts = some (brace, rest)) :
    ∃ inner, Balanced inner ∧ ts = inner ++ brace :: rest := by
  match ts with
  | [] => simp [closingBrace?] at h
  | t :: ts =>
    cases opening : t.isPunct '{'
    case true =>
      rw [closingBrace?_group opening] at h
      obtain ⟨⟨rbrace, later⟩, first, second⟩ := Option.bind_eq_some_iff.mp h
      have shorter := length_lt_of_closingBrace? first
      obtain ⟨closing, _⟩ := closingBrace?_eq first
      obtain ⟨inner, inside, rfl⟩ := balanced_of_closingBrace? first
      obtain ⟨inner', outside, rfl⟩ := balanced_of_closingBrace? second
      exact ⟨t :: (inner ++ rbrace :: inner'), .group opening closing inside outside, by simp⟩
    case false =>
      cases closing : t.isPunct '}'
      case true =>
        rw [(closingBrace?_closing closing ts).1] at h
        cases h
        exact ⟨[], .nil, rfl⟩
      case false =>
        rw [closingBrace?_other opening closing] at h
        obtain ⟨inner, balanced, rfl⟩ := balanced_of_closingBrace? h
        exact ⟨t :: inner, .cons opening closing balanced, rfl⟩
termination_by ts.length
decreasing_by
  all_goals simp only [List.length_cons] at *
  all_goals omega

theorem Balanced.closes (balanced : Balanced (t :: ts)) (opening : t.isPunct '{' = true)
    (rest : List Token) :
    ∃ brace later, closingBrace? 0 (ts ++ rest) = some (brace, later ++ rest) := by
  cases balanced
  case cons other _ _ => simp [opening] at other
  case group brace inner later closing inside _ _ =>
    refine ⟨brace, later, ?_⟩
    rw [List.append_assoc, inside.closingBrace?_append, List.cons_append]
    exact (closingBrace?_closing closing _).1

theorem closingBrace?_behind {depth : Nat}
    (h : closingBrace? depth (ts ++ ts') = some (brace, rest))
    (shorter : rest.length < ts'.length) :
    ∃ depth, closingBrace? depth ts' = some (brace, rest) := by
  induction ts generalizing depth
  case nil => exact ⟨depth, h⟩
  case cons t ts hi =>
    rw [List.cons_append] at h
    cases opening : t.isPunct '{'
    case true =>
      rw [closingBrace?_opening opening] at h
      exact hi h
    case false =>
      cases closing : t.isPunct '}'
      case true =>
        obtain ⟨last, further⟩ := closingBrace?_closing closing (ts ++ ts')
        cases depth
        case zero =>
          rw [last] at h
          cases h
          rw [List.length_append] at shorter
          omega
        case succ depth =>
          rw [further] at h
          exact hi h
      case false =>
        rw [closingBrace?_other opening closing] at h
        exact hi h

theorem closes_of_prefix {front : List Token} (opening : t.isPunct '{' = true)
    (before : front <+: t :: ts) (filled : front ≠ []) (balanced : Balanced front) :
    ∃ brace later more, front ++ more = t :: ts ∧
      closingBrace? 0 ts = some (brace, later ++ more) := by
  obtain ⟨more, whole⟩ := before
  cases front
  case nil => exact absurd rfl filled
  case cons t' front =>
    obtain ⟨rfl, rfl⟩ := List.cons.inj whole
    obtain ⟨brace, later, closing⟩ := balanced.closes opening more
    exact ⟨brace, later, more, rfl, closing⟩

end FlowIndex.Flow
