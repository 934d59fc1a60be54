import FlowIndex.Proofs.Flow.Braces
import FlowIndex.Proofs.Flow.Cursor

namespace FlowIndex.Flow

variable {length : Nat} {ts pre pre' body body' rest : List Token}
variable {t t' name name' brace : Token} {keyword keyword' : String} {b : Block}

section Heads

theorem blockHeader?_eq_some_iff : blockHeader? ts = some (name, body) ↔
    ∃ lpar rpar lbrace, ts = lpar :: name :: rpar :: lbrace :: body ∧ lpar.isPunct '(' = true ∧
      name.isName = true ∧ rpar.isPunct ')' = true ∧ lbrace.isPunct '{' = true := by
  constructor
  case mp =>
    intro h
    obtain ⟨lpar, rpar, lbrace, rfl⟩ := blockHeader?_eq h
    simp only [blockHeader?, Option.ite_none_right_eq_some, Bool.and_eq_true] at h
    exact ⟨lpar, rpar, lbrace, rfl, h.1.1.1.1, h.1.1.2, h.1.1.1.2, h.1.2⟩
  case mpr =>
    rintro ⟨lpar, rpar, lbrace, rfl, hl, hn, hr, hb⟩
    simp [blockHeader?, hl, hn, hr, hb]

-- A keyword with its header, and the tokens in front of it and behind its opening brace.
structure Headed (keyword : String) (ts pre : List Token) (t name : Token) (body : List Token) :
    Prop where
  ident : t.isIdent keyword = true
  split : ∃ post, ts = pre ++ t :: post ∧ blockHeader? post = some (name, body)

-- The tokens through the opening brace, as they are spelled.
structure Header (keyword : String) (t lpar name rpar lbrace : Token) : Prop where
  ident : t.isIdent keyword = true
  opening : lpar.isPunct '(' = true
  named : name.isName = true
  closing : rpar.isPunct ')' = true
  brace : lbrace.isPunct '{' = true

theorem headed_iff : Headed keyword ts pre t name body ↔ ∃ lpar rpar lbrace,
    ts = pre ++ t :: lpar :: name :: rpar :: lbrace :: body ∧
      Header keyword t lpar name rpar lbrace := by
  constructor
  case mp =>
    rintro ⟨ident, _, rfl, header⟩
    obtain ⟨lpar, rpar, lbrace, rfl, hl, hn, hr, hb⟩ := blockHeader?_eq_some_iff.mp header
    exact ⟨lpar, rpar, lbrace, rfl, ident, hl, hn, hr, hb⟩
  case mpr =>
    rintro ⟨lpar, rpar, lbrace, rfl, ident, hl, hn, hr, hb⟩
    exact ⟨ident, _, rfl, blockHeader?_eq_some_iff.mpr ⟨lpar, rpar, lbrace, rfl, hl, hn, hr, hb⟩⟩

theorem closingBrace?_header (header : blockHeader? ts = some (name, body)) (depth : Nat) :
    closingBrace? depth ts =
      (closingBrace? 0 body).bind fun (_, rest) => closingBrace? depth rest := by
  obtain ⟨lpar, rpar, lbrace, rfl, hl, hn, hr, hb⟩ := blockHeader?_eq_some_iff.mp header
  have string (c : Char) : name.isPunct c = false := by
    simp [Word.isPunct, Word.kind_of_isName hn]
  have left {c : Char} (ne : '(' ≠ c) := Word.isPunct_eq_false hl ne
  have right {c : Char} (ne : ')' ≠ c) := Word.isPunct_eq_false hr ne
  rw [closingBrace?_other (left (by decide)) (left (by decide)),
    closingBrace?_other (string _) (string _),
    closingBrace?_other (right (by decide)) (right (by decide)), closingBrace?_group hb]

-- The block that a header starts.
def Block.ofHeader (keyword : String) (length : Nat) (t name : Token) (body : List Token) : Block :=
  match closingBrace? 0 body with
  | none => { keyword, name, start := t.start, stop := length, closed := false }
  | some (brace, _) => { keyword, name, start := t.start, stop := brace.stop, closed := true }

theorem Block.start_ofHeader : (Block.ofHeader keyword length t name body).start = t.start := by
  rw [ofHeader]
  split <;> rfl

theorem Block.name_ofHeader : (Block.ofHeader keyword length t name body).name = name := by
  rw [ofHeader]
  split <;> rfl

theorem Block.ofHeader_open (h : closingBrace? 0 body = none) :
    Block.ofHeader keyword length t name body =
      { keyword, name, start := t.start, stop := length, closed := false } := by
  simp only [ofHeader, h]

theorem Block.ofHeader_closed (h : closingBrace? 0 body = some (brace, rest)) :
    Block.ofHeader keyword length t name body =
      { keyword, name, start := t.start, stop := brace.stop, closed := true } := by
  simp only [ofHeader, h]

theorem Headed.append (head : Headed keyword ts pre t name body) (front : List Token) :
    Headed keyword (front ++ ts) (front ++ pre) t name body := by
  obtain ⟨ident, post, rfl, header⟩ := head
  exact ⟨ident, post, (List.append_assoc ..).symm, header⟩

theorem exists_headed {nested : Bool} (mem : b ∈ blocks keyword nested length ts) :
    ∃ pre t name body, Headed keyword ts pre t name body ∧
      b = Block.ofHeader keyword length t name body := by
  fun_induction blocks keyword nested length ts
  case case1 => cases mem
  case case2 t ts _ _ hi =>
    obtain ⟨pre, t', name, body, head, rfl⟩ := hi mem
    exact ⟨_, t', name, body, head.append [t], rfl⟩
  case case3 t ts ident name body header closing hi =>
    obtain rfl | mem := List.mem_cons.mp mem
    case inl =>
      exact ⟨[], t, name, body, ⟨ident, ts, rfl, header⟩, (Block.ofHeader_open closing).symm⟩
    case inr =>
      obtain ⟨lpar, rpar, lbrace, rfl⟩ := blockHeader?_eq header
      obtain ⟨pre, t', name', body', head, rfl⟩ := hi mem
      exact ⟨_, t', name', body', head.append [t, lpar, name, rpar, lbrace], rfl⟩
  case case4 t ts ident name body header brace rest closing hi =>
    obtain rfl | mem := List.mem_cons.mp mem
    case inl =>
      exact ⟨[], t, name, body, ⟨ident, ts, rfl, header⟩, (Block.ofHeader_closed closing).symm⟩
    case inr =>
      obtain ⟨lpar, rpar, lbrace, rfl⟩ := blockHeader?_eq header
      obtain ⟨_, inner, rfl⟩ := closingBrace?_eq closing
      obtain ⟨pre, t', name', body', head, rfl⟩ := hi mem
      let front := [t, lpar, name, rpar, lbrace]
      cases nested
      case false =>
        have head := head.append <| front ++ (inner ++ [brace])
        exact ⟨_, t', name', body', by simpa [front] using head, rfl⟩
      case true => exact ⟨_, t', name', body', head.append front, rfl⟩
  case case5 t ts _ hi =>
    obtain ⟨pre, t', name, body, head, rfl⟩ := hi mem
    exact ⟨_, t', name, body, head.append [t], rfl⟩

theorem Word.kind_of_isIdent {w : Word} (h : w.isIdent keyword = true) : w.kind = .ident := by
  simp only [isIdent, Bool.and_eq_true, decide_eq_true_eq] at h
  exact h.1

theorem ne_of_isPunct {c c' : Char} (mark : t.isPunct c = true) (mark' : t'.isPunct c' = true)
    (ne : c ≠ c') : t ≠ t' := by
  rintro rfl
  rw [Word.isPunct_eq_false mark ne] at mark'
  cases mark'

theorem ne_of_kind {c : Char} (mark : t.isPunct c = true) (word : t'.kind ≠ .punct) : t ≠ t' := by
  rintro rfl
  exact word <| Word.kind_of_isPunct mark

theorem ne_of_isName {c : Char} (mark : t.isPunct c = true) (named : t'.isName = true) : t ≠ t' :=
  ne_of_kind mark <| by simp [Word.kind_of_isName named]

theorem ne_of_isIdent {c : Char} (mark : t.isPunct c = true) (ident : t'.isIdent keyword = true) :
    t ≠ t' :=
  ne_of_kind mark <| by simp [Word.kind_of_isIdent ident]

-- A token that is none of the first ones stands behind them.
theorem exists_mid {xs ys zs post : List Token} (same : xs ++ ys = zs ++ t :: post)
    (none : t ∉ xs) : ∃ mid, zs = xs ++ mid ∧ ys = mid ++ t :: post := by
  obtain ⟨mid, rfl, rest⟩ | ⟨mid, rfl, rest⟩ := List.append_eq_append_iff.mp same
  case inl => exact ⟨mid, rfl, rest⟩
  case inr =>
    cases mid
    case nil => exact ⟨[], by simp, rest.symm⟩
    case cons u mid =>
      cases rest
      simp at none

-- A header holds no identifier but its keyword, so that the next header stands behind its brace.
theorem Headed.skip (header : blockHeader? ts = some (name', body'))
    (head : Headed keyword ts pre t name body) :
    ∃ mid, Headed keyword body' mid t name body := by
  obtain ⟨ident, post, rfl, own⟩ := head
  obtain ⟨lpar, rpar, lbrace, tokens, hl, hn, hr, hb⟩ := blockHeader?_eq_some_iff.mp header
  have kind : t ∉ [lpar, name', rpar, lbrace] := by
    have named : t ≠ name' := by
      rintro rfl
      simp [Word.isIdent, Word.kind_of_isName hn] at ident
    simp [(ne_of_isIdent hl ident).symm, named, (ne_of_isIdent hr ident).symm,
      (ne_of_isIdent hb ident).symm]
  have same : [lpar, name', rpar, lbrace] ++ body' = pre ++ t :: post := tokens.symm
  obtain ⟨mid, rfl, split⟩ := exists_mid same kind
  exact ⟨mid, ident, post, split, own⟩

theorem Headed.behind (head : Headed keyword ts pre t name body)
    (head' : Headed keyword' ts pre' t' name' body') (less : pre.length < pre'.length) :
    ∃ front mid, ts = front ++ body ∧ t ∈ front ∧ Headed keyword' body mid t' name' body' := by
  obtain ⟨_, post, rfl, header⟩ := head
  obtain ⟨ident', post', split, header'⟩ := head'
  obtain ⟨front, rfl, tokens⟩ | ⟨front, rfl, _⟩ := List.append_eq_append_iff.mp split
  case inr =>
    rw [List.length_append] at less
    omega
  case inl =>
    cases front
    case nil => simp at less
    case cons u front =>
      obtain ⟨rfl, rfl⟩ := List.cons.inj tokens
      obtain ⟨mid, inside⟩ := Headed.skip header ⟨ident', post', rfl, header'⟩
      obtain ⟨lpar, rpar, lbrace, tokens⟩ := blockHeader?_eq header
      rw [tokens]
      exact ⟨pre ++ [t, lpar, name, rpar, lbrace], mid, by simp, by simp, inside⟩

theorem Headed.mem (head : Headed keyword ts pre t name body) : t ∈ ts := by
  obtain ⟨_, _, rfl, _⟩ := head
  simp

theorem Headed.place {inner : List Token} (mark : brace.isPunct '}' = true)
    (head : Headed keyword (inner ++ brace :: rest) pre t name body) :
    t ∈ inner ∨ ∃ mid, Headed keyword rest mid t name body := by
  obtain ⟨ident, post, split, header⟩ := head
  by_cases before : t ∈ inner
  case pos => exact .inl before
  case neg =>
    have other : t ≠ brace := (ne_of_isIdent mark ident).symm
    have tokens : (inner ++ [brace]) ++ rest = pre ++ t :: post := by simp [← split]
    obtain ⟨mid, _, rfl⟩ := exists_mid tokens <| by simp [before, other]
    exact .inr ⟨mid, ident, post, rfl, header⟩

end Heads

section Found

theorem Laid.behind_header (laid : Laid length (t :: ts))
    (header : blockHeader? ts = some (name, body)) : Laid length body := by
  obtain ⟨lpar, rpar, lbrace, rfl⟩ := blockHeader?_eq header
  exact laid.sublist <| List.sublist_append_right [t, lpar, name, rpar, lbrace] body

theorem Laid.between_header {inner : List Token} (laid : Laid length (t :: ts))
    (header : blockHeader? ts = some (name, inner ++ brace :: rest)) (mem : t' ∈ inner) :
    t.start < t'.start ∧ t'.start < brace.stop := by
  have inside := laid.behind_header header
  obtain ⟨lpar, rpar, lbrace, rfl⟩ := blockHeader?_eq header
  have first : Laid length ([t, lpar, name, rpar, lbrace] ++ (inner ++ brace :: rest)) := laid
  have last : brace ∈ brace :: rest := List.mem_cons_self
  have start := inside.start_lt_start mem last
  have positive := inside.nonempty brace (by simp)
  exact ⟨first.start_lt_start List.mem_cons_self (by simp [mem]), by omega⟩

theorem Headed.cons_cases (head : Headed keyword (t' :: ts) pre t name body) :
    t' = t ∧ blockHeader? ts = some (name, body) ∨ ∃ pre', Headed keyword ts pre' t name body := by
  obtain ⟨ident, post, split, header⟩ := head
  cases pre
  case nil =>
    obtain ⟨rfl, rfl⟩ := List.cons.inj split
    exact .inl ⟨rfl, header⟩
  case cons u pre =>
    obtain ⟨rfl, rfl⟩ := List.cons.inj split
    exact .inr ⟨pre, ident, post, rfl, header⟩

-- A block is among others, or it starts in a closed one of them and blocks do not nest.
def Block.Covered (nested : Bool) (bs : List Block) (b : Block) : Prop :=
  b ∈ bs ∨ nested = false ∧ ∃ b' ∈ bs, b'.closed = true ∧ b'.encloses b.start = true

theorem Block.Covered.cons {nested : Bool} {bs : List Block} (h : b.Covered nested bs)
    (b' : Block) : b.Covered nested (b' :: bs) :=
  h.imp (List.mem_cons_of_mem _) fun ⟨flat, b, mem, closed⟩ =>
    ⟨flat, b, List.mem_cons_of_mem _ mem, closed⟩

-- The block of each header is found, unless its keyword stands where none is looked for.
theorem Headed.covered (nested : Bool) (laid : Laid length ts)
    (head : Headed keyword ts pre t name body) :
    (Block.ofHeader keyword length t name body).Covered nested
      (blocks keyword nested length ts) := by
  have own := head.ident
  fun_induction blocks keyword nested length ts generalizing pre
  case case1 =>
    obtain ⟨_, post, split, _⟩ := head
    simp at split
  case case2 t' ts _ none hi =>
    obtain ⟨rfl, header⟩ | ⟨pre, head⟩ := head.cons_cases
    case inl => simp [none] at header
    case inr => exact hi (laid.sublist <| List.sublist_cons_self ..) head
  case case3 t' ts _ name' body' header' closing hi =>
    obtain ⟨rfl, header⟩ | ⟨pre, head⟩ := head.cons_cases
    case inl =>
      cases header'.symm.trans header
      rw [Block.ofHeader_open closing]
      exact .inl List.mem_cons_self
    case inr =>
      obtain ⟨mid, head⟩ := head.skip header'
      exact (hi (laid.behind_header header') head).cons _
  case case4 t' ts _ name' body' header' brace rest closing hi =>
    obtain ⟨rfl, header⟩ | ⟨pre, head⟩ := head.cons_cases
    case inl =>
      cases header'.symm.trans header
      rw [Block.ofHeader_closed closing]
      exact .inl List.mem_cons_self
    case inr =>
      obtain ⟨mid, head⟩ := head.skip header'
      have inside := laid.behind_header header'
      cases nested
      case true => exact (hi inside head).cons _
      case false =>
        obtain ⟨mark, inner, rfl⟩ := closingBrace?_eq closing
        obtain member | ⟨mid, behind⟩ := head.place mark
        case inl =>
          refine .inr ⟨rfl, _, List.mem_cons_self, rfl, ?_⟩
          simpa [Block.encloses, Block.start_ofHeader] using laid.between_header header' member
        case inr =>
          have later : Laid length rest := inside.sublist <| by simp
          exact (hi later behind).cons _
  case case5 t' ts other hi =>
    obtain ⟨rfl, _⟩ | ⟨pre, head⟩ := head.cons_cases
    case inl => exact absurd own other
    case inr => exact hi (laid.sublist <| List.sublist_cons_self ..) head

end Found

end FlowIndex.Flow
