import FlowIndex.Proofs.Flow.Entries

namespace FlowIndex.Flow

variable {length depth : Nat} {keyword package : String} {nested : Bool}
variable {ts ts' pre post body rest : List Token} {t t' name brace q q' : Token}
variable {b : Block} {e : Entry} {a : Arguments}

section Relation

-- Whether a word is neither a mark nor a string.
def Word.IsPlain (w : Word) : Prop :=
  w.kind = .number ∨ w.kind = .ident

theorem Word.not_isPlain_of_isPunct {w : Word} {c : Char} (mark : w.isPunct c = true) :
    ¬w.IsPlain := by
  simp [IsPlain, kind_of_isPunct mark]

theorem Word.not_isPlain_of_isName {w : Word} (named : w.isName = true) : ¬w.IsPlain := by
  simp [IsPlain, kind_of_isName named]

theorem Word.IsPlain.isPunct {w : Word} (plain : w.IsPlain) (c : Char) : w.isPunct c = false :=
  Bool.eq_false_iff.mpr fun mark => not_isPlain_of_isPunct mark plain

-- Tokens that are alike but for numbers and identifiers in front of a closing parenthesis.
inductive Recast : List Token → List Token → Prop
  | nil : Recast [] []
  | same (t : Token) {ts ts' : List Token} (later : Recast ts ts') : Recast (t :: ts) (t :: ts')
  | other {t t' rpar : Token} {ts ts' : List Token} (plain : t.IsPlain) (plain' : t'.IsPlain)
      (start : t.start = t'.start) (closing : rpar.isPunct ')' = true) (later : Recast ts ts') :
    Recast (t :: rpar :: ts) (t' :: rpar :: ts')

namespace Recast

theorem refl (ts : List Token) : Recast ts ts := by
  induction ts
  case nil => exact .nil
  case cons t ts hi => exact .same t hi

theorem append (h : Recast ts ts') (pre : List Token) : Recast (pre ++ ts) (pre ++ ts') := by
  induction pre
  case nil => exact h
  case cons t pre hi => exact .same t hi

theorem symm (h : Recast ts ts') : Recast ts' ts := by
  induction h
  case nil => exact .nil
  case same t _ _ _ hi => exact .same t hi
  case other plain plain' start closing _ hi => exact .other plain' plain start.symm closing hi

variable (h : Recast ts ts')
include h

theorem kept (tokens : ts = t :: rest) (own : ¬t.IsPlain) :
    ∃ rest', ts' = t :: rest' ∧ Recast rest rest' := by
  cases h
  case nil => cases tokens
  case same later =>
    cases tokens
    exact ⟨_, rfl, later⟩
  case other plain _ _ _ _ =>
    cases tokens
    exact absurd plain own

theorem header (header : blockHeader? ts = some (name, body)) :
    ∃ body', blockHeader? ts' = some (name, body') ∧ Recast body body' := by
  obtain ⟨lpar, rpar, lbrace, rfl, opening, named, closing, brace⟩ :=
    blockHeader?_eq_some_iff.mp header
  obtain ⟨_, rfl, afterOpening⟩ := h.kept rfl <| Word.not_isPlain_of_isPunct opening
  obtain ⟨_, rfl, afterName⟩ := afterOpening.kept rfl <| Word.not_isPlain_of_isName named
  obtain ⟨_, rfl, afterClosing⟩ := afterName.kept rfl <| Word.not_isPlain_of_isPunct closing
  obtain ⟨body', rfl, later⟩ := afterClosing.kept rfl <| Word.not_isPlain_of_isPunct brace
  exact ⟨body', blockHeader?_eq_some_iff.mpr ⟨_, _, _, rfl, opening, named, closing, brace⟩, later⟩

theorem headless (header : blockHeader? ts = none) : blockHeader? ts' = none := by
  refine Option.eq_none_iff_forall_ne_some.mpr fun (name, body) other => ?_
  obtain ⟨_, own, _⟩ := h.symm.header other
  rw [header] at own
  cases own

theorem closing (search : closingBrace? depth ts = some (brace, rest)) :
    ∃ rest', closingBrace? depth ts' = some (brace, rest') ∧ Recast rest rest' := by
  induction h generalizing depth
  case nil => cases search
  case same t ts ts' later hi =>
    cases opening : t.isPunct '{'
    case true =>
      rw [closingBrace?_opening opening] at search ⊢
      exact hi search
    case false =>
      cases closing : t.isPunct '}'
      case true =>
        cases depth
        case zero =>
          rw [(closingBrace?_closing closing _).1] at search ⊢
          cases search
          exact ⟨ts', rfl, later⟩
        case succ depth =>
          rw [(closingBrace?_closing closing _).2] at search ⊢
          exact hi search
      case false =>
        rw [closingBrace?_other opening closing] at search ⊢
        exact hi search
  case other plain plain' _ closing _ hi =>
    have pass {c : Char} (ne : ')' ≠ c) := Word.isPunct_eq_false closing ne
    rw [closingBrace?_other (plain.isPunct _) (plain.isPunct _),
      closingBrace?_other (pass (by decide)) (pass (by decide))] at search
    rw [closingBrace?_other (plain'.isPunct _) (plain'.isPunct _),
      closingBrace?_other (pass (by decide)) (pass (by decide))]
    exact hi search

theorem unclosed (search : closingBrace? depth ts = none) : closingBrace? depth ts' = none := by
  refine Option.eq_none_iff_forall_ne_some.mpr fun (brace, rest) other => ?_
  obtain ⟨_, own, _⟩ := h.symm.closing other
  rw [search] at own
  cases own

omit h in
theorem headless_closing {rpar : Token} (closing : rpar.isPunct ')' = true) (ts : List Token) :
    blockHeader? (rpar :: ts) = none := by
  refine Option.eq_none_iff_forall_ne_some.mpr fun (name, body) header => ?_
  obtain ⟨_, _, _, same, opening, _⟩ := blockHeader?_eq_some_iff.mp header
  cases same
  exact ne_of_isPunct opening closing (by decide) rfl

omit h in
theorem blocks_passed (t : Token) (header : blockHeader? ts = none) :
    blocks keyword nested length (t :: ts) = blocks keyword nested length ts := by
  cases ident : t.isIdent keyword
  case true => exact blocks_headless ident header
  case false => rw [blocks, if_neg (Bool.eq_false_iff.mp ident)]

theorem blocks : Flow.blocks keyword nested length ts = Flow.blocks keyword nested length ts' := by
  fun_induction Flow.blocks keyword nested length ts generalizing ts'
  case case1 =>
    cases h
    rw [Flow.blocks]
  case case2 t ts ident header hi =>
    cases h with
    | same _ later => rw [blocks_passed t <| later.headless header, hi later]
    | other _ _ _ closing later => rw [hi <| .same _ later, blocks_passed _ <| headless_closing closing _]
  case case3 t ts ident name body header search hi =>
    cases h with
    | same _ later =>
      obtain ⟨body', header', inner⟩ := later.header header
      rw [blocks_open ident header' <| inner.unclosed search, hi inner]
    | other _ _ _ closing _ => cases header.symm.trans <| headless_closing closing _
  case case4 t ts ident name body header brace rest search hi =>
    cases h with
    | same _ later =>
      obtain ⟨body', header', inner⟩ := later.header header
      obtain ⟨rest', search', outer⟩ := inner.closing search
      rw [blocks_cons ident header' search']
      refine congrArg (List.cons _) ?_
      cases nested
      case false => exact hi outer
      case true => exact hi inner
    | other _ _ _ closing _ => cases header.symm.trans <| headless_closing closing _
  case case5 t ts ident hi =>
    cases h with
    | same _ later => rw [Flow.blocks, if_neg ident, hi later]
    | other _ _ _ closing later => rw [hi <| .same _ later, blocks_passed _ <| headless_closing closing _]

end Recast

end Relation

section Arguments

-- The arguments of an entry are marks and names but for the number, which stands before the closing
-- parenthesis and behind a comma.
theorem Spelled.number_last (spelled : Spelled ts a) : ∃ front comma,
    ts = front ++ [comma, a.sequence, a.rpar] ∧ comma.isPunct ',' = true ∧
      a.sequence.kind = .number ∧ a.rpar.isPunct ')' = true ∧ ∀ t ∈ front, ¬t.IsPlain := by
  have mark {t : Token} {c : Char} := Word.not_isPlain_of_isPunct (w := t.toWord) (c := c)
  have string {t : Token} := Word.not_isPlain_of_isName (w := t.toWord)
  cases spelled
  case unnamed lpar path comma₁ struct comma₂ _ _ opening path_name apart₁ struct_name apart₂ number
      closing =>
    refine ⟨[lpar, path, comma₁, struct], comma₂, rfl, apart₂, number, closing, ?_⟩
    simp [mark opening, string path_name, mark apart₁, string struct_name]
  case named lpar path comma₁ struct comma₂ name comma₃ _ _ opening path_name apart₁ struct_name apart₂
      name_name apart₃ number closing =>
    refine ⟨[lpar, path, comma₁, struct, comma₂, name], comma₃, rfl, apart₃, number, closing, ?_⟩
    simp [mark opening, string path_name, mark apart₁, string struct_name, mark apart₂,
      string name_name]

theorem Spelled.eq_sequence (spelled : Spelled ts a) (mem : t ∈ ts) (plain : t.IsPlain) :
    t = a.sequence ∧ t.kind = .number := by
  obtain ⟨front, comma, rfl, apart, number, closing, other⟩ := spelled.number_last
  simp only [List.mem_append, List.mem_cons, List.not_mem_nil, or_false] at mem
  obtain mem | rfl | rfl | rfl := mem
  case inl => exact absurd plain <| other t mem
  case inr.inl => exact absurd plain <| Word.not_isPlain_of_isPunct apart
  case inr.inr.inl => exact ⟨rfl, number⟩
  case inr.inr.inr => exact absurd plain <| Word.not_isPlain_of_isPunct closing

theorem read?_eq_some_iff : Entry.read? package t ts = some e ↔
    ∃ args post a, ts = args ++ post ∧ Spelled args a ∧ e = a.entry package t := by
  constructor
  case mp => exact spelled_of_read?
  case mpr =>
    rintro ⟨args, post, a, rfl, spelled, rfl⟩
    exact spelled.read? package t post

theorem Spelled.before {args more : List Token} (spelled : Spelled args a)
    (tokens : pre ++ q :: post = args ++ more) (plain : q.IsPlain) :
    (∃ inner, pre = args ++ inner ∧ more = inner ++ q :: post) ∨
      q = a.sequence ∧ q.kind = .number := by
  obtain ⟨inner, rfl, rest⟩ | ⟨inner, rfl, rest⟩ := List.append_eq_append_iff.mp tokens
  case inl =>
    obtain _ | ⟨t, inner⟩ := inner
    case nil => exact .inl ⟨[], by simp, rest.symm⟩
    case cons =>
      cases rest
      exact .inr <| spelled.eq_sequence (by simp) plain
  case inr => exact .inl ⟨inner, rfl, rest⟩

theorem Spelled.sequence_mem (spelled : Spelled ts a) : a.sequence ∈ ts := by
  obtain ⟨front, comma, rfl, _⟩ := spelled.number_last
  simp

-- With an identifier for a number, just the entry of this number cannot be read.
theorem read?_recast (number : q.kind = .number) (ident : q'.kind = .ident) (fresh : q ∉ pre) :
    Entry.read? package t (pre ++ q' :: post) =
      (Entry.read? package t (pre ++ q :: post)).filter (·.sequence ≠ q) := by
  refine Option.ext fun e => ?_
  simp only [Option.filter_eq_some_iff, read?_eq_some_iff, decide_eq_true_eq]
  constructor
  case mp =>
    rintro ⟨args, more, a, tokens, spelled, rfl⟩
    obtain ⟨inner, rfl, rfl⟩ | ⟨_, other⟩ := spelled.before tokens <| .inr ident
    case inl =>
      refine ⟨⟨args, inner ++ q :: post, a, by simp, spelled, rfl⟩, ?_⟩
      rintro rfl
      exact fresh <| List.mem_append_left inner spelled.sequence_mem
    case inr =>
      rw [ident] at other
      cases other
  case mpr =>
    rintro ⟨⟨args, more, a, tokens, spelled, rfl⟩, other⟩
    obtain ⟨inner, rfl, rfl⟩ | ⟨same, _⟩ := spelled.before tokens <| .inl number
    case inl => exact ⟨args, inner ++ q' :: post, a, by simp, spelled, rfl⟩
    case inr => exact absurd same.symm other

theorem sequence_mem_of_mem_entriesIn (mem : e ∈ entriesIn b ts) : e.sequence ∈ ts := by
  obtain ⟨pre, t, args, post, a, rfl, _, _, spelled, rfl⟩ := mem_entriesIn_iff_spelled.mp mem
  have own := spelled.sequence_mem
  simp [Arguments.entry, own]

theorem read?_closing {rpar : Token} (closing : rpar.isPunct ')' = true) (ts : List Token) :
    Entry.read? package t (rpar :: ts) = none := by
  refine Option.eq_none_iff_forall_ne_some.mpr fun e read => ?_
  obtain ⟨args, more, a, tokens, spelled, _⟩ := spelled_of_read? read
  cases spelled
  all_goals
    cases tokens
    exact ne_of_isPunct closing ‹rpar.isPunct '(' = true› (by decide) rfl

theorem entriesIn_passed (t : Token) (read : Entry.read? b.name.value t ts = none) :
    entriesIn b (t :: ts) = entriesIn b ts := by
  rw [entriesIn, read]
  exact ite_self _

theorem entriesIn_recast {rpar : Token} (number : q.kind = .number) (ident : q'.kind = .ident)
    (closing : rpar.isPunct ')' = true) (once : (pre ++ q :: rpar :: post).Nodup) :
    entriesIn b (pre ++ q' :: rpar :: post) =
      (entriesIn b (pre ++ q :: rpar :: post)).filter (·.sequence ≠ q) := by
  induction pre
  case nil =>
    rw [List.nil_append, List.nil_append, entriesIn_passed q' <| read?_closing closing post,
      entriesIn_passed q <| read?_closing closing post]
    refine (List.filter_eq_self.mpr fun e mem => decide_eq_true ?_).symm
    rintro rfl
    exact (List.nodup_cons.mp once).1 <| sequence_mem_of_mem_entriesIn mem
  case cons t pre hi =>
    rw [List.cons_append, List.nodup_cons] at once
    have fresh : q ∉ pre := fun mem =>
      (List.nodup_append.mp once.2).2.2 q mem q List.mem_cons_self rfl
    rw [List.cons_append, List.cons_append, entriesIn, entriesIn, read?_recast number ident fresh,
      hi once.2]
    split
    case isFalse => rfl
    case isTrue =>
      cases Entry.read? b.name.value t (pre ++ q :: rpar :: post)
      case none => rfl
      case some e =>
        rw [Option.filter_some, List.filter_cons]
        by_cases own : e.sequence = q
        case pos => simp [own]
        case neg => simp [own]

end Arguments

end FlowIndex.Flow
