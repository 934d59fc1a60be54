import FlowIndex.Proofs.Flow.Headers

namespace FlowIndex.Flow

variable {length : Nat} {ts pre post : List Token} {t : Token} {b : Block} {e : Entry}
variable {package : String}

-- The arguments of an entry, and the parenthesis behind them.
structure Arguments where
  path : Token
  struct : Token
  name : Option Token
  sequence : Token
  rpar : Token

variable {a : Arguments}

section Grammar

-- The arguments of an entry, from the opening parenthesis through the closing one.
inductive Spelled : List Token → Arguments → Prop
  | unnamed {lpar path comma₁ struct comma₂ sequence rpar : Token}
      (opening : lpar.isPunct '(' = true) (path_name : path.isName = true)
      (apart₁ : comma₁.isPunct ',' = true) (struct_name : struct.isName = true)
      (apart₂ : comma₂.isPunct ',' = true) (number : sequence.kind = .number)
      (closing : rpar.isPunct ')' = true) :
    Spelled [lpar, path, comma₁, struct, comma₂, sequence, rpar]
      { path, struct, name := none, sequence, rpar }
  | named {lpar path comma₁ struct comma₂ name comma₃ sequence rpar : Token}
      (opening : lpar.isPunct '(' = true) (path_name : path.isName = true)
      (apart₁ : comma₁.isPunct ',' = true) (struct_name : struct.isName = true)
      (apart₂ : comma₂.isPunct ',' = true) (name_name : name.isName = true)
      (apart₃ : comma₃.isPunct ',' = true) (number : sequence.kind = .number)
      (closing : rpar.isPunct ')' = true) :
    Spelled [lpar, path, comma₁, struct, comma₂, name, comma₃, sequence, rpar]
      { path, struct, name := some name, sequence, rpar }

def Arguments.entry (a : Arguments) (package : String) (operator : Token) : Entry where
  package := package
  path := a.path
  struct := a.struct
  name := a.name
  sequence := a.sequence
  start := operator.start
  stop := a.rpar.stop

theorem Spelled.read? (spelled : Spelled ts a) (package : String) (t : Token) (post : List Token) :
    Entry.read? package t (ts ++ post) = some (a.entry package t) := by
  cases spelled
  case unnamed opening path apart₁ struct apart₂ number closing =>
    simp [Entry.read?, Arguments.entry, opening, path, apart₁, struct, apart₂, number, closing]
  case named opening path apart₁ struct apart₂ name apart₃ number closing =>
    have other := Word.kind_of_isName name
    simp [Entry.read?, Arguments.entry, opening, path, apart₁, struct, apart₂, other, name, apart₃,
      number, closing]

theorem spelled_of_read? (h : Entry.read? package t ts = some e) :
    ∃ args post a, ts = args ++ post ∧ Spelled args a ∧ e = a.entry package t := by
  unfold Entry.read? at h
  split at h
  case h_2 => cases h
  case h_1 lpar path comma₁ struct comma₂ third next rest =>
    obtain ⟨shape, h⟩ := Option.ite_none_right_eq_some.mp h
    simp only [Bool.and_eq_true] at shape
    obtain ⟨⟨⟨⟨opening, path_name⟩, apart₁⟩, struct_name⟩, apart₂⟩ := shape
    split at h
    case isTrue last =>
      simp only [Bool.and_eq_true, decide_eq_true_eq] at last
      cases h
      exact ⟨[lpar, path, comma₁, struct, comma₂, third, next], rest, _, rfl,
        .unnamed opening path_name apart₁ struct_name apart₂ last.1 last.2, rfl⟩
    case isFalse =>
      split at h
      case h_2 => cases h
      case h_1 sequence rpar rest _ =>
        obtain ⟨shape, same⟩ := Option.ite_none_right_eq_some.mp h
        simp only [Bool.and_eq_true, decide_eq_true_eq] at shape
        obtain ⟨⟨⟨name_name, apart₃⟩, number⟩, closing⟩ := shape
        cases same
        exact ⟨[lpar, path, comma₁, struct, comma₂, third, next, sequence, rpar], rest, _, rfl,
          .named opening path_name apart₁ struct_name apart₂ name_name apart₃ number closing, rfl⟩

theorem Spelled.notMem_of_isPunct {brace : Token} (spelled : Spelled ts a)
    (mark : brace.isPunct '}' = true) : brace ∉ ts := by
  have digits {t : Token} (h : t.kind = .number) : brace ≠ t := ne_of_kind mark <| by simp [h]
  have left {t : Token} (h : t.isPunct '(' = true) : brace ≠ t := ne_of_isPunct mark h (by decide)
  have comma {t : Token} (h : t.isPunct ',' = true) : brace ≠ t := ne_of_isPunct mark h (by decide)
  have right {t : Token} (h : t.isPunct ')' = true) : brace ≠ t := ne_of_isPunct mark h (by decide)
  have string {t : Token} (h : t.isName = true) : brace ≠ t := ne_of_isName mark h
  cases spelled
  case unnamed opening path apart₁ struct apart₂ number closing =>
    simp [left opening, string path, comma apart₁, string struct, comma apart₂, digits number,
      right closing]
  case named opening path apart₁ struct apart₂ name apart₃ number closing =>
    simp [left opening, string path, comma apart₁, string struct, comma apart₂, string name,
      comma apart₃, digits number, right closing]

theorem Spelled.mem (spelled : Spelled ts a) : a.struct ∈ ts ∧ a.rpar ∈ ts := by
  cases spelled <;> simp

end Grammar

section Inside

theorem mem_entriesIn_iff_spelled : e ∈ entriesIn b ts ↔ ∃ pre t args post a,
    ts = pre ++ t :: (args ++ post) ∧ t.isIdent "OPERATOR" = true ∧ b.encloses t.start = true ∧
      Spelled args a ∧ e = a.entry b.name.value t := by
  rw [mem_entriesIn_iff]
  constructor
  case mp =>
    rintro ⟨pre, t, post, rfl, inside, ident, read⟩
    obtain ⟨args, post, a, rfl, spelled, rfl⟩ := spelled_of_read? read
    exact ⟨pre, t, args, post, a, rfl, ident, inside, spelled, rfl⟩
  case mpr =>
    rintro ⟨pre, t, args, post, a, rfl, ident, inside, spelled, rfl⟩
    exact ⟨pre, t, args ++ post, rfl, inside, ident, spelled.read? b.name.value t post⟩

-- The brace that closes a block stands behind all that follows a token of the block and holds no
-- such brace.
theorem Block.LiesIn.stop_le {args : List Token} (lies : b.LiesIn length ts)
    (laid : Laid length ts) (tokens : ts = pre ++ t :: (args ++ post))
    (ident : t.isIdent "OPERATOR" = true) (inside : b.encloses t.start = true)
    (free : ∀ brace : Token, brace.isPunct '}' = true → brace ∉ args) :
    ∀ u ∈ args, b.start < u.start ∧ u.stop ≤ b.stop := by
  intro u mem
  obtain ⟨start, stop⟩ : b.start < t.start ∧ t.start < b.stop := by
    simpa [Block.encloses] using inside
  rw [tokens] at laid
  have later : t.start < u.start := by
    have own : Laid length ([t] ++ (args ++ post)) := laid.sublist <| by simp
    exact own.start_lt_start List.mem_cons_self <| by simp [mem]
  refine ⟨by omega, ?_⟩
  obtain ⟨_, run, _, split, lies⟩ := lies
  cases closed : b.closed
  case false =>
    rw [(lies.unclosed closed).2]
    exact laid.within u <| by simp [mem]
  case true =>
    obtain ⟨brace, last, mark, stop_eq⟩ := lies.closed closed
    have place : brace ∈ pre ++ t :: (args ++ post) := by
      rw [← tokens, split]
      simp [List.mem_of_mem_getLast? last]
    have positive := laid.nonempty brace place
    simp only [List.mem_append, List.mem_cons] at place
    obtain before | rfl | among | behind := place
    case inl =>
      have own : t ∈ t :: (args ++ post) := List.mem_cons_self
      have := laid.stop_le_start before own
      omega
    case inr.inl => exact absurd rfl <| ne_of_isIdent mark ident
    case inr.inr.inl => exact absurd among <| free brace mark
    case inr.inr.inr =>
      have own : Laid length (args ++ post) := laid.sublist <| by simp
      have := own.stop_le_start mem behind
      omega

end Inside

namespace Document

variable {d : Document}

-- How the entries of a text follow from its tokens.
structure Grammatical (d : Document) : Prop where
  collected_iff : ∀ pre t post, d.tokens = pre ++ t :: post → t.isIdent "OPERATOR" = true →
    ((∃ e ∈ d.entries, e.start = t.start) ↔
      (∃ b ∈ d.registrations, b.encloses t.start = true) ∧
        ∃ args rest a, post = args ++ rest ∧ Spelled args a)
  mem_iff : ∀ e, e ∈ d.entries ↔ ∃ b ∈ d.registrations, ∃ pre t args post a,
    d.tokens = pre ++ t :: (args ++ post) ∧ t.isIdent "OPERATOR" = true ∧
      b.encloses t.start = true ∧ Spelled args a ∧ e = a.entry b.name.value t
  inside : ∀ b ∈ d.registrations, ∀ pre t args post a, d.tokens = pre ++ t :: (args ++ post) →
    t.isIdent "OPERATOR" = true → b.encloses t.start = true → Spelled args a →
    (∀ u ∈ args, b.start < u.start ∧ u.stop ≤ b.stop) ∧
      b.start < (a.entry b.name.value t).start ∧ (a.entry b.name.value t).stop ≤ b.stop
  operator_named : ∀ operators, d.operators = .ok operators →
    d.entries.Forall₂ (fun e o => o.name = (e.name.getD e.struct).value ∧
      o.struct = e.struct.value ∧ o.span = d.lines.span e.start e.stop) operators

theorem mem_entries_iff : e ∈ d.entries ↔ ∃ b ∈ d.registrations, ∃ pre t args post a,
    d.tokens = pre ++ t :: (args ++ post) ∧ t.isIdent "OPERATOR" = true ∧
      b.encloses t.start = true ∧ Spelled args a ∧ e = a.entry b.name.value t := by
  simp only [← mem_entriesIn_iff_spelled]
  exact List.mem_flatMap

theorem tokens_of_mem_entries (mem : e ∈ d.entries) : e.struct ∈ d.tokens ∧
    (∃ t ∈ d.tokens, t.start = e.start) ∧ ∃ t ∈ d.tokens, t.stop = e.stop := by
  obtain ⟨b, _, pre, t, args, post, a, tokens, _, _, spelled, rfl⟩ := mem_entries_iff.mp mem
  obtain ⟨struct, rpar⟩ := spelled.mem
  have among {u : Token} (mem : u ∈ args) : u ∈ d.tokens := by simp [tokens, mem]
  exact ⟨among struct, ⟨t, by simp [tokens], rfl⟩, a.rpar, among rpar, rfl⟩

theorem name_of_operatorOf {o : Operator} (ok : d.operatorOf e = .ok o) :
    o.name = (e.name.getD e.struct).value := by
  rw [operatorOf] at ok
  cases read : Text.readNumber e.sequence.value.toList
  case error =>
    rw [read] at ok
    cases ok
  case ok =>
    rw [read] at ok
    cases ok
    rfl

theorem grammatical_ofText (uri text : String) : (ofText uri text).Grammatical := by
  have laid := laid_ofText uri text
  generalize ofText uri text = d at laid
  constructor
  case collected_iff =>
    intro pre t post tokens ident
    constructor
    case mp =>
      rintro ⟨e, mem, start⟩
      obtain ⟨b, hb, pre', t', args, rest, a, tokens', _, inside, spelled, rfl⟩ :=
        mem_entries_iff.mp mem
      rw [tokens] at laid tokens'
      obtain ⟨_, rfl, rfl⟩ := laid.split_eq tokens' start.symm
      exact ⟨⟨b, hb, inside⟩, args, rest, a, rfl, spelled⟩
    case mpr =>
      rintro ⟨⟨b, hb, inside⟩, args, rest, a, rfl, spelled⟩
      exact ⟨_, mem_entries_iff.mpr ⟨b, hb, pre, t, args, rest, a, tokens, ident, inside, spelled,
        rfl⟩, rfl⟩
  case mem_iff => exact fun e => mem_entries_iff
  case inside =>
    intro b hb pre t args post a tokens ident inside spelled
    have range := (liesIn_of_mem_registrations hb).stop_le laid tokens ident inside
      fun _ => spelled.notMem_of_isPunct
    have first : b.start < t.start := by
      simp only [Block.encloses, Bool.and_eq_true, decide_eq_true_eq] at inside
      exact inside.1
    exact ⟨range, first, (range a.rpar spelled.mem.2).2⟩
  case operator_named =>
    intro operators ok
    exact (mapM_eq_ok_iff.mp ok).imp fun e o read =>
      ⟨name_of_operatorOf read, (of_operatorOf read).2⟩

end Document

end FlowIndex.Flow
