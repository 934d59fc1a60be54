import FlowIndex.Flow.Cursor
import FlowIndex.Proofs.Flow.Calls
import FlowIndex.Proofs.Flow.Operators

namespace FlowIndex.Flow

variable {length o : Nat} {ts pre pre' post post' : List Token} {t t' name next : Token}

section Places

theorem Laid.split_eq (laid : Laid length (pre ++ t :: post))
    (same : pre ++ t :: post = pre' ++ t' :: post') (start : t.start = t'.start) :
    pre = pre' ∧ t = t' ∧ post = post' := by
  induction pre generalizing pre'
  case nil =>
    cases pre'
    case nil =>
      obtain ⟨head, tail⟩ := List.cons.inj same
      exact ⟨rfl, head, tail⟩
    case cons p pre' =>
      obtain ⟨rfl, rfl⟩ := List.cons.inj same
      have before : t.start < t'.start := List.rel_of_pairwise_cons laid.starts (by simp)
      exact absurd start <| Nat.ne_of_lt before
  case cons p pre hi =>
    cases pre'
    case nil =>
      obtain ⟨rfl, rfl⟩ := List.cons.inj same
      have before : p.start < t.start := List.rel_of_pairwise_cons laid.starts (by simp)
      exact absurd start <| Nat.ne_of_gt before
    case cons p' pre' =>
      obtain ⟨rfl, later⟩ := List.cons.inj same
      obtain ⟨rfl, rest⟩ := hi (laid.sublist <| List.sublist_cons_self ..) later
      exact ⟨rfl, rest⟩

theorem Laid.eq_of_start (laid : Laid length ts) (ht : t ∈ ts) (ht' : t' ∈ ts)
    (start : t.start = t'.start) : t = t' := by
  obtain ⟨pre, post, rfl⟩ := List.append_of_mem ht
  obtain ⟨pre', post', same⟩ := List.append_of_mem ht'
  exact (laid.split_eq same start).2.1

-- Tokens that end before the cursor are passed over, and one that ends at it gives way to a word
-- that starts there. The mark behind a word gives way to the word.
theorem tokenAt_eq {candidate : Option Token} (laid : Laid length (pre ++ t :: next :: post))
    (word : t.kind ≠ .punct) (mark : next.kind = .punct) (le : t.start ≤ o) (within : o ≤ t.stop) :
    tokenAt o candidate (pre ++ t :: next :: post) = some t := by
  induction pre generalizing candidate
  case nil =>
    have behind : t.stop ≤ next.start := List.rel_of_pairwise_cons laid.ordered List.mem_cons_self
    have positive : next.start < next.stop := laid.nonempty next (by simp)
    rw [List.nil_append, tokenAt, if_neg (Nat.not_lt.mpr le), if_neg word]
    split
    case isTrue => rfl
    case isFalse reached =>
      have stop : t.stop = o := by omega
      rw [if_pos (by simp [stop, word]), tokenAt, if_pos mark]
      split
      case isTrue => rfl
      case isFalse => exact if_pos (by omega)
  case cons p pre hi =>
    have before : p.stop ≤ t.start := List.rel_of_pairwise_cons laid.ordered (by simp)
    have positive : p.start < p.stop := laid.nonempty p (by simp)
    have rest := laid.sublist <| List.sublist_cons_self p (pre ++ t :: next :: post)
    rw [List.cons_append, tokenAt, if_neg (by omega), if_neg (by omega), hi rest, hi rest, ite_self]

end Places

section Names

theorem Word.kind_of_isPunct {w : Word} {c : Char} (h : w.isPunct c = true) : w.kind = .punct := by
  simp [Word.isPunct] at h
  exact h.1

theorem Word.kind_of_isName {w : Word} (h : w.isName = true) : w.kind = .string := by
  simp [Word.isName] at h
  exact h.1.1

theorem mem_zip_tail (mem : (t, next) ∈ ts.zip ts.tail) :
    ∃ pre post, ts = pre ++ t :: next :: post := by
  induction ts
  case nil => cases mem
  case cons u ts hi =>
    cases ts
    case nil => cases mem
    case cons u' ts =>
      obtain same | mem := List.mem_cons.mp mem
      case inl =>
        cases same
        exact ⟨[], ts, rfl⟩
      case inr =>
        obtain ⟨pre, post, tokens⟩ := hi mem
        exact ⟨u :: pre, post, congrArg (u :: ·) tokens⟩

theorem nameArgument?_eq {rpar : Token} (h : nameArgument? ts = some (name, rpar)) :
    ∃ lpar post, ts = lpar :: name :: rpar :: post ∧ lpar.isPunct '(' = true ∧
      rpar.isPunct ')' = true ∧ name.isName = true := by
  unfold nameArgument? at h
  split at h
  case h_1 lpar arg rpar post =>
    split at h
    case isTrue shape =>
      cases h
      rw [Bool.and_eq_true, Bool.and_eq_true, and_assoc] at shape
      exact ⟨lpar, post, rfl, shape⟩
    case isFalse => cases h
  case h_2 => cases h

theorem Entry.struct_of_read? {package : String} {e : Entry}
    (h : Entry.read? package t ts = some e) :
    ∃ lpar path comma comma' post, ts = lpar :: path :: comma :: e.struct :: comma' :: post ∧
      comma.isPunct ',' = true ∧ comma'.isPunct ',' = true ∧ e.struct.isName = true := by
  unfold Entry.read? at h
  grind

theorem mem_entriesIn_iff {b : Block} {e : Entry} : e ∈ entriesIn b ts ↔
    ∃ pre t post, ts = pre ++ t :: post ∧ b.encloses t.start = true ∧
      t.isIdent "OPERATOR" = true ∧ Entry.read? b.name.value t post = some e := by
  induction ts
  case nil => simp [entriesIn]
  case cons t ts hi =>
    let Own := b.encloses t.start = true ∧ t.isIdent "OPERATOR" = true ∧
      Entry.read? b.name.value t ts = some e
    have head : e ∈ entriesIn b (t :: ts) ↔ Own ∨ e ∈ entriesIn b ts := by
      have inside : (b.start < t.start && t.start < b.stop) = b.encloses t.start := rfl
      rw [entriesIn, inside]
      grind
    rw [head, hi]
    constructor
    case mp =>
      rintro (own | ⟨pre, u, post, rfl, rest⟩)
      case inl => exact ⟨[], t, ts, rfl, own⟩
      case inr => exact ⟨t :: pre, u, post, rfl, rest⟩
    case mpr =>
      rintro ⟨pre, u, post, tokens, rest⟩
      cases pre
      case nil =>
        cases tokens
        exact .inl rest
      case cons v pre =>
        cases tokens
        exact .inr ⟨pre, u, post, rfl, rest⟩

end Names

namespace Document

variable {d : Document} {p : Position} {start start' stop stop' : Nat}

theorem mem_calledIn (mem : t ∈ calledIn ts) :
    ∃ pre next post, ts = pre ++ t :: next :: post ∧ t.kind = .ident ∧ next.isPunct '(' = true := by
  rw [calledIn_eq] at mem
  obtain ⟨⟨t, next⟩, found, rfl⟩ := List.mem_map.mp mem
  obtain ⟨neighbours, called⟩ := List.mem_filter.mp found
  obtain ⟨pre, post, tokens⟩ := mem_zip_tail neighbours
  exact ⟨pre, next, post, tokens, by simpa using called⟩

theorem mem_expansionsIn (mem : (name, start, stop) ∈ expansionsIn ts) :
    ∃ pre t lpar rpar post, ts = pre ++ t :: lpar :: name :: rpar :: post ∧ t.start = start ∧
      rpar.stop = stop ∧ lpar.isPunct '(' = true ∧ rpar.isPunct ')' = true ∧
      name.isName = true := by
  induction ts
  case nil => cases mem
  case cons t ts hi =>
    have later (mem : (name, start, stop) ∈ expansionsIn ts) :
        ∃ pre u lpar rpar post, t :: ts = pre ++ u :: lpar :: name :: rpar :: post ∧
          u.start = start ∧ rpar.stop = stop ∧ lpar.isPunct '(' = true ∧
          rpar.isPunct ')' = true ∧ name.isName = true := by
      obtain ⟨pre, u, lpar, rpar, post, tokens, rest⟩ := hi mem
      exact ⟨t :: pre, u, lpar, rpar, post, congrArg (t :: ·) tokens, rest⟩
    unfold expansionsIn at mem
    split at mem
    case isTrue =>
      split at mem
      case h_1 name' rpar named =>
        obtain same | mem := List.mem_cons.mp mem
        case inl =>
          cases same
          obtain ⟨lpar, post, rfl, shape⟩ := nameArgument?_eq named
          exact ⟨[], t, lpar, rpar, post, rfl, rfl, rfl, shape⟩
        case inr => exact later mem
      case h_2 => exact later mem
    case isFalse => exact later mem

theorem mem_entries {e : Entry} (mem : e ∈ d.entries) :
    ∃ pre t lpar path comma comma' post,
      d.tokens = pre ++ t :: lpar :: path :: comma :: e.struct :: comma' :: post ∧
        t.start = e.start ∧ comma.isPunct ',' = true ∧ comma'.isPunct ',' = true ∧
        e.struct.isName = true := by
  obtain ⟨b, _, mem⟩ := List.mem_flatMap.mp mem
  obtain ⟨pre, t, post, tokens, _, _, read⟩ := mem_entriesIn_iff.mp mem
  obtain ⟨lpar, path, comma, comma', post, rfl, shape⟩ := Entry.struct_of_read? read
  exact ⟨pre, t, lpar, path, comma, comma', post, tokens, (Entry.start_of_read? read).symm, shape⟩

section Unique

variable (laid : Laid d.lines.length d.tokens)
include laid

theorem tokenSpan_injective (ht : t ∈ d.tokens) (ht' : t' ∈ d.tokens)
    (same : d.tokenSpan t = d.tokenSpan t') : t = t' := by
  refine laid.eq_of_start ht ht' ?_
  exact LineIndex.position_injective (laid.start_le ht) (laid.start_le ht') <|
    congrArg Span.start same

theorem call_eq_of_span {c c' : Call} (mem : c ∈ d.calls) (mem' : c' ∈ d.calls)
    (same : c.span = c'.span) : c = c' := by
  obtain ⟨t, found, rfl⟩ := List.mem_map.mp mem
  obtain ⟨t', found', rfl⟩ := List.mem_map.mp mem'
  have token {t : Token} (called : t ∈ calledIn d.tokens) : t ∈ d.tokens := by
    obtain ⟨pre, next, post, tokens, _⟩ := mem_calledIn called
    simp [tokens]
  rw [tokenSpan_injective laid (token (List.mem_filter.mp found).1)
    (token (List.mem_filter.mp found').1) same]

theorem expansion_name_eq (mem : (name, start, stop) ∈ expansionsIn d.tokens)
    (mem' : (t, start', stop') ∈ expansionsIn d.tokens)
    (same : d.lines.position start = d.lines.position start') : name = t := by
  obtain ⟨pre, u, lpar, rpar, post, tokens, rfl, _⟩ := mem_expansionsIn mem
  obtain ⟨pre', u', lpar', rpar', post', tokens', rfl, _⟩ := mem_expansionsIn mem'
  have start : u.start = u'.start :=
    LineIndex.position_injective (laid.start_le <| by simp [tokens])
      (laid.start_le <| by simp [tokens']) same
  rw [tokens] at laid tokens'
  obtain ⟨_, _, behind⟩ := laid.split_eq tokens' start
  cases behind
  rfl

theorem entry_struct_eq {e e' : Entry} (mem : e ∈ d.entries) (mem' : e' ∈ d.entries)
    (same : d.lines.position e.start = d.lines.position e'.start) : e.struct = e'.struct := by
  obtain ⟨pre, t, lpar, path, comma, comma₁, post, tokens, start, _⟩ := mem_entries mem
  obtain ⟨pre', t', lpar', path', comma', comma₁', post', tokens', start', _⟩ := mem_entries mem'
  rw [← start, ← start'] at same
  have start : t.start = t'.start :=
    LineIndex.position_injective (laid.start_le <| by simp [tokens])
      (laid.start_le <| by simp [tokens']) same
  rw [tokens] at laid tokens'
  obtain ⟨_, _, behind⟩ := laid.split_eq tokens' start
  injection behind with _ behind
  injection behind with _ behind
  injection behind with _ behind
  exact (List.cons.inj behind).1

theorem struct_start_ne_name_start {e : Entry} (mem : e ∈ d.entries)
    (mem' : (name, start, stop) ∈ expansionsIn d.tokens) : e.struct.start ≠ name.start := by
  intro same
  obtain ⟨pre, t, lpar, path, comma, comma', post, tokens, _, hc, _⟩ := mem_entries mem
  obtain ⟨pre', t', lpar', rpar, post', tokens', _, _, hl, _⟩ := mem_expansionsIn mem'
  have split : d.tokens = (pre ++ [t, lpar, path, comma]) ++ e.struct :: comma' :: post := by
    simpa using tokens
  have split' : d.tokens = (pre' ++ [t', lpar']) ++ name :: rpar :: post' := by
    simpa using tokens'
  rw [split] at laid split'
  have before := congrArg List.getLast? (laid.split_eq split' same).1
  simp at before
  rw [before] at hc
  simp [Word.isPunct] at hc hl
  exact absurd (hc.2.symm.trans hl.2) (by decide)

end Unique

-- Whether a position stands in a span, both of its ends included.
def Covers (d : Document) (s : Span) (p : Position) : Prop :=
  d.lines.offset s.start ≤ d.lines.offset p ∧ d.lines.offset p ≤ d.lines.offset s.stop

instance (d : Document) (s : Span) (p : Position) : Decidable (d.Covers s p) :=
  inferInstanceAs (Decidable (_ ∧ _))

section Targets

variable (laid : Laid d.lines.length d.tokens)
include laid

theorem covers_iff (mem : t ∈ d.tokens) : d.Covers (d.tokenSpan t) p ↔
    t.start ≤ d.lines.offset p ∧ d.lines.offset p ≤ t.stop := by
  rw [Covers, tokenSpan, LineIndex.span, LineIndex.offset_position <| laid.start_le mem,
    LineIndex.offset_position <| laid.within t mem]

theorem targetAt_eq (tokens : d.tokens = pre ++ t :: next :: post) (word : t.kind ≠ .punct)
    (mark : next.kind = .punct) (covers : d.Covers (d.tokenSpan t) p) :
    d.targetAt p = d.targetOf t := by
  have mem : t ∈ d.tokens := by simp [tokens]
  obtain ⟨le, within⟩ := covers_iff laid mem |>.mp covers
  rw [tokens] at laid
  rw [targetAt, tokens, tokenAt_eq laid word mark le within, Option.bind_some]

theorem targetAt_call {c : Call} (mem : c ∈ d.calls) (covers : d.Covers c.span p) :
    d.targetAt p = some ⟨.operator, c.name, c.span⟩ := by
  obtain ⟨t, found, rfl⟩ := List.mem_map.mp mem
  obtain ⟨called, free⟩ := List.mem_filter.mp found
  rw [Bool.and_eq_true, Bool.not_eq_true', Bool.not_eq_true'] at free
  obtain ⟨pre, next, post, tokens, ident, mark⟩ := mem_calledIn called
  have outside : d.inRegistration t.start = false := free.2
  rw [targetAt_eq laid tokens (by simp [ident]) (Word.kind_of_isPunct mark) covers]
  simp [targetOf, ident, free.1, outside]

theorem targetAt_expansion (mem : (name, start, stop) ∈ expansionsIn d.tokens)
    (covers : d.Covers (d.tokenSpan name) p) :
    d.targetAt p = some ⟨.fragment, name.value, d.nameSpan name⟩ := by
  have other : d.entries.any (·.struct.start = name.start) = false := by
    apply List.any_eq_false.mpr
    intro e he
    simpa using struct_start_ne_name_start laid he mem
  have own : (expansionsIn d.tokens).any (·.1.start = name.start) = true :=
    List.any_eq_true.mpr ⟨_, mem, decide_eq_true rfl⟩
  obtain ⟨pre, t, lpar, rpar, post, tokens, _, _, _, mark, named⟩ := mem_expansionsIn mem
  have split : d.tokens = (pre ++ [t, lpar]) ++ name :: rpar :: post := by simpa using tokens
  have string := Word.kind_of_isName named
  rw [targetAt_eq laid split (by simp [string]) (Word.kind_of_isPunct mark) covers]
  simp only [targetOf, string, other, own, if_true, Bool.false_eq_true, if_false]

theorem targetAt_struct {e : Entry} (mem : e ∈ d.entries)
    (covers : d.Covers (d.tokenSpan e.struct) p) :
    d.targetAt p = some ⟨.struct, e.struct.value, d.nameSpan e.struct⟩ := by
  have own : d.entries.any (·.struct.start = e.struct.start) = true :=
    List.any_eq_true.mpr ⟨e, mem, decide_eq_true rfl⟩
  obtain ⟨pre, t, lpar, path, comma, comma', post, tokens, _, _, mark, named⟩ := mem_entries mem
  have split : d.tokens = (pre ++ [t, lpar, path, comma]) ++ e.struct :: comma' :: post := by
    simpa using tokens
  have string := Word.kind_of_isName named
  rw [targetAt_eq laid split (by simp [string]) (Word.kind_of_isPunct mark) covers]
  simp only [targetOf, string, own, if_true]

end Targets

end Document

end FlowIndex.Flow
