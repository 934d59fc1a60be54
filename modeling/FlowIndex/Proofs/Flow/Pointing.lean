import FlowIndex.Proofs.Flow.Cursor

namespace FlowIndex.Flow

variable {length o : Nat} {ts : List Token} {t : Token}

-- A token that is found reaches the cursor. The candidate is the only one that need not be among the
-- tokens that are left.
theorem of_tokenAt {candidate : Option Token} (found : tokenAt o candidate ts = some t) :
    candidate = some t ∨ t ∈ ts ∧ t.start ≤ o ∧ o ≤ t.stop := by
  induction ts generalizing candidate
  case nil => exact .inl found
  case cons u ts hi =>
    have later {candidate : Option Token} (found : tokenAt o candidate ts = some t) :
        candidate = some t ∨ t ∈ u :: ts ∧ t.start ≤ o ∧ o ≤ t.stop :=
      (hi found).imp_right fun ⟨mem, reaches⟩ => ⟨List.mem_cons_of_mem u mem, reaches⟩
    rw [tokenAt] at found
    split at found
    case isTrue => exact .inl found
    case isFalse started =>
      split at found
      case isTrue within =>
        have own : t = u → t ∈ u :: ts ∧ t.start ≤ o ∧ o ≤ t.stop := by
          rintro rfl
          exact ⟨List.mem_cons_self, by omega, by omega⟩
        split at found
        case isTrue =>
          cases candidate
          case none => exact .inr <| own (Option.some.inj found).symm
          case some => exact .inl found
        case isFalse => exact .inr <| own (Option.some.inj found).symm
      case isFalse =>
        split at found
        case isTrue ends =>
          obtain same | mem := later found
          case inl =>
            cases same
            rw [Bool.and_eq_true, decide_eq_true_eq] at ends
            exact .inr ⟨List.mem_cons_self, by omega, by omega⟩
          case inr => exact .inr mem
        case isFalse => exact later found

namespace Document

variable {d : Document} {p : Position} {start stop : Nat} {name : Token}

-- What a cursor can point at, with the token under it.
inductive Meant (d : Document) (p : Position) : Target → Prop
  -- The struct of an entry that can be read inside a registration block.
  | struct {b : Block} {pre post : List Token} {operator : Token} {e : Entry}
      (block : b ∈ d.registrations) (tokens : d.tokens = pre ++ operator :: post)
      (inside : operator ∈ b.tokens d.tokens) (ident : operator.isIdent "OPERATOR" = true)
      (read : Entry.read? b.name.value operator post = some e)
      (covers : d.Covers (d.tokenSpan e.struct) p) :
    Meant d p ⟨.struct, e.struct.value, d.nameSpan e.struct⟩
  -- The name of an expansion.
  | fragment {name : Token} {start stop : Nat} (expansion :
      ⟨name.value, d.lines.span start stop, d.nameSpan name⟩ ∈ d.expansions)
      (covers : d.Covers (d.tokenSpan name) p) :
    Meant d p ⟨.fragment, name.value, d.nameSpan name⟩
  | keyword {t : Token} (mem : t ∈ d.tokens) (ident : t.kind = .ident)
      (reserved : isKeyword t.value = true) (covers : d.Covers (d.tokenSpan t) p) :
    Meant d p ⟨.keyword, t.value, d.tokenSpan t⟩
  -- Any other identifier outside the registration blocks.
  | operator {t : Token} (mem : t ∈ d.tokens) (ident : t.kind = .ident)
      (free : isKeyword t.value = false) (outside : ∀ b ∈ d.registrations, t ∉ b.tokens d.tokens)
      (covers : d.Covers (d.tokenSpan t) p) :
    Meant d p ⟨.operator, t.value, d.tokenSpan t⟩

section Targets

variable (laid : Laid d.lines.length d.tokens)
include laid

theorem covers_of_nameSpan (mem : t ∈ d.tokens) (covers : d.Covers (d.nameSpan t) p) :
    d.Covers (d.tokenSpan t) p := by
  have positive := laid.nonempty t mem
  have within := laid.within t mem
  have last : (if t.closed then t.stop - 1 else t.stop) ≤ t.stop := by
    split <;> omega
  obtain ⟨first, reaches⟩ := covers
  rw [nameSpan, LineIndex.span, LineIndex.offset_position (by omega)] at first
  rw [nameSpan, LineIndex.span, LineIndex.offset_position (by omega)] at reaches
  exact covers_iff laid mem |>.mpr ⟨by omega, by omega⟩

theorem meant_of_mem_entries (same : d.length = d.lines.length) {e : Entry} (mem : e ∈ d.entries)
    (covers : d.Covers (d.tokenSpan e.struct) p) :
    d.Meant p ⟨.struct, e.struct.value, d.nameSpan e.struct⟩ := by
  obtain ⟨b, hb, mem⟩ := List.mem_flatMap.mp mem
  obtain ⟨pre, operator, post, tokens, encloses, ident, read⟩ := mem_entriesIn_iff.mp mem
  have known : operator ∈ d.tokens := by simp [tokens]
  rw [← same] at laid
  rw [Block.encloses, Bool.and_eq_true, decide_eq_true_eq, decide_eq_true_eq] at encloses
  have inside : b.contains operator.start = true := by
    simp only [Block.contains, Bool.and_eq_true, decide_eq_true_eq]
    omega
  -- A block contains what stands directly behind it as well, but it does not enclose it.
  have own := (liesIn_of_mem_registrations hb).contains_iff laid known |>.mp inside
  refine .struct hb tokens (own.resolve_right ?_) ident read covers
  rintro ⟨_, stop⟩
  omega

theorem meant_of_targetOf (same : d.length = d.lines.length) {target : Target} (mem : t ∈ d.tokens)
    (covers : d.Covers (d.tokenSpan t) p) (stands : d.targetOf t = some target) :
    d.Meant p target := by
  unfold targetOf at stands
  split at stands
  case h_1 =>
    split at stands
    case isTrue own =>
      obtain ⟨e, he, start⟩ := List.any_eq_true.mp own
      obtain ⟨pre, t', lpar, path, comma, comma', post, tokens, _⟩ := mem_entries he
      have mem' : e.struct ∈ d.tokens := by simp [tokens]
      cases laid.eq_of_start mem' mem (of_decide_eq_true start)
      cases stands
      exact meant_of_mem_entries laid same he covers
    case isFalse =>
      split at stands
      case isTrue own =>
        obtain ⟨⟨name, start, stop⟩, found, same⟩ := List.any_eq_true.mp own
        obtain ⟨pre, u, lpar, rpar, post, tokens, _⟩ := mem_expansionsIn found
        have mem' : name ∈ d.tokens := by simp [tokens]
        cases laid.eq_of_start mem' mem (of_decide_eq_true same)
        cases stands
        exact .fragment (List.mem_map_of_mem found) covers
      case isFalse => cases stands
  case h_2 ident =>
    split at stands
    case isTrue reserved =>
      cases stands
      exact .keyword mem ident reserved covers
    case isFalse free =>
      split at stands
      case isTrue => cases stands
      case isFalse outside =>
        cases stands
        refine .operator mem ident (by simpa using free) (fun b hb own => outside ?_) covers
        rw [← same] at laid
        rw [inRegistration_eq laid mem]
        exact Bool.or_eq_true _ _ |>.mpr <| .inl <|
          List.any_eq_true.mpr ⟨b, hb, decide_eq_true own⟩
  case h_3 => cases stands

end Targets

-- Cursors point at what a document declares and uses, and at nothing else.
structure Points (d : Document) : Prop where
  -- A cursor can stand at each offset of the text.
  places : ∀ o ≤ d.length, d.lines.offset (d.lines.position o) = o
  structs : ∀ e ∈ d.entries, ∀ p, d.Covers (d.nameSpan e.struct) p →
    d.targetAt p = some ⟨.struct, e.struct.value, d.nameSpan e.struct⟩
  fragments : ∀ x ∈ d.expansions, ∀ p, d.Covers x.nameSpan p →
    d.targetAt p = some ⟨.fragment, x.name, x.nameSpan⟩
  operators : ∀ call ∈ d.calls, ∀ p, d.Covers call.span p →
    d.targetAt p = some ⟨.operator, call.name, call.span⟩
  meant : ∀ p target, d.targetAt p = some target → d.Meant p target

theorem points_ofText (uri text : String) : (ofText uri text).Points := by
  have laid := laid_ofText uri text
  refine ⟨fun o within => LineIndex.offset_position within, ?structs, ?fragments, ?operators, ?meant⟩
  case structs =>
    intro e he p covers
    obtain ⟨pre, t, lpar, path, comma, comma', post, tokens, _⟩ := mem_entries he
    exact targetAt_struct laid he <| covers_of_nameSpan laid (by simp [tokens]) covers
  case fragments =>
    intro x hx p covers
    obtain ⟨⟨name, start, stop⟩, found, rfl⟩ := List.mem_map.mp hx
    obtain ⟨pre, t, lpar, rpar, post, tokens, _⟩ := mem_expansionsIn found
    exact targetAt_expansion laid found <| covers_of_nameSpan laid (by simp [tokens]) covers
  case operators => exact fun call mem p covers => targetAt_call laid mem covers
  case meant =>
    intro p target points
    obtain ⟨t, found, stands⟩ := Option.bind_eq_some_iff.mp points
    obtain ⟨⟨⟩⟩ | ⟨mem, le, within⟩ := of_tokenAt found
    exact meant_of_targetOf laid rfl mem (covers_iff laid mem |>.mpr ⟨le, within⟩) stands

end Document

end FlowIndex.Flow
