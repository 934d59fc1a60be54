import FlowIndex.Proofs.Flow.Entries
import FlowIndex.Proofs.Flow.Nesting
import FlowIndex.Proofs.Flow.Tiling

namespace FlowIndex

namespace LineIndex

theorem position_le {index : LineIndex} {a b : Nat} (le : a ≤ b) (within : b ≤ index.length) :
    index.position a ≤ index.position b := by
  obtain rfl | less := Nat.eq_or_lt_of_le le
  case inl => exact Position.le_iff.mpr <| .inr ⟨rfl, Nat.le_refl _⟩
  case inr => exact (position_lt less within).1

end LineIndex

namespace Span

structure Within (s t : Span) : Prop where
  start : t.start ≤ s.start
  stop : s.stop ≤ t.stop

-- A span within another one, from which it is set off at both ends.
structure Inside (s t : Span) : Prop where
  start : t.start < s.start
  ordered : s.start ≤ s.stop
  stop : s.stop < t.stop

end Span

namespace Flow

variable {cs : List Char} {c : Char} {l : Lexeme} {w : Word} {t u : Token} {ts us : List Token}

-- The text in a span.
def slice (cs : List Char) (s : Span) : List Char :=
  cs.extract ((LineIndex.ofChars cs).offset s.start) ((LineIndex.ofChars cs).offset s.stop)

section Texts

theorem Lexeme.text_of_isIdent {s : String} (word : l.word? = some w) (ident : w.isIdent s = true) :
    l.text = s.toList := by
  cases l
  case blank | comment => cases word
  case ident cs =>
    cases word
    have same : String.ofList cs = s := by simpa [Word.isIdent] using ident
    rw [← same, String.toList_ofList]
    rfl
  all_goals
    cases word
    simp [Word.isIdent] at ident

theorem Lexeme.text_of_isName (word : l.word? = some w) (named : w.isName = true) :
    ∃ body, l.text = '"' :: (body ++ ['"']) ∧ unescape body = w.value.toList := by
  cases l
  case blank | comment => cases word
  case string body closed =>
    cases word
    have ends : closed = true := by
      simp [Word.isName] at named
      exact named.1
    rw [ends]
    exact ⟨body, rfl, String.toList_ofList.symm⟩
  all_goals
    cases word
    simp [Word.isName] at named

theorem extract_token (mem : t ∈ tokens cs) : ∃ l : Lexeme, l.word? = some t.toWord ∧
    t.stop = t.start + l.text.length ∧ cs.extract t.start t.stop = l.text := by
  obtain ⟨ts, us, tokens⟩ := List.append_of_mem mem
  obtain ⟨pre, l, post, row, own, _⟩ := exists_readFrom tokens
  refine ⟨l, own.word, own.stop, ?_⟩
  rw [own.stop, own.start, Nat.zero_add, width, ← flatMap_text_lexemes cs, row]
  simp

theorem extract_append {a b c : Nat} (le : a ≤ b) (le' : b ≤ c) :
    cs.extract a b ++ cs.extract b c = cs.extract a c := by
  have first : b = a + (b - a) := by omega
  have whole : c - a = (b - a) + (c - b) := by omega
  rw [List.extract_eq_take_drop, List.extract_eq_take_drop, List.extract_eq_take_drop, whole,
    List.take_add, List.drop_drop, ← first]

end Texts

section Tokens

variable (mem : t ∈ tokens cs)
include mem

theorem prefix_extract {s : String} {b : Nat} (ident : t.isIdent s = true) (le : t.stop ≤ b) :
    s.toList <+: cs.extract t.start b := by
  obtain ⟨l, word, stop, text⟩ := extract_token mem
  rw [← l.text_of_isIdent word ident, ← text, ← extract_append (by omega) le]
  exact List.prefix_append ..

theorem suffix_extract {a : Nat} (mark : t.isPunct c = true) (le : a ≤ t.start) :
    [c] <:+ cs.extract a t.stop := by
  obtain ⟨l, word, stop, text⟩ := extract_token mem
  rw [← Lexeme.text_punct c, ← Lexeme.eq_punct word mark, ← text, ← extract_append le (by omega)]
  exact List.suffix_append ..

theorem extract_name (named : t.isName = true) : t.start + 2 ≤ t.stop ∧
    unescape (cs.extract (t.start + 1) (t.stop - 1)) = t.value.toList := by
  obtain ⟨l, word, stop, text⟩ := extract_token mem
  obtain ⟨body, quotes, value⟩ := l.text_of_isName word named
  have length : t.stop - t.start = body.length + 2 := by
    rw [stop, quotes]
    simp
  refine ⟨by omega, ?_⟩
  have inner := congrArg (fun text => (text.drop 1).take body.length) text
  rw [quotes, List.drop_succ_cons, List.drop_zero, List.take_left, List.extract_eq_take_drop,
    List.drop_take, List.drop_drop, List.take_take] at inner
  have middle : t.stop - 1 - (t.start + 1) = min body.length (t.stop - t.start - 1) := by omega
  rw [List.extract_eq_take_drop, middle, inner, value]

end Tokens

theorem Laid.before {length : Nat} {pre post : List Token} (laid : Laid length ts)
    (split : ts = pre ++ t :: post) (mem : u ∈ post) : t.stop ≤ u.start := by
  rw [split] at laid
  exact List.rel_of_pairwise_cons (laid.sublist <| List.sublist_append_right ..).ordered mem

theorem Spelled.split {a : Arguments} (spelled : Spelled ts a) : ∃ front back,
    ts = front ++ a.struct :: back ∧ a.struct.isName = true ∧ a.rpar ∈ back ∧
      a.rpar.isPunct ')' = true := by
  cases spelled
  case unnamed lpar path comma₁ _ _ _ _ _ _ _ named _ _ closing =>
    exact ⟨[lpar, path, comma₁], _, rfl, named, by simp, closing⟩
  case named lpar path comma₁ _ _ _ _ _ _ _ _ _ named _ _ _ _ closing =>
    exact ⟨[lpar, path, comma₁], _, rfl, named, by simp, closing⟩

namespace Document

variable {uri text keyword : String} {start stop b : Nat} {name : Token}
variable {pre front back : List Token}

section Places

theorem slice_span {a : Nat} (ha : a ≤ cs.length) (hb : b ≤ cs.length) :
    slice cs ((LineIndex.ofChars cs).span a b) = cs.extract a b := by
  rw [slice, LineIndex.span, LineIndex.offset_position ha, LineIndex.offset_position hb]

-- What a declaration or use says of its place in a text: its name stands between quotes, inside a
-- piece of text that starts with the keyword.
structure Located (cs : List Char) (keyword name : String) (span nameSpan : Span) : Prop where
  name : unescape (slice cs nameSpan) = name.toList
  keyword : keyword.toList <+: slice cs span
  inside : nameSpan.Inside span

variable (tokens : (ofText uri text).tokens = pre ++ t :: (front ++ name :: back))
  (ident : t.isIdent keyword = true) (named : name.isName = true)
include tokens ident named

theorem located (reaches : name.stop ≤ b) (within : b ≤ text.toList.length) :
    Located text.toList keyword name.value ((ofText uri text).lines.span t.start b)
      ((ofText uri text).nameSpan name) := by
  have laid := laid_ofText uri text
  have ht : t ∈ (ofText uri text).tokens := by simp [tokens]
  have hn : name ∈ (ofText uri text).tokens := by simp [tokens]
  have before : t.stop ≤ name.start := laid.before tokens (by simp)
  have positive := laid.nonempty t ht
  obtain ⟨quotes, value⟩ := extract_name hn named
  have closed : name.closed = true := by
    simp only [Word.isName, Bool.and_eq_true] at named
    exact named.1.2
  have inner : (ofText uri text).nameSpan name =
      (LineIndex.ofChars text.toList).span (name.start + 1) (name.stop - 1) := by
    rw [nameSpan, if_pos closed]
    rfl
  rw [inner]
  constructor
  case name => rwa [slice_span (by omega) (by omega)]
  case keyword =>
    have outer : slice text.toList ((ofText uri text).lines.span t.start b) = _ :=
      slice_span (by omega) within
    rw [outer]
    exact prefix_extract ht ident (by omega)
  case inside =>
    constructor
    case start => exact LineIndex.position_lt (by omega) (Nat.le_trans (by omega) within)
    case ordered => exact LineIndex.position_le (by omega) (Nat.le_trans (by omega) within)
    case stop => exact LineIndex.position_lt (by omega) within

theorem framed (last : u ∈ back) (mark : u.isPunct c = true) :
    Located text.toList keyword name.value ((ofText uri text).lines.span t.start u.stop)
        ((ofText uri text).nameSpan name) ∧
      [c] <:+ slice text.toList ((ofText uri text).lines.span t.start u.stop) := by
  have laid := laid_ofText uri text
  have ht : t ∈ (ofText uri text).tokens := by simp [tokens]
  have hu : u ∈ (ofText uri text).tokens := by simp [tokens, last]
  have inner : (ofText uri text).tokens = (pre ++ t :: front) ++ name :: back := by simp [tokens]
  have behind : name.stop ≤ u.start := laid.before inner last
  have later : t.stop ≤ u.start := laid.before tokens (by simp [last])
  have := laid.nonempty t ht
  have := laid.nonempty u hu
  have within := laid.within u hu
  refine ⟨located tokens ident named (by omega) within, ?_⟩
  have outer : slice _ ((ofText uri text).lines.span t.start u.stop) = _ :=
    slice_span (laid.start_le ht) within
  rw [outer]
  exact suffix_extract hu mark (by omega)

end Places

section Parts

theorem fields_of_operatorOf {d : Document} {e : Entry} {o : Operator}
    (ok : d.operatorOf e = .ok o) :
    o.package = e.package ∧ o.structSpan = d.nameSpan e.struct := by
  rw [operatorOf] at ok
  cases read : Text.readNumber e.sequence.value.toList
  all_goals
    rw [read] at ok
    cases ok
  exact ⟨rfl, rfl⟩

theorem ident_of_mem_expansionsIn (mem : (name, start, stop) ∈ expansionsIn ts) :
    ∃ t ∈ ts, t.start = start ∧ t.isIdent "UNFOLD" = true := by
  fun_induction expansionsIn ts
  case case1 => cases mem
  case case2 t ts ident name' rpar named hi =>
    obtain same | mem := List.mem_cons.mp mem
    case inl =>
      cases same
      exact ⟨t, List.mem_cons_self, rfl, ident⟩
    case inr =>
      obtain ⟨u, mem, rest⟩ := hi mem
      exact ⟨u, List.mem_cons_of_mem _ mem, rest⟩
  all_goals
    obtain ⟨u, mem, rest⟩ := ‹_ → ∃ _, _› mem
    exact ⟨u, List.mem_cons_of_mem _ mem, rest⟩

theorem stop_le_of_mem_registrations {b : Block} (mem : b ∈ (ofText uri text).registrations) :
    b.stop ≤ (ofText uri text).length := by
  obtain ⟨_, _, _, _, head, same⟩ := headed_of_mem <| List.mem_append_left _ mem
  rw [same]
  exact head.stop_le <| laid_ofText uri text

theorem located_operator {operators : List Operator} {o : Operator}
    (ok : (ofText uri text).operators = .ok operators) (mem : o ∈ operators) :
    Located text.toList "OPERATOR" o.struct o.span o.structSpan ∧
      [')'] <:+ slice text.toList o.span ∧ ∃ b ∈ (ofText uri text).registrations,
        b.name.value = o.package ∧ o.span.Within ((ofText uri text).blockSpan b) := by
  have laid := laid_ofText uri text
  obtain ⟨e, entry, read⟩ := exists_entry ok mem
  obtain ⟨b, hb, pre, t, args, post, a, tokens, ident, inside, spelled, rfl⟩ :=
    mem_entries_iff.mp entry
  obtain ⟨_, struct, span⟩ := of_operatorOf read
  obtain ⟨package, structSpan⟩ := fields_of_operatorOf read
  rw [struct, span, structSpan, package]
  have range := (liesIn_of_mem_registrations hb).stop_le laid tokens ident inside
    (fun _ => spelled.notMem_of_isPunct) a.rpar spelled.mem.2
  obtain ⟨front, back, rfl, named, last, mark⟩ := spelled.split
  rw [List.append_assoc, List.cons_append] at tokens
  obtain ⟨place, closed⟩ := framed tokens ident named (List.mem_append_left post last) mark
  refine ⟨place, closed, b, hb, rfl, ?_, ?_⟩
  case refine_1 =>
    simp only [Block.encloses, Bool.and_eq_true, decide_eq_true_eq] at inside
    exact LineIndex.position_le (Nat.le_of_lt inside.1) <| laid.start_le (by simp [tokens])
  case refine_2 => exact LineIndex.position_le range.2 <| stop_le_of_mem_registrations hb

theorem located_expansion {x : Expansion} (mem : x ∈ (ofText uri text).expansions) :
    Located text.toList "UNFOLD" x.name x.span x.nameSpan ∧
      [')'] <:+ slice text.toList x.span := by
  have laid := laid_ofText uri text
  obtain ⟨⟨name, start, stop⟩, found, rfl⟩ := List.mem_map.mp mem
  obtain ⟨pre, t, lpar, rpar, post, tokens, rfl, rfl, _, mark, named⟩ := mem_expansionsIn found
  obtain ⟨t', mem', start, ident⟩ := ident_of_mem_expansionsIn found
  cases laid.eq_of_start mem' (by simp [tokens]) start
  have tokens : (ofText uri text).tokens = pre ++ t :: ([lpar] ++ name :: rpar :: post) := tokens
  exact framed tokens ident named List.mem_cons_self mark

theorem located_fragment {f : Fragment} (mem : f ∈ (ofText uri text).fragments) :
    Located text.toList "FRAGMENT" f.name f.span f.nameSpan ∧
      (['}'] <:+ slice text.toList f.span ∨
        (ofText uri text).lines.offset f.span.stop = text.length) := by
  have laid := laid_ofText uri text
  obtain ⟨b, block, rfl⟩ := List.mem_map.mp mem
  obtain ⟨pre, t, name, body, head, rfl⟩ := exists_headed block
  obtain ⟨lpar, rpar, lbrace, tokens, header⟩ := headed_iff.mp head
  have tokens : (ofText uri text).tokens = pre ++ t :: ([lpar] ++ name :: rpar :: lbrace :: body) :=
    tokens
  cases search : closingBrace? 0 body
  case none =>
    rw [Block.ofHeader_open search]
    have reaches : name.stop ≤ text.toList.length := laid.within name (by simp [tokens])
    have place := located tokens header.ident header.named reaches (Nat.le_refl _)
    exact ⟨place, .inr <| LineIndex.offset_position <| Nat.le_refl _⟩
  case some found =>
    obtain ⟨brace, rest⟩ := found
    obtain ⟨mark, inner, rfl⟩ := closingBrace?_eq search
    rw [Block.ofHeader_closed search]
    obtain ⟨place, closed⟩ := framed tokens header.ident header.named
      (u := brace) (by simp) mark
    exact ⟨place, .inl closed⟩

theorem slice_call {call : Call} (mem : call ∈ (ofText uri text).calls) :
    slice text.toList call.span = call.name.toList := by
  have laid := laid_ofText uri text
  obtain ⟨t, found, rfl⟩ := List.mem_map.mp mem
  obtain ⟨pre, next, post, tokens, ident, _⟩ := mem_calledIn (List.mem_filter.mp found).1
  have ht : t ∈ (ofText uri text).tokens := by simp [tokens]
  obtain ⟨l, word, _, text⟩ := extract_token ht
  have whole : slice _ ((ofText uri _).tokenSpan t) = _ :=
    slice_span (laid.start_le ht) (laid.within t ht)
  rw [whole, text]
  exact l.text_of_isIdent word (by simp [Word.isIdent, ident])

end Parts

-- Spans say where things stand in the text.
structure Faithful (text : String) (d : Document) : Prop where
  operators : ∀ operators, d.operators = .ok operators → ∀ o ∈ operators,
    Located text.toList "OPERATOR" o.struct o.span o.structSpan ∧
      [')'] <:+ slice text.toList o.span ∧
      ∃ b ∈ d.registrations, b.name.value = o.package ∧ o.span.Within (d.blockSpan b)
  expansions : ∀ x ∈ d.expansions,
    Located text.toList "UNFOLD" x.name x.span x.nameSpan ∧ [')'] <:+ slice text.toList x.span
  fragments : ∀ f ∈ d.fragments,
    Located text.toList "FRAGMENT" f.name f.span f.nameSpan ∧
      (['}'] <:+ slice text.toList f.span ∨ d.lines.offset f.span.stop = text.length)
  calls : ∀ call ∈ d.calls, slice text.toList call.span = call.name.toList

theorem faithful_ofText (uri text : String) : (ofText uri text).Faithful text where
  operators _ ok _ := located_operator ok
  expansions _ := located_expansion
  fragments _ := located_fragment
  calls _ := slice_call

end Document

end Flow

end FlowIndex
