import FlowIndex.Proofs.Flow.Nesting
import FlowIndex.Proofs.Flow.Seam
import FlowIndex.Proofs.Flow.Shift
import FlowIndex.Proofs.Flow.Windows
import FlowIndex.Proofs.LineIndex.Append

namespace FlowIndex

namespace Flow

-- A text that others can be put behind.
structure Whole (text : String) : Prop extends Ended text.toList where
  registrations : ∀ b ∈ Flow.registrations text.toList.length (tokens text.toList), b.closed = true
  fragments : ∀ b ∈ Flow.fragmentBlocks text.toList.length (tokens text.toList), b.closed = true

namespace Document

variable {d d₁ d₂ : Document} {k n : Nat} {t : Token} {b : Block}

-- How a document is put together of two. The first one is `k` characters and `n` lines long.
structure Joined (k n : Nat) (d₁ d₂ d : Document) : Prop where
  uri₁ : d.uri = d₁.uri
  uri₂ : d.uri = d₂.uri
  tokens : d.tokens = d₁.tokens ++ d₂.tokens.map (·.shift k)
  ends : Ends d₁.tokens
  laid₁ : Laid (k - 1) d₁.tokens
  laid₂ : Laid d₂.length d₂.tokens
  positive : 0 < k
  registrations : d.registrations = d₁.registrations ++ d₂.registrations.map (·.shift k)
  fragmentBlocks : d.fragmentBlocks = d₁.fragmentBlocks ++ d₂.fragmentBlocks.map (·.shift k)
  closed : ∀ b ∈ d₁.registrations ++ d₁.fragmentBlocks, b.closed = true
  position_before : ∀ o ≤ k, d.lines.position o = d₁.lines.position o
  position_behind : ∀ o, d.lines.position (o + k) = (d₂.lines.position o).down n

theorem joined_ofText {first : String} (whole : Whole first) (uri second : String) :
    Joined first.toList.length (first.toList.count '\n') (ofText uri first) (ofText uri second)
      (ofText uri (first ++ second)) := by
  obtain ⟨laid, later⟩ := whole.toEnded.tokens
  have tokens : (ofText uri (first ++ second)).tokens = (ofText uri first).tokens ++
      (ofText uri second).tokens.map (·.shift first.toList.length) := by
    have shifted := tokensFrom_add 0 first.toList.length (lexemes second.toList)
    rw [Nat.zero_add] at shifted
    simp only [ofText, String.toList_append, later, shifted]
    rfl
  have ends : Ends (ofText uri first).tokens := by
    obtain ⟨t, last, mark⟩ := whole.brace
    intro t' last'
    cases last.symm.trans last'
    exact mark
  have length : (ofText uri (first ++ second)).length =
      (ofText uri second).length + first.toList.length := by
    simp only [ofText, String.toList_append, List.length_append]
    exact Nat.add_comm ..
  constructor
  case uri₁ => rfl
  case uri₂ => rfl
  case tokens => exact tokens
  case ends => exact ends
  case laid₁ => exact laid
  case laid₂ => exact laid_ofText uri second
  case positive =>
    have filled : first.toList ≠ [] := by
      intro none
      have newline := whole.newline
      rw [none] at newline
      cases newline
    exact List.length_pos_iff.mpr filled
  case registrations =>
    rw [Document.registrations, tokens, length]
    rw [Flow.registrations, blocks_seam ends whole.registrations, blocks_shift]
    rfl
  case fragmentBlocks =>
    rw [Document.fragmentBlocks, tokens, length]
    rw [Flow.fragmentBlocks, blocks_seam ends whole.fragments, blocks_shift]
    rfl
  case closed =>
    intro b mem
    exact (List.mem_append.mp mem).elim (whole.registrations b) (whole.fragments b)
  case position_before =>
    intro o within
    simp only [ofText, String.toList_append]
    exact LineIndex.position_before within second.toList
  case position_behind =>
    intro o
    simp only [ofText, String.toList_append]
    exact LineIndex.position_behind whole.newline o second.toList

theorem entriesIn_eq_nil {ts : List Token} (none : ∀ t ∈ ts, b.encloses t.start = false) :
    entriesIn b ts = [] := by
  refine List.eq_nil_iff_forall_not_mem.mpr fun e mem => ?_
  obtain ⟨pre, t, post, rfl, inside, _⟩ := mem_entriesIn_iff.mp mem
  rw [none t (by simp)] at inside
  cases inside

theorem name_mem_tokens (mem : b ∈ d.registrations ++ d.fragmentBlocks) : b.name ∈ d.tokens := by
  obtain ⟨pre, t, name, body, head, eq⟩ := headed_of_mem mem
  obtain ⟨lpar, rpar, lbrace, tokens, _⟩ := headed_iff.mp head
  rw [eq, Block.name_ofHeader, tokens]
  simp

namespace Joined

variable (joined : Joined k n d₁ d₂ d)
include joined

theorem stop_lt (mem : t ∈ d₁.tokens) : t.start < t.stop ∧ t.stop < k := by
  have nonempty := joined.laid₁.nonempty t mem
  have within := joined.laid₁.within t mem
  have positive := joined.positive
  omega

theorem span_before {start stop : Nat} (hs : start ≤ k) (ht : stop ≤ k) :
    d.lines.span start stop = d₁.lines.span start stop := by
  rw [LineIndex.span, joined.position_before start hs, joined.position_before stop ht]
  rfl

theorem nameSpan_before (mem : t ∈ d₁.tokens) : d.nameSpan t = d₁.nameSpan t := by
  obtain ⟨start, stop⟩ := joined.stop_lt mem
  refine joined.span_before (by omega) ?_
  split <;> omega

theorem span_behind (start stop : Nat) :
    d.lines.span (start + k) (stop + k) = (d₂.lines.span start stop).down n := by
  rw [LineIndex.span, joined.position_behind, joined.position_behind]
  rfl

theorem nameSpan_behind (mem : t ∈ d₂.tokens) :
    d.nameSpan (t.shift k) = (d₂.nameSpan t).down n := by
  have nonempty := joined.laid₂.nonempty t mem
  have start : (t.shift k).start + 1 = t.start + 1 + k := Nat.add_right_comm ..
  have stop : (if (t.shift k).closed then (t.shift k).stop - 1 else (t.shift k).stop) =
      (if t.closed then t.stop - 1 else t.stop) + k := by
    cases closed : t.closed
    case false => simp [Token.shift, closed]
    case true =>
      simp [Token.shift, closed]
      omega
  rw [nameSpan, start, stop]
  exact joined.span_behind ..

theorem block_within (mem : b ∈ d₁.registrations ++ d₁.fragmentBlocks) :
    b.start < k ∧ b.stop < k ∧ b.name ∈ d₁.tokens := by
  obtain ⟨pre, t, name, body, head, eq⟩ := headed_of_mem mem
  obtain ⟨lpar, rpar, lbrace, tokens, _⟩ := headed_iff.mp head
  have closed := joined.closed b mem
  have start : t.start < t.stop ∧ t.stop < k := joined.stop_lt <| by simp [tokens]
  cases closing : closingBrace? 0 body
  case none =>
    rw [Block.ofHeader_open closing] at eq
    rw [eq] at closed
    cases closed
  case some found =>
    obtain ⟨brace, rest⟩ := found
    obtain ⟨_, inner, rfl⟩ := closingBrace?_eq closing
    have stop : brace.start < brace.stop ∧ brace.stop < k := joined.stop_lt <| by simp [tokens]
    rw [Block.ofHeader_closed closing] at eq
    rw [eq]
    exact ⟨by dsimp only; omega, stop.2, by simp [tokens]⟩

theorem entries_eq : d.entries = d₁.entries ++ d₂.entries.map (·.shift k) := by
  have first : ∀ b ∈ d₁.registrations, entriesIn b d.tokens = entriesIn b d₁.tokens := by
    intro b mem
    obtain ⟨_, stop, _⟩ := joined.block_within <| List.mem_append_left _ mem
    have behind : entriesIn b (d₂.tokens.map (·.shift k)) = [] := by
      refine entriesIn_eq_nil <| List.forall_mem_map.mpr fun t _ => ?_
      have behind : ¬t.start + k < b.stop := by omega
      simp [Block.encloses, Token.shift, behind]
    rw [joined.tokens, entriesIn_seam joined.ends, behind, List.append_nil]
  have second : ∀ b ∈ d₂.registrations,
      entriesIn (b.shift k) d.tokens = (entriesIn b d₂.tokens).map (·.shift k) := by
    intro b _
    have before : entriesIn (b.shift k) d₁.tokens = [] := by
      refine entriesIn_eq_nil fun t mem => ?_
      have inside := joined.stop_lt mem
      have before : ¬b.start + k < t.start := by omega
      simp [Block.encloses, Block.shift, before]
    rw [joined.tokens, entriesIn_seam joined.ends, before, List.nil_append, entriesIn_shift]
  have whole : d.entries = d.registrations.flatMap (entriesIn · d.tokens) := rfl
  rw [whole, joined.registrations, List.flatMap_append, List.flatMap_map, List.flatMap_congr first,
    List.flatMap_congr second, ← List.map_flatMap]
  rfl

end Joined

end Document

end Flow

end FlowIndex
