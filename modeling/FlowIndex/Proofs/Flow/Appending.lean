import FlowIndex.Proofs.Flow.Joined

namespace FlowIndex

def Operator.down (k : Nat) (o : Operator) : Operator :=
  { o with span := o.span.down k, structSpan := o.structSpan.down k }

def Fragment.down (k : Nat) (f : Fragment) : Fragment :=
  { f with span := f.span.down k, nameSpan := f.nameSpan.down k }

namespace Flow

def Expansion.down (k : Nat) (x : Expansion) : Expansion :=
  { x with span := x.span.down k, nameSpan := x.nameSpan.down k }

def Call.down (k : Nat) (c : Call) : Call :=
  { c with span := c.span.down k }

namespace Document

variable {d d₁ d₂ : Document} {k n : Nat} {t : Token} {b : Block} {e : Entry}

theorem mapM_eq_map {α β γ ε : Type} {f : α → Except ε β} {g : α → Except ε γ} {φ : γ → β}
    {l : List α} (h : ∀ x ∈ l, f x = (g x).map φ) : l.mapM f = (l.mapM g).map (·.map φ) := by
  induction l
  case nil => rfl
  case cons x l hi =>
    rw [List.mapM_cons, List.mapM_cons, h x List.mem_cons_self,
      hi fun x mem => h x <| List.mem_cons_of_mem _ mem]
    cases g x
    case error => rfl
    case ok y => cases l.mapM g <;> rfl

theorem nameToken_shift (k : Nat) (e : Entry) : (e.shift k).nameToken = e.nameToken.shift k := by
  rw [Entry.nameToken, Entry.nameToken, Entry.shift]
  cases e.name <;> rfl

namespace Joined

variable (joined : Joined k n d₁ d₂ d)
include joined

theorem operatorOf_before (mem : e ∈ d₁.entries) : d.operatorOf e = d₁.operatorOf e := by
  obtain ⟨struct, ⟨t, ht, start⟩, t', ht', stop⟩ := tokens_of_mem_entries mem
  have first := joined.stop_lt ht
  have last := joined.stop_lt ht'
  rw [operatorOf, operatorOf, joined.uri₁, joined.nameSpan_before struct,
    joined.span_before (by omega) (by omega)]

theorem operatorOf_behind (mem : e ∈ d₂.entries) :
    d.operatorOf (e.shift k) = (d₂.operatorOf e).map (·.down n) := by
  obtain ⟨struct, _⟩ := tokens_of_mem_entries mem
  have place : d.lines.span (e.shift k).start (e.shift k).stop =
      (d₂.lines.span e.start e.stop).down n := joined.span_behind ..
  have name : (e.shift k).nameToken.value = e.nameToken.value := by rw [nameToken_shift]; rfl
  have structPlace : d.nameSpan (e.shift k).struct = (d₂.nameSpan e.struct).down n :=
    joined.nameSpan_behind struct
  have sequence : (e.shift k).sequence.value = e.sequence.value := rfl
  rw [operatorOf, operatorOf, joined.uri₂, place, structPlace, name, sequence]
  cases Text.readNumber e.sequence.value.toList
  case error => rfl
  case ok => rfl

theorem operators_joined : d.operators = do
    let first ← d₁.operators
    let second ← d₂.operators
    return first ++ second.map (·.down n) := by
  have before : d₁.entries.mapM d.operatorOf = (d₁.entries.mapM d₁.operatorOf).map (·.map id) := by
    refine mapM_eq_map fun e mem => ?_
    rw [joined.operatorOf_before mem]
    cases d₁.operatorOf e <;> rfl
  have behind : (d₂.entries.map (·.shift k)).mapM d.operatorOf =
      (d₂.entries.mapM d₂.operatorOf).map (·.map (·.down n)) := by
    rw [List.mapM_map]
    exact mapM_eq_map fun e mem => joined.operatorOf_behind mem
  rw [operators, operators, operators, joined.entries_eq, List.mapM_append, before, behind]
  cases d₁.entries.mapM d₁.operatorOf
  case error => rfl
  case ok first =>
    cases d₂.entries.mapM d₂.operatorOf
    case error => rfl
    case ok second => simp [Except.map, bind, Except.bind, pure, Except.pure]

theorem fragments_joined : d.fragments = d₁.fragments ++ d₂.fragments.map (·.down n) := by
  rw [fragments, fragments, fragments, joined.fragmentBlocks, List.map_append, List.map_map,
    List.map_map]
  congr 1
  case e_a =>
    refine List.map_congr_left fun b mem => ?_
    obtain ⟨start, stop, name⟩ := joined.block_within <| List.mem_append_right _ mem
    rw [joined.uri₁, joined.nameSpan_before name, blockSpan,
      joined.span_before (Nat.le_of_lt start) (Nat.le_of_lt stop)]
    rfl
  case e_a =>
    refine List.map_congr_left fun b mem => ?_
    have name := joined.nameSpan_behind <| name_mem_tokens <| List.mem_append_right _ mem
    have place : d.blockSpan (b.shift k) = (d₂.blockSpan b).down n := joined.span_behind ..
    simp only [Function.comp_apply, Fragment.down]
    rw [joined.uri₂, place, ← name]
    rfl

theorem expansions_joined : d.expansions = d₁.expansions ++ d₂.expansions.map (·.down n) := by
  rw [expansions, expansions, expansions, joined.tokens, expansionsIn_seam joined.ends,
    expansionsIn_shift, List.map_append, List.map_map, List.map_map]
  congr 1
  case e_a =>
    refine List.map_congr_left fun (name, start, stop) mem => ?_
    obtain ⟨pre, t, lpar, rpar, post, tokens, rfl, rfl, _⟩ := mem_expansionsIn mem
    have named : name ∈ d₁.tokens := by simp [tokens]
    have first : t.start < t.stop ∧ t.stop < k := joined.stop_lt <| by simp [tokens]
    have last : rpar.start < rpar.stop ∧ rpar.stop < k := joined.stop_lt <| by simp [tokens]
    dsimp only
    rw [joined.nameSpan_before named, joined.span_before (by omega) (by omega)]
  case e_a =>
    refine List.map_congr_left fun (name, start, stop) mem => ?_
    obtain ⟨pre, t, lpar, rpar, post, tokens, _⟩ := mem_expansionsIn mem
    have named : name ∈ d₂.tokens := by simp [tokens]
    have place := joined.nameSpan_behind named
    simp only [Function.comp_apply, Expansion.down]
    rw [place, joined.span_behind]
    rfl

-- A registration block holds the offset behind its brace as well, but never the first one of the
-- second text, as a line feed stands between.
theorem inRegistration_before {o : Nat} (less : o < k) :
    d.inRegistration o = d₁.inRegistration o := by
  have behind : (d₂.registrations.map (·.shift k)).any (·.contains o) = false := by
    refine List.any_eq_false.mpr <| List.forall_mem_map.mpr fun b _ => ?_
    have start : ¬b.start + k ≤ o := by omega
    simp [Block.contains, Block.shift, start]
  rw [inRegistration, joined.registrations, List.any_append, behind, Bool.or_false]
  rfl

theorem inRegistration_behind (o : Nat) : d.inRegistration (o + k) = d₂.inRegistration o := by
  have before : d₁.registrations.any (·.contains (o + k)) = false := by
    refine List.any_eq_false.mpr fun b mem => ?_
    have within := (joined.block_within <| List.mem_append_left _ mem).2.1
    have stop : ¬o + k ≤ b.stop := by omega
    simp [Block.contains, stop]
  rw [inRegistration, joined.registrations, List.any_append, before, Bool.false_or, List.any_map,
    inRegistration]
  congr 1
  funext b
  simp [Block.contains, Block.shift]

theorem calls_joined : d.calls = d₁.calls ++ d₂.calls.map (·.down n) := by
  have unfolded (d : Document) : d.calls = ((calledIn d.tokens).filter fun t =>
      !isKeyword t.value && !d.inRegistration t.start).map fun t =>
        { name := t.value, span := d.tokenSpan t } :=
    rfl
  have among {ts : List Token} {t : Token} (mem : t ∈ calledIn ts) : t ∈ ts := by
    obtain ⟨pre, next, post, tokens, _⟩ := mem_calledIn mem
    simp [tokens]
  rw [unfolded d, unfolded d₁, unfolded d₂, joined.tokens, calledIn_seam joined.ends,
    calledIn_shift, List.filter_append, List.map_append, List.filter_map, List.map_map,
    List.map_map]
  congr 1
  case e_a =>
    have kept : ∀ t ∈ calledIn d₁.tokens, (!isKeyword t.value && !d.inRegistration t.start) =
        (!isKeyword t.value && !d₁.inRegistration t.start) := by
      intro t mem
      have inside := joined.stop_lt <| among mem
      rw [joined.inRegistration_before (by omega)]
    rw [List.filter_congr kept]
    refine List.map_congr_left fun t mem => ?_
    have inside := joined.stop_lt <| among (List.mem_filter.mp mem).1
    rw [tokenSpan, joined.span_before (by omega) (by omega)]
    rfl
  case e_a =>
    have kept : ∀ t ∈ calledIn d₂.tokens,
        ((fun t : Token => !isKeyword t.value && !d.inRegistration t.start) ∘ (·.shift k)) t =
          (!isKeyword t.value && !d₂.inRegistration t.start) := by
      intro t _
      have outside := joined.inRegistration_behind t.start
      simp only [Function.comp_apply, Token.toWord_shift]
      rw [← outside]
      rfl
    rw [List.filter_congr kept]
    refine List.map_congr_left fun t _ => ?_
    have place : d.tokenSpan (t.shift k) = (d₂.tokenSpan t).down n := joined.span_behind ..
    simp only [Function.comp_apply, Call.down]
    rw [place]
    rfl

end Joined

-- Operators are refused only if a number is too long.
theorem exists_operators
    (short : ∀ e ∈ d.entries, e.sequence.value.toList.length ≤ Text.digitLimit) :
    ∃ operators, d.operators = .ok operators := by
  have read {e : Entry} (mem : e ∈ d.entries) : Text.readNumber e.sequence.value.toList =
      .ok (Text.decimalValue e.sequence.value.toList) :=
    if_pos <| short e mem
  refine ⟨_, mapM_ok (g := fun e =>
    { name := e.nameToken.value, struct := e.struct.value, package := e.package,
      path := e.path.value, sequence := Text.decimalValue e.sequence.value.toList, uri := d.uri,
      span := d.lines.span e.start e.stop, structSpan := d.nameSpan e.struct }) fun e mem => ?_⟩
  rw [operatorOf, read mem]
  rfl

-- Two texts that are put together declare and use what each of them does. The operators are refused
-- just if those of one of the texts are.
theorem append_ofText {first : String} (whole : Whole first) (uri second : String) :
    let d₁ := ofText uri first
    let d₂ := ofText uri second
    let d := ofText uri (first ++ second)
    let n := first.toList.count '\n'
    d.operators = (do
      let operators₁ ← d₁.operators
      let operators₂ ← d₂.operators
      return operators₁ ++ operators₂.map (·.down n)) ∧
    ((∀ e ∈ d₁.entries ++ d₂.entries, e.sequence.value.toList.length ≤ Text.digitLimit) →
      ∃ operators₁ operators₂, d₁.operators = .ok operators₁ ∧ d₂.operators = .ok operators₂ ∧
        d.operators = .ok (operators₁ ++ operators₂.map (·.down n))) ∧
    d.fragments = d₁.fragments ++ d₂.fragments.map (·.down n) ∧
    d.expansions = d₁.expansions ++ d₂.expansions.map (·.down n) ∧
    d.calls = d₁.calls ++ d₂.calls.map (·.down n) := by
  intro d₁ d₂ d n
  have joined : Joined first.toList.length n d₁ d₂ d := joined_ofText whole uri second
  refine ⟨joined.operators_joined, fun short => ?_, joined.fragments_joined,
    joined.expansions_joined, joined.calls_joined⟩
  obtain ⟨operators₁, ok₁⟩ := exists_operators fun e mem => short e <| List.mem_append_left _ mem
  obtain ⟨operators₂, ok₂⟩ := exists_operators fun e mem => short e <| List.mem_append_right _ mem
  refine ⟨operators₁, operators₂, ok₁, ok₂, ?_⟩
  rw [joined.operators_joined, ok₁, ok₂]
  rfl

-- Braces that close nothing, headers without a name and a string that the end of its line cuts off
-- do not keep a text from being put in front of another one.
theorem append_behind_malformed :
    let first := "\x7d REGISTER() \x7b \"cut\n" ++
      "FRAGMENT(\"f\") \x7b UNFOLD(\"g\") \x7d \x7d\n"
    let second := "REGISTER(\"p\") \x7b OPERATOR(\"a\", \"A\", 1) \x7d\nB()"
    let d := ofText "a.gorch" (first ++ second)
    Whole first ∧
      d.operators.map (·.map fun o => (o.name, o.span.start)) = .ok [("A", ⟨2, 16⟩)] ∧
      d.fragments.map (fun f => (f.name, f.span.start)) = [("f", ⟨1, 0⟩)] ∧
      d.expansions.map (fun x => (x.name, x.span.start)) = [("g", ⟨1, 16⟩)] ∧
      d.calls.map (fun c => (c.name, c.span.start)) = [("B", ⟨3, 0⟩)] := by
  intro first second d
  have whole : Whole first := by
    refine ⟨⟨?newline, ?brace, ?comments⟩, ?closed, ?closed'⟩
    all_goals decide +kernel
  obtain ⟨operators, _, fragments, expansions, calls⟩ := append_ofText whole "a.gorch" second
  refine ⟨whole, ?operators, ?fragments, ?expansions, ?calls⟩
  case operators =>
    rw [operators]
    decide +kernel
  case fragments =>
    rw [fragments]
    decide +kernel
  case expansions =>
    rw [expansions]
    decide +kernel
  case calls =>
    rw [calls]
    decide +kernel

end Document

end Flow

end FlowIndex
