import FlowIndex.Proofs.Flow.Headers

namespace FlowIndex.Flow

variable {length : Nat} {ts pre pre' body body' : List Token}
variable {t t' name name' brace : Token} {keyword keyword' : String} {b b' : Block}

section Nests

-- Blocks that have no part of the text in common.
def Block.ApartFrom (b b' : Block) : Prop :=
  b.stop ≤ b'.start ∨ b'.stop ≤ b.start

def Block.Within (b b' : Block) : Prop :=
  b'.start ≤ b.start ∧ b.stop ≤ b'.stop

-- Only a block that is not closed reaches over the other one.
def Block.OpenOver (b b' : Block) : Prop :=
  b.ApartFrom b' ∨ b.Within b' ∧ b'.closed = false ∨ b'.Within b ∧ b.closed = false

instance : Std.Symm Block.OpenOver where
  symm _ _ h := h.imp Or.symm Or.symm

theorem Headed.stop_le (laid : Laid length ts) (head : Headed keyword ts pre t name body) :
    (Block.ofHeader keyword length t name body).stop ≤ length := by
  obtain ⟨_, _, rfl, header⟩ := head
  obtain ⟨lpar, rpar, lbrace, rfl⟩ := blockHeader?_eq header
  cases closing : closingBrace? 0 body
  case none => rw [Block.ofHeader_open closing]
  case some found =>
    obtain ⟨_, inner, rfl⟩ := closingBrace?_eq closing
    rw [Block.ofHeader_closed closing]
    exact laid.within found.1 (by simp)

theorem Headed.closed_within {depth : Nat} {inner rest : List Token}
    (laid : Laid length (inner ++ brace :: rest))
    (head : Headed keyword (inner ++ brace :: rest) pre t name body) (mem : t ∈ inner)
    (closing : closingBrace? depth (inner ++ brace :: rest) = some (brace, rest)) :
    (Block.ofHeader keyword length t name body).stop ≤ brace.stop := by
  obtain ⟨ident, post, split, header⟩ := head
  obtain ⟨before, after, rfl⟩ := List.append_of_mem mem
  have here : before ++ t :: (after ++ brace :: rest) = pre ++ t :: post := by simp [← split]
  have own : Laid length (before ++ t :: (after ++ brace :: rest)) := by simpa using laid
  obtain ⟨rfl, _, rfl⟩ := own.split_eq here rfl
  rw [split] at closing
  obtain ⟨depth, closing⟩ := closingBrace?_behind closing <| by
    rw [List.length_cons, List.length_append, List.length_cons]
    omega
  have silent (c : Char) : t.isPunct c = false :=
    Bool.eq_false_iff.mpr fun mark => ne_of_isIdent mark ident rfl
  rw [closingBrace?_other (silent _) (silent _), closingBrace?_header header] at closing
  obtain ⟨⟨brace', rest'⟩, first, second⟩ := Option.bind_eq_some_iff.mp closing
  obtain ⟨lpar, rpar, lbrace, tokens⟩ := blockHeader?_eq header
  obtain ⟨_, inner, rfl⟩ := closingBrace?_eq first
  obtain ⟨_, inner', rfl⟩ := closingBrace?_eq second
  rw [tokens] at own
  have apart : Laid length ([brace'] ++ (inner' ++ brace :: rest)) :=
    own.sublist <| List.IsSuffix.sublist
      ⟨before ++ t :: lpar :: name :: rpar :: lbrace :: inner, by simp⟩
  have last : brace ∈ inner' ++ brace :: rest := by simp
  have le := apart.stop_le_start List.mem_cons_self last
  have positive := apart.nonempty brace <| List.mem_cons_of_mem _ last
  rw [Block.ofHeader_closed first]
  exact Nat.le_trans le <| Nat.le_of_lt positive

-- The block of a header that stands behind the opening brace of another block lies behind that
-- block or in it.
theorem Headed.nests (laid : Laid length ts) (head : Headed keyword ts pre t name body)
    (head' : Headed keyword' ts pre' t' name' body') (less : pre.length < pre'.length) :
    let b := Block.ofHeader keyword length t name body
    let b' := Block.ofHeader keyword' length t' name' body'
    b.stop ≤ b'.start ∨ b'.Within b := by
  dsimp only [Block.Within]
  rw [Block.start_ofHeader, Block.start_ofHeader]
  have within := head'.stop_le laid
  obtain ⟨front, mid, rfl, mem, inside⟩ := head.behind head' less
  have later : t.start ≤ t'.start := Nat.le_of_lt <| laid.start_lt_start mem inside.mem
  have laid : Laid length body := laid.sublist <| List.sublist_append_right front body
  cases closing : closingBrace? 0 body
  case none =>
    rw [Block.ofHeader_open closing]
    exact .inr ⟨later, within⟩
  case some found =>
    obtain ⟨brace, rest⟩ := found
    rw [Block.ofHeader_closed closing]
    obtain ⟨mark, inner, rfl⟩ := closingBrace?_eq closing
    obtain before | ⟨mid, behind⟩ := inside.place mark
    case inl => exact .inr ⟨later, inside.closed_within laid before closing⟩
    case inr =>
      have apart : Laid length ((inner ++ [brace]) ++ rest) := by simpa using laid
      exact .inl <| apart.stop_le_start (by simp) behind.mem

theorem Headed.eq_of_length (head : Headed keyword ts pre t name body)
    (head' : Headed keyword' ts pre' t' name' body') (same : pre.length = pre'.length) :
    Block.ofHeader keyword length t name body = Block.ofHeader keyword' length t' name' body' := by
  obtain ⟨ident, post, rfl, header⟩ := head
  obtain ⟨ident', post', split, header'⟩ := head'
  obtain ⟨_, tokens⟩ := List.append_inj split same
  obtain ⟨rfl, rfl⟩ := List.cons.inj tokens
  cases header.symm.trans header'
  simp only [Word.isIdent, Bool.and_eq_true, decide_eq_true_eq] at ident ident'
  rw [← ident.2, ident'.2]

theorem Headed.laminar (laid : Laid length ts) (head : Headed keyword ts pre t name body)
    (head' : Headed keyword' ts pre' t' name' body')
    (ne : Block.ofHeader keyword length t name body ≠
      Block.ofHeader keyword' length t' name' body') :
    let b := Block.ofHeader keyword length t name body
    let b' := Block.ofHeader keyword' length t' name' body'
    b.ApartFrom b' ∨ b.Within b' ∨ b'.Within b := by
  intro b b'
  obtain less | same | more := Nat.lt_trichotomy pre.length pre'.length
  case inl => exact (head.nests laid head' less).imp .inl .inr
  case inr.inl => exact absurd (head.eq_of_length head' same) ne
  case inr.inr => exact (head'.nests laid head more).imp .inr .inl

end Nests

section Groups

-- How a block takes in the tokens from its opening brace on, with `post` behind it: through the
-- first one at which all braces are in pairs. If there is no such one, it takes in the rest.
structure Block.Braced (length : Nat) (group post : List Token) (b : Block) : Prop where
  closed : b.closed = true → Balanced group ∧ (∃ last ∈ group.getLast?, last.stop = b.stop) ∧
    ∀ front, front <+: group → front ≠ [] → Balanced front → front = group
  unclosed : b.closed = false → post = [] ∧ b.stop = length ∧
    ∀ front, front <+: group → front ≠ [] → ¬Balanced front

theorem Block.braced_ofHeader (keyword : String) (length : Nat) (t name : Token)
    (body : List Token) (opening : brace.isPunct '{' = true) : ∃ inner post,
    body = inner ++ post ∧
      (Block.ofHeader keyword length t name body).Braced length (brace :: inner) post := by
  cases search : closingBrace? 0 body
  case none =>
    rw [Block.ofHeader_open search]
    refine ⟨body, [], by simp, nofun, fun _ => ⟨rfl, rfl, ?_⟩⟩
    intro front before filled balanced
    obtain ⟨_, _, _, _, closing⟩ := closes_of_prefix opening before filled balanced
    rw [search] at closing
    cases closing
  case some found =>
    obtain ⟨rbrace, rest⟩ := found
    rw [Block.ofHeader_closed search]
    obtain ⟨mark, _⟩ := closingBrace?_eq search
    obtain ⟨inner, balanced, rfl⟩ := balanced_of_closingBrace? search
    refine ⟨inner ++ [rbrace], rest, by simp, fun _ => ⟨?pairs, ?last, ?least⟩, nofun⟩
    case pairs => exact .group opening mark balanced .nil
    case last => exact ⟨rbrace, List.getLast?_concat (l := brace :: inner), rfl⟩
    case least =>
      intro front before filled pairs
      obtain ⟨_, later, more, whole, closing⟩ := closes_of_prefix opening before filled pairs
      rw [balanced.closingBrace?_append, (closingBrace?_closing mark []).1] at closing
      obtain ⟨_, none⟩ := Prod.mk.inj <| Option.some.inj closing
      obtain ⟨_, rfl⟩ := List.append_eq_nil_iff.mp none.symm
      rw [← whole, List.append_nil]

end Groups

namespace Document

variable {d : Document}

-- How the blocks of a text lie in it and among each other.
structure Laminar (d : Document) : Prop where
  keyword_registration : ∀ b ∈ d.registrations, b.keyword = "REGISTER"
  keyword_fragment : ∀ b ∈ d.fragmentBlocks, b.keyword = "FRAGMENT"
  braced : ∀ b ∈ d.registrations ++ d.fragmentBlocks, ∃ pre t lpar rpar lbrace inner post,
    d.tokens = pre ++ t :: lpar :: b.name :: rpar :: lbrace :: (inner ++ post) ∧
      Header b.keyword t lpar b.name rpar lbrace ∧ b.start = t.start ∧
      b.Braced d.length (lbrace :: inner) post
  nested : ∀ b ∈ d.registrations ++ d.fragmentBlocks, ∀ b' ∈ d.registrations ++ d.fragmentBlocks,
    b ≠ b' → b.ApartFrom b' ∨ b.Within b' ∨ b'.Within b
  registrations_increasing : d.registrations.Pairwise (·.start < ·.start)
  fragments_increasing : d.fragmentBlocks.Pairwise (·.start < ·.start)
  outer_unclosed : ∀ b ∈ d.registrations, ∀ b' ∈ d.registrations, b ≠ b' → b.OpenOver b'
  registration_found : ∀ pre t lpar name rpar lbrace post,
    d.tokens = pre ++ t :: lpar :: name :: rpar :: lbrace :: post →
    Header "REGISTER" t lpar name rpar lbrace →
    (∀ b ∈ d.registrations, b.closed = true → b.encloses t.start = false) →
    ∃ b ∈ d.registrations, b.start = t.start ∧ b.name = name
  fragment_found : ∀ pre t lpar name rpar lbrace post,
    d.tokens = pre ++ t :: lpar :: name :: rpar :: lbrace :: post →
    Header "FRAGMENT" t lpar name rpar lbrace →
    ∃ b ∈ d.fragmentBlocks, b.start = t.start ∧ b.name = name

theorem headed_of_mem (mem : b ∈ d.registrations ++ d.fragmentBlocks) :
    ∃ pre t name body, Headed b.keyword d.tokens pre t name body ∧
      b = Block.ofHeader b.keyword d.length t name body := by
  have keyword_eq {keyword : String} {nested : Bool}
      (mem : b ∈ blocks keyword nested d.length d.tokens) :
      ∃ pre t name body, Headed b.keyword d.tokens pre t name body ∧
        b = Block.ofHeader b.keyword d.length t name body := by
    rw [(found_blocks d.tokens).keyword_eq b mem]
    exact exists_headed mem
  obtain mem | mem := List.mem_append.mp mem
  case inl => exact keyword_eq mem
  case inr => exact keyword_eq mem

theorem braced_of_mem (mem : b ∈ d.registrations ++ d.fragmentBlocks) :
    ∃ pre t lpar rpar lbrace inner post,
      d.tokens = pre ++ t :: lpar :: b.name :: rpar :: lbrace :: (inner ++ post) ∧
        Header b.keyword t lpar b.name rpar lbrace ∧ b.start = t.start ∧
        b.Braced d.length (lbrace :: inner) post := by
  obtain ⟨pre, t, name, body, head, eq⟩ := headed_of_mem mem
  obtain ⟨lpar, rpar, lbrace, tokens, header⟩ := headed_iff.mp head
  obtain ⟨inner, post, rfl, braced⟩ :=
    Block.braced_ofHeader b.keyword d.length t name body header.brace
  have named : b.name = name := by rw [eq, Block.name_ofHeader]
  rw [← eq] at braced
  rw [← named] at tokens header
  exact ⟨pre, t, lpar, rpar, lbrace, inner, post, tokens, header,
    eq ▸ Block.start_ofHeader, braced⟩

theorem nested_of_mem (laid : Laid d.length d.tokens)
    (mem : b ∈ d.registrations ++ d.fragmentBlocks)
    (mem' : b' ∈ d.registrations ++ d.fragmentBlocks) (ne : b ≠ b') :
    b.ApartFrom b' ∨ b.Within b' ∨ b'.Within b := by
  obtain ⟨_, _, _, _, head, eq⟩ := headed_of_mem mem
  obtain ⟨_, _, _, _, head', eq'⟩ := headed_of_mem mem'
  rw [eq, eq'] at ne ⊢
  exact head.laminar laid head' ne

theorem registrations_openOver (laid : Laid d.length d.tokens) :
    d.registrations.Pairwise Block.OpenOver := by
  refine registrations_ordered laid |>.imp_of_mem fun {b b'} hb hb' ⟨start, stop⟩ => ?_
  cases closed : b.closed
  case false =>
    obtain ⟨_, _, _, _, lies⟩ := liesIn_of_mem_registrations hb
    obtain ⟨_, _, _, _, head, eq⟩ := headed_of_mem <| List.mem_append_left _ hb'
    refine .inr <| .inr ⟨⟨Nat.le_of_lt start, ?_⟩, closed⟩
    rw [(lies.unclosed closed).2, eq]
    exact head.stop_le laid
  case true => exact .inl <| .inl <| stop closed

theorem laminar_ofText (uri text : String) : (ofText uri text).Laminar := by
  have laid := laid_ofText uri text
  generalize ofText uri text = d at laid
  have starts {keyword : String} {nested : Bool} :
      (blocks keyword nested d.length d.tokens).Pairwise (·.start < ·.start) :=
    (found_blocks d.tokens).ordered laid |>.imp And.left
  constructor
  case keyword_registration => exact fun _ => keyword_of_mem_registrations
  case keyword_fragment => exact (found_blocks d.tokens).keyword_eq
  case braced => exact fun _ => braced_of_mem
  case nested => exact fun b mem b' mem' => nested_of_mem laid mem mem'
  case registrations_increasing => exact starts
  case fragments_increasing => exact starts
  case outer_unclosed => exact fun b hb b' hb' => (registrations_openOver laid).forall hb hb'
  case registration_found =>
    intro pre t lpar name rpar lbrace post tokens header free
    have head := headed_iff.mpr ⟨lpar, rpar, lbrace, tokens, header⟩
    obtain found | ⟨_, b, mem, closed, inside⟩ := head.covered false laid
    case inl => exact ⟨_, found, Block.start_ofHeader, Block.name_ofHeader⟩
    case inr =>
      rw [Block.start_ofHeader, free b mem closed] at inside
      cases inside
  case fragment_found =>
    intro pre t lpar name rpar lbrace post tokens header
    have head := headed_iff.mpr ⟨lpar, rpar, lbrace, tokens, header⟩
    obtain found | ⟨flat, _⟩ := head.covered true laid
    case inl => exact ⟨_, found, Block.start_ofHeader, Block.name_ofHeader⟩
    case inr => cases flat

end Document

end FlowIndex.Flow
