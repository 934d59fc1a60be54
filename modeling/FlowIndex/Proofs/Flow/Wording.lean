import FlowIndex.Proofs.Flow.Cursor
import FlowIndex.Proofs.Flow.Declared

namespace FlowIndex.Flow

variable {length length' : Nat} {keyword : String} {nested : Bool} {ts ts' : List Token}
variable {ps qs : List (Token × Token)} {p q : Token × Token} {b b' : Block}

section Readers

-- Two readings that both find nothing, or find the tokens of a pair with those of others behind it.
inductive Alongside (ps : List (Token × Token)) :
    Option (Token × List Token) → Option (Token × List Token) → Prop
  | none : Alongside ps none none
  | some {p : Token × Token} {rest : List (Token × Token)} (mem : p ∈ ps) (sub : rest ⊆ ps) :
    Alongside ps (some (p.1, rest.map (·.1))) (some (p.2, rest.map (·.2)))

theorem Alongside.mono {found found' : Option (Token × List Token)} (h : Alongside ps found found')
    (sub : ps ⊆ qs) : Alongside qs found found' := by
  cases h
  case none => exact .none
  case some mem rest => exact .some (sub mem) (List.Subset.trans rest sub)

-- What an entry declares, in whatever document it stands.
def Entry.declared (e : Entry) : Except Text.TooManyDigits Declared := do
  let sequence ← Text.readNumber e.sequence.value.toList
  return { name := e.nameToken.value, struct := e.struct.value, package := e.package
           path := e.path.value, sequence }

variable (alike : ∀ p ∈ ps, p.1.toWord = p.2.toWord)
include alike

theorem nameArgument?_pairs :
    (nameArgument? (ps.map (·.1))).map (·.1.toWord) =
      (nameArgument? (ps.map (·.2))).map (·.1.toWord) := by
  rcases ps with _ | ⟨lpar, _ | ⟨name, _ | ⟨rpar, rest⟩⟩⟩
  case cons.cons.cons =>
    simp only [List.forall_mem_cons] at alike
    obtain ⟨hl, hn, hr, _⟩ := alike
    simp only [List.map_cons, nameArgument?, hl, hn, hr]
    split
    case isTrue => exact congrArg some hn
    case isFalse => rfl
  all_goals rfl

theorem blockHeader?_pairs :
    Alongside ps (blockHeader? (ps.map (·.1))) (blockHeader? (ps.map (·.2))) := by
  rcases ps with _ | ⟨lpar, _ | ⟨name, _ | ⟨rpar, _ | ⟨lbrace, body⟩⟩⟩⟩
  case cons.cons.cons.cons =>
    simp only [List.forall_mem_cons] at alike
    obtain ⟨hl, hn, hr, hb, _⟩ := alike
    simp only [List.map_cons, blockHeader?, hl, hn, hr, hb]
    split
    case isTrue => exact .some (by simp) fun _ mem => by simp [mem]
    case isFalse => exact .none
  all_goals exact .none

theorem closingBrace?_pairs (depth : Nat) :
    Alongside ps (closingBrace? depth (ps.map (·.1))) (closingBrace? depth (ps.map (·.2))) := by
  induction ps generalizing depth
  case nil => exact .none
  case cons p ps hi =>
    have ⟨word, rest⟩ := List.forall_mem_cons.mp alike
    have later (depth : Nat) := (hi rest depth).mono (List.subset_cons_self p ps)
    simp only [List.map_cons, closingBrace?, word]
    split
    case isTrue => exact later _
    case isFalse =>
      split
      case isTrue =>
        cases depth
        case zero => exact .some List.mem_cons_self (List.subset_cons_self p ps)
        case succ => exact later _
      case isFalse => exact later _

theorem read?_pairs (package : String) :
    (Entry.read? package p.1 (ps.map (·.1))).map Entry.declared =
      (Entry.read? package p.2 (ps.map (·.2))).map Entry.declared := by
  rcases ps with _ | ⟨lpar, _ | ⟨path, _ | ⟨comma, _ | ⟨struct, _ | ⟨comma', _ | ⟨third, _ |
    ⟨next, rest⟩⟩⟩⟩⟩⟩⟩
  case cons.cons.cons.cons.cons.cons.cons =>
    simp only [List.forall_mem_cons] at alike
    obtain ⟨hl, hp, hc, hs, hc', ht, hn, alike⟩ := alike
    simp only [List.map_cons, Entry.read?, hl, hp, hc, hs, hc', ht, hn]
    split
    case isTrue =>
      split
      case isTrue => simp [Entry.declared, Entry.nameToken, hp, hs, ht]
      case isFalse =>
        rcases rest with _ | ⟨sequence, _ | ⟨rpar, rest⟩⟩
        case cons.cons =>
          obtain ⟨hq, hr, _⟩ := by simpa only [List.forall_mem_cons] using alike
          simp only [List.map_cons, hq, hr]
          split
          case isTrue => simp [Entry.declared, Entry.nameToken, hp, hs, ht, hq]
          case isFalse => rfl
        all_goals rfl
    case isFalse => rfl
  all_goals rfl

theorem expansionsIn_pairs :
    (Document.expansionsIn (ps.map (·.1))).map (·.1.toWord) =
      (Document.expansionsIn (ps.map (·.2))).map (·.1.toWord) := by
  induction ps
  case nil => rfl
  case cons p ps hi =>
    have ⟨word, rest⟩ := List.forall_mem_cons.mp alike
    have later := hi rest
    have name := nameArgument?_pairs rest
    simp only [List.map_cons, Document.expansionsIn, word]
    split
    case isTrue =>
      cases found : nameArgument? (ps.map (·.1))
      all_goals cases found' : nameArgument? (ps.map (·.2))
      all_goals rw [found, found'] at name
      case none.none => exact later
      case some.some => exact List.cons_eq_cons.mpr ⟨Option.some.inj name, later⟩
      all_goals cases name
    case isFalse => exact later

end Readers

section Blocks

-- The tokens of two texts that say the same, in pairs.
structure Paired (length length' : Nat) (ps : List (Token × Token)) : Prop where
  alike : ∀ p ∈ ps, p.1.toWord = p.2.toWord
  laid : Laid length (ps.map (·.1))
  laid' : Laid length' (ps.map (·.2))

theorem exists_pairs (same : ts.map (·.toWord) = ts'.map (·.toWord)) :
    ∃ ps : List (Token × Token), ps.map (·.1) = ts ∧ ps.map (·.2) = ts' ∧
      ∀ p ∈ ps, p.1.toWord = p.2.toWord := by
  refine ⟨ts.zip ts', ?_⟩
  induction ts generalizing ts'
  case nil => simpa using same
  case cons t ts hi =>
    cases ts'
    case nil => simp at same
    case cons t' ts' =>
      obtain ⟨word, rest⟩ := List.cons.inj same
      obtain ⟨left, right, alike⟩ := hi rest
      simp only [List.zip_cons_cons, List.map_cons, left, right, List.forall_mem_cons, word]
      exact ⟨trivial, trivial, trivial, alike⟩

-- Blocks of the same name that enclose the same tokens.
structure Block.Alike (ps : List (Token × Token)) (b b' : Block) : Prop where
  name : b.name.toWord = b'.name.toWord
  closed : b.closed = b'.closed
  encloses : ∀ p ∈ ps, b.encloses p.1.start = b'.encloses p.2.start

def Before (p q : Token × Token) : Prop :=
  p.1.stop ≤ q.1.start ∧ p.2.stop ≤ q.2.start

theorem Paired.apart (paired : Paired length length' ps) (hp : p ∈ ps) (hq : q ∈ ps) :
    p = q ∨ Before p q ∨ Before q p := by
  have ordered : ps.Pairwise Before :=
    List.pairwise_map.mp paired.laid.ordered |>.and <| List.pairwise_map.mp paired.laid'.ordered
  exact List.Pairwise.forall_of_forall_of_flip (R := fun p q => p = q ∨ Before p q ∨ Before q p)
    (fun _ _ => .inl rfl) (ordered.imp fun before => .inr <| .inl before)
    (ordered.imp fun before => .inr <| .inr before) hp hq

theorem Paired.encloses (paired : Paired length length' ps) (hp : p ∈ ps) (start : q ∈ ps)
    (begins : b.start = q.1.start) (begins' : b'.start = q.2.start)
    (ends : (∃ r ∈ ps, b.stop = r.1.stop ∧ b'.stop = r.2.stop) ∨
      b.stop = length ∧ b'.stop = length') :
    b.encloses p.1.start = b'.encloses p.2.start := by
  have bounds {r : Token × Token} (hr : r ∈ ps) : r.1.start < r.1.stop ∧ r.1.stop ≤ length ∧
      r.2.start < r.2.stop ∧ r.2.stop ≤ length' :=
    ⟨paired.laid.nonempty _ (List.mem_map_of_mem hr), paired.laid.within _ (List.mem_map_of_mem hr),
      paired.laid'.nonempty _ (List.mem_map_of_mem hr),
      paired.laid'.within _ (List.mem_map_of_mem hr)⟩
  have own := bounds hp
  have first : b.start < p.1.start ↔ b'.start < p.2.start := by
    have := bounds start
    obtain rfl | ⟨_, _⟩ | ⟨_, _⟩ := paired.apart hp start
    all_goals omega
  have last : p.1.start < b.stop ↔ p.2.start < b'.stop := by
    obtain ⟨r, hr, stop, stop'⟩ | ⟨stop, stop'⟩ := ends
    case inl =>
      have := bounds hr
      obtain rfl | ⟨_, _⟩ | ⟨_, _⟩ := paired.apart hp hr
      all_goals omega
    case inr => omega
  simp only [Block.encloses, first, last]

theorem Paired.blocks (paired : Paired length length' ps) {qs : List (Token × Token)}
    (sub : qs ⊆ ps) :
    List.Forall₂ (Block.Alike ps) (blocks keyword nested length (qs.map (·.1)))
      (blocks keyword nested length' (qs.map (·.2))) := by
  match qs, sub with
  | [], _ => simp [Flow.blocks]
  | q :: qs, sub =>
    obtain ⟨hq, sub⟩ := List.cons_subset.mp sub
    have word := paired.alike q hq
    have alike {qs : List (Token × Token)} (sub : qs ⊆ ps) : ∀ p ∈ qs, p.1.toWord = p.2.toWord :=
      fun p mem => paired.alike p (sub mem)
    have later := paired.blocks sub
    rw [List.map_cons, List.map_cons]
    by_cases ident : q.1.isIdent keyword = true
    case neg =>
      rw [Flow.blocks, if_neg ident, Flow.blocks, if_neg (word ▸ ident)]
      exact later
    case pos =>
      have ident' : q.2.isIdent keyword = true := word ▸ ident
      have headers := blockHeader?_pairs (alike sub)
      generalize header : blockHeader? (qs.map (·.1)) = found at headers
      generalize header' : blockHeader? (qs.map (·.2)) = found' at headers
      cases headers
      case none =>
        rw [blocks_headless ident header, blocks_headless ident' header']
        exact later
      case some name body hn hb =>
        have shorter := length_lt_of_blockHeader? header
        have sub' : body ⊆ ps := List.Subset.trans hb sub
        have inner := paired.blocks sub'
        have braces := closingBrace?_pairs (alike sub') 0
        generalize closing : closingBrace? 0 (body.map (·.1)) = found at braces
        generalize closing' : closingBrace? 0 (body.map (·.2)) = found' at braces
        cases braces
        case none =>
          rw [blocks_open ident header closing, blocks_open ident' header' closing']
          refine .cons ⟨alike sub _ hn, rfl, fun p hp => ?_⟩ inner
          exact paired.encloses hp hq rfl rfl <| .inr ⟨rfl, rfl⟩
        case some brace rest hbrace hr =>
          have shorter' := length_lt_of_closingBrace? closing
          have outer := paired.blocks (List.Subset.trans hr sub')
          rw [blocks_cons ident header closing, blocks_cons ident' header' closing']
          refine .cons ⟨alike sub _ hn, rfl, fun p hp => ?_⟩ ?_
          case refine_1 =>
            exact paired.encloses hp hq rfl rfl <| .inl ⟨brace, sub' hbrace, rfl, rfl⟩
          case refine_2 =>
            cases nested
            case false => exact outer
            case true => exact inner
termination_by qs.length
decreasing_by
  all_goals simp only [List.length_map, List.length_cons] at *
  all_goals omega

theorem entriesIn_pairs (alike : ∀ p ∈ qs, p.1.toWord = p.2.toWord) (sub : qs ⊆ ps)
    (h : b.Alike ps b') :
    (entriesIn b (qs.map (·.1))).map Entry.declared =
      (entriesIn b' (qs.map (·.2))).map Entry.declared := by
  induction qs
  case nil => rfl
  case cons q qs hi =>
    have ⟨word, alike⟩ := List.forall_mem_cons.mp alike
    have ⟨hq, sub⟩ := List.cons_subset.mp sub
    have later := hi alike sub
    have inside : (b.start < q.1.start && q.1.start < b.stop) =
        (b'.start < q.2.start && q.2.start < b'.stop) := h.encloses q hq
    have read := read?_pairs (p := q) alike b'.name.value
    simp only [List.map_cons, entriesIn, inside, word, h.name]
    split
    case isTrue =>
      cases found : Entry.read? b'.name.value q.1 (qs.map (·.1))
      all_goals cases found' : Entry.read? b'.name.value q.2 (qs.map (·.2))
      all_goals rw [found, found'] at read
      case none.none => exact later
      case some.some => rw [List.map_cons, List.map_cons, Option.some.inj read, later]
      all_goals cases read
    case isFalse => exact later

theorem map_eq_map_of_forall₂ {α β γ : Type} {r : α → β → Prop} {f : α → γ} {g : β → γ}
    {as : List α} {bs : List β} (h : List.Forall₂ r as bs) (eq : ∀ a b, r a b → f a = g b) :
    as.map f = bs.map g := by
  induction h
  case nil => rfl
  case cons a b _ _ related _ hi => rw [List.map_cons, List.map_cons, eq a b related, hi]

end Blocks

namespace Document

variable {d d' : Document}

-- Two documents that declare the same blocks, operators and fragments and expand the same ones.
structure Agrees (d d' : Document) : Prop where
  -- If one of the operators is refused, both documents refuse it for the same reason.
  operators : d.operators.map (·.map (·.declared)) = d'.operators.map (·.map (·.declared))
  registrations : d.registrations.map (fun b => (b.name.value, b.closed)) =
    d'.registrations.map fun b => (b.name.value, b.closed)
  fragmentBlocks : d.fragmentBlocks.map (fun b => (b.name.value, b.closed)) =
    d'.fragmentBlocks.map fun b => (b.name.value, b.closed)
  fragments : d.fragments.map (·.name) = d'.fragments.map (·.name)
  expansions : d.expansions.map (·.name) = d'.expansions.map (·.name)

theorem declared_operatorOf (d : Document) (e : Entry) :
    (d.operatorOf e).map (·.declared) = e.declared := by
  rw [operatorOf, Entry.declared]
  cases Text.readNumber e.sequence.value.toList
  all_goals rfl

theorem declared_operators (d : Document) :
    d.operators.map (·.map (·.declared)) = (d.entries.map Entry.declared).mapM id := by
  rw [operators]
  induction d.entries
  case nil => rfl
  case cons e es hi =>
    rw [List.map_cons, List.mapM_cons, List.mapM_cons, ← hi, ← d.declared_operatorOf e]
    cases d.operatorOf e
    case error => rfl
    case ok =>
      cases es.mapM d.operatorOf
      all_goals rfl

-- Words are all that counts: neither blanks and comments nor the way in which a string is written
-- make a difference.
theorem agrees_of_words (uri text uri' text' : String)
    (same : (ofText uri text).tokens.map (·.toWord) = (ofText uri' text').tokens.map (·.toWord)) :
    (ofText uri text).Agrees (ofText uri' text') := by
  have laid := laid_ofText uri text
  have laid' := laid_ofText uri' text'
  generalize ofText uri text = d at *
  generalize ofText uri' text' = d' at *
  obtain ⟨ps, left, right, alike⟩ := exists_pairs same
  have paired : Paired d.length d'.length ps := ⟨alike, left ▸ laid, right ▸ laid'⟩
  have blocks (keyword : String) (nested : Bool) :
      List.Forall₂ (Block.Alike ps) (blocks keyword nested d.length d.tokens)
        (Flow.blocks keyword nested d'.length d'.tokens) := by
    rw [← left, ← right]
    exact paired.blocks (List.Subset.refl ps)
  have entries : d.entries.map Entry.declared = d'.entries.map Entry.declared := by
    rw [Document.entries, Document.entries, Flow.entries, Flow.entries, List.map_flatMap,
      List.map_flatMap, List.flatMap_def, List.flatMap_def]
    refine congrArg List.flatten <| map_eq_map_of_forall₂ (blocks "REGISTER" false) ?_
    intro b b' h
    rw [← left, ← right]
    exact entriesIn_pairs alike (List.Subset.refl ps) h
  have named (b b' : Block) (h : b.Alike ps b') :
      (b.name.value, b.closed) = (b'.name.value, b'.closed) := by
    rw [h.name, h.closed]
  refine ⟨?operators, ?registrations, ?fragmentBlocks, ?fragments, ?expansions⟩
  case operators => rw [declared_operators, declared_operators, entries]
  case registrations => exact map_eq_map_of_forall₂ (blocks "REGISTER" false) named
  case fragmentBlocks => exact map_eq_map_of_forall₂ (blocks "FRAGMENT" true) named
  case fragments =>
    simp only [fragments, List.map_map]
    exact map_eq_map_of_forall₂ (blocks "FRAGMENT" true) fun b b' h => congrArg Word.value h.name
  case expansions =>
    have words := congrArg (List.map Word.value) (expansionsIn_pairs alike)
    rw [left, right, List.map_map, List.map_map] at words
    rw [expansions, expansions, List.map_map, List.map_map]
    exact words

-- A comment that looks like an entry, blanks, and quotes that are escaped for no need.
theorem agrees_of_words_laid_out :
    (ofText "a" <| "REGISTER(\"p\")\x7bOPERATOR(\"x\",\"X\",1)\x7d" ++
        "FRAGMENT(\"f\")\x7bUNFOLD(\"g\")").Agrees
      (ofText "b" <| "/* OPERATOR(\"y\",\"Y\",2) */\nREGISTER ( \"\\p\" )\n\x7b // \x7d\n" ++
        " OPERATOR(\"x\", \"\\X\", 1) \x7d\nFRAGMENT(\"f\") \x7b UNFOLD(\"g\")\n") :=
  agrees_of_words _ _ _ _ (by decide +kernel)

end Document

end FlowIndex.Flow
