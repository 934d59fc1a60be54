import FlowIndex.Index.Scan
import FlowIndex.Proofs.Flow.Recast
import FlowIndex.Proofs.Flow.Rendering
import FlowIndex.Proofs.Flow.Wording

namespace FlowIndex.Flow

open Text

variable {cs rest : List Char} {l : Lexeme} {ls pre post : List Lexeme} {o : Nat} {s : String}
variable {t comma q rpar : Token} {ts us : List Token} {length : Nat}

section Lexing

-- A text with another piece of text in place of a token.
def replaced (cs : List Char) (t : Token) (new : List Char) : List Char :=
  cs.take t.start ++ new ++ cs.drop t.stop

theorem replaced_middle {new before mid behind : List Char} (start : t.start = before.length)
    (stop : t.stop = t.start + mid.length) :
    replaced (before ++ (mid ++ behind)) t new = before ++ (new ++ behind) := by
  rw [replaced, stop, start, List.take_left, ← List.append_assoc before, ← List.length_append,
    List.drop_left, List.append_assoc]

theorem isIdentChar_eq_false_of_isBlank {c : Char} (blank : isBlank c = true) :
    isIdentChar c = false := by
  refine isIdentChar_eq_false (Bool.eq_false_iff.mpr fun start => ?_) <|
    isDigit_eq_false_of_isBlank blank
  rw [isBlank_eq_false_of_isIdentStart start] at blank
  cases blank

theorem exists_of_isIdentifier (ident : isIdentifier s = true) : ∃ c cs, s.toList = c :: cs ∧
    isIdentStart c = true ∧ ∀ c ∈ cs, isIdentChar c = true := by
  unfold isIdentifier at ident
  split at ident
  case h_1 => cases ident
  case h_2 c cs split =>
    rw [Bool.and_eq_true, List.all_eq_true] at ident
    exact ⟨c, cs, split, ident⟩

theorem tiled_word (ident : isIdentifier s = true) : Tiled [.word s] := by
  obtain ⟨c, cs, split, start, all⟩ := exists_of_isIdentifier ident
  have cut : Cut c (cs ++ []) _ := cut_ident start all nofun
  rw [← split] at cut
  exact .cons cut .nil

theorem head_of_closing (tiled : Tiled ls) (tokens : tokensFrom o ls = rpar :: ts)
    (closing : rpar.isPunct ')' = true) :
    ∀ c ∈ (ls.flatMap Lexeme.text).head?, isIdentChar c = false := by
  cases ls
  case nil => cases tokens
  case cons l ls =>
    obtain ⟨⟨c, cs, cut⟩, _⟩ := tiled_cons_iff.mp tiled
    rw [List.flatMap_cons, cut.text_append]
    rintro _ ⟨⟩
    rw [tokensFrom] at tokens
    generalize ls.flatMap Lexeme.text = rest at cut
    cases cut
    case blank blank => exact isIdentChar_eq_false_of_isBlank blank
    case line slash _ | block slash _ => rw [slash]; decide
    case closed quote _ | unclosed quote _ _ => rw [quote]; decide
    case ident =>
      cases tokens
      simp [Word.isPunct] at closing
    case number =>
      cases tokens
      simp [Word.isPunct] at closing
    case punct start digit => exact isIdentChar_eq_false start digit

theorem endsAt_word (ident : isIdentifier s = true) {digits : List Char}
    (ends : l.EndsAt (digits ++ rest)) (number : ∃ c cs, digits = c :: cs ∧ isDigit c = true)
    (word : l.word? = none ∨ l = .punct ',') : l.EndsAt (s.toList ++ rest) := by
  obtain ⟨d, ds, rfl, digit⟩ := number
  obtain ⟨c, cs, split, start, _⟩ := exists_of_isIdentifier ident
  rw [split]
  obtain word | rfl := word
  case inr => exact nofun
  case inl =>
    cases l
    case blank =>
      rintro _ ⟨⟩
      exact isBlank_eq_false_of_isIdentStart start
    case comment text =>
      unfold Lexeme.EndsAt at ends ⊢
      split at ends
      case h_2 => 
        have newline := ends d rfl
        subst newline
        cases digit
      case h_3 => exact fun opened => absurd (ends opened) <| List.cons_ne_nil _ _
      all_goals simp_all
    all_goals cases word

theorem head_of_number (cut : ∃ c cs, Cut c cs (l, rest)) (word : l.word? = some q.toWord)
    (number : q.kind = .number) : ∃ c cs, l.text = c :: cs ∧ isDigit c = true := by
  obtain ⟨c, cs, cut⟩ := cut
  obtain ⟨w, start, stop⟩ := q
  cases cut
  case number digit => exact ⟨c, _, rfl, digit⟩
  case blank | line | block => cases word
  all_goals
    cases word
    cases number

theorem last_of_comma (tokens : tokensFrom o ls = ts ++ [comma])
    (apart : comma.isPunct ',' = true) : ∀ k ∈ ls.getLast?, k.word? = none ∨ k = .punct ',' := by
  intro k last
  obtain ⟨front, rfl⟩ := List.getLast?_eq_some_iff.mp last
  rw [tokensFrom_append, tokensFrom] at tokens
  cases word : k.word?
  case none => exact .inl rfl
  case some w =>
    right
    rw [word] at tokens
    have same := congrArg List.getLast? tokens
    rw [tokensFrom, List.getLast?_concat, List.getLast?_concat] at same
    cases same
    exact Lexeme.eq_punct word apart

-- The words of a text in which a number between a comma and a parenthesis gives way to an
-- identifier.
theorem words_replaced {ts : List Token} (tokens : tokens cs = ts ++ comma :: q :: rpar :: us)
    (apart : comma.isPunct ',' = true) (number : q.kind = .number) (closing : rpar.isPunct ')' = true)
    (ident : isIdentifier s = true) : words (replaced cs q s.toList) =
      (ts ++ [comma]).map (·.toWord) ++
        { kind := .ident, value := s } :: (rpar :: us).map (·.toWord) := by
  have split : tokensFrom 0 (lexemes cs) = (ts ++ [comma]) ++ q :: rpar :: us := by
    rw [List.append_assoc]
    exact tokens
  obtain ⟨pre, l, post, row, own, before, behind⟩ := exists_readFrom split
  have tiled : Tiled (pre ++ l :: post) := row ▸ tiled_lexemes cs
  have digits := head_of_number (tiled_cons_iff.mp tiled.behind).1 own.word number
  have last := last_of_comma before apart
  have tiled' : Tiled (pre ++ .word s :: post) := by
    refine tiled.exchange ?_ fun k mem ends => ?_
    case refine_1 =>
      have later := (tiled_cons_iff.mp tiled.behind).2
      refine (tiled_word ident).change later ?_
      exact head_of_closing later behind closing
    case refine_2 => exact endsAt_word ident ends digits <| last k mem
  have text : (pre ++ .word s :: post).flatMap Lexeme.text = replaced cs q s.toList := by
    have whole := flatMap_text_lexemes cs
    rw [row, List.flatMap_append, List.flatMap_cons] at whole
    have start := own.start
    rw [Nat.zero_add] at start
    rw [← whole, replaced_middle start own.stop, List.flatMap_append, List.flatMap_cons,
      Lexeme.text_word]
  rw [words, Flow.tokens, ← text, tiled'.lexemes_eq, map_toWord_tokensFrom, List.filterMap_append,
    List.filterMap_cons_some (Lexeme.word?_word s), ← map_toWord_tokensFrom (o := 0), before,
    ← map_toWord_tokensFrom (o := q.stop), behind]

end Lexing

section Places

theorem Laid.of_places {ts' : List Token} (laid : Laid length ts)
    (same : ts'.map (fun t => (t.start, t.stop)) = ts.map fun t => (t.start, t.stop)) :
    Laid length ts' := by
  have iff (ts : List Token) : Laid length ts ↔
      (ts.map fun t => (t.start, t.stop)).Pairwise (·.2 ≤ ·.1) ∧
        ∀ p ∈ ts.map fun t => (t.start, t.stop), p.1 < p.2 ∧ p.2 ≤ length := by
    rw [List.pairwise_map, List.forall_mem_map]
    exact ⟨fun ⟨ordered, nonempty, within⟩ => ⟨ordered, fun t mem => ⟨nonempty t mem, within t mem⟩⟩,
      fun ⟨ordered, ends⟩ => ⟨ordered, fun t mem => (ends t mem).1, fun t mem => (ends t mem).2⟩⟩
  rw [iff, same, ← iff]
  exact laid

theorem Laid.nodup (laid : Laid length ts) : ts.Nodup :=
  laid.starts.imp fun less same => Nat.ne_of_lt less <| congrArg Token.start same

end Places

namespace Document

variable {d d' : Document} {e e' : Entry} {ps : List (Token × Token)}

section Pairs

variable (left : ps.map (·.1) = d.tokens) (right : ps.map (·.2) = d'.tokens)
  (paired : Paired d.length d'.length ps)
include left right paired

theorem entries_of_paired : d.entries.map Entry.declared = d'.entries.map Entry.declared := by
  rw [entries, entries, Flow.entries, Flow.entries, List.map_flatMap, List.map_flatMap,
    List.flatMap_def, List.flatMap_def, ← left, ← right]
  refine congrArg List.flatten <| map_eq_map_of_forall₂ (paired.blocks <| List.Subset.refl ps) ?_
  exact fun b b' => entriesIn_pairs paired.alike (List.Subset.refl ps)

theorem fragments_of_paired : d.fragments.map (·.name) = d'.fragments.map (·.name) := by
  rw [fragments, fragments, List.map_map, List.map_map, fragmentBlocks, fragmentBlocks,
    Flow.fragmentBlocks, Flow.fragmentBlocks, ← left, ← right]
  exact map_eq_map_of_forall₂ (paired.blocks <| List.Subset.refl ps) fun b b' h =>
    congrArg Word.value h.name

end Pairs

section Numbers

theorem eq_of_first {front front' : List Token} {q q' : Token} {post post' : List Token}
    (same : front ++ q :: post = front' ++ q' :: post') (plain : q.IsPlain) (plain' : q'.IsPlain)
    (marks : ∀ u ∈ front, ¬u.IsPlain) (marks' : ∀ u ∈ front', ¬u.IsPlain) : q = q' := by
  obtain ⟨_ | ⟨u, more⟩, rfl, rest⟩ | ⟨_ | ⟨u, more⟩, rfl, rest⟩ :=
    List.append_eq_append_iff.mp same
  case inl.nil => exact (List.cons.inj rest).1
  case inl.cons =>
    cases rest
    exact absurd plain <| marks' q <| by simp
  case inr.nil => exact (List.cons.inj rest).1.symm
  case inr.cons =>
    cases rest
    exact absurd plain' <| marks q' <| by simp

-- Between the keyword of an entry and its number stand only marks and strings.
theorem exists_numbered (mem : e ∈ d.entries) : ∃ pre t front comma rpar post,
    d.tokens = pre ++ t :: (front ++ [comma] ++ e.sequence :: rpar :: post) ∧ t.start = e.start ∧
      t.IsPlain ∧ (∀ u ∈ front ++ [comma], ¬u.IsPlain) ∧ comma.isPunct ',' = true ∧
      e.sequence.kind = .number ∧ rpar.isPunct ')' = true := by
  obtain ⟨b, _, pre, t, args, post, a, tokens, ident, _, spelled, rfl⟩ := mem_entries_iff.mp mem
  obtain ⟨front, comma, rfl, apart, number, closing, marks⟩ := spelled.number_last
  refine ⟨pre, t, front, comma, a.rpar, post, ?_, rfl, .inr <| Word.kind_of_isIdent ident, ?_, apart,
    number, closing⟩
  case refine_1 =>
    rw [tokens, List.append_assoc, List.append_assoc]
    rfl
  case refine_2 =>
    refine List.forall_mem_append.mpr ⟨marks, List.forall_mem_singleton.mpr ?_⟩
    exact Word.not_isPlain_of_isPunct apart

theorem start_eq_iff (laid : Laid length d.tokens) (mem : e ∈ d.entries) (mem' : e' ∈ d.entries) :
    e'.start = e.start ↔ e'.sequence = e.sequence := by
  obtain ⟨pre, t, front, comma, rpar, post, tokens, start, plain, marks, _, number, _⟩ :=
    exists_numbered mem
  obtain ⟨pre', t', front', comma', rpar', post', tokens', start', plain', marks', _, number', _⟩ :=
    exists_numbered mem'
  rw [tokens'] at laid tokens
  constructor
  case mp =>
    intro same
    have behind := (laid.split_eq tokens (by rw [start, start', same])).2.2
    exact eq_of_first behind (.inl number') (.inl number) marks' marks
  case mpr =>
    intro same
    have split : (pre' ++ t' :: (front' ++ [comma'])) ++ e'.sequence :: rpar' :: post' =
        (pre ++ t :: (front ++ [comma])) ++ e.sequence :: rpar :: post := by simpa using tokens
    have before := (Laid.split_eq (by simpa using laid) split (congrArg Token.start same)).1
    have backwards := congrArg List.reverse before
    rw [List.reverse_append, List.reverse_append, List.reverse_cons, List.reverse_cons,
      List.append_assoc, List.append_assoc] at backwards
    have same := eq_of_first backwards plain' plain
      (fun u mem => marks' u <| List.mem_reverse.mp mem)
      (fun u mem => marks u <| List.mem_reverse.mp mem)
    rw [← start, ← start', same]

end Numbers

section Spoiled

variable {uri text : String}

-- With an identifier in the place of a number, the blocks stay, and all entries but that of the
-- number.
theorem entries_recast {pre post : List Token} {q' : Token} (recast : d'.length = d.length)
    (tokens : d.tokens = pre ++ q :: rpar :: post) (tokens' : d'.tokens = pre ++ q' :: rpar :: post)
    (number : q.kind = .number) (ident : q'.kind = .ident) (start : q'.start = q.start)
    (closing : rpar.isPunct ')' = true) (once : d.tokens.Nodup) :
    d'.entries = d.entries.filter (·.sequence ≠ q) ∧ d'.fragmentBlocks = d.fragmentBlocks := by
  have related : Recast d'.tokens d.tokens := by
    rw [tokens, tokens']
    exact Recast.append (.other (.inr ident) (.inl number) start closing <| .refl post) pre
  constructor
  case left =>
    rw [entries, entries, Flow.entries, Flow.entries, Flow.registrations, Flow.registrations,
      recast, related.blocks, List.filter_flatMap]
    refine List.flatMap_congr fun b _ => ?_
    rw [tokens] at once
    rw [tokens, tokens']
    exact entriesIn_recast number ident closing once
  case right =>
    rw [fragmentBlocks, fragmentBlocks, Flow.fragmentBlocks, Flow.fragmentBlocks, recast,
      related.blocks]

-- What becomes of a document if the number of an entry is taken from it: no more than what the entry
-- declares is lost.
structure Spoils (d d' : Document) (e : Entry) : Prop where
  operators : d'.operators.map (·.map (·.declared)) =
    (d.entries.filter (·.start ≠ e.start)).mapM Entry.declared
  fragments : d'.fragments.map (·.name) = d.fragments.map (·.name)

theorem spoils (ident : isIdentifier s = true) (mem : e ∈ (ofText uri text).entries) :
    Spoils (ofText uri text)
      (ofText uri <| String.ofList <| replaced text.toList e.sequence s.toList) e := by
  have laid := laid_ofText uri text
  obtain ⟨pre, t, front, comma, rpar, post, tokens, _, _, _, apart, number, closing⟩ :=
    exists_numbered mem
  let q' : Token := { e.sequence with toWord := { kind := .ident, value := s } }
  let ts := pre ++ t :: front
  let d₁ : Document := { ofText uri text with tokens := (ts ++ [comma]) ++ q' :: rpar :: post }
  let d' := ofText uri <| String.ofList <| replaced text.toList e.sequence s.toList
  have split : (ofText uri text).tokens = (ts ++ [comma]) ++ e.sequence :: rpar :: post := by
    simp [tokens, ts]
  have said : d₁.tokens.map (·.toWord) = d'.tokens.map (·.toWord) := by
    have own : Flow.tokens text.toList = ts ++ comma :: e.sequence :: rpar :: post := by
      rw [List.append_assoc] at split
      exact split
    have own' := words_replaced own apart number closing ident
    rw [← String.toList_ofList (l := replaced _ _ _)] at own'
    refine Eq.trans ?_ own'.symm
    simp [d₁, q']
  obtain ⟨ps, left, right, alike⟩ := exists_pairs said
  have laid₁ : Laid d₁.length d₁.tokens := laid.of_places <| by simp [split, d₁, q']
  have paired : Paired d₁.length d'.length ps := ⟨alike, left ▸ laid₁, right ▸ laid_ofText ..⟩
  have length : d₁.length = (ofText uri text).length := rfl
  obtain ⟨entries, fragmentBlocks⟩ :=
    entries_recast length split rfl number rfl rfl closing laid.nodup
  constructor
  case operators =>
    rw [declared_operators, ← entries_of_paired left right paired, entries]
    have apart : ∀ e' ∈ (ofText uri text).entries,
        decide (e'.sequence ≠ e.sequence) = decide (e'.start ≠ e.start) := fun e' mem' => by
      simp [start_eq_iff laid mem mem']
    rw [List.filter_congr apart, List.mapM_map]
    rfl
  case fragments =>
    rw [← fragments_of_paired left right paired, fragments, fragments, fragmentBlocks]
    rfl

end Spoiled

section Refused

variable {uri text : String}

theorem exists_operatorOf_iff :
    (∃ o, d.operatorOf e = .ok o) ↔ e.sequence.value.length ≤ digitLimit := by
  have short : e.sequence.value.toList.length ≤ digitLimit ↔
      e.sequence.value.length ≤ digitLimit := Iff.rfl
  rw [operatorOf, readNumber, ← short]
  split
  case isTrue fits => exact ⟨fun _ => fits, fun _ => ⟨_, rfl⟩⟩
  case isFalse long =>
    refine ⟨fun read => ?_, fun fits => absurd fits long⟩
    obtain ⟨_, ok⟩ := read
    cases ok

theorem exists_operators_iff :
    (∃ os, d.operators = .ok os) ↔ ∀ e ∈ d.entries, e.sequence.value.length ≤ digitLimit := by
  simp only [← exists_operatorOf_iff (d := d)]
  constructor
  case mp =>
    rintro ⟨os, ok⟩ e mem
    obtain ⟨o, _, read⟩ := exists_operator ok mem
    exact ⟨o, read⟩
  case mpr =>
    intro read
    rw [operators]
    generalize d.entries = es at read
    induction es
    case nil => exact ⟨[], rfl⟩
    case cons e es hi =>
      obtain ⟨⟨o, first⟩, later⟩ := List.forall_mem_cons.mp read
      obtain ⟨os, rest⟩ := hi later
      exact ⟨o :: os, by rw [List.mapM_cons, first, rest]; rfl⟩

theorem exists_declarations_iff : (∃ found, Scan.declarations {} uri text = .ok found) ↔
    ∃ os, (ofText uri text).operators = .ok os := by
  rw [Scan.declarations]
  cases (ofText uri text).operators
  case error => simp
  case ok => simp

-- A document is refused for the number of an entry, and then as a whole. Apart from that, an entry
-- that is spoiled costs no more than what it declares.
theorem declarations_spoiled (uri text : String) (ident : isIdentifier s = true) :
    ((∃ found, Scan.declarations {} uri text = .ok found) ↔
        ∀ e ∈ (ofText uri text).entries, e.sequence.value.length ≤ digitLimit) ∧
      (ofText uri text).operators.map (·.map (·.declared)) =
        (ofText uri text).entries.mapM Entry.declared ∧
      ∀ e ∈ (ofText uri text).entries, Spoils (ofText uri text)
        (ofText uri <| String.ofList <| replaced text.toList e.sequence s.toList) e := by
  refine ⟨exists_declarations_iff.trans exists_operators_iff, ?_, fun e => spoils ident⟩
  rw [declared_operators, List.mapM_map]
  rfl

-- A reserved word for the number of the first of two entries.
theorem declarations_spoiled_by_keyword :
    let text := "REGISTER(\"p\")\x7bOPERATOR(\"a\",\"A\",1)OPERATOR(\"b\",\"B\",2)\x7d" ++
      "FRAGMENT(\"f\")\x7b\x7d"
    isIdentifier "OPERATOR" = true ∧ ∃ e ∈ (ofText "" text).entries,
      let d := ofText "" <| String.ofList <| replaced text.toList e.sequence "OPERATOR".toList
      e.struct.value = "A" ∧ d.operators.map (·.map (·.declared)) = .ok
        [{ name := "B", struct := "B", package := "p", path := "b", sequence := 2 }] ∧
      d.fragments.map (·.name) = ["f"] := by
  intro text
  have ident : isIdentifier "OPERATOR" = true := by decide +kernel
  have filled : (ofText "" text).entries ≠ [] := by decide +kernel
  have own : ∀ e ∈ (ofText "" text).entries.head?, e.struct.value = "A" ∧
      ((ofText "" text).entries.filter (·.start ≠ e.start)).mapM Entry.declared = .ok
        [{ name := "B", struct := "B", package := "p", path := "b", sequence := 2 }] := by
    decide +kernel
  have named : (ofText "" text).fragments.map (·.name) = ["f"] := by decide +kernel
  obtain ⟨e, es, split⟩ := List.exists_cons_of_ne_nil filled
  obtain ⟨struct, rest⟩ := own e <| by rw [split]; rfl
  have mem : e ∈ (ofText "" text).entries := by simp [split]
  obtain ⟨operators, fragments⟩ := (declarations_spoiled "" text ident).2.2 e mem
  exact ⟨ident, e, mem, struct, operators.trans rest, fragments.trans named⟩

end Refused

end Document

end FlowIndex.Flow
