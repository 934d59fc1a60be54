import FlowIndex.Proofs.Flow.Tiling

namespace FlowIndex.Flow

open Text

variable {cs rest : List Char} {c : Char} {l : Lexeme} {ls : List Lexeme} {w : Word} {ws : List Word}
  {o : Nat} {t : Token}

-- What a text says, wherever its words stand in it.
def words (cs : List Char) : List Word :=
  (tokens cs).map (·.toWord)

section Words

theorem map_toWord_tokensFrom : (tokensFrom o ls).map (·.toWord) = ls.filterMap (·.word?) := by
  induction ls generalizing o
  case nil => rfl
  case cons l ls hi =>
    rw [tokensFrom]
    cases word : l.word?
    case none => rw [List.filterMap_cons_none word, hi]
    case some => rw [List.filterMap_cons_some word, List.map_cons, hi]

theorem Cut.isBlank_eq_false (cut : Cut c cs (l, rest)) (word : l.word? = some w) :
    isBlank c = false := by
  cases cut
  case blank | line | block => cases word
  case closed quote _ | unclosed quote _ _ => rw [quote]; decide
  case ident worded _ | number worded _ _ _ | punct worded _ _ _ => exact worded.blank

theorem Lexeme.endsAt_blank (word : l.word? = some w) (closed : w.closed = true) (rest : List Char) :
    l.EndsAt (' ' :: rest) := by
  cases l
  case blank | comment => cases word
  case string =>
    cases word
    exact fun opened => absurd (closed.symm.trans opened) nofun
  case ident | number =>
    rintro _ ⟨⟩
    decide
  case punct => exact fun _ => ⟨nofun, nofun⟩

theorem Lexeme.endsAt_nil (word : l.word? = some w) : l.EndsAt [] := by
  cases l
  case blank | comment => cases word
  case string => exact fun _ => ⟨nofun, .inl rfl⟩
  case ident | number => exact nofun
  case punct => exact fun _ => ⟨nofun, nofun⟩

end Words

section Written

-- A closed word and the lexeme that is written for it.
structure Written (w : Word) (l : Lexeme) : Prop where
  word : l.word? = some w
  closed : w.closed = true
  text : l.text = w.render
  cut : ∃ c cs, Cut c cs (l, [])

theorem written_quoted (s : String) :
    Written { kind := .string, value := s } (.quoted s) where
  word := Lexeme.word?_quoted s
  closed := rfl
  text := Lexeme.text_quoted s
  cut := ⟨_, _, .closed rfl <| splitString_escape s.toList []⟩

theorem written_self (word : l.word? = some w) (closed : w.closed = true) (text : l.text = w.render)
    (cut : Cut c cs (l, rest)) : Written w l :=
  ⟨word, closed, text, c, cut.change <| l.endsAt_nil word⟩

theorem exists_written (mem : l ∈ lexemes cs) (word : l.word? = some w) (closed : w.closed = true) :
    ∃ l', Written w l' := by
  obtain ⟨_, _, _, cut⟩ := exists_cut_of_mem mem
  cases l
  case blank | comment => cases word
  case string body _ =>
    cases word
    cases closed
    exact ⟨_, written_quoted _⟩
  case ident | number =>
    refine ⟨_, written_self word closed ?_ cut⟩
    cases word
    exact String.toList_ofList.symm
  case punct =>
    refine ⟨_, written_self word closed ?_ cut⟩
    cases word
    exact (String.toList_singleton _).symm

namespace Written

variable (written : Written w l)
include written

theorem tiled : Tiled [l] := by
  obtain ⟨_, _, cut⟩ := written.cut
  exact .cons cut .nil

theorem tiled_blank (tiled : Tiled (.blank [' '] :: ls)) : Tiled (l :: .blank [' '] :: ls) :=
  written.tiled.change tiled <| l.endsAt_blank written.word written.closed _

theorem head_render (more : List Char) : ∀ c ∈ (w.render ++ more).head?, isBlank c = false := by
  obtain ⟨c, cs, cut⟩ := written.cut
  have whole := cut.text_append
  rw [List.append_nil, written.text] at whole
  rw [whole]
  rintro _ ⟨⟩
  exact cut.isBlank_eq_false written.word

end Written

theorem tiled_space (head : ∀ c ∈ (ls.flatMap Lexeme.text).head?, isBlank c = false)
    (tiled : Tiled ls) : Tiled (.blank [' '] :: ls) := by
  have cut : Cut ' ' [] (.blank [' '], []) := .blank <| by decide
  have space : Tiled [.blank [' ']] := .cons cut .nil
  exact space.change tiled head

theorem exists_tiled (written : ∀ w ∈ ws, ∃ l, Written w l) :
    ∃ ls, Tiled ls ∧ ls.flatMap Lexeme.text = renderWords ws ∧ ls.filterMap (·.word?) = ws := by
  suffices ∃ ls, Tiled ls ∧ ls.flatMap Lexeme.text = renderWords ws ∧
      ls.filterMap (·.word?) = ws ∧ ∀ c ∈ (renderWords ws).head?, isBlank c = false by
    obtain ⟨ls, tiled, text, words, _⟩ := this
    exact ⟨ls, tiled, text, words⟩
  fun_induction renderWords ws
  case case1 => exact ⟨[], .nil, rfl, rfl, nofun⟩
  case case2 w =>
    obtain ⟨l, own⟩ := written w List.mem_cons_self
    refine ⟨[l], own.tiled, ?_, ?_, ?_⟩
    case refine_1 => rw [List.flatMap_singleton, own.text]
    case refine_2 => rw [List.filterMap_cons_some own.word, List.filterMap_nil]
    case refine_3 => simpa using own.head_render []
  case case3 w ws more hi =>
    obtain ⟨l, own⟩ := written w List.mem_cons_self
    obtain ⟨ls, tiled, text, words, head⟩ := hi fun w mem => written w <| List.mem_cons_of_mem _ mem
    refine ⟨l :: .blank [' '] :: ls, ?_, ?_, ?_, ?_⟩
    case refine_1 => exact own.tiled_blank <| tiled_space (text ▸ head) tiled
    case refine_2 => rw [List.flatMap_cons, List.flatMap_cons, text, own.text]; rfl
    case refine_3 => rw [List.filterMap_cons_some own.word, List.filterMap_cons_none rfl, words]
    case refine_4 => exact own.head_render _

theorem readBack (written : ∀ w ∈ ws, ∃ l, Written w l) : words (renderWords ws) = ws := by
  obtain ⟨ls, tiled, text, words⟩ := exists_tiled written
  rw [Flow.words, tokens, map_toWord_tokensFrom, ← text, tiled.lexemes_eq, words]

end Written

theorem closed_of_mem (mem : t ∈ tokens cs) (closed : t.kind = .string → t.closed = true) :
    t.closed = true := by
  obtain ⟨l, _, word, _⟩ := mem_tokensFrom mem
  obtain ⟨w, start, stop⟩ := t
  cases l
  case blank | comment => cases word
  case string =>
    cases word
    exact closed rfl
  all_goals
    cases word
    rfl

-- The words of a text in which all strings are closed are those of what is written for them, and a
-- string is read back whatever it holds.
theorem words_readBack (cs : List Char)
    (closed : ∀ t ∈ tokens cs, t.kind = .string → t.closed = true) :
    words (renderWords <| words cs) = words cs ∧
      (∀ t ∈ tokens <| renderWords <| words cs, t.closed = true) ∧
      ∀ s, words (quoted s) = [{ kind := .string, value := s }] := by
  have whole := fun t mem => closed_of_mem mem <| closed t mem
  have same : words (renderWords <| words cs) = words cs := by
    refine readBack fun w mem => ?_
    obtain ⟨t, listed, rfl⟩ := List.mem_map.mp mem
    obtain ⟨l, own, word, _⟩ := mem_tokensFrom listed
    exact exists_written own word <| whole t listed
  refine ⟨same, fun t mem => ?_, fun s => ?_⟩
  case refine_1 =>
    have listed : t.toWord ∈ words cs := by
      rw [← same]
      exact List.mem_map_of_mem mem
    obtain ⟨t', listed, same⟩ := List.mem_map.mp listed
    rw [← same]
    exact whole t' listed
  case refine_2 =>
    have quoted : ∀ w ∈ [({ kind := .string, value := s } : Word)], ∃ l, Written w l := by
      intro w mem
      rw [List.mem_singleton.mp mem]
      exact ⟨_, written_quoted s⟩
    exact readBack quoted

-- A comment between two marks that would start one themselves, and a string with each escape.
def slashes : List Char :=
  "/ /**/*\"a\\\"\\\\\\\n\"٣x_1/".toList

def slashWords : List Word :=
  [{ kind := .punct, value := "/" }, { kind := .punct, value := "*" },
    { kind := .string, value := "a\"\\\n" }, { kind := .number, value := "٣" },
    { kind := .ident, value := "x_1" }, { kind := .punct, value := "/" }]

theorem words_readBack_slashes :
    (∀ t ∈ tokens slashes, t.kind = .string → t.closed = true) ∧
      words slashes = slashWords ∧ words (renderWords slashWords) = slashWords := by
  have closed : ∀ t ∈ tokens slashes, t.kind = .string → t.closed = true := by decide +kernel
  have said : words slashes = slashWords := by decide +kernel
  have same := (words_readBack slashes closed).1
  rw [said] at same
  exact ⟨closed, said, same⟩

end FlowIndex.Flow
