import FlowIndex.Proofs.LineIndex.Order
import FlowIndex.Text.Cut
import Mathlib.Logic.Basic

namespace FlowIndex

theorem Text.fields_ne_nil (separator : Char) (cs : List Char) : fields separator cs ≠ [] := by
  rw [fields]
  fun_cases fieldsBy (· = separator) cs
  all_goals exact List.cons_ne_nil _ _

namespace Position

variable {p : Position} {c : Char} {cs : List Char}

-- Whether a text has a place for a position: in the line of that number, or at the end of that line.
def InText (cs : List Char) (p : Position) : Prop :=
  ∃ text, (Text.fields '\n' cs)[p.line]? = some text ∧ p.character ≤ text.length

-- The place at the end of the last line of a text.
def endOf (cs : List Char) : Position where
  line := (Text.fields '\n' cs).length - 1
  character := ((Text.fields '\n' cs).getLast <| Text.fields_ne_nil '\n' cs).length

section End

theorem getElem?_endOf (cs : List Char) : (Text.fields '\n' cs)[(endOf cs).line]? =
    some ((Text.fields '\n' cs).getLast <| Text.fields_ne_nil '\n' cs) := by
  rw [endOf, ← List.getLast?_eq_getElem?, List.getLast?_eq_some_getLast]

theorem inText_endOf (cs : List Char) : (endOf cs).InText cs :=
  ⟨_, getElem?_endOf cs, Nat.le_refl _⟩

theorem InText.line_lt (place : p.InText cs) : p.line < (Text.fields '\n' cs).length := by
  obtain ⟨_, found, _⟩ := place
  exact (List.getElem?_eq_some_iff.mp found).1

theorem InText.le_endOf (place : p.InText cs) : p ≤ endOf cs := by
  have above : p.line ≤ (endOf cs).line := Nat.le_pred_of_lt place.line_lt
  obtain ⟨text, found, le⟩ := place
  obtain less | same := Nat.lt_or_eq_of_le above
  case inl => exact le_iff.mpr <| .inl less
  case inr =>
    rw [same, getElem?_endOf] at found
    cases found
    exact le_iff.mpr <| .inr ⟨same, le⟩

end End

section Characters

-- One character further in the first line. The other lines stay where they are.
def further (p : Position) : Position :=
  if p.line = 0 then { p with character := p.character + 1 } else p

theorem inText_nil : p.InText [] ↔ p = ⟨0, 0⟩ := by
  obtain ⟨_ | line, character⟩ := p
  all_goals simp [InText, Text.fields, Text.fieldsBy]

theorem inText_newline : p.InText ('\n' :: cs) ↔
    p = ⟨0, 0⟩ ∨ ∃ q : Position, q.InText cs ∧ q.down 1 = p := by
  have lines : Text.fields '\n' ('\n' :: cs) = [] :: Text.fields '\n' cs := by
    simp [Text.fields, Text.fieldsBy]
  obtain ⟨_ | line, character⟩ := p
  case zero => simp [InText, lines, down]
  case succ =>
    rw [InText, lines]
    constructor
    case mp => exact fun place => .inr ⟨⟨line, character⟩, place, rfl⟩
    case mpr =>
      rintro (⟨⟨⟩⟩ | ⟨_, place, ⟨⟩⟩)
      exact place

-- Any other character only moves those in the first line.
theorem inText_cons (other : c ≠ '\n') : p.InText (c :: cs) ↔
    p = ⟨0, 0⟩ ∨ ∃ q : Position, q.InText cs ∧ q.further = p := by
  obtain ⟨first, later, rest⟩ := List.exists_cons_of_ne_nil <| Text.fields_ne_nil '\n' cs
  have lines : Text.fields '\n' (c :: cs) = (c :: first) :: later := by
    rw [Text.fields] at rest
    simp [Text.fields, Text.fieldsBy, other, rest]
  simp only [InText, lines, rest]
  constructor
  case mp =>
    rintro ⟨text, found, le⟩
    obtain ⟨_ | line, character⟩ := p
    case zero =>
      cases found
      obtain _ | character := character
      case zero => exact .inl rfl
      case succ => exact .inr ⟨⟨0, character⟩, ⟨first, rfl, Nat.le_of_succ_le_succ le⟩, rfl⟩
    case succ => exact .inr ⟨⟨line + 1, character⟩, ⟨text, found, le⟩, rfl⟩
  case mpr =>
    rintro (rfl | ⟨⟨_ | line, character⟩, ⟨text, found, le⟩, rfl⟩)
    case inl => exact ⟨c :: first, rfl, Nat.zero_le _⟩
    case inr.zero =>
      cases found
      exact ⟨c :: first, rfl, Nat.succ_le_succ le⟩
    case inr.succ => exact ⟨text, found, le⟩

end Characters

end Position

namespace LineIndex

variable {a : Nat} {c : Char} {cs : List Char} {p q : Position}

section Positions

theorem position_zero (cs : List Char) : (ofChars cs).position 0 = ⟨0, 0⟩ := by
  have behind : ∀ s ∈ startsFrom 0 cs, 0 < s := fun s mem => (mem_startsFrom mem).1
  have first : locate 0 0 0 ([] ++ startsFrom 0 cs) = ⟨0, 0⟩ := locate_before behind
  rw [position, Nat.zero_min]
  exact first

theorem position_newline (a : Nat) (cs : List Char) :
    (ofChars ('\n' :: cs)).position (a + 1) = ((ofChars cs).position a).down 1 := by
  have last : ['\n'].getLast? = some '\n' := rfl
  exact position_behind last a cs

theorem position_cons (other : c ≠ '\n') (a : Nat) (cs : List Char) :
    (ofChars (c :: cs)).position (a + 1) = ((ofChars cs).position a).further := by
  have starts : startsFrom 0 (c :: cs) = (startsFrom 0 cs).map (· + 1) := by
    rw [startsFrom, if_neg other, startsFrom_add]
  simp only [position, ofChars, starts, List.length_cons, Nat.add_min_add_right]
  generalize min a cs.length = a
  cases startsFrom 0 cs
  case nil => simp [locate, Position.further]
  case cons s starts =>
    simp only [List.map_cons, locate, Nat.add_le_add_iff_right, Nat.zero_add]
    split
    case isTrue =>
      have below : 1 ≤ (locate a 1 s starts).line := le_line_locate
      rw [Position.further, if_neg (by omega)]
      exact locate_add (n := 0)
    case isFalse => simp [Position.further]

theorem inText_iff : p.InText cs ↔ ∃ a ≤ cs.length, (ofChars cs).position a = p := by
  have split (c : Char) (cs : List Char) (p : Position) :
      (∃ a ≤ (c :: cs).length, (ofChars (c :: cs)).position a = p) ↔
        p = ⟨0, 0⟩ ∨ ∃ a ≤ cs.length, (ofChars (c :: cs)).position (a + 1) = p := by
    rw [← Nat.or_exists_add_one]
    simp [position_zero, eq_comm]
  induction cs generalizing p
  case nil => simp [Position.inText_nil, position_zero, eq_comm]
  case cons c cs hi =>
    rw [split]
    by_cases newline : c = '\n'
    case pos =>
      subst newline
      simp only [Position.inText_newline, position_newline, hi, exists_exists_and_eq_and]
    case neg =>
      simp only [Position.inText_cons newline, position_cons newline, hi, exists_exists_and_eq_and]

theorem inText_position (within : a ≤ cs.length) : ((ofChars cs).position a).InText cs :=
  inText_iff.mpr ⟨a, within, rfl⟩

theorem position_length (cs : List Char) : (ofChars cs).position cs.length = .endOf cs := by
  apply Position.le_antisymm
  case hpq => exact (inText_position <| Nat.le_refl _).le_endOf
  case hqp =>
    obtain ⟨a, within, same⟩ := inText_iff.mp <| Position.inText_endOf cs
    exact same ▸ (position_le_position_iff within <| Nat.le_refl _).mpr within

end Positions

section Offsets

-- The way back from a position leads to the last place that is not behind it.
theorem position_offset_eq (place : q.InText cs) (le : q ≤ p)
    (last : ∀ r : Position, r.InText cs → r ≤ p → r ≤ q) :
    (ofChars cs).position ((ofChars cs).offset p) = q := by
  have within := offset_le cs p
  apply Position.le_antisymm
  case hpq => exact last _ (inText_position within) (position_offset_le cs p)
  case hqp =>
    obtain ⟨a, ha, rfl⟩ := inText_iff.mp place
    exact (position_le_position_iff ha within).mpr <| (position_le_iff ha).mp le

theorem position_offset_eq_self_iff :
    (ofChars cs).position ((ofChars cs).offset p) = p ↔ p.InText cs := by
  constructor
  case mp => exact fun same => same ▸ inText_position (offset_le cs p)
  case mpr => exact fun place => position_offset_eq place (Position.le_refl p) fun _ _ le => le

theorem position_offset_of_line {text : List Char}
    (found : (Text.fields '\n' cs)[p.line]? = some text) (behind : text.length ≤ p.character) :
    (ofChars cs).position ((ofChars cs).offset p) = ⟨p.line, text.length⟩ := by
  apply position_offset_eq
  case place => exact ⟨text, found, Nat.le_refl _⟩
  case le => exact Position.le_iff.mpr <| .inr ⟨rfl, behind⟩
  case last =>
    rintro ⟨line, character⟩ ⟨text', found', le'⟩ le
    rw [Position.le_iff] at le ⊢
    obtain less | ⟨rfl, _⟩ := le
    case inl => exact .inl less
    case inr =>
      obtain rfl : text = text' := Option.some.inj <| found.symm.trans found'
      exact .inr ⟨rfl, le'⟩

theorem offset_behind (behind : (Text.fields '\n' cs).length ≤ p.line) :
    (ofChars cs).offset p = cs.length := by
  have above := (inText_position <| Nat.le_refl cs.length).line_lt
  apply Nat.le_antisymm (offset_le cs p)
  apply (position_le_iff <| Nat.le_refl _).mp
  exact Position.le_iff.mpr <| .inl <| Nat.lt_of_lt_of_le above behind

theorem offset_positionInt (cs : List Char) (a : Int) :
    ((ofChars cs).offset ((ofChars cs).positionInt a) : Int) = max 0 (min a cs.length) := by
  have length : (ofChars cs).length = cs.length := rfl
  rw [positionInt, offset_position_min, length]
  omega

end Offsets

section Isomorphism

-- How the offsets and the positions of a text go together: they are the same order, into which
-- whatever lies outside of it is moved.
structure Isomorphic (index : LineIndex) (cs : List Char) : Prop where
  -- From an offset and back. One outside of the text ends up at its start or at its end.
  returns : ∀ a : Int, (index.offset (index.positionInt a) : Int) = max 0 (min a cs.length)
  increasing : ∀ a b, a < b → b ≤ cs.length → index.position a < index.position b
  monotone : ∀ p q, p ≤ q → index.offset p ≤ index.offset q
  places : ∀ p, index.position (index.offset p) = p ↔ p.InText cs
  -- The two ways in which a position can have no place.
  behindLine : ∀ p text, (Text.fields '\n' cs)[p.line]? = some text → text.length < p.character →
    index.position (index.offset p) = ⟨p.line, text.length⟩
  behindText : ∀ p, (Text.fields '\n' cs).length ≤ p.line →
    index.offset p = cs.length ∧ index.position (index.offset p) = .endOf cs
  spans : ∀ start stop a, start ≤ stop → stop ≤ cs.length → a ≤ cs.length →
    ((index.span start stop).contains (index.position a) = true ↔ start ≤ a ∧ a ≤ stop)

theorem isomorphic_ofChars (cs : List Char) : (ofChars cs).Isomorphic cs where
  returns := offset_positionInt cs
  increasing _ _ less within := position_lt less within
  monotone _ _ := offset_mono
  places _ := position_offset_eq_self_iff
  behindLine _ _ found behind := position_offset_of_line found <| Nat.le_of_lt behind
  behindText _ behind := by
    have last := offset_behind behind
    exact ⟨last, by rw [last, position_length]⟩
  spans _ _ _ le within := contains_span_iff (Nat.le_trans le within) within

example :
    let index := ofChars ['a', 'b', '\n', '\n', 'c']
    index.position (index.offset ⟨0, 9⟩) = ⟨0, 2⟩ ∧ index.position (index.offset ⟨1, 9⟩) = ⟨1, 0⟩ ∧
      index.position (index.offset ⟨9, 0⟩) = ⟨2, 1⟩ := by
  decide

end Isomorphism

end LineIndex

end FlowIndex
