import FlowIndex.LineIndex

namespace FlowIndex

namespace Position

instance : LT Position := ⟨fun p q => p ≤ q ∧ ¬q ≤ p⟩

instance (p q : Position) : Decidable (p < q) :=
  inferInstanceAs (Decidable (p ≤ q ∧ ¬q ≤ p))

theorem lt_iff {p q : Position} :
    p < q ↔ p.line < q.line ∨ p.line = q.line ∧ p.character < q.character := by
  have h : p < q ↔ p ≤ q ∧ ¬q ≤ p := Iff.rfl
  rw [h, le_iff, le_iff]
  omega

theorem lt_irrefl (p : Position) : ¬p < p := by
  rw [lt_iff]
  omega

end Position

namespace LineIndex

variable {a b line start length : Nat} {starts : List Nat}

theorem le_line_locate : line ≤ (locate a line start starts).line := by
  induction starts generalizing line start
  case nil => exact Nat.le_refl line
  case cons s starts hi =>
    rw [locate]
    split
    case isTrue => exact Nat.le_of_succ_le hi
    case isFalse => exact Nat.le_refl line

-- The first line start behind the smaller offset decides: either it lies behind the other offset
-- too, and both are in one line, or that one is in a later line.
theorem locate_lt (less : a < b) (le : start ≤ a) :
    locate a line start starts < locate b line start starts := by
  induction starts generalizing line start
  case nil => exact Position.lt_iff.mpr <| .inr ⟨rfl, Nat.sub_lt_sub_right le less⟩
  case cons s starts hi =>
    rw [locate, locate]
    by_cases ha : s ≤ a
    case pos =>
      have hb : s ≤ b := Nat.le_trans ha <| Nat.le_of_lt less
      rw [if_pos ha, if_pos hb]
      exact hi ha
    case neg =>
      rw [if_neg ha]
      apply Position.lt_iff.mpr
      split
      case isTrue => exact .inl le_line_locate
      case isFalse => exact .inr ⟨rfl, Nat.sub_lt_sub_right le less⟩

theorem position_lt {index : LineIndex} (less : a < b) (within : b ≤ index.length) :
    index.position a < index.position b := by
  have ha : min a index.length = a := Nat.min_eq_left <| Nat.le_trans (Nat.le_of_lt less) within
  rw [position, position, ha, Nat.min_eq_left within]
  exact locate_lt less <| Nat.zero_le a

theorem offsetFrom_locate (le : start ≤ a) (within : a ≤ length) :
    let p := locate a line start starts
    offsetFrom length p.character (p.line - line) start starts = a := by
  induction starts generalizing line start
  case nil =>
    simp only [locate, Nat.sub_self, offsetFrom]
    omega
  case cons s starts hi =>
    rw [locate]
    split
    case isTrue reached =>
      have further : line + 1 ≤ (locate a (line + 1) s starts).line := le_line_locate
      have count : (locate a (line + 1) s starts).line - line =
          (locate a (line + 1) s starts).line - (line + 1) + 1 := by
        omega
      simp only [count, offsetFrom]
      exact hi reached
    case isFalse =>
      simp only [Nat.sub_self, offsetFrom]
      omega

theorem offset_position {index : LineIndex} (within : a ≤ index.length) :
    index.offset (index.position a) = a := by
  rw [position, Nat.min_eq_left within]
  exact offsetFrom_locate (Nat.zero_le a) within

theorem position_min (index : LineIndex) (a : Nat) :
    index.position (min a index.length) = index.position a := by
  rw [position, Nat.min_assoc, Nat.min_self]
  rfl

theorem offset_position_min (index : LineIndex) (a : Nat) :
    index.offset (index.position a) = min a index.length := by
  rw [← position_min, offset_position <| Nat.min_le_right ..]

theorem position_injective {index : LineIndex} (ha : a ≤ index.length) (hb : b ≤ index.length)
    (same : index.position a = index.position b) : a = b := by
  rw [← offset_position ha, same, offset_position hb]

end LineIndex

end FlowIndex
