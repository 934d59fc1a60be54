import FlowIndex.Proofs.LineIndex.Append

namespace FlowIndex

namespace Position

variable {p q r : Position}

theorem le_refl (p : Position) : p ≤ p :=
  le_iff.mpr <| .inr ⟨rfl, Nat.le_refl _⟩

theorem le_trans (hpq : p ≤ q) (hqr : q ≤ r) : p ≤ r := by
  rw [le_iff] at hpq hqr ⊢
  omega

theorem le_antisymm (hpq : p ≤ q) (hqp : q ≤ p) : p = q := by
  rw [le_iff] at hpq hqp
  ext <;> omega

end Position

namespace LineIndex

variable {a b character k length line o s start : Nat} {starts : List Nat} {cs : List Char}
  {p q : Position}

section Lines

-- Lines that start one behind the other, and none of them behind the end of the text.
structure Increasing (length start : Nat) (starts : List Nat) : Prop where
  sorted : (start :: starts).Pairwise (· < ·)
  within : ∀ s ∈ start :: starts, s ≤ length

namespace Increasing

theorem later (lines : Increasing length start (s :: starts)) : Increasing length s starts :=
  ⟨lines.sorted.tail, fun t mem => lines.within t <| List.mem_cons_of_mem _ mem⟩

theorem start_lt (lines : Increasing length start (s :: starts)) : start < s :=
  List.rel_of_pairwise_cons lines.sorted List.mem_cons_self

theorem start_le (lines : Increasing length start starts) : start ≤ length :=
  lines.within start List.mem_cons_self

theorem le_offsetFrom (lines : Increasing length start starts) :
    start ≤ offsetFrom length character k start starts := by
  fun_induction offsetFrom length character k start starts
  case case1 => exact Nat.le_min.mpr ⟨Nat.le_add_right .., lines.start_le⟩
  case case2 =>
    have less := lines.start_lt
    omega
  case case3 => exact lines.start_le
  case case4 hi => exact Nat.le_trans (Nat.le_of_lt lines.start_lt) <| hi lines.later

theorem offsetFrom_le (lines : Increasing length start starts) :
    offsetFrom length character k start starts ≤ length := by
  fun_induction offsetFrom length character k start starts
  case case1 => exact Nat.min_le_right ..
  case case2 =>
    have within := lines.later.start_le
    omega
  case case3 => exact Nat.le_refl _
  case case4 hi => exact hi lines.later

-- Both ways go down the same lines. They part where the line of the position or that of the offset
-- is reached, whichever comes first.
theorem locate_le_iff (lines : Increasing length start starts) (le : start ≤ a)
    (within : a ≤ length) (down : p.line = line + k) :
    locate a line start starts ≤ p ↔ a ≤ offsetFrom length p.character k start starts := by
  fun_induction offsetFrom length p.character k start starts generalizing line
  case case1 =>
    simp only [locate, Position.le_iff]
    omega
  case case2 start s starts =>
    have less := lines.start_lt
    have below : line + 1 ≤ (locate a (line + 1) s starts).line := le_line_locate
    rw [locate]
    split
    all_goals
      simp only [Position.le_iff]
      omega
  case case3 =>
    simp only [locate, Position.le_iff]
    omega
  case case4 k start s starts hi =>
    rw [locate]
    split
    case isTrue reached => exact hi lines.later reached <| by omega
    case isFalse =>
      have behind : s ≤ offsetFrom length p.character k s starts := lines.later.le_offsetFrom
      simp only [Position.le_iff]
      omega

end Increasing

theorem pairwise_startsFrom (o : Nat) (cs : List Char) :
    (o :: startsFrom o cs).Pairwise (· < ·) := by
  refine List.pairwise_cons.mpr ⟨fun s mem => (mem_startsFrom mem).1, ?_⟩
  induction cs generalizing o
  case nil => exact .nil
  case cons c cs hi =>
    rw [startsFrom]
    split
    case isTrue => exact List.pairwise_cons.mpr ⟨fun s mem => (mem_startsFrom mem).1, hi _⟩
    case isFalse => exact hi _

theorem increasing_ofChars (cs : List Char) : Increasing cs.length 0 (ofChars cs).starts where
  sorted := pairwise_startsFrom 0 cs
  within s mem := by
    obtain rfl | mem := List.mem_cons.mp mem
    case inl => exact Nat.zero_le _
    case inr => simpa using (mem_startsFrom mem).2

end Lines

section Order

theorem position_le_iff (within : a ≤ cs.length) :
    (ofChars cs).position a ≤ p ↔ a ≤ (ofChars cs).offset p := by
  have same : min a (ofChars cs).length = a := Nat.min_eq_left within
  rw [position, same]
  exact (increasing_ofChars cs).locate_le_iff (Nat.zero_le a) within (Nat.zero_add _).symm

theorem position_le_position_iff (ha : a ≤ cs.length) (hb : b ≤ cs.length) :
    (ofChars cs).position a ≤ (ofChars cs).position b ↔ a ≤ b := by
  rw [position_le_iff ha, offset_position hb]

theorem offset_le (cs : List Char) (p : Position) : (ofChars cs).offset p ≤ cs.length :=
  (increasing_ofChars cs).offsetFrom_le

theorem position_offset_le (cs : List Char) (p : Position) :
    (ofChars cs).position ((ofChars cs).offset p) ≤ p :=
  (position_le_iff <| offset_le cs p).mpr <| Nat.le_refl _

theorem offset_mono (le : p ≤ q) : (ofChars cs).offset p ≤ (ofChars cs).offset q :=
  (position_le_iff <| offset_le cs p).mp <| Position.le_trans (position_offset_le cs p) le

theorem contains_span_iff (ha : a ≤ cs.length) (hb : b ≤ cs.length) (ho : o ≤ cs.length) :
    ((ofChars cs).span a b).contains ((ofChars cs).position o) = true ↔ a ≤ o ∧ o ≤ b := by
  simp only [Span.contains, span, Bool.and_eq_true, decide_eq_true_eq,
    position_le_position_iff ha ho, position_le_position_iff ho hb]

end Order

end LineIndex

end FlowIndex
