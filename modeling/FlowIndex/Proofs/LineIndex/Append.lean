import FlowIndex.Proofs.LineIndex

namespace FlowIndex

-- Some lines further down, at the same place of the line.
def Position.down (k : Nat) (p : Position) : Position :=
  { p with line := p.line + k }

def Span.down (k : Nat) (s : Span) : Span :=
  ⟨s.start.down k, s.stop.down k⟩

namespace LineIndex

variable {a k n line start offset : Nat} {starts starts' : List Nat} {cs more : List Char}

section Starts

theorem startsFrom_append (offset : Nat) (cs more : List Char) : startsFrom offset (cs ++ more) =
    startsFrom offset cs ++ startsFrom (offset + cs.length) more := by
  induction cs generalizing offset
  case nil => rfl
  case cons c cs hi =>
    have length : offset + (c :: cs).length = offset + 1 + cs.length := by
      rw [List.length_cons]
      omega
    rw [List.cons_append, startsFrom, startsFrom, hi, length]
    split <;> rfl

theorem startsFrom_add (offset k : Nat) (cs : List Char) :
    startsFrom (offset + k) cs = (startsFrom offset cs).map (· + k) := by
  induction cs generalizing offset
  case nil => rfl
  case cons c cs hi =>
    rw [startsFrom, startsFrom, Nat.add_right_comm, hi]
    split <;> rfl

theorem mem_startsFrom {s : Nat} (mem : s ∈ startsFrom offset cs) :
    offset < s ∧ s ≤ offset + cs.length := by
  induction cs generalizing offset
  case nil => cases mem
  case cons c cs hi =>
    have later (mem : s ∈ startsFrom (offset + 1) cs) :
        offset < s ∧ s ≤ offset + (c :: cs).length := by
      have := hi mem
      rw [List.length_cons]
      omega
    rw [startsFrom] at mem
    split at mem
    case isTrue =>
      obtain rfl | mem := List.mem_cons.mp mem
      case inl =>
        rw [List.length_cons]
        omega
      case inr => exact later mem
    case isFalse => exact later mem

theorem length_startsFrom (offset : Nat) (cs : List Char) :
    (startsFrom offset cs).length = cs.count '\n' := by
  induction cs generalizing offset
  case nil => rfl
  case cons c cs hi =>
    rw [startsFrom, List.count_cons]
    split
    case isTrue newline => simp [newline, hi]
    case isFalse other => simp [other, hi]

theorem getLast?_startsFrom (newline : cs.getLast? = some '\n') (offset : Nat) :
    (startsFrom offset cs).getLast? = some (offset + cs.length) := by
  obtain ⟨front, rfl⟩ := List.getLast?_eq_some_iff.mp newline
  rw [startsFrom_append, List.length_append, ← Nat.add_assoc]
  exact List.getLast?_concat

end Starts

section Positions

-- Lines that start behind an offset do not matter for its position.
theorem locate_before (behind : ∀ s ∈ starts', a < s) :
    locate a line start (starts ++ starts') = locate a line start starts := by
  induction starts generalizing line start
  case nil =>
    cases starts'
    case nil => rfl
    case cons s starts' =>
      have later := Nat.not_le.mpr <| behind s List.mem_cons_self
      simp only [List.nil_append, locate, if_neg later]
  case cons s starts hi =>
    rw [List.cons_append, locate, locate, hi]

-- Of the lines that start before it only the last one does.
theorem locate_behind (before : ∀ s ∈ starts, s ≤ a) :
    locate a line start (starts ++ starts') =
      locate a (line + starts.length) (starts.getLast?.getD start) starts' := by
  induction starts generalizing line start
  case nil => rfl
  case cons s starts hi =>
    have first := before s List.mem_cons_self
    have rest : ∀ s ∈ starts, s ≤ a := fun s mem => before s <| List.mem_cons_of_mem _ mem
    rw [List.cons_append, locate, if_pos first, hi rest, List.length_cons, List.getLast?_cons,
      Option.getD_some, Nat.add_assoc, Nat.add_comm 1]

theorem locate_add : locate (a + k) (line + n) (start + k) (starts.map (· + k)) =
    (locate a line start starts).down n := by
  induction starts generalizing line start
  case nil =>
    simp only [List.map_nil, locate, Position.down, Position.mk.injEq, true_and]
    omega
  case cons s starts hi =>
    simp only [List.map_cons, locate, Nat.add_le_add_iff_right]
    split
    case isTrue =>
      rw [Nat.add_right_comm]
      exact hi
    case isFalse =>
      simp only [Position.down, Position.mk.injEq, true_and]
      omega

theorem position_before (within : a ≤ cs.length) (more : List Char) :
    (ofChars (cs ++ more)).position a = (ofChars cs).position a := by
  have behind : ∀ s ∈ startsFrom (0 + cs.length) more, a < s := by
    intro s mem
    have := (mem_startsFrom mem).1
    omega
  have whole : a ≤ (cs ++ more).length := by
    rw [List.length_append]
    omega
  simp only [position, ofChars, Nat.min_eq_left within, Nat.min_eq_left whole, startsFrom_append]
  exact locate_before behind

theorem position_behind (newline : cs.getLast? = some '\n') (a : Nat) (more : List Char) :
    (ofChars (cs ++ more)).position (a + cs.length) =
      ((ofChars more).position a).down (cs.count '\n') := by
  have before : ∀ s ∈ startsFrom 0 cs, s ≤ min a more.length + cs.length := by
    intro s mem
    have := (mem_startsFrom mem).2
    omega
  have within : min (a + cs.length) (cs ++ more).length = min a more.length + cs.length := by
    rw [List.length_append]
    omega
  simp only [position, ofChars, within, startsFrom_append]
  rw [locate_behind before, getLast?_startsFrom newline, length_startsFrom, Option.getD_some,
    startsFrom_add]
  exact locate_add

end Positions

end LineIndex

end FlowIndex
