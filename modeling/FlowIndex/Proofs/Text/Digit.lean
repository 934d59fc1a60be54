import FlowIndex.Text.Blank
import FlowIndex.Text.Digit
import Mathlib.Algebra.Group.Nat.Defs

namespace FlowIndex

namespace Text

variable {c : Char}

theorem range_of_isBlank (h : isBlank c = true) :
    ∃ r ∈ blankRanges, r.1 ≤ c.toNat ∧ c.toNat ≤ r.2 := by
  obtain ⟨r, mem, hr⟩ := List.any_eq_true.mp h
  exact ⟨r, mem, by simpa using hr⟩

theorem zero_of_isDigit (h : isDigit c = true) :
    ∃ z ∈ zeroDigits, z ≤ c.toNat ∧ c.toNat < z + 10 := by
  unfold isDigit digitValue? at h
  rw [Option.isSome_map, List.find?_isSome] at h
  obtain ⟨z, mem, hz⟩ := h
  exact ⟨z, mem, by simpa using hz⟩

theorem isDigit_eq_false_of_isBlank (h : isBlank c = true) : isDigit c = false := by
  refine Bool.eq_false_iff.mpr fun digit => ?_
  obtain ⟨r, memr, hr⟩ := range_of_isBlank h
  obtain ⟨z, memz, hz⟩ := zero_of_isDigit digit
  have apart : ∀ r ∈ blankRanges, ∀ z ∈ zeroDigits, r.2 < z ∨ z + 10 ≤ r.1 := by decide
  have := apart r memr z memz
  omega

theorem digitValue?_of_isDigit (h : c.isDigit = true) :
    digitValue? c = some (c.toNat - '0'.toNat) := by
  simp only [Char.isDigit, Bool.and_eq_true, decide_eq_true_eq, ge_iff_le, UInt32.le_iff_toNat_le]
    at h
  have lower : 48 ≤ c.toNat := h.1
  have upper : c.toNat ≤ 57 := h.2
  have found : (decide (0x30 ≤ c.toNat) && decide (c.toNat < 0x30 + 10)) = true := by
    simp only [Bool.and_eq_true, decide_eq_true_eq]
    omega
  simp only [digitValue?, zeroDigits, List.find?_cons, found]
  rfl

theorem isDigit_of_isDigit (h : c.isDigit = true) : isDigit c = true := by
  rw [isDigit, digitValue?_of_isDigit h]
  rfl

theorem decimalValue_eq_ofDigitChars {cs : List Char} (h : ∀ c ∈ cs, c.isDigit = true) :
    decimalValue cs = Nat.ofDigitChars 10 cs 0 := by
  suffices ∀ value, cs.foldl (fun n c => 10 * n + (digitValue? c).getD 0) value =
      Nat.ofDigitChars 10 cs value from this 0
  induction cs
  case nil => exact fun _ => rfl
  case cons c cs hi =>
    intro value
    rw [List.foldl_cons, Nat.ofDigitChars_cons, digitValue?_of_isDigit <| h c List.mem_cons_self,
      Option.getD_some]
    exact hi (fun c mem => h c <| List.mem_cons_of_mem _ mem) _

section Repr

variable {n : Nat}

theorem isDigit_of_mem_repr (h : c ∈ n.repr.toList) : c.isDigit = true := by
  rw [Nat.toList_repr] at h
  exact Nat.isDigit_of_mem_toDigits (by decide) (by decide) h

theorem readNumber_repr (h : n.repr.length ≤ digitLimit) : readNumber n.repr.toList = .ok n := by
  have length : n.repr.toList.length ≤ digitLimit := by rwa [String.length_toList]
  rw [readNumber, if_pos length, decimalValue_eq_ofDigitChars fun _ => isDigit_of_mem_repr,
    Nat.toList_repr, Nat.ofDigitChars_ten_toDigits]

theorem length_repr_le_iff : n.repr.length ≤ digitLimit ↔ n < 10 ^ digitLimit := by
  rw [← String.length_toList, Nat.toList_repr]
  exact Nat.length_toDigits_le_iff (by decide) (by decide)

theorem digitValue_lt (c : Char) : (digitValue? c).getD 0 < 10 := by
  cases value : digitValue? c
  case none => decide
  case some d =>
    obtain ⟨z, found, rfl⟩ := Option.map_eq_some_iff.mp value
    have above := List.find?_some found
    simp only [Bool.and_eq_true, decide_eq_true_eq] at above
    rw [Option.getD_some]
    omega

theorem decimalValue_lt (cs : List Char) : decimalValue cs < 10 ^ cs.length := by
  suffices ∀ value, cs.foldl (fun n c => 10 * n + (digitValue? c).getD 0) value <
      (value + 1) * 10 ^ cs.length by
    simpa [decimalValue] using this 0
  induction cs
  case nil => simp
  case cons c cs hi =>
    intro value
    have digit := digitValue_lt c
    have step : 10 * value + (digitValue? c).getD 0 + 1 ≤ (value + 1) * 10 := by omega
    refine Nat.lt_of_lt_of_le (hi _) ?_
    rw [List.length_cons, Nat.pow_succ', ← Nat.mul_assoc]
    exact Nat.mul_le_mul_right _ step

theorem short_of_readNumber {cs : List Char} (ok : readNumber cs = .ok n) :
    n.repr.length ≤ digitLimit := by
  unfold readNumber at ok
  split at ok
  case isTrue short =>
    cases ok
    have less := Nat.lt_of_lt_of_le (decimalValue_lt cs) <| Nat.pow_le_pow_right (by decide) short
    exact length_repr_le_iff.mpr less
  case isFalse => cases ok

end Repr

end Text

end FlowIndex
