import FlowIndex.Text.Real

namespace FlowIndex.Double

-- A double has this many binary digits. Any other number stands for the nearest double, and halfway
-- between two for the one whose last digit is zero.
def precision : Nat := 53

-- The nearest whole number to a quotient, and the even one halfway between two.
def roundDiv (n d : Nat) : Nat :=
  if d < 2 * (n % d) || (2 * (n % d) = d && n / d % 2 = 1) then n / d + 1 else n / d

def bitCount (n : Nat) : Nat :=
  if n = 0 then 0 else n.log2 + 1

def ofNat (n : Nat) : Nat :=
  let unit := Nat.pow 2 (bitCount n - precision)
  roundDiv n unit * unit

def ofInt : Int → Int
  | .ofNat n => ofNat n
  | .negSucc n => -ofNat (n + 1)

inductive Nearest
  | whole (n : Nat)
  | fraction
  | infinite
deriving DecidableEq, Repr

-- The nearest double to a quotient. Numbers below one half have a fraction, unless they are so
-- small that they become zero.
def ofQuotient (n d : Nat) : Nearest :=
  if n * Nat.pow 2 1075 ≤ d then .whole 0
  else if 2 * n < d then .fraction
  else
    let bits := bitCount (n / d)
    -- Below `2 ^ 53` the digits behind the point are kept as far as there is room for them.
    let places := Nat.pow 2 (precision - bits)
    let unit := Nat.pow 2 (bits - precision)
    let m := roundDiv (n * places) (d * unit)
    if m % places ≠ 0 then .fraction
    else if Nat.pow 2 1024 ≤ m / places * unit then .infinite
    else .whole (m / places * unit)

-- The nearest double to a decimal. Decimals far outside the range of doubles become infinite or
-- zero at once.
def ofDecimal (d : Text.Decimal) : Nearest :=
  if d.digits = 0 || d.magnitude < -400 then .whole 0
  else if 400 < d.magnitude then .infinite
  else if d.exponent < 0 then ofQuotient d.digits (Nat.pow 10 d.exponent.natAbs)
  else ofQuotient (d.digits * Nat.pow 10 d.exponent.natAbs) 1

theorem roundDiv_one (n : Nat) : roundDiv n 1 = n := by
  simp [roundDiv, Nat.mod_one]

theorem ofNat_of_bitCount_le {n : Nat} (h : bitCount n ≤ precision) : ofNat n = n := by
  simp [ofNat, Nat.sub_eq_zero_of_le h, roundDiv_one]

end FlowIndex.Double
