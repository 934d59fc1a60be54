import FlowIndex.Text.Digit

namespace FlowIndex.Text

-- A decimal: the digits without the point, and the power of ten that they are multiplied by.
structure Decimal where
  digits : Nat
  exponent : Int
deriving DecidableEq, Repr

namespace Decimal

def magnitude (d : Decimal) : Int :=
  (Nat.toDigits 10 d.digits).length + d.exponent

-- The double nearest to a decimal. Decimals far outside the range of doubles become infinity or
-- zero at once.
def toFloat (d : Decimal) : Float :=
  if d.digits = 0 || d.magnitude < -400 then 0
  else if 400 < d.magnitude then 1 / 0
  else if d.exponent < 0 then Float.ofScientific d.digits true d.exponent.natAbs
  else Float.ofScientific d.digits false d.exponent.natAbs

-- The exponent behind the digits; no text stands for zero.
def exponent? : List Char → Option Int
  | [] => some 0
  | e :: cs =>
    if e = 'e' || e = 'E' then
      let (negative, ds) := match cs with
        | '-' :: cs => (true, cs)
        | '+' :: cs => (false, cs)
        | cs => (false, cs)
      if ds.isEmpty || !ds.all Char.isDigit then none
      else some (if negative then -(decimalValue ds : Int) else decimalValue ds)
    else none

def ofChars? (cs : List Char) : Option Decimal := do
  let (whole, rest) := cs.span Char.isDigit
  let (fraction, rest) := match rest with
    | '.' :: rest => rest.span Char.isDigit
    | rest => ([], rest)
  guard (!(whole.isEmpty && fraction.isEmpty))
  let exponent ← exponent? rest
  return ⟨decimalValue (whole ++ fraction), exponent - fraction.length⟩

end Decimal

def unsignedReal? (cs : List Char) : Option Float :=
  let word := String.ofList (cs.map Char.toLower)
  if word = "inf" || word = "infinity" then some (1 / 0)
  else if word = "nan" then some (0 / 0)
  else (Decimal.ofChars? cs).map Decimal.toFloat

def real? (s : String) : Option Float := do
  match ← withoutUnderscores s.toList with
  | '-' :: cs => (unsignedReal? cs).map (-·)
  | '+' :: cs => unsignedReal? cs
  | cs => unsignedReal? cs

end FlowIndex.Text
