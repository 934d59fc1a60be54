import FlowIndex.Double
import FlowIndex.Position
import FlowIndex.Text.Blank

namespace FlowIndex

inductive FieldCause
  | missing
  | notANumber
  | notAnInteger
  | fraction
  | infinite
  | tooLarge
  | negative
  | notAReal
  | notATruthValue
deriving DecidableEq, Repr

def FieldCause.text : FieldCause → String
  | .missing => "is missing"
  | .notANumber => "is not a number"
  | .notAnInteger => "is not a whole number"
  | .fraction => "has a fraction"
  | .infinite => "is infinite"
  | .tooLarge => "is too large"
  | .negative => "is negative"
  | .notAReal => "is not a number"
  | .notATruthValue => "is not a truth value"

structure FieldError where
  field : String
  cause : FieldCause
deriving DecidableEq, Repr

-- A value from outside, which is read leniently. A number that is written with a point or an exponent
-- is held as a double.
inductive RawValue
  | integer (n : Int)
  | real (negative : Bool) (d : Text.Decimal)
  | text (s : String)
  | flag (b : Bool)
  | other
deriving DecidableEq, Repr

namespace Field

-- Blanks around a number; the separators `U+001C` to `U+001F` are none here.
def isSpace (c : Char) : Bool :=
  Text.isBlank c && !(0x1c ≤ c.toNat && c.toNat ≤ 0x1f)

def trimSpaces (cs : List Char) : List Char :=
  ((cs.dropWhile isSpace).reverse.dropWhile isSpace).reverse

-- The text without the zeros and underscores in front of its first other digit, or of a minus sign
-- that stands in its place. Of nothing but zeros and underscores the last character stays, and a
-- point keeps the character before it. `last` is the character read before.
def dropZeros (last : Char) : List Char → Option (List Char)
  | [] => some [last]
  | c :: cs =>
    if c = '0' || c = '_' then dropZeros c cs
    else if c.isDigit || c = '-' then some (c :: cs)
    else if c = '.' then some (last :: c :: cs)
    else none

def withoutZeros : List Char → Option (List Char)
  | [] => none
  | c :: cs => if c = '0' then dropZeros c cs else if c.isDigit then some (c :: cs) else none

def withoutFraction (cs : List Char) : List Char :=
  match cs.span (· ≠ '.') with
  | (whole, _ :: zeros) => if !zeros.isEmpty && zeros.all (· = '0') then whole else cs
  | (whole, []) => whole

-- The text without the blanks around it, a plus sign, and the zeros and underscores that a number
-- does not need.
def tidy (s : String) : Option (List Char) := do
  let cs ← match trimSpaces s.toList with
    | '-' :: cs => (withoutZeros cs).map ('-' :: ·)
    | '+' :: cs => withoutZeros cs
    | cs => withoutZeros cs
  let cs := withoutFraction cs
  return (Text.withoutUnderscores cs).getD cs

def digitLimit : Nat := Text.digitLimit

-- Reads digits with no zero in front. Too many digits are refused before anything else behind them
-- is looked at.
def digits (cs : List Char) : Except FieldCause Nat :=
  let (ds, rest) := cs.span Char.isDigit
  if ds.head? = some '0' && ds ≠ ['0'] then .error .notAnInteger
  else if digitLimit < ds.length then .error .tooLarge
  else if ds.isEmpty || !rest.isEmpty then .error .notAnInteger
  else .ok (Text.decimalValue ds)

def strictInt : List Char → Except FieldCause Int
  | '-' :: cs => (digits cs).map (-·)
  | cs => (digits cs).map (·)

-- Reads an integer: a sign, digits, and a fraction of zeros, each of the first and last optional,
-- with blanks around. Only in its shortest form is one with too many digits known for an integer.
def intOf (s : String) : Except FieldCause Int :=
  match strictInt s.toList with
  | .error .notAnInteger => (((tidy s).map strictInt).bind (·.toOption)).elim
      (.error .notAnInteger) .ok
  | r => r

def wordLimit : Nat := Nat.pow 2 63

def wholeOf (negative : Bool) (d : Text.Decimal) : Except FieldCause Int :=
  match Double.ofDecimal d with
  | .whole n =>
    if wordLimit ≤ n then .error .tooLarge else .ok (if negative then -n else n)
  | .fraction => .error .fraction
  | .infinite => .error .infinite

def readInt (v : Option RawValue) : Except FieldCause Int :=
  match v with
  | none => .error .missing
  | some .other => .error .notANumber
  | some (.flag b) => .ok (if b then 1 else 0)
  | some (.integer n) => .ok n
  | some (.real negative d) => wholeOf negative d
  | some (.text s) => intOf s

def readNat (v : Option RawValue) : Except FieldCause Nat := do
  let n ← readInt v
  if n < 0 then throw .negative else return n.toNat

def errorsOf {α : Type} (field : String) : Except FieldCause α → List FieldError
  | .ok _ => []
  | .error cause => [⟨field, cause⟩]

end Field

def Position.ofFields (line character : Option RawValue) : Except (List FieldError) Position :=
  match Field.readNat line, Field.readNat character with
  | .ok l, .ok c => .ok ⟨l, c⟩
  | l, c => .error (Field.errorsOf "line" l ++ Field.errorsOf "character" c)

def Position.ofInts (line character : Int) : Except (List FieldError) Position :=
  Position.ofFields (some (.integer line)) (some (.integer character))

end FlowIndex
