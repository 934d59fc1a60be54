namespace FlowIndex.Text

-- The digits with the value zero. Each of them is followed by those of the other nine values, and
-- digits of different runs may stand side by side in one number.
def zeroDigits : List Nat :=
  [0x30, 0x660, 0x6f0, 0x7c0, 0x966, 0x9e6, 0xa66, 0xae6, 0xb66, 0xbe6, 0xc66, 0xce6, 0xd66, 0xde6,
   0xe50, 0xed0, 0xf20, 0x1040, 0x1090, 0x17e0, 0x1810, 0x1946, 0x19d0, 0x1a80, 0x1a90, 0x1b50,
   0x1bb0, 0x1c40, 0x1c50, 0xa620, 0xa8d0, 0xa900, 0xa9d0, 0xa9f0, 0xaa50, 0xabf0, 0xff10, 0x104a0,
   0x10d30, 0x11066, 0x110f0, 0x11136, 0x111d0, 0x112f0, 0x11450, 0x114d0, 0x11650, 0x116c0,
   0x11730, 0x118e0, 0x11950, 0x11c50, 0x11d50, 0x11da0, 0x16a60, 0x16ac0, 0x16b50, 0x1d7ce,
   0x1d7d8, 0x1d7e2, 0x1d7ec, 0x1d7f6, 0x1e140, 0x1e2f0, 0x1e950, 0x1fbf0]

def digitValue? (c : Char) : Option Nat :=
  (zeroDigits.find? fun z => z ≤ c.toNat && c.toNat < z + 10).map (c.toNat - ·)

def isDigit (c : Char) : Bool :=
  (digitValue? c).isSome

-- The number that a run of digits spells; characters that are no digits count as zero.
def decimalValue (cs : List Char) : Nat :=
  cs.foldl (fun n c => 10 * n + (digitValue? c).getD 0) 0

def digitLimit : Nat := 4300

structure TooManyDigits where
  digits : Nat
deriving DecidableEq, Repr

def TooManyDigits.message (e : TooManyDigits) : String :=
  s!"Exceeds the limit ({digitLimit} digits) for integer string conversion: value has {e.digits} digits; use sys.set_int_max_str_digits() to increase the limit"

-- Reads a run of digits, unless it is too long.
def readNumber (cs : List Char) : Except TooManyDigits Nat :=
  if cs.length ≤ digitLimit then .ok (decimalValue cs) else .error ⟨cs.length⟩

-- A number has more than `digitLimit` digits, so that it cannot be written.
structure TooLong where
deriving DecidableEq, Repr

def TooLong.message (_ : TooLong) : String :=
  s!"Exceeds the limit ({digitLimit} digits) for integer string conversion; use sys.set_int_max_str_digits() to increase the limit"

-- Writes a number, unless it is too long.
def writeNumber (n : Nat) : Except TooLong String :=
  if n.repr.length ≤ digitLimit then .ok n.repr else .error {}

def hasDoubleUnderscore : List Char → Bool
  | '_' :: '_' :: _ => true
  | _ :: cs => hasDoubleUnderscore cs
  | [] => false

-- A number without the underscores that part it. None may stand at its start or its end or side by
-- side.
def withoutUnderscores (cs : List Char) : Option (List Char) :=
  if cs.head? = some '_' || cs.getLast? = some '_' || hasDoubleUnderscore cs then none
  else some (cs.filter (· ≠ '_'))

end FlowIndex.Text
