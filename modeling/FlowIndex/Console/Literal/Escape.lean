import FlowIndex.Text.CharacterName
import FlowIndex.Text.Quoted

namespace FlowIndex.Console.Literal

inductive EscapeError
  -- An escape of a text between two places, the second one included.
  | text (start stop : Nat) (reason : String)
  -- An escape of bytes.
  | bytes (start : Nat)
deriving DecidableEq, Repr

def EscapeError.message : EscapeError → String
  | .text start stop reason =>
    s!"(unicode error) 'unicodeescape' codec can't decode bytes in position {start}-{stop}: " ++
      reason
  | .bytes start => s!"(value error) invalid \\x escape at position {start}"

def isHexDigit (c : Char) : Bool :=
  c.isDigit || ('a' ≤ c.toLower && c.toLower ≤ 'f')

def hexValue (cs : List Char) : Nat :=
  cs.foldl (fun n c => 16 * n + (if c.isDigit then c.toNat - 48 else c.toLower.toNat - 87)) 0

-- A text with escapes in the place of characters beyond ASCII. A backslash before such a character
-- or at the end of the text becomes an escape, too.
def asciiForm : List Char → List Char
  | [] => []
  | ['\\'] => "\\u005c".toList
  | '\\' :: c :: cs =>
    if c.toNat < 0x80 then '\\' :: c :: asciiForm cs
    else "\\u005c\\U".toList ++ Text.hexPadded 8 c.toNat ++ asciiForm cs
  | c :: cs =>
    if c.toNat < 0x80 then c :: asciiForm cs
    else "\\U".toList ++ Text.hexPadded 8 c.toNat ++ asciiForm cs

-- The letters of escapes by number, with the number of digits behind them and what is said of one
-- that has fewer.
def hexEscapes : List (Char × Nat × String) :=
  [('x', 2, "truncated \\xXX escape"), ('u', 4, "truncated \\uXXXX escape"),
   ('U', 8, "truncated \\UXXXXXXXX escape")]

def checkHex (place count : Nat) (reason : String) (cs : List Char) : Except EscapeError Unit :=
  let digits := (cs.take count).takeWhile isHexDigit
  if digits.length < count then .error (.text place (place + 1 + digits.length) reason)
  else if 0x10ffff < hexValue digits then
    .error (.text place (place + 1 + count) "illegal Unicode character")
  else .ok ()

def checkName (place : Nat) (cs : List Char) : Except EscapeError Unit :=
  let malformed (size : Nat) : EscapeError :=
    .text place (place + 1 + size) "malformed \\N character escape"
  match cs with
  | '{' :: rest =>
    let name := rest.takeWhile (· ≠ '}')
    if name.length = rest.length || name.isEmpty then .error (malformed (1 + name.length))
    else if Text.isCharacterName name then .ok ()
    else .error (.text place (place + 3 + name.length) "unknown Unicode character name")
  | _ => .error (malformed 0)

def checkEscapesFrom (place : Nat) : List Char → Except EscapeError Unit
  | [] => .ok ()
  | '\\' :: c :: cs => do
    match hexEscapes.lookup c with
    | some (count, reason) => checkHex place count reason cs
    | none => if c = 'N' then checkName place cs
    checkEscapesFrom (place + 2) cs
  | _ :: cs => checkEscapesFrom (place + 1) cs

def checkEscapes (cs : List Char) : Except EscapeError Unit :=
  checkEscapesFrom 0 (asciiForm cs)

def checkByteEscapes (place : Nat) : List Char → Except EscapeError Unit
  | [] => .ok ()
  | '\\' :: c :: cs =>
    if c = 'x' && (cs.take 2).countP isHexDigit < 2 then .error (.bytes place)
    else checkByteEscapes (place + 2) cs
  | _ :: cs => checkByteEscapes (place + 1) cs

end FlowIndex.Console.Literal
