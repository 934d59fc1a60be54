namespace FlowIndex.Text

def utf8 (cs : List Char) : List UInt8 :=
  cs.flatMap String.utf8EncodeChar

inductive Malformed
  | start
  | continuation
  | ending
deriving DecidableEq, Repr

def Malformed.message : Malformed → String
  | .start => "invalid start byte"
  | .continuation => "invalid continuation byte"
  | .ending => "unexpected end of data"

-- What stands at the head of some bytes: a character, or a run of bytes that is none.
inductive Head
  | char (c : Char) (length : Nat)
  | malformed (cause : Malformed) (length : Nat)
deriving DecidableEq, Repr

-- The bytes that may follow a lead byte directly. All later ones are in `0x80` to `0xbf`.
def secondRange (lead : Nat) : Nat × Nat :=
  if lead = 0xe0 then (0xa0, 0xbf)
  else if lead = 0xed then (0x80, 0x9f)
  else if lead = 0xf0 then (0x90, 0xbf)
  else if lead = 0xf4 then (0x80, 0x8f)
  else (0x80, 0xbf)

-- Reads the `owed` bytes that are missing from a character. `value` is what was read so far, of
-- `length` bytes, and the next byte has to lie in `range`.
def continueChar (value length : Nat) (range : Nat × Nat) : Nat → List UInt8 → Head
  | 0, _ => .char (Char.ofNat value) length
  | _ + 1, [] => .malformed .ending length
  | owed + 1, b :: bs =>
    if range.1 ≤ b.toNat && b.toNat ≤ range.2 then
      continueChar (value * 64 + (b.toNat - 0x80)) (length + 1) (0x80, 0xbf) owed bs
    else .malformed .continuation length

-- What stands at the head of the bytes `b :: bs`.
def head (b : UInt8) (bs : List UInt8) : Head :=
  let lead := b.toNat
  if lead < 0x80 then .char (Char.ofNat lead) 1
  else if 0xc2 ≤ lead && lead < 0xe0 then continueChar (lead - 0xc0) 1 (secondRange lead) 1 bs
  else if 0xe0 ≤ lead && lead < 0xf0 then continueChar (lead - 0xe0) 1 (secondRange lead) 2 bs
  else if 0xf0 ≤ lead && lead < 0xf5 then continueChar (lead - 0xf0) 1 (secondRange lead) 3 bs
  else .malformed .start 1

-- Bytes that are no text: the cause, and the run of bytes that was given up.
structure DecodeError where
  cause : Malformed
  position : Nat
  bytes : List UInt8
deriving DecidableEq, Repr

def hexByte (b : UInt8) : String :=
  String.ofList [Nat.digitChar (b.toNat / 16), Nat.digitChar (b.toNat % 16)]

def DecodeError.message (e : DecodeError) : String :=
  let place := match e.bytes with
    | [b] => s!"byte 0x{hexByte b} in position {e.position}"
    | bs => s!"bytes in position {e.position}-{e.position + bs.length - 1}"
  s!"'utf-8' codec can't decode {place}: {e.cause.message}"

-- Reads bytes from a position on; `skip` of them belong to what was read last.
def decodeFrom (position : Nat) : Nat → List UInt8 → Except DecodeError (List Char)
  | _, [] => .ok []
  | skip + 1, _ :: bs => decodeFrom (position + 1) skip bs
  | 0, b :: bs =>
    match head b bs with
    | .char c length => (decodeFrom (position + 1) (length - 1) bs).map (c :: ·)
    | .malformed cause length => .error ⟨cause, position, b :: bs.take (length - 1)⟩

def decode (bs : List UInt8) : Except DecodeError (List Char) :=
  decodeFrom 0 0 bs

def replacementChar : Char := Char.ofNat 0xfffd

def decodeLossyFrom : Nat → List UInt8 → List Char
  | _, [] => []
  | skip + 1, _ :: bs => decodeLossyFrom skip bs
  | 0, b :: bs =>
    match head b bs with
    | .char c length => c :: decodeLossyFrom (length - 1) bs
    | .malformed _ length => replacementChar :: decodeLossyFrom (length - 1) bs

-- Reads bytes as text; each run of bytes that is none becomes one replacement character.
def decodeLossy (bs : List UInt8) : List Char :=
  decodeLossyFrom 0 bs

def unifyNewlines : List Char → List Char
  | [] => []
  | '\r' :: '\n' :: cs => '\n' :: unifyNewlines cs
  | c :: cs => (if c = '\r' then '\n' else c) :: unifyNewlines cs

end FlowIndex.Text
