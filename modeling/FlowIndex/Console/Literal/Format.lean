import FlowIndex.Console.Literal.Fault

namespace FlowIndex.Console.Literal

structure TextReader where
  -- A fault as it is told.
  told : Fault → Fault
  expression : List Char → Except Fault Unit

structure FormatScan where
  -- The quote that is open, and whether it is three of them.
  quote : Option (Char × Bool) := none
  -- The brackets that are open, the innermost first.
  brackets : List Char := []

def splitExpression : Nat → FormatScan → List Char →
    Except FormatError (List Char × List Char)
  | 0, _, cs => .ok ([], cs)
  | _, s, [] =>
    match s.quote, s.brackets with
    | some _, _ => .error .unterminated
    | none, b :: _ => .error (.unmatched b)
    | none, [] => .ok ([], [])
  | fuel + 1, s, c :: cs =>
    let take (n : Nat) (s : FormatScan) : Except FormatError (List Char × List Char) :=
      (splitExpression fuel s ((c :: cs).drop n)).map fun (text, rest) =>
        ((c :: cs).take n ++ text, rest)
    let isTriple := [c, c].isPrefixOf cs
    if c = '\\' then .error .backslash
    else
      match s.quote with
      | some (quote, triple) =>
        if c ≠ quote then take 1 s
        else if !triple then take 1 { s with quote := none }
        else if isTriple then take 3 { s with quote := none }
        else take 1 s
      | none =>
        if c = '"' || c = Text.apostrophe then
          take (if isTriple then 3 else 1) { s with quote := some (c, isTriple) }
        else if c = '(' || c = '{' then
          if maxLevel ≤ s.brackets.length then .error .tooDeep
          else take 1 { s with brackets := c :: s.brackets }
        else if c = '#' then .error .comment
        else
          match s.brackets with
          | [] =>
            if ['!', '=', '<', '>'].contains c && cs.head? = some '=' then take 2 s
            else if ['!', '=', ':', '}'].contains c then .ok ([], c :: cs)
            else if c = ')' then .error (.unmatched c)
            else take 1 s
          | opening :: brackets =>
            if c = ')' || c = '}' then
              if (opening == '(') == (c == ')') then take 1 { s with brackets }
              else .error (.mismatched c opening)
            else take 1 s

def putBefore (cs : List Char) :
    List Char × Bool × List Char → List Char × Bool × List Char
  | (text, doubled, rest) => (cs ++ text, doubled, rest)

-- The plain text at the head of a text up to a brace, whether the brace is doubled, and the text
-- behind. The first one of doubled braces belongs to the plain text; they are looked for outside
-- formats only. A brace in an escape by name is none.
def splitPlain (raw nested : Bool) : Nat → List Char →
    Except FormatError (List Char × Bool × List Char)
  | 0, cs => .ok ([], false, cs)
  | _, [] => .ok ([], false, [])
  | fuel + 1, c :: cs =>
    let goOn (n : Nat) : Except FormatError (List Char × Bool × List Char) :=
      (splitPlain raw nested fuel ((c :: cs).drop n)).map (putBefore ((c :: cs).take n))
    -- The brace `d`, with `before` read already.
    let brace (before : List Char) (d : Char) (rest : List Char) :
        Except FormatError (List Char × Bool × List Char) :=
      if nested then .ok (before, false, d :: rest)
      else if rest.head? = some d then .ok (before ++ [d], true, rest.tail)
      else if d = '}' then .error .single
      else .ok (before, false, d :: rest)
    if c = '{' || c = '}' then brace [] c cs
    else if raw || c ≠ '\\' then goOn 1
    else
      match cs with
      | 'N' :: '{' :: rest => goOn (4 + (rest.takeWhile (· ≠ '}')).length)
      | 'N' :: _ => goOn 3
      | d :: rest => if d = '{' || d = '}' then brace [c] d rest else goOn 2
      | [] => goOn 1

def isGap (c : Char) : Bool :=
  c = ' ' || c = '\t' || c = '\n' || c.toNat = 12

namespace TextReader

variable (r : TextReader)

def checkExpression (text rest : List Char) : Except Fault Unit :=
  if !text.all isGap then r.expression ('(' :: text ++ [')'])
  else
    match rest with
    | '}' :: _ | [] => .error (r.told (.format .empty))
    | c :: _ => .error (r.told (.format (.nothingBefore c)))

def dropEquals : List Char → List Char
  | '=' :: cs => cs.dropWhile fun c => c = ' ' || (9 ≤ c.toNat && c.toNat ≤ 13)
  | cs => cs

def dropConversion : List Char → Except FormatError (List Char)
  | ['!'] => .error .unfinished
  | '!' :: c :: cs => if ['s', 'r', 'a'].contains c then .ok cs else .error .conversion
  | cs => .ok cs

-- Checks a text with expressions in it. `depth` says how deep it stands in formats of others; a
-- format ends at the brace that closes the expression, and the text from there on is given.
def checkFormat (raw : Bool) (depth : Nat) : Nat → List Char → Except Fault (List Char)
  | 0, cs => .ok cs
  | fuel + 1, cs => do
    let own {α : Type} (e : Except FormatError α) : Except Fault α :=
      e.mapError fun e => r.told (.format e)
    let (plain, doubled, rest) ← own (splitPlain raw (depth ≠ 0) (cs.length + 1) cs)
    if !raw then (checkEscapes plain).mapError fun e => r.told (.escape e)
    if doubled then checkFormat raw depth fuel rest
    else
      match rest with
      | '{' :: rest =>
        if 2 ≤ depth then own (.error .nestedTooDeep)
        let (text, rest) ← own (splitExpression (rest.length + 1) {} rest)
        if rest.isEmpty then own (.error .unfinished)
        r.checkExpression text rest
        let rest ← own (dropConversion (dropEquals rest))
        let rest ← match rest with
          | [':'] => own (.error .unfinished)
          | ':' :: rest => checkFormat raw (depth + 1) fuel rest
          | rest => .ok rest
        match rest with
        | '}' :: rest => checkFormat raw depth fuel rest
        | _ => own (.error .unfinished)
      | rest => return rest

def checkQuote (q : Quote) : Except Fault Unit :=
  match q.kind with
  | .format => .ok ()
  | .plain =>
    if q.raw then .ok () else (checkEscapes q.content).mapError fun e => r.told (.escape e)
  | .bytes =>
    if q.content.any (0x80 ≤ ·.toNat) then .error (r.told (.rule .asciiBytes))
    else if q.raw then .ok ()
    else (checkByteEscapes 0 q.content).mapError fun e => r.told (.escape e)

-- Checks quoted texts side by side. `bytes` says whether those before are bytes.
def checkQuotes (bytes : Option Bool) : List Quote → Except Fault Unit
  | [] => .ok ()
  | q :: qs => do
    r.checkQuote q
    let isBytes : Bool := q.kind = .bytes
    if bytes.any (· ≠ isBytes) then throw (r.told (.rule .mixedBytes))
    if q.kind = .format then
      let _ ← r.checkFormat q.raw 0 (q.content.length + 1) q.content
    checkQuotes (some isBytes) qs

end TextReader

end FlowIndex.Console.Literal
