import FlowIndex.Text.Identifier
import FlowIndex.Text.Quoted

namespace FlowIndex.Console.Literal

inductive TextKind
  | plain
  | bytes
  -- A text with expressions in it.
  | format
deriving DecidableEq, Repr

structure Quote where
  kind : TextKind
  -- Whether backslashes stand for themselves.
  raw : Bool
  content : List Char
deriving DecidableEq, Repr

inductive Token
  | name (s : String)
  -- A reserved name.
  | word (s : String)
  | whole (digits : Nat)
  -- A number that is not written in whole decimal digits.
  | number (imaginary : Bool)
  | text (q : Quote)
  | mark (s : String)
  | lineEnd
  | indent
  | dedent
  | stop
deriving DecidableEq, Repr

structure Bracket where
  opening : Char
  line : Nat
deriving DecidableEq, Repr

structure Lexeme where
  token : Token
  -- How many brackets are open behind it.
  level : Nat
  line : Nat
deriving DecidableEq, Repr

inductive TokenError
  | unterminated (triple : Bool) (line : Nat)
  | badNumber (kind : String)
  | badDigit (c : Char) (kind : String)
  | leadingZeros
  | badCharacter (c : Char)
  | tooDeep
  | unmatched (closing : Char)
  | mismatched (closing opening : Char) (line : Option Nat)
  | unclosed (opening : Char)
  -- A backslash that is not at the end of a line.
  | continuation
  | unindent
  | tabs
deriving DecidableEq, Repr

-- Whether an error counts even if a reader does not come so far.
def TokenError.isForemost : TokenError → Bool
  | .unclosed _ | .continuation | .unindent | .tabs => false
  | _ => true

def codePoint (c : Char) : String :=
  "U+" ++ String.ofList ((Text.hexPadded 4 c.toNat).map Char.toUpper)

def TokenError.message : TokenError → String
  | .unterminated triple line =>
    let kind := if triple then "triple-quoted string" else "string"
    s!"unterminated {kind} literal (detected at line {line})"
  | .badNumber kind => s!"invalid {kind} literal"
  | .badDigit c kind => s!"invalid digit '{c}' in {kind} literal"
  | .leadingZeros =>
    "leading zeros in decimal integer literals are not permitted; " ++
      "use an 0o prefix for octal integers"
  | .badCharacter c =>
    if Text.isPrintable c then s!"invalid character '{c}' ({codePoint c})"
    else "invalid non-printable character " ++ codePoint c
  | .tooDeep => "too many nested parentheses"
  | .unmatched closing => s!"unmatched '{closing}'"
  | .mismatched closing opening line =>
    s!"closing parenthesis '{closing}' does not match opening parenthesis '{opening}'" ++
      (line.map fun n => s!" on line {n}").getD ""
  | .unclosed opening => s!"'{opening}' was never closed"
  | .continuation => "unexpected character after line continuation character"
  | .unindent => "unindent does not match any outer indentation level"
  | .tabs => "inconsistent use of tabs and spaces in indentation"

def isNameChar (c : Char) : Bool :=
  c.isAlphanum || c = '_' || 0x80 ≤ c.toNat

def reserved : List String :=
  ["False", "None", "True", "and", "as", "assert", "async", "await", "break", "class", "continue",
   "def", "del", "elif", "else", "except", "finally", "for", "from", "global", "if", "import", "in",
   "is", "lambda", "nonlocal", "not", "or", "pass", "raise", "return", "try", "while", "with",
   "yield"]

def startsOperator (cs : List Char) : Bool :=
  ["if", "in", "is"].any (·.toList.isPrefixOf cs) ||
    ["and", "else", "for", "or", "not"].contains (String.ofList (cs.takeWhile isNameChar))

def endNumber (kind : String) (rest : List Char) : Except TokenError (List Char) :=
  if startsOperator rest || !rest.head?.any isNameChar then .ok rest
  else .error (.badNumber kind)

-- The text behind further decimal digits. An underscore stands between two digits.
def dropDecimals : List Char → Except TokenError (List Char)
  | '_' :: c :: cs => if c.isDigit then dropDecimals cs else .error (.badNumber "decimal")
  | ['_'] => .error (.badNumber "decimal")
  | c :: cs => if c.isDigit then dropDecimals cs else .ok (c :: cs)
  | [] => .ok []

def dropZeros : List Char → Except TokenError (List Char)
  | '0' :: cs => dropZeros cs
  | '_' :: '0' :: cs => dropZeros cs
  | '_' :: c :: cs => if c.isDigit then .ok (c :: cs) else .error (.badNumber "decimal")
  | ['_'] => .error (.badNumber "decimal")
  | cs => .ok cs

-- The text behind the digits of a number in another base. `needed` says that a digit has to come
-- next.
def dropDigits (kind : String) (isDigit : Char → Bool) (needed : Bool) :
    List Char → Except TokenError (List Char)
  | [] => if needed then .error (.badNumber kind) else .ok []
  | c :: cs =>
    if isDigit c then dropDigits kind isDigit false cs
    else if c.isDigit then .error (.badDigit c kind)
    else if needed then .error (.badNumber kind)
    else if c = '_' then dropDigits kind isDigit true cs
    else .ok (c :: cs)

def radixNumber (kind : String) (isDigit : Char → Bool) (cs : List Char) :
    Except TokenError (List Char) := do
  let cs := match cs with
    | '_' :: cs => cs
    | cs => cs
  endNumber kind (← dropDigits kind isDigit true cs)

def endDecimal : List Char → Except TokenError (Bool × List Char)
  | c :: cs =>
    if c = 'j' || c = 'J' then return (true, ← endNumber "imaginary" cs)
    else return (false, ← endNumber "decimal" (c :: cs))
  | [] => .ok (false, [])

-- Reads what follows the digits of a decimal: an exponent and the mark of imaginary numbers.
def exponentPart : List Char → Except TokenError (Bool × List Char)
  | c :: cs =>
    if c = 'e' || c = 'E' then
      match cs with
      | d :: ds =>
        if d = '+' || d = '-' then
          if ds.head?.any Char.isDigit then do endDecimal (← dropDecimals ds)
          else .error (.badNumber "decimal")
        else if d.isDigit then do endDecimal (← dropDecimals ds)
        else return (false, ← endNumber "decimal" (c :: cs))
      | [] => .error (.badNumber "decimal")
    else endDecimal (c :: cs)
  | [] => .ok (false, [])

def fractionPart (cs : List Char) : Except TokenError (Bool × List Char) := do
  if cs.head?.any Char.isDigit then exponentPart (← dropDecimals cs) else exponentPart cs

def decimalPart : List Char → Except TokenError (Bool × List Char)
  | '.' :: cs => fractionPart cs
  | cs => exponentPart cs

def number : List Char → Except TokenError (Bool × List Char)
  | '0' :: cs =>
    let radix := match cs.head?.map Char.toLower with
      | some 'x' =>
        some ("hexadecimal", fun c : Char => c.isDigit || ('a' ≤ c.toLower && c.toLower ≤ 'f'))
      | some 'o' => some ("octal", fun c => '0' ≤ c && c ≤ '7')
      | some 'b' => some ("binary", fun c => c = '0' || c = '1')
      | _ => none
    match radix with
    | some (kind, isDigit) => return (false, ← radixNumber kind isDigit (cs.drop 1))
    | none => do
      let rest ← dropZeros cs
      if rest.head?.any Char.isDigit then
        let rest ← dropDecimals rest
        if rest.head?.any fun c => ".eEjJ".toList.contains c then decimalPart rest
        else .error .leadingZeros
      else decimalPart rest
  | cs => do decimalPart (← dropDecimals cs)

-- The inside of a quoted text and the text behind it. A backslash takes the next character with it.
-- For a text that does not end, gives the number of lines through which it was sought.
def quotedText (quote : Char) (triple : Bool) :
    List Char → Except Nat (List Char × List Char)
  | [] => .error 0
  | '\\' :: c :: cs =>
    match quotedText quote triple cs with
    | .ok (inner, rest) => .ok ('\\' :: c :: inner, rest)
    | .error n => .error (n + if c = '\n' then 1 else 0)
  | c :: cs =>
    if triple then
      if c = quote && [quote, quote].isPrefixOf cs then .ok ([], cs.drop 2)
      else
        match quotedText quote triple cs with
        | .ok (inner, rest) => .ok (c :: inner, rest)
        | .error n => .error (n + if c = '\n' then 1 else 0)
    else if c = quote then .ok ([], cs)
    else if c = '\n' then .error 0
    else (quotedText quote triple cs).map fun (inner, rest) => (c :: inner, rest)

-- The letters that may stand before a quote, and what they make of the text: its kind and whether
-- backslashes stand for themselves.
def quotePrefixes : List (String × TextKind × Bool) :=
  [("", .plain, false), ("u", .plain, false), ("r", .plain, true), ("b", .bytes, false),
   ("br", .bytes, true), ("rb", .bytes, true), ("f", .format, false), ("fr", .format, true),
   ("rf", .format, true)]

def quoteStart? (cs : List Char) : Option ((TextKind × Bool) × Char × List Char) :=
  quotePrefixes.findSome? fun (letters, kind) =>
    if (cs.take letters.length).map Char.toLower = letters.toList then
      match cs.drop letters.length with
      | quote :: rest =>
        if quote = '"' || quote = Text.apostrophe then some (kind, quote, rest) else none
      | [] => none
    else none

def longMarks : List String :=
  ["**=", "//=", "<<=", ">>=", "...", "**", "//", "<<", ">>", "<=", ">=", "==", "!=", "<>", "->",
   "+=", "-=", "*=", "/=", "%=", "&=", "|=", "^=", "@=", ":="]

def markOf (c : Char) (cs : List Char) : String :=
  (longMarks.find? (·.toList.isPrefixOf (c :: cs))).getD (String.singleton c)

def badNameChar? : List Char → Option Char
  | [] => none
  | c :: cs =>
    if Text.isIdentifierStart c then cs.find? (!Text.isIdentifierPart ·) else some c

def nameToken (cs : List Char) : Except TokenError Token :=
  match badNameChar? cs with
  | some c => .error (.badCharacter c)
  | none =>
    let s := String.ofList cs
    .ok (if reserved.contains s then .word s else .name s)

def numberToken (cs : List Char) : Except TokenError (Token × List Char) := do
  let (imaginary, rest) ← number cs
  let text := cs.take (cs.length - rest.length)
  if text.all fun c => c.isDigit || c = '_' then
    return (.whole (text.countP Char.isDigit), rest)
  else return (.number imaginary, rest)

-- The first token of a text, if it does not start with something between tokens, and the text
-- behind it.
def next (line : Nat) (c : Char) (cs : List Char) : Except TokenError (Option Token × List Char) :=
  match quoteStart? (c :: cs) with
  | some ((kind, raw), quote, rest) =>
    let triple := [quote, quote].isPrefixOf rest
    match quotedText quote triple (if triple then rest.drop 2 else rest) with
    | .ok (content, rest) => .ok (some (.text ⟨kind, raw, content⟩), rest)
    | .error lines => .error (.unterminated triple (line + lines))
  | none =>
    if c = ' ' || c = '\t' || c.toNat = 12 then .ok (none, cs)
    else if c = '\n' then .ok (some .lineEnd, cs)
    else if c = '#' then .ok (none, cs.dropWhile (· ≠ '\n'))
    else if c = '\\' then
      match cs with
      | '\n' :: d :: cs => .ok (none, d :: cs)
      | _ => .error .continuation
    else if c.isDigit then do
      let (token, rest) ← numberToken (c :: cs)
      return (some token, rest)
    else if c = '.' && cs.head?.any Char.isDigit then do
      let (imaginary, rest) ← fractionPart cs
      return (some (.number imaginary), rest)
    else if isNameChar c then do
      return (some (← nameToken (c :: cs.takeWhile isNameChar)), cs.dropWhile isNameChar)
    else if !Text.isPrintable c then .error (.badCharacter c)
    else
      let s := markOf c cs
      .ok (some (.mark s), (c :: cs).drop s.length)

def maxLevel : Nat := 200

def openBrackets (line : Nat) (brackets : List Bracket) : Token → Except TokenError (List Bracket)
  | .mark "(" => nest '('
  | .mark "\x7b" => nest '{'
  | .mark ")" => close ')' '('
  | .mark "\x7d" => close '}' '{'
  | _ => .ok brackets
where
  nest (opening : Char) : Except TokenError (List Bracket) :=
    if brackets.length < maxLevel then .ok (⟨opening, line⟩ :: brackets) else .error .tooDeep
  close (closing opening : Char) : Except TokenError (List Bracket) :=
    match brackets with
    | [] => .error (.unmatched closing)
    | b :: brackets =>
      if b.opening = opening then .ok brackets
      else .error (.mismatched closing b.opening (if b.line = line then none else some b.line))

-- How far a line is indented, with tab stops at every eighth column and with tabs that count as
-- one.
structure Indentation where
  wide : Nat := 0
  narrow : Nat := 0
deriving DecidableEq, Repr

-- The indentation at the head of a text, and the text behind it. A line that goes on behind a
-- backslash is indented as its first part is, if that is indented at all: `first` tells how far.
def indentation (first : Nat) (i : Indentation) :
    List Char → Except TokenError (Indentation × List Char)
  | [] => .ok (settled, [])
  | '\\' :: '\n' :: cs =>
    if cs.isEmpty then .error .continuation
    else indentation (if first = 0 then i.wide else first) i cs
  | c :: cs =>
    if c = ' ' then indentation first ⟨i.wide + 1, i.narrow + 1⟩ cs
    else if c = '\t' then indentation first ⟨(i.wide / 8 + 1) * 8, i.narrow + 1⟩ cs
    else if c.toNat = 12 then indentation first {} cs
    else if c = '\\' then .error .continuation
    else .ok (settled, c :: cs)
where
  settled : Indentation := if first = 0 then i else ⟨first, first⟩

def openIndentations (i : Indentation) (opened : List Indentation) :
    Except TokenError (List Indentation × List Token) :=
  let kept := opened.dropWhile (i.wide < ·.wide)
  let top := kept.head?.getD {}
  if i.wide = top.wide then
    if i.narrow = top.narrow then
      .ok (kept, List.replicate (opened.length - kept.length) .dedent)
    else .error .tabs
  else if kept.length < opened.length then .error .unindent
  else if top.narrow < i.narrow then .ok (i :: opened, [.indent])
  else .error .tabs

structure Scan where
  lexemes : List Lexeme := []
  -- Why there are no further tokens, if the text does not just end.
  error : Option TokenError := none
  -- The brackets that are open at the end, the innermost first.
  brackets : List Bracket := []
  -- Whether the end of the text was seen with the last token.
  exhausted : Bool := false

def Scan.after (lexemes : List Lexeme) (s : Scan) : Scan :=
  { s with lexemes := lexemes ++ s.lexemes }

def looksBehind (spelling : List Char) : Token → Bool
  | .text q => q.content.isEmpty && spelling.length < 6
  | .mark s => s.length < 3
  | _ => true

def scanFrom : Nat → Nat → List Bracket → List Indentation → Bool → List Char → Scan
  | 0, _, brackets, _, _, _ => { brackets }
  | _, line, brackets, _, _, [] =>
    match brackets with
    | [] => { lexemes := [⟨.stop, 0, line⟩] }
    | b :: _ => { error := some (.unclosed b.opening), brackets }
  | fuel + 1, line, brackets, indents, true, c :: cs =>
    match indentation 0 {} (c :: cs) with
    | .error e => { error := some e, brackets }
    | .ok (i, rest) =>
      let line := lineBehind line c cs rest
      match rest with
      | '#' :: rest => scanFrom fuel line brackets indents true (rest.dropWhile (· ≠ '\n'))
      | '\n' :: rest => scanFrom fuel (line + 1) brackets indents true rest
      | rest =>
        match openIndentations i indents with
        | .ok (indents, tokens) =>
          (scanFrom fuel line brackets indents false rest).after (tokens.map (⟨·, 0, line⟩))
        | .error e => { error := some e, brackets }
  | fuel + 1, line, brackets, indents, false, c :: cs =>
    match next line c cs with
    | .error e => { error := some e, brackets }
    | .ok (none, rest) => scanFrom fuel (lineBehind line c cs rest) brackets indents false rest
    | .ok (some token, rest) =>
      if token = .lineEnd && !brackets.isEmpty then
        scanFrom fuel (line + 1) brackets indents false rest
      else
        match openBrackets line brackets token with
        | .error e => { error := some e, brackets }
        | .ok brackets =>
          let behind := (scanFrom fuel (lineBehind line c cs rest) brackets indents
            (token = .lineEnd) rest).after [⟨token, brackets.length, line⟩]
          let spelling := (c :: cs).take (cs.length + 1 - rest.length)
          if rest.isEmpty then { behind with exhausted := looksBehind spelling token } else behind
where
  -- The line behind what was read of a text.
  lineBehind (line : Nat) (c : Char) (cs rest : List Char) : Nat :=
    line + ((c :: cs).take (cs.length + 1 - rest.length)).countP (· = '\n')

def unifyLineEnds : List Char → List Char
  | '\r' :: '\n' :: cs => '\n' :: unifyLineEnds cs
  | '\r' :: cs => '\n' :: unifyLineEnds cs
  | c :: cs => c :: unifyLineEnds cs
  | [] => []

def scan (cs : List Char) : Scan :=
  let cs := unifyLineEnds cs
  scanFrom (2 * cs.length + 2) 1 [] [] true cs

end FlowIndex.Console.Literal
