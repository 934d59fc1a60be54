import FlowIndex.Text.Comment

namespace FlowIndex.Host

inductive TokenKind
  | name
  | keyword
  | literal
  | mark
deriving DecidableEq, Repr

structure Token where
  kind : TokenKind
  text : String
  start : Nat
  stop : Nat
deriving DecidableEq, Repr

namespace Token

def isMark (t : Token) (c : Char) : Bool :=
  t.kind = .mark && t.text = String.singleton c

def isKeyword (t : Token) (word : String) : Bool :=
  t.kind = .keyword && t.text = word

def isName (t : Token) (word : String) : Bool :=
  t.kind = .name && t.text = word

def isOpening (t : Token) : Bool :=
  t.isMark '(' || t.isMark '[' || t.isMark '{'

def isClosing (t : Token) : Bool :=
  t.isMark ')' || t.isMark ']' || t.isMark '}'

def endsStatement (t : Token) : Bool :=
  match t.kind with
  | .name | .literal => true
  | .keyword => ["break", "continue", "fallthrough", "return"].contains t.text
  | .mark => t.isClosing

end Token

def keywords : List String :=
  ["break", "case", "chan", "const", "continue", "default", "defer", "else", "fallthrough", "for",
   "func", "go", "goto", "if", "import", "interface", "map", "package", "range", "return", "select",
   "struct", "switch", "type", "var"]

-- Letters and digits of names. Outside ASCII, source that is well formed has nothing but letters
-- and digits outside of comments and literals.
def isNameChar (c : Char) : Bool :=
  c.isAlphanum || c = '_' || 0x80 ≤ c.toNat

-- Blanks; a mark at the start of a file that gives its byte order counts as one.
def isBlank (c : Char) : Bool :=
  c = ' ' || c = '\t' || c = '\n' || c = '\r' || c.toNat = 0xfeff

-- The rest of a literal through the quote that closes it, and the text behind. A backslash takes
-- the next character with it.
def splitQuoted (quote : Char) : List Char → List Char × List Char
  | [] => ([], [])
  | '\\' :: c :: cs =>
    let (text, rest) := splitQuoted quote cs
    ('\\' :: c :: text, rest)
  | c :: cs =>
    if c = quote then ([c], cs)
    else
      let (text, rest) := splitQuoted quote cs
      (c :: text, rest)

def splitRaw (quote : Char) : List Char → List Char × List Char
  | [] => ([], [])
  | c :: cs =>
    if c = quote then ([c], cs)
    else
      let (text, rest) := splitRaw quote cs
      (c :: text, rest)

inductive Lexeme
  | gap (text : List Char)
  | word (text : List Char)
  | literal (text : List Char)
  | mark (char : Char)
deriving DecidableEq, Repr

def Lexeme.text : Lexeme → List Char
  | .gap cs | .word cs | .literal cs => cs
  | .mark c => [c]

def runeQuote : Char := Char.ofNat 39

def rawQuote : Char := Char.ofNat 96

def splitLexeme (c : Char) (cs : List Char) : Lexeme × List Char :=
  if isBlank c then (.gap (c :: cs.takeWhile isBlank), cs.dropWhile isBlank)
  else if c = '/' && cs.head? = some '/' then
    (.gap (c :: cs.takeWhile (· ≠ '\n')), cs.dropWhile (· ≠ '\n'))
  else if c = '/' && cs.head? = some '*' then
    let (text, rest) := Text.splitComment cs.tail
    (.gap (c :: '*' :: text), rest)
  else if c = '"' || c = runeQuote then
    let (text, rest) := splitQuoted c cs
    (.literal (c :: text), rest)
  else if c = rawQuote then
    let (text, rest) := splitRaw c cs
    (.literal (c :: text), rest)
  else if c.isDigit then
    (.literal (c :: cs.takeWhile fun d => isNameChar d || d = '.'),
     cs.dropWhile fun d => isNameChar d || d = '.')
  else if isNameChar c then (.word (c :: cs.takeWhile isNameChar), cs.dropWhile isNameChar)
  else (.mark c, cs)

theorem splitQuoted_append (quote : Char) (cs : List Char) :
    (splitQuoted quote cs).1 ++ (splitQuoted quote cs).2 = cs := by
  fun_induction splitQuoted quote cs <;> simp_all

theorem splitRaw_append (quote : Char) (cs : List Char) :
    (splitRaw quote cs).1 ++ (splitRaw quote cs).2 = cs := by
  fun_induction splitRaw quote cs <;> simp_all

-- Cutting off a lexeme loses nothing.
theorem splitLexeme_append (c : Char) (cs : List Char) :
    (splitLexeme c cs).1.text ++ (splitLexeme c cs).2 = c :: cs := by
  unfold splitLexeme
  split
  · simp [Lexeme.text]
  split
  · simp [Lexeme.text]
  split
  · rename_i h
    cases cs with
    | nil => simp at h
    | cons d ds =>
      simp only [List.head?_cons, Option.some.injEq, Bool.and_eq_true, decide_eq_true_eq] at h
      simp [Lexeme.text, Text.splitComment_append, h.2]
  split
  · simp [Lexeme.text, splitQuoted_append]
  split
  · simp [Lexeme.text, splitRaw_append]
  split
  · simp [Lexeme.text]
  split
  · simp [Lexeme.text]
  · simp [Lexeme.text]

theorem Lexeme.text_splitLexeme_ne_nil (c : Char) (cs : List Char) :
    (splitLexeme c cs).1.text ≠ [] := by
  unfold splitLexeme
  repeat' split
  all_goals simp [Lexeme.text]

theorem length_splitLexeme_lt (c : Char) (cs : List Char) :
    (splitLexeme c cs).2.length < (c :: cs).length := by
  have h := congrArg List.length (splitLexeme_append c cs)
  have hp := List.length_pos_iff.mpr (Lexeme.text_splitLexeme_ne_nil c cs)
  simp only [List.length_append] at h
  omega

def lexemes : List Char → List Lexeme
  | [] => []
  | c :: cs =>
    let split := splitLexeme c cs
    split.1 :: lexemes split.2
termination_by cs => cs.length
decreasing_by exact length_splitLexeme_lt c cs

theorem flatMap_text_lexemes (cs : List Char) : (lexemes cs).flatMap Lexeme.text = cs := by
  fun_induction lexemes cs with
  | case1 => rfl
  | case2 c cs split ih => rw [List.flatMap_cons, ih, splitLexeme_append]

-- What a lexeme at an offset stands for, unless it is a gap.
def Lexeme.token? (offset : Nat) (l : Lexeme) : Option Token :=
  let stop := offset + l.text.length
  match l with
  | .gap _ => none
  | .word cs =>
    let text := String.ofList cs
    some ⟨if keywords.contains text then .keyword else .name, text, offset, stop⟩
  | .literal cs => some ⟨.literal, String.ofList cs, offset, stop⟩
  | .mark c => some ⟨.mark, String.singleton c, offset, stop⟩

-- The tokens of a run of lexemes that starts at an offset. `ended` says whether a line end would end a
-- statement here, and a semicolon then stands for it.
def tokensFrom (offset : Nat) (ended : Bool) : List Lexeme → List Token
  | [] => []
  | l :: ls =>
    let stop := offset + l.text.length
    match l.token? offset with
    | some t => t :: tokensFrom stop t.endsStatement ls
    -- A comment over several lines ends a statement like the line end that it holds.
    | none =>
      if ended && l.text.contains '\n' then
        ⟨.mark, ";", offset, offset⟩ :: tokensFrom stop false ls
      else tokensFrom stop ended ls

def tokens (cs : List Char) : List Token :=
  tokensFrom 0 false (lexemes cs)

end FlowIndex.Host
