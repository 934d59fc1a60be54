import FlowIndex.Text.Blank
import FlowIndex.Text.Comment
import FlowIndex.Text.Digit

namespace FlowIndex.Flow

inductive TokenKind
  | ident
  | string
  | number
  | punct
deriving DecidableEq, Repr, Inhabited

-- What a token says, wherever it stands. The value of a string is its contents without the quotes
-- and without the backslashes of its escapes; `closed` is false for a string whose closing quote is
-- missing.
@[ext]
structure Word where
  kind : TokenKind
  value : String
  closed : Bool := true
deriving DecidableEq, Repr, Inhabited

@[ext]
structure Token extends Word where
  start : Nat
  stop : Nat
deriving DecidableEq, Repr, Inhabited

namespace Word

def isPunct (w : Word) (c : Char) : Bool :=
  w.kind = .punct && w.value = String.singleton c

def isIdent (w : Word) (name : String) : Bool :=
  w.kind = .ident && w.value = name

-- Whether the word can name something: a closed string that is not empty.
def isName (w : Word) : Bool :=
  w.kind = .string && w.closed && w.value ≠ ""

end Word

-- A piece of the text with its class. A string holds its contents as written.
inductive Lexeme
  | blank (text : List Char)
  | comment (text : List Char)
  | string (body : List Char) (closed : Bool)
  | ident (text : List Char)
  | number (text : List Char)
  | punct (char : Char)
deriving DecidableEq, Repr

def isIdentStart (c : Char) : Bool :=
  c.isAlpha || c = '_'

def isIdentChar (c : Char) : Bool :=
  c.isAlphanum || c = '_'

-- The contents of a string as written, and the text that starts where they end: at a quote, at a
-- line feed, at the end of the text or at a backslash that nothing follows.
def splitString : List Char → List Char × List Char
  | [] => ([], [])
  | ['\\'] => ([], ['\\'])
  | '\\' :: c :: cs =>
    let (body, rest) := splitString cs
    ('\\' :: c :: body, rest)
  | c :: cs =>
    if c = '"' || c = '\n' then ([], c :: cs)
    else
      let (body, rest) := splitString cs
      (c :: body, rest)

def splitLexeme (c : Char) (cs : List Char) : Lexeme × List Char :=
  if Text.isBlank c then (.blank (c :: cs.takeWhile Text.isBlank), cs.dropWhile Text.isBlank)
  else if c = '/' && cs.head? = some '/' then
    (.comment (c :: cs.takeWhile (· ≠ '\n')), cs.dropWhile (· ≠ '\n'))
  else if c = '/' && cs.head? = some '*' then
    let (text, rest) := Text.splitComment cs.tail
    (.comment (c :: '*' :: text), rest)
  else if c = '"' then
    match splitString cs with
    | (body, '"' :: rest) => (.string body true, rest)
    | (body, rest) => (.string body false, rest)
  else if isIdentStart c then (.ident (c :: cs.takeWhile isIdentChar), cs.dropWhile isIdentChar)
  else if Text.isDigit c then
    (.number (c :: cs.takeWhile Text.isDigit), cs.dropWhile Text.isDigit)
  else (.punct c, cs)

def Lexeme.text : Lexeme → List Char
  | .blank cs | .comment cs | .ident cs | .number cs => cs
  | .punct c => [c]
  | .string body closed => '"' :: (body ++ if closed then ['"'] else [])

theorem splitString_append (cs : List Char) :
    (splitString cs).1 ++ (splitString cs).2 = cs := by
  fun_induction splitString cs <;> simp_all

-- Cutting off a lexeme loses nothing.
theorem splitLexeme_append (c : Char) (cs : List Char) :
    (splitLexeme c cs).1.text ++ (splitLexeme c cs).2 = c :: cs := by
  unfold splitLexeme
  split
  · simp [Lexeme.text]
  split
  · simp [Lexeme.text]
  split
  · rename_i h
    cases cs with
    | nil => simp at h
    | cons d ds =>
      simp only [List.head?_cons, Option.some.injEq, Bool.and_eq_true, decide_eq_true_eq] at h
      simp [Lexeme.text, Text.splitComment_append, h.2]
  split
  · rename_i h
    have hs := splitString_append cs
    split <;> simp_all [Lexeme.text]
  split
  · simp [Lexeme.text]
  split
  · simp [Lexeme.text]
  · simp [Lexeme.text]

theorem Lexeme.text_splitLexeme_ne_nil (c : Char) (cs : List Char) :
    (splitLexeme c cs).1.text ≠ [] := by
  unfold splitLexeme
  repeat' split
  all_goals simp [Lexeme.text]

theorem length_splitLexeme_lt (c : Char) (cs : List Char) :
    (splitLexeme c cs).2.length < (c :: cs).length := by
  have h := congrArg List.length (splitLexeme_append c cs)
  have hp := List.length_pos_iff.mpr (Lexeme.text_splitLexeme_ne_nil c cs)
  simp only [List.length_append] at h
  omega

def lexemes : List Char → List Lexeme
  | [] => []
  | c :: cs =>
    let split := splitLexeme c cs
    split.1 :: lexemes split.2
termination_by cs => cs.length
decreasing_by exact length_splitLexeme_lt c cs

theorem flatMap_text_lexemes (cs : List Char) : (lexemes cs).flatMap Lexeme.text = cs := by
  fun_induction lexemes cs with
  | case1 => rfl
  | case2 c cs split ih => rw [List.flatMap_cons, ih, splitLexeme_append]

def unescape : List Char → List Char
  | '\\' :: c :: cs => c :: unescape cs
  | c :: cs => c :: unescape cs
  | [] => []

def Lexeme.word? : Lexeme → Option Word
  | .blank _ | .comment _ => none
  | .ident cs => some { kind := .ident, value := String.ofList cs }
  | .number cs => some { kind := .number, value := String.ofList cs }
  | .punct c => some { kind := .punct, value := String.singleton c }
  | .string body closed =>
    some { kind := .string, value := String.ofList (unescape body), closed := closed }

def tokensFrom (offset : Nat) : List Lexeme → List Token
  | [] => []
  | l :: ls =>
    let stop := offset + l.text.length
    match l.word? with
    | none => tokensFrom stop ls
    | some w => { toWord := w, start := offset, stop := stop } :: tokensFrom stop ls

def tokens (cs : List Char) : List Token :=
  tokensFrom 0 (lexemes cs)

end FlowIndex.Flow
