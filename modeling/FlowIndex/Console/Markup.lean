import FlowIndex.Console.Literal
import FlowIndex.Console.Picture
import FlowIndex.Console.Style
import FlowIndex.Text.Letter

namespace FlowIndex.Markup

inductive MarkupError
  | unmatched (tag : String) (offset : Nat)
  | nothingToClose (offset : Nat)
  | number (e : Console.NumberError)
  -- The arguments in the parameters of a tag cannot be read.
  | unreadable (arguments parameters : String) (e : Console.Literal.Error)
deriving DecidableEq, Repr

def MarkupError.message : MarkupError → String
  | .unmatched tag offset =>
    s!"closing tag '[{tag}]' at position {offset} doesn't match any open tag"
  | .nothingToClose offset => s!"closing tag '[/]' at position {offset} has nothing to close"
  | .number e => e.message
  | .unreadable arguments parameters e =>
    let arguments := Text.quoted arguments
    let parameters := Text.quoted parameters
    match e with
    | .fault f => s!"error parsing {arguments} in {parameters}; " ++ f.message
    | .trouble t => s!"error parsing {parameters}; " ++ t.message

inductive Piece
  | text (cs : List Char)
  | tag (body : List Char) (offset : Nat)
deriving DecidableEq, Repr

def startsTag (c : Char) : Bool :=
  ('a' ≤ c && c ≤ 'z') || c = '#' || c = '/' || c = '@'

def tagBody? (cs : List Char) : Option (List Char × List Char) :=
  if (cs.head?.map startsTag).getD false then
    Text.upTo? (fun c => c ≠ '[' && c ≠ ']') ']' cs
  else none

theorem length_lt_of_tagBody? {cs body rest : List Char} (h : tagBody? cs = some (body, rest)) :
    rest.length < cs.length := by
  unfold tagBody? at h
  split at h
  · exact Text.length_lt_of_upTo? h
  · cases h

-- The pieces of markup from `offset` on. `text` is the plain text read so far and `escapes` the
-- number of backslashes read behind it, both waiting for what follows.
def pieces (offset escapes : Nat) (text : List Char) (cs : List Char) : List Piece :=
  match cs with
  | [] => [.text (text ++ List.replicate escapes '\\')]
  | c :: cs =>
    if c = '\\' then pieces (offset + 1) (escapes + 1) text cs
    else
      match _h : if c = '[' then tagBody? cs else none with
      | some (body, rest) =>
        .text text :: .text (List.replicate (escapes / 2) '\\') ::
          (if escapes % 2 = 1 then .text ('[' :: body ++ [']']) else .tag body offset) ::
          pieces (offset + body.length + 2) 0 [] rest
      | none => pieces (offset + 1) 0 (text ++ List.replicate escapes '\\' ++ [c]) cs
termination_by cs.length
decreasing_by
  · simp
  · split at _h
    · simpa using Nat.lt_succ_of_lt (length_lt_of_tagBody? _h)
    · cases _h
  · simp

def dropEscapes : List Char → List Char
  | '\\' :: '[' :: cs => '[' :: dropEscapes cs
  | c :: cs => c :: dropEscapes cs
  | [] => []

-- The control characters that a console does not show.
def isHidden (c : Char) : Bool :=
  [7, 8, 11, 12, 13].contains c.toNat

def shown (cs : List Char) : List Char :=
  (Console.putPictures (dropEscapes cs)).filter (!isHidden ·)

def styleName (cs : List Char) : Except MarkupError (List Char) :=
  (Console.styleName cs).mapError .number

structure Opening where
  name : List Char
  parameters : Option (List Char)
  -- How much text is shown before it.
  start : Nat
deriving DecidableEq, Repr

def Opening.isHandler (o : Opening) : Bool :=
  o.name.head? = some '@'

structure Styled where
  start : Nat
  stop : Nat
  style : List Char
deriving DecidableEq, Repr

def Opening.until (o : Opening) (stop : Nat) : Styled where
  start := o.start
  stop := stop
  style := o.name ++ (o.parameters.map (' ' :: ·)).getD []

def handlerArguments (parameters : List Char) : List Char :=
  let cs := Text.trim parameters
  match cs.dropWhile fun c => Text.isWordChar c || c = '.' with
  | [] => "()".toList
  | '(' :: rest =>
    if rest.getLast? = some ')' && !rest.contains '\n' then '(' :: rest else cs
  | _ => cs

-- Closes a tag: the text in its style, or for one that hands its parameters to the program nothing
-- but a check of these.
def close (o : Opening) (stop : Nat) : Except MarkupError (List Styled) :=
  if !o.isHandler then .ok [o.until stop]
  else
    match o.parameters with
    | none | some [] => .ok []
    | some parameters =>
      let arguments := handlerArguments parameters
      match Console.Literal.check arguments with
      | .ok _ => .ok []
      | .error e => .error (.unreadable (.ofList arguments) (.ofList parameters) e)

structure Rendered where
  text : List Char := []
  styled : List Styled := []
deriving DecidableEq, Repr

-- Puts what is shown of the pieces behind `done`. The styles that are open are given with the last
-- one first.
def renderFrom (opened : List Opening) (done : Rendered) : List Piece → Except MarkupError Rendered
  | [] =>
    .ok { done with styled := done.styled ++ opened.map (·.until done.text.length) }
  | .text cs :: ps => renderFrom opened { done with text := done.text ++ shown cs } ps
  | .tag body offset :: ps => do
    let parameters := match body.dropWhile (· ≠ '=') with
      | [] => none
      | _ :: cs => some cs
    match body.takeWhile (· ≠ '=') with
    | '/' :: name =>
      let closed? ←
        if Text.trim name = [] then
          match opened with
          | [] => throw (.nothingToClose offset)
          | o :: _ => pure (some o)
        else
          let name ← styleName (Text.trim name)
          pure (opened.find? (·.name = name))
      match closed? with
      | none => throw (.unmatched (String.ofList body) offset)
      | some o =>
        let styled ← close o done.text.length
        renderFrom (opened.erase o) { done with styled := done.styled ++ styled } ps
    | name =>
      let name ← styleName name
      renderFrom ({ name, parameters, start := done.text.length } :: opened) done ps

-- Whether any of the text in a style is shown. A style without text counts as long as the text is
-- not cut at line ends or tabs.
def Styled.isShown (text : List Char) (s : Styled) : Bool :=
  if text.contains '\n' then ((text.take s.stop).drop s.start).any (· ≠ '\n')
  else if text.contains '\t' then s.start < s.stop
  else true

-- Checks the styles of a text in the order in which they start. The last one that ended comes first
-- of those that start together.
def Rendered.check (r : Rendered) : Except MarkupError Unit :=
  let styled := r.styled.reverse.mergeSort (·.start ≤ ·.start)
  (styled.filter (·.isShown r.text)).forM fun s => do
    let _ ← styleName s.style

def render (s : String) : Except MarkupError (List Char) := do
  let r ← renderFrom [] {} (pieces 0 0 [] s.toList)
  r.check
  return r.text

def tabSize : Nat := 8

-- The parts of a line between tabs, with blanks up to the next tab stop in the place of each tab;
-- `column` is where the first part starts. A tab takes at least one blank.
def expandTabs (column : Nat) : List (List Char) → List Char
  | [] => []
  | [part] => part
  | part :: parts =>
    let column := column + Console.width (part ++ [' '])
    let missing := (tabSize - column % tabSize) % tabSize
    part ++ List.replicate (1 + missing) ' ' ++ expandTabs (column + missing) parts

def consoleLines (cs : List Char) : List String :=
  (Text.fields '\n' cs).map fun line => String.ofList (expandTabs 0 (Text.fields '\t' line))

def lines (s : String) : Except MarkupError (List String) := do
  return consoleLines (← render s)

def plainLines (s : String) : List String :=
  consoleLines (s.toList.filter (!isHidden ·))

-- Makes a text safe: backslashes before a tag are doubled and one more is put there.
def escapeTags (escapes : Nat) (cs : List Char) : List Char :=
  match cs with
  | [] => List.replicate escapes '\\'
  | c :: cs =>
    if c = '\\' then escapeTags (escapes + 1) cs
    else
      match _h : if c = '[' then tagBody? cs else none with
      | some (body, rest) =>
        List.replicate (2 * escapes + 1) '\\' ++ '[' :: body ++ ']' :: escapeTags 0 rest
      | none => List.replicate escapes '\\' ++ c :: escapeTags 0 cs
termination_by cs.length
decreasing_by
  · simp
  · split at _h
    · simpa using Nat.lt_succ_of_lt (length_lt_of_tagBody? _h)
    · cases _h
  · simp

-- The text as markup that shows it. A single backslash at the end is doubled, lest it escape what
-- follows.
def escape (s : String) : String :=
  let cs := escapeTags 0 s.toList
  match cs.reverse with
  | '\\' :: '\\' :: _ => String.ofList cs
  | '\\' :: _ => String.ofList (cs ++ ['\\'])
  | _ => String.ofList cs

end FlowIndex.Markup
