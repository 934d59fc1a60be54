import FlowIndex.Console.Literal.Format
import FlowIndex.Console.Literal.Node
import Std.Data.HashMap

namespace FlowIndex.Console.Literal

structure Source where
  lexemes : Array Lexeme
  -- What stands behind the last token.
  error : Option TokenError
  -- The brackets that are open at the end, the innermost first.
  brackets : List Bracket
  -- Whether the end of the text is seen with the last token.
  exhausted : Bool
  texts : TextReader

structure Cursor where
  position : Nat := 0
  -- How many tokens have been looked at.
  reached : Nat := 0
  -- Whether broken rules are looked for.
  diagnosing : Bool := false
  -- What was read for parts of expressions, and where it ended.
  known : Std.HashMap Nat (Option (Node × Nat)) := {}

abbrev Parser := ReaderT Source (OptionT (ExceptT Fault (StateM Cursor)))

namespace Parser

variable {α β : Type}

def result (p : Parser α) (src : Source) (c : Cursor) : Except Fault (Option α) × Cursor :=
  (p src).run.run.run c

-- A reader that succeeds where another one fails, and does not move then.
def attempt (p : Parser α) : Parser (Option α) := do
  let start := (← get).position
  let found ← fun src => OptionT.mk (some <$> (p src).run)
  if found.isNone then modify ({ · with position := start })
  return found

def choice : List (Parser α) → Parser α
  | [] => failure
  | p :: ps => do
    match ← attempt p with
    | some a => return a
    | none => choice ps

def follows (p : Parser α) : Parser Bool := do
  let start := (← get).position
  let found ← attempt p
  modify ({ · with position := start })
  return found.isSome

def except (p : Parser α) : Parser Unit := do
  if ← follows p then failure

def optional (p : Parser α) : Parser Unit := do
  let _ ← attempt p

def repeated (p : Parser α) : Parser (List α) := do
  go ((← read).lexemes.size + 1)
where
  go : Nat → Parser (List α)
    | 0 => return []
    | fuel + 1 => do
      match ← attempt p with
      | some a => return a :: (← go fuel)
      | none => return []

def several (p : Parser α) : Parser (List α) := do
  return (← p) :: (← repeated p)

def stop (f : Fault) : Parser α :=
  fun _ => OptionT.mk (throw f)

def fault (f : Fault) : Parser α := do
  stop ((← read).texts.told f)

def broken (r : Rule) : Parser α :=
  fault (.rule r)

-- A reader that is only tried when broken rules are looked for.
def diagnosed (p : Parser α) : Parser α := do
  if (← get).diagnosing then p else failure

def undiagnosed (p : Parser α) : Parser α := do
  let before := (← get).diagnosing
  modify ({ · with diagnosing := false })
  let found ← attempt p
  modify ({ · with diagnosing := before })
  match found with
  | some a => return a
  | none => failure

def peek : Parser Token := do
  let src ← read
  let n := (← get).position
  match src.lexemes[n]? with
  | some l =>
    modify fun c => { c with reached := max c.reached (n + 1) }
    return l.token
  | none =>
    match src.error with
    | some e => stop (.token e)
    | none => failure

def advance : Parser Unit :=
  modify fun c => { c with position := c.position + 1 }

def token (t : Token) : Parser Unit := do
  if (← peek) = t then advance else failure

def mark (s : String) : Parser Unit :=
  token (.mark s)

def word (s : String) : Parser Unit :=
  token (.word s)

def name : Parser String := do
  match ← peek with
  | .name s => do
    advance
    return s
  | _ => failure

def text : Parser Quote := do
  match ← peek with
  | .text q => do
    advance
    return q
  | _ => failure

def level : Parser Nat := do
  return (((← read).lexemes[(← get).position - 1]?).map (·.level)).getD 0

def separated (p : Parser α) : Parser (List α) := do
  return (← p) :: (← repeated (mark "," *> p))

def remembered (part : Nat) (p : Parser Node) : Parser Node := do
  let start := (← get).position
  let key := 32 * start + part
  match (← get).known[key]? with
  | some (some (n, place)) => do
    modify ({ · with position := place })
    return n
  | some none => failure
  | none =>
    let found ← attempt p
    modify fun c => { c with known := c.known.insert key (found.map (·, c.position)) }
    match found with
    | some n => return n
    | none => failure

end Parser

namespace Source

-- The fault that is told, given what was found when so many tokens had been looked at. An error in
-- the characters comes before anything else, and so does a bracket left open on an earlier line.
def foremost (src : Source) (reached : Nat) (f : Fault) : Fault :=
  match src.error with
  | none => f
  | some e =>
    if e.isForemost then .token e
    else
      match src.brackets, src.lexemes[reached - 1]? with
      | b :: _, some l =>
        if b.line < l.line then src.texts.told (.token (.unclosed b.opening)) else f
      | _, _ => f

-- The fault that is told for one that was found by a reader. Where it has seen the end of the text
-- nothing else is looked for.
def settle (src : Source) (reached : Nat) : Fault → Fault
  | .token e => .token e
  | f => if src.exhausted && reached = src.lexemes.size then f else src.foremost reached f

-- Reads a whole text. If it cannot be read, it is read once more to see which rule is broken.
def parse (src : Source) (p : Parser Node) : Except Fault Node :=
  match p.result src {} with
  | (.ok (some n), _) => .ok n
  | (.error f, c) => .error (src.settle c.reached f)
  | (.ok none, first) =>
    match p.result src { diagnosing := true, reached := first.reached } with
    | (.error f, c) => .error (src.settle c.reached f)
    | (.ok _, c) =>
      if (src.lexemes[first.reached - 1]?).any (·.token = .indent) then
        .error (src.texts.told .indented)
      else .error (src.foremost c.reached (src.texts.told .misplaced))

end Source

end FlowIndex.Console.Literal
