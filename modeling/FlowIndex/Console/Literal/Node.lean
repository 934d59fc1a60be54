namespace FlowIndex.Console.Literal

inductive Node
  | name (s : String)
  | number (imaginary : Bool)
  -- Another value that is written as one word.
  | constant (title : String)
  | tuple (elements : List Node)
  | set (elements : List Node)
  | dict (entries : List Node)
  | entry (key value : Node)
  -- A dictionary whose entries become those of another one.
  | unpacked (value : Node)
  | starred (value : Node)
  -- A comparison with its first operand; `membership` says whether it first asks what the operand
  -- is in.
  | comparison (membership : Bool) (left : Node)
  | signed (operator : String) (operand : Node)
  | binary (operator : String) (left right : Node)
  -- A call; `bare` says that it has no arguments.
  | call (function : Node) (bare : Bool)
  | property
  | other (title : String)

inductive Trouble
  | malformed
  -- There is nothing where a key is expected.
  | absent
  -- A value of a kind that no set or dictionary takes as a member or key.
  | unhashable (kind : String)
  -- The text holds a character that ends texts.
  | nullByte
deriving DecidableEq, Repr

def Trouble.message : Trouble → String
  | .malformed => "malformed node or string on line 1"
  | .absent => "malformed node or string: None"
  | .unhashable kind => s!"unhashable type: '{kind}'"
  | .nullByte => "source code string cannot contain null bytes"

namespace Node

def title : Node → String
  | name _ => "name"
  | number _ => "literal"
  | constant title | other title => title
  | tuple _ => "tuple"
  | set _ => "set display"
  | dict _ | entry _ _ | unpacked _ => "dict literal"
  | starred _ => "starred"
  | comparison _ _ => "comparison"
  | signed _ _ | binary _ _ _ => "expression"
  | call _ _ => "function call"
  | property => "attribute"

def isPrint : Node → Bool
  | name s => s = "print" || s = "exec"
  | _ => false

def isReal : Node → Bool
  | number imaginary => !imaginary
  | signed operator (number imaginary) => operator ≠ "~" && !imaginary
  | _ => false

mutual

-- The value of an expression as a literal: the kind of what no set takes as a member, if it is or
-- holds such.
def value : Node → Except Trouble (Option String)
  | number _ | constant _ => .ok none
  | tuple elements => values elements
  | set elements => do
    members elements
    return some "set"
  | dict entries => do
    members entries
    return some "dict"
  -- Nothing can be a member of a set that an entry stands for.
  | entry key value => do
    let kind ← key.value
    let _ ← value.value
    return kind
  | unpacked _ => .error .absent
  | signed operator operand =>
    match operand with
    | number _ => if operator = "+" || operator = "-" then .ok none else .error .malformed
    | _ => .error .malformed
  | binary operator left right =>
    match right with
    | number imaginary =>
      if (operator = "+" || operator = "-") && imaginary && left.isReal then .ok none
      else .error .malformed
    | _ => .error .malformed
  | call function bare =>
    match function with
    | name s => if s = "set" && bare then .ok (some "set") else .error .malformed
    | _ => .error .malformed
  | _ => .error .malformed

def values : List Node → Except Trouble (Option String)
  | [] => .ok none
  | n :: ns => do
    let kind ← n.value
    return kind.or (← values ns)

def members : List Node → Except Trouble Unit
  | [] => .ok ()
  | n :: ns => do
    match ← n.value with
    | some kind => throw (.unhashable kind)
    | none => members ns

end

mutual

-- The part of the names behind `for` that nothing can be assigned to.
def invalidTarget? : Node → Option Node
  | tuple elements => invalidTargets? elements
  | starred value => value.invalidTarget?
  -- What stands before `in` was read as an operand of it.
  | comparison membership left => if membership then left.invalidTarget? else none
  | name _ => none
  | property => none
  | n => some n

def invalidTargets? : List Node → Option Node
  | [] => none
  | n :: ns => n.invalidTarget?.or (invalidTargets? ns)

end

end Node

end FlowIndex.Console.Literal
