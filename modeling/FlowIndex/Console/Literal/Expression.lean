import FlowIndex.Console.Literal.Parser

namespace FlowIndex.Console.Literal

-- The parts of expressions that refer to one another. What was read for one of them at a place is
-- remembered.
inductive Part
  | expression
  | starExpression
  -- An expression, or a name that is given a value.
  | named
  -- A rule for assignments that is broken.
  | assignmentFault
  | disjunction
  | conjunction
  | inversion
  -- The operands of the operators from a level on.
  | operand (level : Nat)
  | factor
  | awaited
  | primary
  | text
  | arguments
  | target
  | plainTarget
  | targetPrimary
deriving DecidableEq, Repr

namespace Part

-- The operators with two operands by how loosely they bind, but for comparisons.
def operators : Array (List String) :=
  #[["|"], ["^"], ["&"], ["<<", ">>"], ["+", "-"], ["*", "/", "//", "%", "@"]]

def number : Part → Nat
  | expression => 0
  | starExpression => 1
  | disjunction => 2
  | conjunction => 3
  | inversion => 4
  | factor => 5
  | awaited => 6
  | primary => 7
  | text => 8
  | arguments => 9
  | target => 10
  | plainTarget => 11
  | targetPrimary => 12
  | named => 13
  | assignmentFault => 14
  | operand level => 15 + level

end Part

structure Arguments where
  -- How many have no name.
  positional : Nat
  -- Whether named ones are taken out of a dictionary.
  unpacking : Bool

inductive Argument
  | named
  | starred
  | unpacked
deriving DecidableEq, Repr

namespace Grammar

open Literal.Parser

variable (self : Part → Parser Node)

def expression : Parser Node :=
  self .expression

def disjunction : Parser Node :=
  self .disjunction

def operand : Parser Node :=
  self (.operand 0)

def assignment : Parser Node := do
  let _ ← name
  mark ":="
  let _ ← expression self
  return .other "named expression"

def assignmentOrExpression : Parser Node :=
  choice [assignment self, do
    let a ← expression self
    except (mark ":=")
    return a]

def starredExpression : Parser Node := do
  mark "*"
  return .starred (← expression self)

def parameterEnd : Parser Unit :=
  choice [mark ",", do if !(← follows (mark ":")) then failure]

def defaultValue : Parser Unit :=
  choice [do mark "="; let _ ← expression self, diagnosed do
    mark "="
    if ← follows (choice [mark ")", mark ","]) then broken .missingDefault else failure]

def plainParameter : Parser Unit := do
  let _ ← name
  parameterEnd

def defaultParameter : Parser Unit := do
  let _ ← name
  defaultValue self
  parameterEnd

def parameter : Parser Unit := do
  let _ ← name
  optional (defaultValue self)
  parameterEnd

def slash : Parser Unit := do
  mark "/"
  parameterEnd

def plainSlash : Parser Unit := do
  let _ ← several plainParameter
  slash

def defaultSlash : Parser Unit := do
  let _ ← repeated plainParameter
  let _ ← several (defaultParameter self)
  slash

def doubleStarFault : Parser Unit := do
  mark "**"
  let _ ← name
  choice [do mark "="; broken .doubleStarDefault, do
    mark ","
    choice [do let _ ← name, mark "*", mark "**", mark "/"]
    broken .behindDoubleStar]

def doubleStarParameter : Parser Unit :=
  choice [diagnosed doubleStarFault, do mark "**"; plainParameter]

def starFault : Parser Unit := do
  mark "*"
  choice [
    do
      choice [mark ":", do mark ","; choice [mark ":", mark "**"]]
      broken .bareStar,
    do
      let _ ← name
      mark "="
      broken .starDefault,
    do
      choice [plainParameter, mark ","]
      let _ ← repeated (parameter self)
      mark "*"
      choice [plainParameter, mark ","]
      broken .secondStar]

def starParameters : Parser Unit :=
  choice [diagnosed (starFault self),
    do
      mark "*"
      plainParameter
      let _ ← repeated (parameter self)
      optional doubleStarParameter,
    do
      mark "*"
      mark ","
      let _ ← several (parameter self)
      optional doubleStarParameter,
    doubleStarParameter]

def parameterFault : Parser Unit :=
  choice [
    do
      let _ ← repeated plainParameter
      choice [defaultSlash self, do let _ ← several (defaultParameter self)]
      plainParameter
      broken .defaultOrder,
    do
      let _ ← repeated plainParameter
      mark "("
      let _ ← separated name
      optional (mark ",")
      mark ")"
      broken .groupedParameters,
    do
      mark "/"
      mark ","
      broken .nothingBeforeSlash,
    do
      choice [plainSlash, defaultSlash self]
      let _ ← repeated (parameter self)
      mark "/"
      broken .secondSlash,
    do
      optional (choice [plainSlash, defaultSlash self])
      let _ ← repeated (parameter self)
      mark "*"
      choice [mark ",", plainParameter]
      let _ ← repeated (parameter self)
      mark "/"
      broken .slashBehindStar,
    do
      let _ ← several (parameter self)
      mark "/"
      mark "*"
      broken .slashComma]

def parameters : Parser Unit :=
  choice [diagnosed (parameterFault self),
    do
      plainSlash
      let _ ← repeated plainParameter
      let _ ← repeated (defaultParameter self)
      optional (starParameters self),
    do
      defaultSlash self
      let _ ← repeated (defaultParameter self)
      optional (starParameters self),
    do
      let _ ← several plainParameter
      let _ ← repeated (defaultParameter self)
      optional (starParameters self),
    do
      let _ ← several (defaultParameter self)
      optional (starParameters self),
    starParameters self]

def lambda : Parser Node := do
  word "lambda"
  optional (parameters self)
  mark ":"
  let _ ← expression self
  return .other "lambda"

def conditional : Parser Node := do
  let _ ← disjunction self
  word "if"
  let _ ← disjunction self
  word "else"
  let _ ← expression self
  return .other "conditional expression"

def plainExpression : Parser Node :=
  choice [conditional self, disjunction self, lambda self]

def mayCommand (s : String) : Bool :=
  ["_", "case", "match"].any (s.toList.isPrefixOf ·.toList)

def missingComma : Parser Unit := do
  except (choice [do
    let s ← name
    if mayCommand s then return ()
    let _ ← text])
  let a ← disjunction self
  let _ ← undiagnosed (plainExpression self)
  if !a.isPrint && (← level) ≠ 0 then broken .comma

def missingElse : Parser Unit := do
  let _ ← disjunction self
  word "if"
  let _ ← disjunction self
  except (choice [word "else", mark ":"])
  broken .elseBranch

def starExpressions : Parser Node := do
  let a ← self .starExpression
  let rest ← repeated (mark "," *> self .starExpression)
  let comma ← attempt (mark ",")
  return if rest.isEmpty && comma.isNone then a else .tuple (a :: rest)

def missingParentheses : Parser Unit := do
  let s ← name
  except (mark "(")
  let _ ← starExpressions self
  if (Node.name s).isPrint then broken (.parentheses s)

def readExpression : Parser Node :=
  choice [
    diagnosed do
      -- Only where no two expressions stand side by side, a missing branch is looked for.
      if (← attempt (missingComma self)).isNone then missingElse self
      failure,
    diagnosed do
      missingParentheses self
      failure,
    plainExpression self]

def starExpression : Parser Node :=
  choice [do mark "*"; return .starred (← operand self), expression self]

def targets : Parser Unit := do
  let _ ← separated (self .target)
  optional (mark ",")

def targetFault : Parser Unit := do
  optional (word "async")
  word "for"
  match (← starExpressions self).invalidTarget? with
  | some n => broken (.assignTo n.title)
  | none => failure

def clause : Parser Unit := do
  let start ← attempt do
    optional (word "async")
    word "for"
    targets self
    word "in"
  match start with
  | some _ => do
    let _ ← disjunction self
    let _ ← repeated (word "if" *> disjunction self)
  | none => diagnosed (targetFault self)

def clauses : Parser Unit := do
  let _ ← several (clause self)

def element : Parser Node :=
  choice [do mark "*"; return .starred (← operand self), self .named]

def elements : Parser (List Node) := do
  let found ← separated (element self)
  optional (mark ",")
  return found

def comprehensionFault : Parser Unit :=
  choice [
    do
      choice [mark "(", mark "\x7b"]
      let _ ← starredExpression self
      clauses self
      broken .unpackedComprehension,
    do
      mark "\x7b"
      let _ ← element self
      mark ","
      let _ ← elements self
      clauses self
      broken .comprehensionTarget,
    do
      mark "\x7b"
      let _ ← element self
      mark ","
      clauses self
      broken .comprehensionTarget]

def generator : Parser Node :=
  choice [
    do
      mark "("
      let _ ← assignmentOrExpression self
      clauses self
      mark ")"
      return .other "generator expression",
    diagnosed do
      comprehensionFault self
      failure]

def tuple : Parser Node := do
  mark "("
  let found ← attempt do
    let a ← element self
    mark ","
    let rest ← attempt (elements self)
    return a :: rest.getD []
  mark ")"
  return .tuple (found.getD [])

def yield : Parser Node := do
  word "yield"
  choice [do word "from"; let _ ← expression self, do
    let _ ← attempt (starExpressions self)]
  return .other "yield expression"

def group : Parser Node :=
  choice [
    do
      mark "("
      let a ← choice [yield self, self .named]
      mark ")"
      return a,
    diagnosed do
      mark "("
      choice [
        do
          let _ ← starredExpression self
          mark ")"
          broken .starred,
        do
          mark "**"
          let _ ← expression self
          mark ")"
          broken .doubleStarred]]

def pair : Parser Node := do
  let key ← expression self
  mark ":"
  return .entry key (← expression self)

def entry : Parser Node :=
  choice [do mark "**"; return .unpacked (← operand self), pair self]

def valueFault : Parser Unit := do
  let _ ← expression self
  mark ":"
  choice [do mark "*"; let _ ← operand self; broken .starredValue, do
    if ← follows (choice [mark "\x7d", mark ","]) then broken .missingValue else failure]

def entryFault : Parser Unit :=
  choice [
    do
      let _ ← separated (entry self)
      mark ","
      choice [do let _ ← expression self; except (mark ":"); broken .missingColon, valueFault self],
    valueFault self]

def dict : Parser Node :=
  choice [
    do
      mark "\x7b"
      let entries ← attempt do
        let found ← separated (entry self)
        optional (mark ",")
        return found
      mark "\x7d"
      return .dict (entries.getD []),
    do
      mark "\x7b"
      entryFault self
      failure]

def set : Parser Node := do
  mark "\x7b"
  let found ← elements self
  mark "\x7d"
  return .set found

def dictComprehension : Parser Node :=
  choice [
    do
      mark "\x7b"
      let _ ← pair self
      clauses self
      mark "\x7d"
      return .other "dict comprehension",
    diagnosed do
      mark "\x7b"
      mark "**"
      let _ ← operand self
      clauses self
      mark "\x7d"
      broken .unpackedDict]

def setComprehension : Parser Node :=
  choice [
    do
      mark "\x7b"
      let _ ← self .named
      clauses self
      mark "\x7d"
      return .other "set comprehension",
    diagnosed do
      comprehensionFault self
      failure]

def assignmentFault : Parser Node :=
  choice [
    do
      let a ← expression self
      mark ":="
      let _ ← expression self
      broken (.namedWith a.title),
    do
      let _ ← name
      mark "="
      let _ ← operand self
      except (choice [mark "=", mark ":="])
      broken .assignment,
    do
      -- Some expressions are left alone.
      except (choice [tuple self, generator self])
      except (choice [word "True", word "None", word "False"])
      let a ← operand self
      mark "="
      let _ ← operand self
      except (choice [mark "=", mark ":="])
      broken (.assignHere a.title)]

def named : Parser Node :=
  choice [assignment self, diagnosed (self .assignmentFault), do
    let a ← expression self
    except (mark ":=")
    return a]

def positional : Parser Unit := do
  choice [do let _ ← starredExpression self, do
    let _ ← assignmentOrExpression self
    except (mark "=")]

def namedArgumentFault : Parser Argument :=
  choice [
    do
      let s ← choice [word "True" *> pure "True", word "False" *> pure "False",
        word "None" *> pure "None"]
      mark "="
      broken (.assignTo s),
    do
      let _ ← name
      mark "="
      let _ ← expression self
      clauses self
      broken .assignment,
    do
      except (do let _ ← name; mark "=")
      let _ ← expression self
      mark "="
      broken .argumentAssignment]

def namedArgumentOr (further : Parser Argument) : Parser Argument :=
  choice [diagnosed (namedArgumentFault self), do
    let _ ← name
    mark "="
    let _ ← expression self
    return .named, further]

def namedOrStarred : Parser Argument :=
  namedArgumentOr self do
    let _ ← starredExpression self
    return .starred

def namedOrUnpacked : Parser Argument :=
  namedArgumentOr self do
    mark "**"
    let _ ← expression self
    return .unpacked

def namedArguments : Parser (List Argument) :=
  choice [
    do
      let first ← separated (namedOrStarred self)
      mark ","
      return first ++ (← separated (namedOrUnpacked self)),
    separated (namedOrStarred self),
    separated (namedOrUnpacked self)]

def argumentList : Parser Arguments :=
  choice [
    do
      let first ← separated (positional self)
      let rest ← attempt (mark "," *> namedArguments self)
      return summary first.length (rest.getD []),
    do return summary 0 (← namedArguments self)]
where
  summary (positional : Nat) (rest : List Argument) : Arguments :=
    { positional := positional + rest.count .starred, unpacking := rest.contains .unpacked }

def argumentFault : Parser Node := do
  let found ← attempt (choice [
    do
      let _ ← argumentList self
      mark ","
      mark "*"
      broken .iterableUnpacking,
    do
      let _ ← expression self
      clauses self
      mark ","
      let _ ← attempt (choice [do let _ ← argumentList self, do
        let _ ← expression self
        clauses self])
      broken .generator,
    do
      let _ ← name
      mark "="
      let _ ← expression self
      clauses self
      broken .assignment,
    do
      let a ← argumentList self
      clauses self
      if 1 < a.positional then broken .generator])
  -- A single generator is no fault, and no other is looked for then.
  if found.isSome then failure
  choice [
    do
      let _ ← argumentList self
      mark ","
      let _ ← expression self
      clauses self
      broken .generator,
    do
      let a ← argumentList self
      mark ","
      let _ ← argumentList self
      broken (.positional a.unpacking)]

def arguments : Parser Node :=
  choice [
    do
      let _ ← argumentList self
      optional (mark ",")
      if ← follows (mark ")") then return .other "arguments" else failure,
    diagnosed (argumentFault self)]

-- The arguments of a call in their parentheses; says whether there are none.
def callArguments : Parser Bool := do
  mark "("
  let found ← attempt (self .arguments)
  mark ")"
  return found.isNone

def textNode : Parser Node := do
  let qs ← several text
  match (← read).texts.checkQuotes none qs with
  | .error f => stop f
  | .ok () =>
    return if qs.any (·.kind = .format) then .other "f-string expression"
      else .constant "literal"

def atom : Parser Node := do
  match ← peek with
  | .name s => do
    advance
    return .name s
  | .word s =>
    if s = "True" || s = "False" || s = "None" then do
      advance
      return .constant s
    else failure
  | .text _ => self .text
  | .whole digits =>
    if maxDigits < digits then broken (.digits digits)
    else do
      advance
      return .number false
  | .number imaginary => do
    advance
    return .number imaginary
  | .mark "(" => choice [tuple self, group self, generator self]
  | .mark "\x7b" => choice [dict self, set self, dictComprehension self, setComprehension self]
  | .mark "..." => do
    advance
    return .constant "ellipsis"
  | _ => failure

-- What may follow an operand: a member, a generator, or arguments.
def trailers (a : Node) : List (Parser Node) :=
  [do
      mark "."
      let _ ← name
      return .property,
    do
      let _ ← generator self
      return .call a false,
    do return .call a (← callArguments self)]

def goOn (step : Node → Parser Node) (a : Node) : Parser Node := do
  go ((← read).lexemes.size + 1) a
where
  go : Nat → Node → Parser Node
    | 0, a => return a
    | fuel + 1, a => do
      match ← attempt (step a) with
      | some b => go fuel b
      | none => return a

def primary : Parser Node := do
  goOn (fun a => choice (trailers self a)) (← atom self)

def awaited : Parser Node :=
  choice [do
    word "await"
    let _ ← self .primary
    return .other "await expression", self .primary]

def power : Parser Node := do
  let a ← self .awaited
  match ← attempt (mark "**" *> self .factor) with
  | some b => return .binary "**" a b
  | none => return a

def factor : Parser Node :=
  choice [signed "+", signed "-", signed "~", power self]
where
  signed (s : String) : Parser Node := do
    mark s
    return .signed s (← self .factor)

def operation (level : Nat) : Parser Node :=
  match Part.operators[level]? with
  | none => self .factor
  | some marks => do
    let next : Part := if level + 1 < Part.operators.size then .operand (level + 1) else .factor
    let step (a : Node) : Parser Node := choice (marks.map fun s => do
      mark s
      return .binary s a (← self next))
    goOn step (← self next)

def compared : Parser Bool :=
  choice ((["==", "!=", "<=", "<", ">=", ">"].map fun s => rest (mark s) false) ++
    [rest (word "not" *> word "in") false, rest (word "in") true,
     rest (word "is" *> word "not") false, rest (word "is") false])
where
  rest (sign : Parser Unit) (membership : Bool) : Parser Bool := do
    sign
    let _ ← operand self
    return membership

def comparison : Parser Node := do
  let a ← operand self
  match ← repeated (compared self) with
  | [] => return a
  | membership :: _ => return .comparison membership a

def inversion : Parser Node :=
  choice [do
    word "not"
    let _ ← self .inversion
    return .other "expression", comparison self]

def joined (s : String) (part : Part) : Parser Node := do
  let a ← self part
  match ← repeated (word s *> self part) with
  | [] => return a
  | _ => return .other "expression"

def trailerStarts : Parser Unit := do
  if !(← follows (choice [mark "(", mark "."])) then failure

def targetPrimary : Parser Node := do
  let a ← atom self
  trailerStarts
  goOn (fun a => choice ((trailers self a).map (· <* trailerStarts))) a

def groupedTarget : Parser Node :=
  choice [
    do
      mark "("
      let a ← self .plainTarget
      mark ")"
      return a,
    do
      mark "("
      optional do
        let found ← separated (self .target)
        if found.length = 1 then mark "," else optional (mark ",")
      mark ")"
      return .tuple []]

def plainTarget : Parser Node :=
  choice [
    do
      let _ ← self .targetPrimary
      mark "."
      let _ ← name
      except trailerStarts
      return .property,
    do return .name (← name),
    groupedTarget self]

def target : Parser Node :=
  choice [do
    mark "*"
    except (mark "*")
    self .target, self .plainTarget]

end Grammar

namespace Part

open Grammar in
def read (self : Part → Parser Node) : Part → Parser Node
  | expression => readExpression self
  | starExpression => Grammar.starExpression self
  | named => Grammar.named self
  | assignmentFault => Grammar.assignmentFault self
  | disjunction => joined self "or" .conjunction
  | conjunction => joined self "and" .inversion
  | inversion => Grammar.inversion self
  | operand level => operation self level
  | factor => Grammar.factor self
  | awaited => Grammar.awaited self
  | primary => Grammar.primary self
  | text => textNode
  | arguments => Grammar.arguments self
  | target => Grammar.target self
  | plainTarget => Grammar.plainTarget self
  | targetPrimary => Grammar.targetPrimary self

-- Reads a part; `fuel` bounds how deep parts are nested.
def parser : Nat → Part → Parser Node
  | 0, _ => failure
  | fuel + 1, part =>
    -- What stands for a named expression is remembered by its own parts.
    if part = .named then part.read (parser fuel)
    else Parser.remembered part.number (part.read (parser fuel))

end Part

end FlowIndex.Console.Literal
