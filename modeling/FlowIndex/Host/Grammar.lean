namespace FlowIndex.Host

-- Kinds of words. Operators that the grammar treats alike are one kind.
inductive Terminal
  -- The end of the specification.
  | stop
  | name
  -- A name of a function whose first argument is a type.
  | builtin
  -- A name of a constant.
  | constant
  | literal
  -- What stands between braces, with the braces.
  | body
  | struct
  | interface
  | func
  | map
  | chan
  | openParen
  | closeParen
  | openBracket
  | closeBracket
  | comma
  | dot
  | ellipsis
  | colon
  | tilde
  | arrow
  | star
  | ampersand
  -- An operator between factors that is no sign and no pointer mark.
  | quotient
  | bar
  | caret
  | sign
  | bang
  | comparison
  | conjunction
  | disjunction
deriving DecidableEq, Repr

inductive Category
  | spec
  | parameters
  | declaration
  | constraint
  | groupedType
  | type
  | generic
  | typeArguments
  | typeArgument
  | pointer
  | array
  | openArray
  | slice
  | struct
  | interface
  | approximation
  | map
  | channel
  | function
  | signature
  | parameter
  | variadicParameter
  | qualified
  | expression
  | grouped
  | call
  | builtinArguments
  | spread
  | arguments
  | selector
  | index
  | segment
  | assertion
  | conversion
  | instantiation
  | composite
  | closure
  | unary
  | binary
  -- The rest of the lists, one or more elements each with the mark in front of it.
  | moreDeclarations
  | moreNames
  | moreTypes
  | moreTypeArguments
  | moreAlternatives
  | moreParameters
  | moreParameterNames
  | moreOperands
  | moreArguments
  | moreInstances
deriving DecidableEq, Repr

inductive Symbol
  | terminal (t : Terminal)
  | category (c : Category)
deriving DecidableEq, Repr

-- The ways to write a phrase. A sum is a choice and a product is a sequence.
structure Phrase where
  forms : List (List Symbol)

namespace Phrase

instance : Add Phrase :=
  ⟨fun a b => ⟨a.forms ++ b.forms⟩⟩

instance : Mul Phrase :=
  ⟨fun a b => ⟨a.forms.flatMap fun x => b.forms.map (x ++ ·)⟩⟩

def word (t : Terminal) : Phrase :=
  ⟨[[.terminal t]]⟩

def part (c : Category) : Phrase :=
  ⟨[[.category c]]⟩

-- A phrase or nothing.
def optional (a : Phrase) : Phrase :=
  ⟨a.forms ++ [[]]⟩

def type : Phrase :=
  part .type + part .groupedType

def expression : Phrase :=
  part .expression

def inParens (a : Phrase) : Phrase :=
  word .openParen * a * word .closeParen

def inBrackets (a : Phrase) : Phrase :=
  word .openBracket * a * word .closeBracket

end Phrase

inductive Side
  | left
  | right
deriving DecidableEq, Repr

structure Binding where
  precedence : Int := 0
  side : Option Side := none
  -- What the rule adds to the weight of a reading.
  weight : Int := 0
deriving DecidableEq, Repr

structure Rule where
  category : Category
  symbols : Array Symbol
  binding : Binding
deriving DecidableEq, Repr

def Rule.symbol? (r : Rule) (n : Nat) : Option Symbol :=
  r.symbols[n]?

def Rule.joins (r : Rule) : Bool :=
  r.symbols = #[.category r.category, .category r.category]

namespace Grammar

open Phrase

def ranked (c : Category) (binding : Binding) (a : Phrase) : List Rule :=
  a.forms.eraseDups.map fun form => ⟨c, form.toArray, binding⟩

def rules (c : Category) (a : Phrase) : List Rule :=
  ranked c {} a

def listRules (c : Category) (element : Phrase) : List Rule :=
  rules c (part c * part c + element)

def composed : Int := -1
def disjunct : Int := 1
def conjunct : Int := 2
def relation : Int := 3
def term : Int := 4
def factor : Int := 5
def prefixed : Int := 6
def primary : Int := 7

def operator (precedence : Int) (t : Terminal) : List Rule :=
  ranked .binary { precedence, side := some .left } (expression * word t * expression)

def result : Phrase :=
  part .signature + part .type

-- All rules. Where two readings end at once, that of the earlier rule is the first to go on.
def all : Array Rule :=
  .mk <|
  rules .spec (word .name * optional (part .parameters) * type) ++
  rules .parameters
    (inBrackets (part .declaration * optional (part .moreDeclarations) * optional (word .comma))) ++
  rules .declaration (word .name * optional (part .moreNames) * part .constraint) ++
  rules .constraint (type * optional (part .moreTypes)) ++
  rules .groupedType (inParens type) ++
  ranked .type { weight := -1 } (word .name) ++
  rules .type
    (part .generic + part .qualified + part .pointer + part .struct + part .interface +
      part .array + part .slice + part .map + part .channel + part .function +
      part .approximation) ++
  ranked .generic { weight := 1 }
    ((word .name + part .qualified + part .approximation) * part .typeArguments) ++
  ranked .typeArguments { weight := 2 }
    (inBrackets
      (part .typeArgument * optional (part .moreTypeArguments) * optional (word .comma))) ++
  rules .typeArgument (type * optional (part .moreAlternatives)) ++
  ranked .pointer { precedence := prefixed } (word .star * type) ++
  ranked .array { side := some .right } (inBrackets expression * type) ++
  rules .openArray (inBrackets (word .ellipsis) * type) ++
  ranked .slice { side := some .right } (word .openBracket * word .closeBracket * type) ++
  rules .struct (word .struct * word .body) ++
  rules .interface (word .interface * word .body) ++
  ranked .approximation { side := some .left } (word .tilde * type) ++
  ranked .map { side := some .right } (word .map * inBrackets type * type) ++
  ranked .channel { side := some .left } (word .chan * type + word .chan * word .arrow * type) ++
  ranked .channel { precedence := prefixed, side := some .left }
    (word .arrow * word .chan * type) ++
  ranked .function { side := some .right } (word .func * part .signature * optional result) ++
  rules .signature
    (inParens (optional
      (optional ((part .parameter + part .variadicParameter) * optional (part .moreParameters)) *
        optional (word .comma)))) ++
  rules .parameter (optional (word .name * optional (part .moreParameterNames)) * type) ++
  rules .variadicParameter (optional (word .name) * word .ellipsis * type) ++
  rules .qualified (word .name * word .dot * word .name) ++
  rules .expression
    (part .unary + part .binary + part .selector + part .index + part .segment + part .call +
      part .assertion + part .conversion + part .instantiation + word .name + word .builtin +
      part .composite + part .closure + word .literal + word .constant + part .grouped) ++
  rules .grouped (inParens expression) ++
  ranked .call { precedence := primary }
    (word .builtin * part .builtinArguments +
      expression * optional (part .typeArguments) * part .arguments) ++
  rules .builtinArguments
    (inParens (optional (type * optional (part .moreOperands) * optional (word .comma)))) ++
  ranked .spread { side := some .right } (expression * word .ellipsis) ++
  rules .arguments
    (inParens (optional
      ((expression + part .spread) * optional (part .moreArguments) * optional (word .comma)))) ++
  ranked .selector { precedence := primary } (expression * word .dot * word .name) ++
  ranked .index { precedence := primary, weight := 1 } (expression * inBrackets expression) ++
  ranked .segment { precedence := primary }
    (expression * inBrackets
      (optional expression * word .colon * optional expression +
        optional expression * word .colon * expression * word .colon * expression)) ++
  ranked .assertion { precedence := primary } (expression * word .dot * inParens type) ++
  ranked .conversion { weight := -1 } (type * inParens (expression * optional (word .comma))) ++
  ranked .instantiation { precedence := primary }
    (type * inBrackets (type * optional (part .moreInstances) * optional (word .comma))) ++
  ranked .composite { precedence := composed }
    ((part .map + part .slice + part .array + part .openArray + part .struct + word .name +
      part .generic + part .qualified) * word .body) ++
  rules .closure (word .func * part .signature * optional result * word .body) ++
  ranked .unary { precedence := prefixed }
    ((word .sign + word .bang + word .caret + word .star + word .ampersand + word .arrow) *
      expression) ++
  operator factor .star ++ operator factor .quotient ++ operator factor .ampersand ++
  operator term .sign ++ operator term .bar ++ operator term .caret ++
  operator relation .comparison ++ operator conjunct .conjunction ++
  operator disjunct .disjunction ++
  listRules .moreDeclarations (word .comma * part .declaration) ++
  listRules .moreNames (word .comma * word .name) ++
  listRules .moreTypes (word .bar * type) ++
  listRules .moreTypeArguments (word .comma * part .typeArgument) ++
  listRules .moreAlternatives (word .bar * type) ++
  listRules .moreParameters (word .comma * (part .parameter + part .variadicParameter)) ++
  listRules .moreParameterNames (word .comma * word .name) ++
  listRules .moreOperands (word .comma * expression) ++
  listRules .moreArguments (word .comma * (expression + part .spread)) ++
  listRules .moreInstances (word .comma * type)

end Grammar

end FlowIndex.Host
