import FlowIndex.Console.Literal.Escape
import FlowIndex.Console.Literal.Token

namespace FlowIndex.Console.Literal

inductive Rule
  | comma
  | elseBranch
  | parentheses (command : String)
  | namedWith (title : String)
  | assignment
  | assignTo (title : String)
  | assignHere (title : String)
  | argumentAssignment
  | iterableUnpacking
  | generator
  | positional (unpacking : Bool)
  | unpackedComprehension
  | comprehensionTarget
  | unpackedDict
  | starred
  | doubleStarred
  | starredValue
  | missingValue
  | missingColon
  | defaultOrder
  | groupedParameters
  | nothingBeforeSlash
  | secondSlash
  | slashBehindStar
  | slashComma
  | bareStar
  | starDefault
  | secondStar
  | doubleStarDefault
  | behindDoubleStar
  | missingDefault
  | asciiBytes
  | mixedBytes
  | digits (count : Nat)
deriving DecidableEq, Repr

def maxDigits : Nat := 4300

def Rule.message : Rule → String
  | .comma => "invalid syntax. Perhaps you forgot a comma?"
  | .elseBranch => "expected 'else' after 'if' expression"
  | .parentheses command =>
    s!"Missing parentheses in call to '{command}'. Did you mean {command}(...)?"
  | .namedWith title => s!"cannot use assignment expressions with {title}"
  | .assignment => "invalid syntax. Maybe you meant '==' or ':=' instead of '='?"
  | .assignTo title => s!"cannot assign to {title}"
  | .assignHere title => s!"cannot assign to {title} here. Maybe you meant '==' instead of '='?"
  | .argumentAssignment => "expression cannot contain assignment, perhaps you meant \"==\"?"
  | .iterableUnpacking => "iterable argument unpacking follows keyword argument unpacking"
  | .generator => "Generator expression must be parenthesized"
  | .positional unpacking =>
    "positional argument follows keyword argument" ++ if unpacking then " unpacking" else ""
  | .unpackedComprehension => "iterable unpacking cannot be used in comprehension"
  | .comprehensionTarget => "did you forget parentheses around the comprehension target?"
  | .unpackedDict => "dict unpacking cannot be used in dict comprehension"
  | .starred => "cannot use starred expression here"
  | .doubleStarred => "cannot use double starred expression here"
  | .starredValue => "cannot use a starred expression in a dictionary value"
  | .missingValue => "expression expected after dictionary key and ':'"
  | .missingColon => "':' expected after dictionary key"
  | .defaultOrder => "non-default argument follows default argument"
  | .groupedParameters => "Lambda expression parameters cannot be parenthesized"
  | .nothingBeforeSlash => "at least one argument must precede /"
  | .secondSlash => "/ may appear only once"
  | .slashBehindStar => "/ must be ahead of *"
  | .slashComma => "expected comma between / and *"
  | .bareStar => "named arguments must follow bare *"
  | .starDefault => "var-positional argument cannot have default value"
  | .secondStar => "* argument may appear only once"
  | .doubleStarDefault => "var-keyword argument cannot have default value"
  | .behindDoubleStar => "arguments cannot follow var-keyword argument"
  | .missingDefault => "expected default value expression"
  | .asciiBytes => "bytes can only contain ASCII literal characters"
  | .mixedBytes => "cannot mix bytes and nonbytes literals"
  | .digits count =>
    s!"Exceeds the limit ({maxDigits} digits) for integer string conversion: value has {count} " ++
      "digits; use sys.set_int_max_str_digits() to increase the limit - Consider hexadecimal " ++
      "for huge integer literals to avoid decimal conversion limits."

inductive FormatError
  | single
  | unfinished
  | empty
  | nothingBefore (c : Char)
  | backslash
  | comment
  | unterminated
  | unmatched (c : Char)
  | mismatched (closing opening : Char)
  | tooDeep
  | nestedTooDeep
  | conversion
deriving DecidableEq, Repr

def FormatError.message : FormatError → String
  | .single => "f-string: single '\x7d' is not allowed"
  | .unfinished => "f-string: expecting '\x7d'"
  | .empty => "f-string: empty expression not allowed"
  | .nothingBefore c => s!"f-string: expression required before '{c}'"
  | .backslash => "f-string expression part cannot include a backslash"
  | .comment => "f-string expression part cannot include '#'"
  | .unterminated => "f-string: unterminated string"
  | .unmatched c => s!"f-string: unmatched '{c}'"
  | .mismatched closing opening =>
    s!"f-string: closing parenthesis '{closing}' does not match opening parenthesis '{opening}'"
  | .tooDeep => "f-string: too many nested parenthesis"
  | .nestedTooDeep => "f-string: expressions nested too deeply"
  | .conversion => "f-string: invalid conversion character: expected 's', 'r', or 'a'"

inductive Fault
  | token (e : TokenError)
  | escape (e : EscapeError)
  | format (e : FormatError)
  | rule (r : Rule)
  -- Something stands where it cannot.
  | misplaced
  | indented
  -- A fault of an expression inside a text.
  | inside (f : Fault)
deriving DecidableEq, Repr

def Fault.message : Fault → String
  | .token e => e.message
  | .escape e => e.message
  | .format e => e.message
  | .rule r => r.message
  | .misplaced => "invalid syntax"
  | .indented => "unexpected indent"
  | .inside f => "f-string: " ++ f.message

end FlowIndex.Console.Literal
