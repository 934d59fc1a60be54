import FlowIndex.Field

namespace FlowIndex.Command

inductive Action
  | index
  | check (files : List String)
  | definition (file : String) (line column : Int)
  | hover (file : String) (line column : Int)
  | watch
  | serve (transport : String)
deriving DecidableEq, Repr

structure Invocation where
  action : Action
  root : Option String
deriving DecidableEq, Repr

inductive Parsed
  | run (i : Invocation)
  | help
  | misuse
deriving DecidableEq, Repr

structure Options where
  -- The options with a value.
  valued : List String := []
  flags : List (Char × String) := [('h', "help")]

structure Sorted where
  values : List (String × String) := []
  flags : List String := []
  words : List String := []
deriving DecidableEq, Repr

namespace Sorted

-- The value of an option; the last one given counts.
def value? (s : Sorted) (option : String) : Option String :=
  (s.values.reverse).lookup option

def wantsHelp (s : Sorted) : Bool :=
  s.flags.contains "help"

end Sorted

def letterFlags (o : Options) (letters : List Char) : Option (List String) :=
  letters.mapM (o.flags.lookup ·)

def nameAndValue (cs : List Char) : String × Option String :=
  let name := String.ofList (cs.takeWhile (· ≠ '='))
  match cs.dropWhile (· ≠ '=') with
  | [] => (name, none)
  | _ :: value => (name, some (String.ofList value))

-- Sorts arguments. Words may stand between the options, or else the first one ends them. Options
-- that are not known, lack their value or have one that they do not take are refused.
def sort (o : Options) (mixed : Bool) (done : Sorted) : List String → Option Sorted
  | [] => some done
  | arg :: args =>
    match arg.toList with
    | ['-', '-'] => some { done with words := done.words ++ args }
    | '-' :: '-' :: cs =>
      let (name, value) := nameAndValue cs
      if o.valued.contains name then
        match value, args with
        | some v, args => sort o mixed { done with values := done.values ++ [(name, v)] } args
        | none, v :: args => sort o mixed { done with values := done.values ++ [(name, v)] } args
        | none, [] => none
      else if o.flags.any (·.2 = name) && value.isNone then
        sort o mixed { done with flags := done.flags ++ [name] } args
      else none
    -- Letters behind one dash are flags, so a negative number is refused unless it stands behind a
    -- lone `--`.
    | '-' :: c :: cs =>
      match letterFlags o (c :: cs) with
      | some flags => sort o mixed { done with flags := done.flags ++ flags } args
      | none => none
    | _ =>
      if mixed then sort o mixed { done with words := done.words ++ [arg] } args
      else some { done with words := done.words ++ arg :: args }

def path? (word : String) : Option String :=
  if word.toList.contains (Char.ofNat 0) then none else some word

def readCommand (valued : List String) (args : List String)
    (action : Sorted → Option Action) : Parsed :=
  match sort { valued := "root" :: valued } true {} args with
  | none => .misuse
  | some sorted =>
    if sorted.wantsHelp then .help
    else match action sorted with
      | some action =>
        match (sorted.value? "root").mapM path? with
        | some root => .run { action, root }
        | none => .misuse
      | none => .misuse

def plain (action : Action) (sorted : Sorted) : Option Action :=
  if sorted.words.isEmpty then some action else none

-- A command about a place: a file, a line and a column.
def atPlace (action : String → Int → Int → Action) (sorted : Sorted) : Option Action :=
  match sorted.words with
  | [file, line, column] => do
    return action (← path? file) (← (Field.intOf line).toOption) (← (Field.intOf column).toOption)
  | _ => none

-- What words are read as that start with no command. Options among them that a lone `--` kept from
-- being read are read after all, so that they can still ask for help.
def readNoCommand (o : Options) (words : List String) : Parsed :=
  match sort o false {} words with
  | some sorted => if sorted.wantsHelp then .help else .misuse
  | none => .misuse

def readServe (args : List String) : Parsed :=
  match sort {} false {} args with
  | none => .misuse
  | some sorted =>
    if sorted.wantsHelp then .help
    else match sorted.words with
      | "mcp" :: args =>
        readCommand ["transport"] args fun sorted =>
          plain (.serve ((sorted.value? "transport").getD "stdio")) sorted
      | words => readNoCommand {} words

def topOptions : Options :=
  { flags := [('h', "help"), ('v', "verbose")] }

def parse (args : List String) : Parsed :=
  match sort topOptions false {} args with
  | none => .misuse
  | some sorted =>
    if sorted.wantsHelp then .help
    else match sorted.words with
      | "index" :: args => readCommand [] args (plain .index)
      | "check" :: args => readCommand [] args fun sorted => do
        return .check (← sorted.words.mapM path?)
      | "definition" :: args => readCommand [] args (atPlace .definition)
      | "hover" :: args => readCommand [] args (atPlace .hover)
      | "watch" :: args => readCommand [] args (plain .watch)
      | "serve" :: args => readServe args
      | words => readNoCommand topOptions words

end FlowIndex.Command
