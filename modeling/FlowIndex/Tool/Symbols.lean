import FlowIndex.Field
import FlowIndex.Text.Lines
import FlowIndex.Uri

namespace FlowIndex.Tool

structure Record where
  path : List Char
  line : List Char
  column : List Char
  endLine : Option (List Char)
  endColumn : List Char
  name : List Char
  kind : List Char
deriving DecidableEq, Repr

inductive Fault
  | digits (e : Text.TooManyDigits)
  | position (errors : List FieldError)
  | spawn (message : String)
  | name (e : UriError)
deriving DecidableEq, Repr

def digits? (cs : List Char) : Option (List Char × List Char) :=
  match cs.span Text.isDigit with
  | ([], _) => none
  | r => some r

def after? (c : Char) : List Char → Option (List Char)
  | d :: cs => if c = d then some cs else none
  | [] => none

def word? (cs : List Char) : Option (List Char × List Char) :=
  match cs.span (!Text.isBlank ·) with
  | ([], _) => none
  | r => some r

def afterBlanks? (cs : List Char) : Option (List Char) :=
  match cs.span Text.isBlank with
  | ([], _) => none
  | (_, rest) => some rest

def ending? (cs : List Char) : Option (Option (List Char) × List Char × List Char) := do
  let (first, cs) ← digits? cs
  match after? ':' cs with
  | some cs => (digits? cs).map fun (second, cs) => (some first, second, cs)
  | none => some (none, first, cs)

-- Reads the name and the kind of a symbol, with nothing behind them.
def words? (cs : List Char) : Option (List Char × List Char) := do
  let (name, cs) ← word? (← afterBlanks? cs)
  let (kind, cs) ← word? (← afterBlanks? cs)
  guard cs.isEmpty
  return (name, kind)

def fields? (path cs : List Char) : Option Record := do
  let (line, cs) ← digits? (← after? ':' cs)
  let (column, cs) ← digits? (← after? ':' cs)
  let (endLine, endColumn, cs) ← ending? (← after? '-' cs)
  let (name, kind) ← words? cs
  return { path, line, column, endLine, endColumn, name, kind }

-- Reads a line whose path is at least `path`, which is read so far with the last character first.
-- The shortest path that leaves a well-formed rest wins.
def recordFrom? (path : List Char) : List Char → Option Record
  | [] => none
  | c :: cs =>
    match if path.isEmpty then none else fields? path.reverse (c :: cs) with
    | some r => some r
    | none => recordFrom? (c :: path) cs

-- A line of the listing, such as `/ws/ops/ops.go:12:6-12:13 ops.Fetch Struct`. The line of the end may
-- be left out.
def record? (line : List Char) : Option Record :=
  recordFrom? [] line

namespace Record

def isStruct (r : Record) (name : List Char) : Bool :=
  r.kind.map Char.toLower = "struct".toList &&
    (r.name = name || ('.' :: name).isSuffixOf r.name)

def zeroBased (digits : List Char) : Except Fault Int :=
  match Text.readNumber digits with
  | .ok n => .ok (n - 1)
  | .error e => .error (.digits e)

def position (line : Int) (column : List Char) : Except Fault Position := do
  match Position.ofInts line (← zeroBased column) with
  | .ok p => return p
  | .error e => throw (.position e)

-- Where the symbol of a record stands. Paths of the list are seen from the root, and `resolve` is how
-- the system resolves a path, which may lead through symbolic links.
def location (resolve : Path → Except UriError Path) (root : Path) (r : Record) :
    Except Fault Location := do
  let line ← zeroBased r.line
  let endLine ← zeroBased (r.endLine.getD r.line)
  let path ← (resolve (root.join (.ofString (String.ofList r.path)))).mapError Fault.name
  let start ← position line r.column
  let stop ← position endLine r.endColumn
  return { uri := Uri.ofPath path, span := ⟨start, stop⟩ }

end Record

def findIn (resolve : Path → Except UriError Path) (root : Path) (name : List Char) :
    List (List Char) → Except Fault (Option Location)
  | [] => .ok none
  | line :: lines =>
    match record? (Text.trim line) with
    | some r => if r.isStruct name then (r.location resolve root).map some
        else findIn resolve root name lines
    | none => findIn resolve root name lines

-- The place of the first struct of a name in the tool's output. Without a word on symbolic links
-- there are none.
def findStruct (cwd root : Path) (output name : String)
    (resolve : Path → Except UriError Path := Uri.unlinked cwd) : Except Fault (Option Location) :=
  findIn resolve root name.toList (Text.splitLines output.toList)

end FlowIndex.Tool
