namespace FlowIndex

inductive Anchor
  | relative
  | root
  | doubleRoot
deriving DecidableEq, Repr, Inhabited

def Anchor.text : Anchor → String
  | .relative => ""
  | .root => "/"
  | .doubleRoot => "//"

@[ext]
structure Path where
  anchor : Anchor
  parts : List String
deriving DecidableEq, Repr, Inhabited

namespace Path

def pieces : List Char → List (List Char)
  | [] => [[]]
  | c :: cs =>
    if c = '/' then [] :: pieces cs
    else match pieces cs with
      | [] => [[c]]
      | p :: ps => (c :: p) :: ps

-- A path starts with two slashes only if there are exactly two.
def anchorOf : List Char → Anchor
  | '/' :: '/' :: '/' :: _ => .root
  | '/' :: '/' :: _ => .doubleRoot
  | '/' :: _ => .root
  | _ => .relative

-- Empty components and `.` are dropped when a path is read. `..` is kept until the path is made
-- absolute.
def ofString (s : String) : Path :=
  let cs := s.toList
  { anchor := anchorOf cs
    parts := ((pieces cs).filter fun p => p ≠ [] && p ≠ ['.']).map String.ofList }

def toString (p : Path) : String :=
  match p.anchor, p.parts with
  | .relative, [] => "."
  | a, ps => a.text ++ "/".intercalate ps

instance : ToString Path := ⟨toString⟩

def isAbsolute (p : Path) : Bool :=
  p.anchor ≠ .relative

-- The last component; a path without components has an empty one.
def name (p : Path) : String :=
  p.parts.getLastD ""

def parent (p : Path) : Path :=
  { p with parts := p.parts.dropLast }

-- The part of a name from its last dot on, unless the dot is its first or last character.
def suffixOf (name : List Char) : List Char :=
  let tail := name.reverse.takeWhile (· ≠ '.')
  if tail.length + 1 < name.length && !tail.isEmpty then '.' :: tail.reverse else []

def suffix (p : Path) : String :=
  String.ofList (suffixOf p.name.toList)

def join (p q : Path) : Path :=
  if q.isAbsolute then q else { p with parts := p.parts ++ q.parts }

-- The components of `p` behind those of `root`, if `p` lies at or below it. Components are compared
-- as written.
def below? (root p : Path) : Option (List String) :=
  if root.anchor = p.anchor && root.parts.isPrefixOf p.parts then
    some (p.parts.drop root.parts.length)
  else none

-- The components in which each `..` has taken away the one before it; `done` are the components
-- read so far, the last one first.
def normalizeParts (done : List String) : List String → List String
  | [] => done.reverse
  | ".." :: ps => normalizeParts done.tail ps
  | p :: ps => normalizeParts (p :: done) ps

-- The absolute path without `..` that `p` stands for in the working directory `cwd`, if no symbolic
-- link is on the way.
def resolve (cwd p : Path) : Path :=
  { anchor := .root, parts := normalizeParts [] (cwd.join p).parts }

def relativeTo (root p : Path) : Path :=
  match below? root p with
  | some parts => { anchor := .relative, parts }
  | none => p

end Path

end FlowIndex
