import FlowIndex.Flow.Token

namespace FlowIndex.Flow

def needsEscape (c : Char) : Bool :=
  c = '"' || c = '\\' || c = '\n'

def escape : List Char → List Char
  | [] => []
  | c :: cs => if needsEscape c then '\\' :: c :: escape cs else c :: escape cs

theorem unescape_escape (cs : List Char) : unescape (escape cs) = cs := by
  induction cs with
  | nil => rfl
  | cons c cs ih =>
    by_cases h : needsEscape c
    · simp [escape, h, unescape, ih]
    · have : c ≠ '\\' := by
        rintro rfl
        exact h rfl
      simp [escape, h, unescape, this, ih]

theorem splitString_escape (cs rest : List Char) :
    splitString (escape cs ++ '"' :: rest) = (escape cs, '"' :: rest) := by
  induction cs with
  | nil => simp [escape, splitString]
  | cons c cs ih =>
    by_cases h : needsEscape c
    · simp [escape, h, splitString, ih]
    · simp only [needsEscape, Bool.or_eq_true, decide_eq_true_eq, not_or] at h
      simp [escape, needsEscape, h, splitString, ih]

def quoted (s : String) : List Char :=
  '"' :: escape s.toList ++ ['"']

-- A word as it is written; a string is closed.
def Word.render (w : Word) : List Char :=
  match w.kind with
  | .string => quoted w.value
  | _ => w.value.toList

def renderWords : List Word → List Char
  | [] => []
  | [w] => w.render
  | w :: ws => w.render ++ ' ' :: renderWords ws

structure EntryText where
  path : String
  struct : String
  name : Option String
  sequence : Nat
deriving DecidableEq, Repr

inductive Statement
  | call (name : String)
  | expansion (name : String)
deriving DecidableEq, Repr

inductive Item
  | registration (package : String) (entries : List EntryText)
  | fragment (name : String) (body : List Statement)
  | start (name : String) (body : List Statement)
deriving DecidableEq, Repr

def EntryText.render (e : EntryText) : List Char :=
  let name := match e.name with
    | none => []
    | some name => quoted name ++ ", ".toList
  "    OPERATOR(".toList ++ quoted e.path ++ ", ".toList ++ quoted e.struct ++ ", ".toList ++
    name ++ (Nat.repr e.sequence).toList ++ ")\n".toList

def Statement.render : Statement → List Char
  | .call name => "    ".toList ++ name.toList ++ "()\n".toList
  | .expansion name => "    UNFOLD(".toList ++ quoted name ++ ")\n".toList

def renderBlock (keyword name : String) (lines : List (List Char)) : List Char :=
  keyword.toList ++ '(' :: quoted name ++ [')', ' ', '{', '\n'] ++ lines.flatten ++ ['}', '\n']

def Item.render : Item → List Char
  | .registration package entries => renderBlock "REGISTER" package (entries.map (·.render))
  | .fragment name body => renderBlock "FRAGMENT" name (body.map (·.render))
  | .start name body => renderBlock "START" name (body.map (·.render))

def render (items : List Item) : String :=
  String.ofList (items.flatMap (·.render))

end FlowIndex.Flow
