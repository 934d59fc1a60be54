import FlowIndex.Field
import FlowIndex.Text.Real
import FlowIndex.Uri

namespace FlowIndex

-- The directories that are left out unless the environment names others.
def defaultExcluded : List String :=
  ["node_modules", ".git", "vendor"]

structure Settings where
  root : Path
  debounce : Float := 1
  trailing : Bool := false
  useTool : Bool := true
  excluded : List String := defaultExcluded

inductive SettingsError
  | root (e : UriError)
  | fields (errors : List FieldError)
deriving DecidableEq, Repr

namespace Settings

def truthWords : List (String × Bool) :=
  [("1", true), ("true", true), ("t", true), ("yes", true), ("y", true), ("on", true),
   ("0", false), ("false", false), ("f", false), ("no", false), ("n", false), ("off", false)]

def truth? (s : String) : Except FieldCause Bool :=
  match truthWords.lookup (s.map Char.toLower) with
  | some b => .ok b
  | none => .error .notATruthValue

def delay? (s : String) : Except FieldCause Float :=
  match Text.real? s with
  | none => .error .notAReal
  | some x => if x ≥ 0 then .ok x else .error .negative

def commaList (s : String) : List String :=
  ((s.splitOn ",").map Text.trimmed).filter (· ≠ "")

def readVariable {α : Type} (env : String → Option String) (name : String) (default : α)
    (read : String → Except FieldCause α) : Except FieldCause α :=
  match env name with
  | none => .ok default
  | some raw => read (Text.trimmed raw)

-- The settings for a root, in the working directory `cwd` and an environment. An empty root or
-- variable for it counts as none.
def load (cwd : Path) (env : String → Option String) (root : Option String) :
    Except SettingsError Settings := do
  -- What the caller gives wins over the environment.
  let given := (root.filter (· ≠ "")).or ((env "GORCH_INDEX_ROOT").filter (· ≠ ""))
  let path := Path.ofString (given.getD ".")
  if path.toString.toList.contains (Char.ofNat 0) then throw (.root .nullByte)
  let debounce := readVariable env "GORCH_INDEX_DEBOUNCE_SECONDS" 1 delay?
  let trailing := readVariable env "GORCH_INDEX_TRAILING_REBUILD" false truth?
  let useTool := readVariable env "GORCH_INDEX_USE_GOPLS" true truth?
  let excluded := ((env "GORCH_INDEX_EXCLUDE").map commaList).getD defaultExcluded
  match debounce, trailing, useTool with
  | .ok debounce, .ok trailing, .ok useTool =>
    return { root := Path.resolve cwd path, debounce, trailing, useTool, excluded }
  | d, t, u =>
    throw (.fields (Field.errorsOf "debounce_seconds" d ++ Field.errorsOf "trailing_rebuild" t ++
      Field.errorsOf "use_gopls" u))

end Settings

end FlowIndex
