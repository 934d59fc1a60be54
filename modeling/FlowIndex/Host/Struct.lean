import FlowIndex.Double
import FlowIndex.Host.Parser
import FlowIndex.Uri

namespace FlowIndex

structure Struct where
  name : String
  package : String
  uri : String
  path : String
  span : Span
  modified : Int
  definition : String
deriving DecidableEq, Repr

namespace Host

-- The name of the directory that holds a file, or of the one in its URI for a file that lies at the
-- root of the workspace.
def directoryName (path : String) (uri : Option String) : Except UriError String :=
  let name := (Path.ofString path).parent.name
  match name, uri with
  | "", some uri => do return (Path.ofString (← Uri.decodedPath uri)).parent.name
  | name, _ => .ok name

-- The package that groups the structs of a file with a tree. A file of package `main` or without a
-- package clause takes the name of its directory.
def packageOf (bytes : List UInt8) (root : Tree) (path : String) (uri : Option String) :
    Except UriError String :=
  match root.packageNames.head?.map (·.text bytes) with
  | none | some "main" => directoryName path uri
  | some name => .ok name

def packageName (source path : String) (uri : Option String) (parser : Parser := .standard) :
    Except UriError String :=
  packageOf (Text.utf8 source.toList) (parser.parse source.toList) path uri

-- The struct of a specification with a name. The time of change is kept as a double.
def structOf (bytes : List UInt8) (package uri path : String) (modified : Int)
    (spec name : Tree) : Struct where
  name := name.text bytes
  package := package
  uri := uri
  path := path
  span := (SourceLines.ofBytes bytes).span spec.start.point spec.stop.point
  modified := Double.ofInt modified
  definition := "type " ++ spec.text bytes

def structs (source uri path : String) (modified : Int) (parser : Parser := .standard) :
    Except UriError (List Struct) := do
  let package ← packageName source path (some uri) parser
  return (parser.parse source.toList).sortedSpecs.map fun (spec, name) =>
    structOf (Text.utf8 source.toList) package uri path modified spec name

def findStruct (source name uri path : String) (modified : Int) (parser : Parser := .standard) :
    Except UriError (Option Struct) := do
  return (← structs source uri path modified parser).find? (·.name = name)

end Host

end FlowIndex
