import FlowIndex.Session.Event

namespace FlowIndex

inductive Request
  | refreshIndex
  | checkDocument (path : String) (text : Option String)
  | findDefinition (path : String) (line character : Option RawValue) (text : Option String)
  | hover (path : String) (line character : Option RawValue) (text : Option String)
  | listOperators (package : Option String)
deriving DecidableEq, Repr

namespace Request

def documentUri (c : Config) (path : String) : Except UriError String :=
  if path.startsWith "file://" then .ok path
  else Uri.ofFile c.cwd (c.root.join (.ofString path))

def aboutDocument (c : Config) (path : String) (query : String → Query) : Call :=
  match documentUri c path with
  | .ok uri => .start (.query (query uri))
  | .error e => .start (.query (.unnamed e))

def call (c : Config) : Request → Call
  | .refreshIndex => .refresh
  | .checkDocument path text => aboutDocument c path (.check · text)
  | .findDefinition path line character text =>
    aboutDocument c path (.definition · (Position.ofFields line character) text)
  | .hover path line character text =>
    aboutDocument c path (.hover · (Position.ofFields line character) text)
  | .listOperators package => .start (.query (.operators package))

end Request

end FlowIndex
