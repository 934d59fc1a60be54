import FlowIndex.Uri

namespace FlowIndex

inductive DocumentKind
  | flow
  | host
deriving DecidableEq, Repr

namespace DocumentKind

def suffix : DocumentKind → String
  | .flow => ".gorch"
  | .host => ".go"

def label : DocumentKind → String
  | .flow => "dsl"
  | .host => "host"

def ofSuffix? (s : String) : Option DocumentKind :=
  if s = DocumentKind.flow.suffix then some .flow
  else if s = DocumentKind.host.suffix then some .host
  else none

def ofPath? (p : Path) : Option DocumentKind :=
  ofSuffix? p.suffix

end DocumentKind

structure SourceDocument where
  uri : String
  kind : DocumentKind
  text : String
  revision : Int
deriving DecidableEq, Repr

end FlowIndex
