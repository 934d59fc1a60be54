import FlowIndex.Document
import FlowIndex.Text.Digit

namespace FlowIndex

inductive Failure
  | unreadable (uri reason : String)
  | system (message : String)
  | unexpected (message : String)
  | name (e : UriError)
deriving DecidableEq, Repr

def Failure.message : Failure → String
  | .unreadable uri reason => s!"Failed to read {uri}: {reason}"
  | .system message => message
  | .unexpected message => message
  | .name e => e.message

class DocumentStore (σ : Type) where
  -- The kind of the document that a name stands for.
  kindOf : σ → String → Except UriError (Option DocumentKind)
  -- The document's name as users see it.
  relativePath : σ → String → Except UriError String
  -- The documents of a kind, in the order in which they are scanned.
  list : σ → DocumentKind → Except Failure (List String)
  read : σ → String → Except Failure SourceDocument
  -- The time of the last change.
  modified : σ → String → Except Failure Int

end FlowIndex
