namespace FlowIndex.Flow

def keywords : List (String × String) :=
  [("REGISTER",
    "`REGISTER(\"pkg/path\") \x7b ... \x7d` declares a registration block. Every `OPERATOR` inside it is resolved relative to the given Go package path."),
   ("OPERATOR",
    "`OPERATOR(\"rel/path\", \"StructName\", [\"operatorName\",] sequence)` registers a Go struct as an operator. With three arguments the struct name doubles as the operator name."),
   ("START", "`START(\"flow\", key=value, ...) \x7b ... \x7d` defines the entry point of a flow."),
   ("FRAGMENT",
    "`FRAGMENT(\"name\") \x7b ... \x7d` defines a reusable block that `UNFOLD` can expand."),
   ("UNFOLD", "`UNFOLD(\"name\")` expands the `FRAGMENT` of the same name in place."),
   ("ON_FINISH",
    "`ON_FINISH() \x7b ... \x7d` runs after the enclosing `START` flow finishes, whether it failed or not."),
   ("GO", "`GO(Operator, \"event\")` runs operators in the background under an event name."),
   ("WAIT",
    "`WAIT(\"event\", timeout=30s)` blocks until the `GO` task with that event name completes."),
   ("SKIP", "`SKIP(Operator)` lets an operator skip the rest of a serial flow."),
   ("SWITCH",
    "`SWITCH(Selector) \x7b CASE ... \x7d` branches on the selector operator's output."),
   ("CASE", "`CASE \"value\" => Flow` is one branch of a `SWITCH`."),
   ("WRAP", "`(A | B | C)` wraps operators so each one decorates the next."),
   ("NO_CHECK_MISS",
    "`NO_CHECK_MISS()` disables the check for operators that were never executed in a `START` block.")]

def keywordDoc? (word : String) : Option String :=
  keywords.lookup word

def isKeyword (word : String) : Bool :=
  (keywordDoc? word).isSome

end FlowIndex.Flow
