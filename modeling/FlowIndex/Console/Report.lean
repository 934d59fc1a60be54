import FlowIndex.Console.Markup
import FlowIndex.Diagnostics

namespace FlowIndex.Report

-- A place as users read it: lines and characters count from one.
def place (path : String) (p : Position) : String :=
  s!"{path}:{p.line + 1}:{p.character + 1}"

def problem (path : String) (d : Diagnostic) : String :=
  let start := place path d.span.start
  let message := Markup.escape d.message
  s!"{start}: [red]error[/red] [dim]\\[{d.code.label}][/dim] {message}"

def snapshot (s : Snapshot) : String :=
  s!"[green]Index v{s.version}[/green]: {s.operators.length} operators, {s.fragments.length} fragments, {s.structs.length} structs"

end FlowIndex.Report
