namespace FlowIndex.Table

-- The strokes of a line of the frame: left end, filling, crossing and right end.
structure Strokes where
  left : String
  fill : Char
  cross : String
  right : String

def top : Strokes := ⟨"┏", '━', "┳", "┓"⟩
def head : Strokes := ⟨"┃", ' ', "┃", "┃"⟩
def underHead : Strokes := ⟨"┡", '━', "╇", "┩"⟩
def row : Strokes := ⟨"│", ' ', "│", "│"⟩
def bottom : Strokes := ⟨"└", '─', "┴", "┘"⟩

def padded (fill : Char) (width : Nat) (s : String) : String :=
  s ++ String.ofList (List.replicate (width - s.length) fill)

def line (k : Strokes) (widths : List Nat) (cells : List String) : String :=
  let side := String.singleton k.fill
  let body := (widths.zip cells).map fun (width, cell) => side ++ padded k.fill width cell ++ side
  k.left ++ k.cross.intercalate body ++ k.right

def rule (k : Strokes) (widths : List Nat) : String :=
  line k widths (widths.map fun _ => "")

def widthsOf (heads : List String) (rows : List (List String)) : List Nat :=
  rows.foldl (fun widths cells => List.zipWith (fun w (c : String) => max w c.length) widths cells)
    (heads.map (·.length))

def render (heads : List String) (rows : List (List String)) : List String :=
  let widths := widthsOf heads rows
  [rule top widths, line head widths heads, rule underHead widths] ++
    rows.map (line row widths) ++ [rule bottom widths]

end FlowIndex.Table
