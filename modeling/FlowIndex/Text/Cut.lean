import FlowIndex.Text.Blank

namespace FlowIndex.Text

def fieldsBy (p : Char → Bool) : List Char → List (List Char)
  | [] => [[]]
  | c :: cs =>
    if p c then [] :: fieldsBy p cs
    else
      match fieldsBy p cs with
      | f :: fs => (c :: f) :: fs
      | [] => [[c]]

def fields (separator : Char) (cs : List Char) : List (List Char) :=
  fieldsBy (· = separator) cs

def words (cs : List Char) : List (List Char) :=
  (fieldsBy isBlank cs).filter (!·.isEmpty)

def upTo? (p : Char → Bool) (stop : Char) (cs : List Char) : Option (List Char × List Char) :=
  match cs.dropWhile p with
  | c :: rest => if c = stop then some (cs.takeWhile p, rest) else none
  | [] => none

theorem length_lt_of_upTo? {p : Char → Bool} {stop : Char} {cs text rest : List Char}
    (h : upTo? p stop cs = some (text, rest)) : rest.length < cs.length := by
  unfold upTo? at h
  split at h
  · rename_i c rest' hd
    have := (List.dropWhile_suffix (l := cs) p).length_le
    grind
  · cases h

end FlowIndex.Text
