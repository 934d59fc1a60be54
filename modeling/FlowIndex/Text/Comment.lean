namespace FlowIndex.Text

-- The rest of a block comment through its end mark, and the text behind. A comment without an end
-- mark takes the whole text.
def splitComment : List Char → List Char × List Char
  | [] => ([], [])
  | '*' :: '/' :: cs => (['*', '/'], cs)
  | c :: cs =>
    let (text, rest) := splitComment cs
    (c :: text, rest)

theorem splitComment_append (cs : List Char) :
    (splitComment cs).1 ++ (splitComment cs).2 = cs := by
  fun_induction splitComment cs <;> simp_all

end FlowIndex.Text
