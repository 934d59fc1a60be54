import FlowIndex.Console.PictureTable
import FlowIndex.Console.Width
import FlowIndex.Text.Cut
import FlowIndex.Text.Lower
import FlowIndex.Uri.Address

namespace FlowIndex.Console

def charOfHex (cs : List Char) : Char :=
  Char.ofNat (cs.foldl (fun n c => 16 * n + (Uri.hexValue? c).getD 0) 0)

def pictureEntry (cs : List Char) : String × List Char :=
  let (name, codes) := cs.span (· ≠ '=')
  (String.ofList name, (Text.fields ',' codes.tail).map charOfHex)

def pictures : List (String × List Char) :=
  (Text.words pictureTable.toList).map pictureEntry

def pictureStyles : List (List Char × Char) :=
  [("-emoji".toList, pictureSelector), ("-text".toList, Char.ofNat 0xfe0e)]

def picture? (name : List Char) : Option (List Char) :=
  let (name, selector) := match pictureStyles.find? (·.1.isSuffixOf name) with
    | some (ending, selector) => (name.take (name.length - ending.length), [selector])
    | none => (name, [])
  (pictures.lookup (String.ofList (Text.lower name))).map (· ++ selector)

def pictureName? (cs : List Char) : Option (List Char × List Char) :=
  Text.upTo? (fun c => c ≠ ':' && !Text.isBlank c) ':' cs

def putPictures (cs : List Char) : List Char :=
  match cs with
  | [] => []
  | c :: cs =>
    match _h : if c = ':' then pictureName? cs else none with
    | none => c :: putPictures cs
    | some (name, rest) => (picture? name).getD (':' :: name ++ [':']) ++ putPictures rest
termination_by cs.length
decreasing_by
  · simp
  · split at _h
    · simpa using Nat.lt_succ_of_lt (Text.length_lt_of_upTo? _h)
    · cases _h

end FlowIndex.Console
