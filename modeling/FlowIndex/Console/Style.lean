import FlowIndex.Text.Cut
import FlowIndex.Text.Digit
import FlowIndex.Text.Lower
import FlowIndex.Uri.Address

namespace FlowIndex.Console

inductive NumberError
  | empty
  | digits (e : Text.TooManyDigits)
deriving DecidableEq, Repr

def NumberError.message : NumberError → String
  | .empty => "invalid literal for int() with base 10: ''"
  | .digits e => e.message

inductive StyleError
  | words
  | number (e : NumberError)
deriving DecidableEq, Repr

structure Style where
  attributes : List (String × Bool) := []
  color : Option (List Char) := none
  background : Option (List Char) := none
  link : Option (List Char) := none
deriving DecidableEq, Repr

def attributeNames : List (String × Option String) :=
  [("bold", some "b"), ("dim", some "d"), ("italic", some "i"), ("underline", some "u"),
   ("blink", none), ("blink2", none), ("reverse", some "r"), ("conceal", some "c"),
   ("strike", some "s"), ("underline2", some "uu"), ("frame", none), ("encircle", none),
   ("overline", some "o")]

def attribute? (word : List Char) : Option String :=
  let word := String.ofList word
  (attributeNames.find? fun (name, short) => name = word || short = some word).map (·.1)

def colorTable : String := "
  aquamarine1 aquamarine3 black blue blue1 blue3 blue_violet bright_black bright_blue bright_cyan
  bright_green bright_magenta bright_red bright_white bright_yellow cadet_blue chartreuse1
  chartreuse2 chartreuse3 chartreuse4 cornflower_blue cornsilk1 cyan cyan1 cyan2 cyan3 dark_blue
  dark_cyan dark_goldenrod dark_green dark_khaki dark_magenta dark_olive_green1 dark_olive_green2
  dark_olive_green3 dark_orange dark_orange3 dark_red dark_sea_green dark_sea_green1 dark_sea_green2
  dark_sea_green3 dark_sea_green4 dark_slate_gray1 dark_slate_gray2 dark_slate_gray3 dark_turquoise
  dark_violet deep_pink1 deep_pink2 deep_pink3 deep_pink4 deep_sky_blue1 deep_sky_blue2
  deep_sky_blue3 deep_sky_blue4 dodger_blue1 dodger_blue2 dodger_blue3 gold1 gold3 gray0 gray100
  gray11 gray15 gray19 gray23 gray27 gray3 gray30 gray35 gray37 gray39 gray42 gray46 gray50 gray53
  gray54 gray58 gray62 gray63 gray66 gray69 gray7 gray70 gray74 gray78 gray82 gray84 gray85 gray89
  gray93 green green1 green3 green4 green_yellow grey0 grey100 grey11 grey15 grey19 grey23 grey27
  grey3 grey30 grey35 grey37 grey39 grey42 grey46 grey50 grey53 grey54 grey58 grey62 grey63 grey66
  grey69 grey7 grey70 grey74 grey78 grey82 grey84 grey85 grey89 grey93 honeydew2 hot_pink hot_pink2
  hot_pink3 indian_red indian_red1 khaki1 khaki3 light_coral light_cyan1 light_cyan3
  light_goldenrod1 light_goldenrod2 light_goldenrod3 light_green light_pink1 light_pink3 light_pink4
  light_salmon1 light_salmon3 light_sea_green light_sky_blue1 light_sky_blue3 light_slate_blue
  light_slate_gray light_slate_grey light_steel_blue light_steel_blue1 light_steel_blue3
  light_yellow3 magenta magenta1 magenta2 magenta3 medium_orchid medium_orchid1 medium_orchid3
  medium_purple medium_purple1 medium_purple2 medium_purple3 medium_purple4 medium_spring_green
  medium_turquoise medium_violet_red misty_rose1 misty_rose3 navajo_white1 navajo_white3 navy_blue
  orange1 orange3 orange4 orange_red1 orchid orchid1 orchid2 pale_green1 pale_green3 pale_turquoise1
  pale_turquoise4 pale_violet_red1 pink1 pink3 plum1 plum2 plum3 plum4 purple purple3 purple4 red
  red1 red3 rosy_brown royal_blue1 salmon1 sandy_brown sea_green1 sea_green2 sea_green3 sky_blue1
  sky_blue2 sky_blue3 slate_blue1 slate_blue3 spring_green1 spring_green2 spring_green3
  spring_green4 steel_blue steel_blue1 steel_blue3 tan thistle1 thistle3 turquoise2 turquoise4
  violet wheat1 wheat4 white yellow yellow1 yellow2 yellow3 yellow4
"

def colorNames : List (List Char) :=
  "default".toList :: Text.words colorTable.toList

def between? (word : String) (cs : List Char) : Option (List Char) :=
  if (word.toList ++ ['(']).isPrefixOf cs && cs.getLast? = some ')' then
    some ((cs.drop (word.length + 1)).dropLast)
  else none

def colorLimit : Nat := 255

def component (cs : List Char) : Except StyleError Nat :=
  if cs.isEmpty then .error (.number .empty)
  else (Text.readNumber cs).mapError fun e => .number (.digits e)

def isColorNumber (cs : List Char) : Bool :=
  cs.all Char.isDigit && 1 ≤ cs.length && cs.length ≤ 3 && Text.decimalValue cs ≤ colorLimit

def checkComponents (cs : List Char) : Except StyleError Unit := do
  if cs.isEmpty || !cs.all (fun c => Text.isDigit c || c = ',') then throw .words
  let parts := Text.fields ',' cs
  if parts.length ≠ 3 then throw .words
  let values ← parts.mapM component
  if values.any (colorLimit < ·) then throw .words

-- Reads a colour: a name, a number, or its red, green and blue parts.
def color (word : List Char) : Except StyleError (List Char) := do
  let word := Text.lower word
  if colorNames.contains word then return word
  match word with
  | '#' :: digits =>
    if digits.length = 6 && digits.all Uri.isHexDigit then return word else throw .words
  | _ =>
    match between? "color" word, between? "rgb" word with
    | some number, _ => if isColorNumber number then return word else throw .words
    | none, some parts =>
      checkComponents parts
      return word
    | none, none => throw .words

namespace Style

def setAttribute (s : Style) (name : String) (value : Bool) : Style :=
  { s with attributes := (name, value) :: s.attributes.filter (·.1 ≠ name) }

def readWords (s : Style) : List (List Char) → Except StyleError Style
  | [] => .ok s
  | word :: rest =>
    let word := Text.lower word
    if word = "on".toList then
      match rest with
      | [] => .error .words
      | next :: rest => do readWords { s with background := some (← Console.color next) } rest
    else if word = "not".toList then
      match rest with
      | [] => .error .words
      | next :: rest =>
        match attribute? next with
        | some name => readWords (s.setAttribute name false) rest
        | none => .error .words
    else if word = "link".toList then
      match rest with
      | [] => .error .words
      | next :: rest => readWords { s with link := some next } rest
    else
      match attribute? word with
      | some name => readWords (s.setAttribute name true) rest
      | none => do readWords { s with color := some (← Console.color word) } rest

def words (s : Style) : List (List Char) :=
  let attributes := attributeNames.flatMap fun (name, _) =>
    match s.attributes.lookup name with
    | some true => [name.toList]
    | some false => ["not".toList, name.toList]
    | none => []
  let behind (word : String) (value : Option (List Char)) : List (List Char) :=
    match value with
    | some cs => [word.toList, cs]
    | none => []
  attributes ++ s.color.toList ++ behind "on" s.background ++ behind "link" s.link

-- Two ways to write one style have the same name, by which tags that open and close it are matched.
def name (s : Style) : List Char :=
  if s.words.isEmpty then "none".toList else [' '].intercalate s.words

end Style

-- The name of the style that a text is written for. A text that is no style is its own name, in
-- lower case.
def styleName (cs : List Char) : Except NumberError (List Char) :=
  if Text.trim cs = "none".toList then .ok "none".toList
  else
    match Style.readWords {} (Text.words cs) with
    | .ok s => .ok s.name
    | .error .words => .ok (Text.lower (Text.trim cs))
    | .error (.number e) => .error e

end FlowIndex.Console
