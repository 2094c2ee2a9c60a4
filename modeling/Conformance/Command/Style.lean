/-
# Styles of tags

A tag asks for a style: attributes such as bold, a colour, a background and a link.  Two ways to
write a style are the same if they have one normal form, in which the attributes come first, in a
fixed order.  What cannot be read as a style is its own normal form, in lower case.
-/
import Conformance.Number.Literal
import Conformance.Text.LowerCase

namespace Conformance

/-- The colours that have names. -/
def colourNames : List String := [
  "black red green yellow blue magenta cyan white bright_black bright_red bright_green",
  "bright_yellow bright_blue bright_magenta bright_cyan bright_white grey0 gray0 navy_blue",
  "dark_blue blue3 blue1 dark_green deep_sky_blue4 dodger_blue3 dodger_blue2 green4",
  "spring_green4 turquoise4 deep_sky_blue3 dodger_blue1 green3 spring_green3 dark_cyan",
  "light_sea_green deep_sky_blue2 deep_sky_blue1 spring_green2 cyan3 dark_turquoise turquoise2",
  "green1 spring_green1 medium_spring_green cyan2 cyan1 dark_red deep_pink4 purple4 purple3",
  "blue_violet orange4 grey37 gray37 medium_purple4 slate_blue3 royal_blue1 chartreuse4",
  "dark_sea_green4 pale_turquoise4 steel_blue steel_blue3 cornflower_blue chartreuse3",
  "cadet_blue sky_blue3 steel_blue1 pale_green3 sea_green3 aquamarine3 medium_turquoise",
  "chartreuse2 sea_green2 sea_green1 aquamarine1 dark_slate_gray2 dark_magenta dark_violet",
  "purple light_pink4 plum4 medium_purple3 slate_blue1 yellow4 wheat4 grey53 gray53",
  "light_slate_grey light_slate_gray medium_purple light_slate_blue dark_olive_green3",
  "dark_sea_green light_sky_blue3 sky_blue2 dark_sea_green3 dark_slate_gray3 sky_blue1",
  "chartreuse1 light_green pale_green1 dark_slate_gray1 red3 medium_violet_red magenta3",
  "dark_orange3 indian_red hot_pink3 medium_orchid3 medium_orchid medium_purple2 dark_goldenrod",
  "light_salmon3 rosy_brown grey63 gray63 medium_purple1 gold3 dark_khaki navajo_white3 grey69",
  "gray69 light_steel_blue3 light_steel_blue yellow3 dark_sea_green2 light_cyan3",
  "light_sky_blue1 green_yellow dark_olive_green2 dark_sea_green1 pale_turquoise1 deep_pink3",
  "magenta2 hot_pink2 orchid medium_orchid1 orange3 light_pink3 pink3 plum3 violet",
  "light_goldenrod3 tan misty_rose3 thistle3 plum2 khaki3 light_goldenrod2 light_yellow3 grey84",
  "gray84 light_steel_blue1 yellow2 dark_olive_green1 honeydew2 light_cyan1 red1 deep_pink2",
  "deep_pink1 magenta1 orange_red1 indian_red1 hot_pink dark_orange salmon1 light_coral",
  "pale_violet_red1 orchid2 orchid1 orange1 sandy_brown light_salmon1 light_pink1 pink1 plum1",
  "gold1 navajo_white1 misty_rose1 thistle1 yellow1 light_goldenrod1 khaki1 wheat1 cornsilk1",
  "grey100 gray100 grey3 gray3 grey7 gray7 grey11 gray11 grey15 gray15 grey19 gray19 grey23",
  "gray23 grey27 gray27 grey30 gray30 grey35 gray35 grey39 gray39 grey42 gray42 grey46 gray46",
  "grey50 gray50 grey54 gray54 grey58 gray58 grey62 gray62 grey66 gray66 grey70 gray70 grey74",
  "gray74 grey78 gray78 grey82 gray82 grey85 gray85 grey89 gray89 grey93 gray93"]

/-- Whether a word has the form of six hexadecimal digits after a mark. -/
def isHexColour : List Char → Bool
  | '#' :: cs => cs.length == 6 && cs.all fun c => c.isDigit || ('a' ≤ c && c ≤ 'f')
  | _ => false

/-- What stands between a word with its opening parenthesis and the closing one. -/
def argument? (head : String) (word : String) : Option String :=
  if Text.startsWith word head && Text.endsWith word ")" then
    some (String.ofList ((word.toList.drop head.length).dropLast))
  else none

/-- Whether a word is the number of a colour. -/
def isNumberedColour (word : String) : Bool :=
  match argument? "color(" word with
  | some digits =>
    !digits.isEmpty && digits.length ≤ 3 && digits.toList.all Char.isDigit &&
      ((Literal.readInt? digits).getD 256) ≤ 255
  | none => false

/-- Whether a word gives the three parts of a colour. -/
def isMixedColour (word : String) : Bool :=
  match argument? "rgb(" word with
  | some parts =>
    let numbers := (Text.pieces ',' parts).map Literal.readInt?
    parts.toList.all (fun c => c == ',' || Text.isDecimalDigit c) && numbers.length == 3 &&
      numbers.all fun n => n.getD 256 ≤ 255
  | none => false

/-- Whether a word in lower case is a colour. -/
def isColour (word : String) : Bool :=
  word == "default" || (colourNames.flatMap (Text.pieces ' ')).contains word ||
    isHexColour word.toList || isNumberedColour word || isMixedColour word

/-- A style. -/
structure TextStyle where
  /-- The attributes that it sets or unsets, the latest first. -/
  attributes : List (String × Bool) := []
  /-- The colour. -/
  colour : Option String := none
  /-- The colour of the background. -/
  background : Option String := none
  /-- Where a link leads. -/
  link : Option String := none
  deriving DecidableEq, Repr, Inhabited

namespace TextStyle

/-- The attributes in their order. -/
def attributeNames : List String :=
  ["bold", "dim", "italic", "underline", "blink", "blink2", "reverse", "conceal", "strike",
    "underline2", "frame", "encircle", "overline"]

/-- Short names of attributes. -/
def shortNames : List (String × String) :=
  [("d", "dim"), ("b", "bold"), ("i", "italic"), ("u", "underline"), ("r", "reverse"),
    ("c", "conceal"), ("s", "strike"), ("uu", "underline2"), ("o", "overline")]

/-- The attribute that a word names. -/
def attribute? (word : String) : Option String :=
  if attributeNames.contains word then some word else shortNames.lookup word

/-- Reads the words of a style, later words winning. -/
def readWords : TextStyle → List String → Option TextStyle
  | s, [] => some s
  | s, word :: words =>
    let lower := Text.lower word
    if lower == "on" then
      match words with
      | [] => none
      | colour :: words =>
        if isColour (Text.lower colour) then
          readWords { s with background := some (Text.lower colour) } words
        else none
    else if lower == "not" then
      match words with
      | [] => none
      | name :: words =>
        match attribute? name with
        | some a => readWords { s with attributes := (a, false) :: s.attributes } words
        | none => none
    else if lower == "link" then
      match words with
      | [] => none
      | target :: words => readWords { s with link := some target } words
    else match attribute? lower with
      | some a => readWords { s with attributes := (a, true) :: s.attributes } words
      | none => if isColour lower then readWords { s with colour := some lower } words else none

/-- Reads a style. -/
def read? (text : String) : Option TextStyle :=
  if Text.trimmed text == "none" then some {}
  else readWords {} ((Text.words text.toList).map String.ofList)

/-- A style in its normal form. -/
def text (s : TextStyle) : String :=
  let attributes := attributeNames.filterMap fun a =>
    (s.attributes.lookup a).map fun set => if set then a else "not " ++ a
  let parts := attributes ++ s.colour.toList ++ (s.background.map ("on " ++ ·)).toList ++
    (s.link.map ("link " ++ ·)).toList
  if parts.isEmpty then "none" else " ".intercalate parts

/-- The normal form of what a tag asks for. -/
def normalForm (text : String) : String :=
  match read? text with
  | some s => s.text
  | none => Text.lower (Text.trimmed text)

end TextStyle
end Conformance
