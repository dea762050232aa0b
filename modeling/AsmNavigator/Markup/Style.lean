import AsmNavigator.Number.Numeral
import AsmNavigator.Text.LowerCase
import AsmNavigator.Text.Words

/-!
# Styles

A style is written as words: attributes with their short names, colours, a link. Two styles
of the same effect have one normal form, in which the attributes come first and in a fixed
order. What is no style has itself in lower case as its normal form.
-/

namespace AsmNavigator.Markup

open Text

/-- The attributes in the order of the normal form, with the names that each of them has. -/
def attributeNames : List (String × List String) :=
  [("bold", ["bold", "b"]), ("dim", ["dim", "d"]), ("italic", ["italic", "i"]),
    ("underline", ["underline", "u"]), ("blink", ["blink"]), ("blink2", ["blink2"]),
    ("reverse", ["reverse", "r"]), ("conceal", ["conceal", "c"]), ("strike", ["strike", "s"]),
    ("underline2", ["underline2", "uu"]), ("frame", ["frame"]), ("encircle", ["encircle"]),
    ("overline", ["overline", "o"])]

def attribute? (word : String) : Option String :=
  (attributeNames.find? fun entry => entry.2.contains word).map (·.1)

def colourNames : String := "
black red green yellow blue magenta cyan white bright_black bright_red bright_green
bright_yellow bright_blue bright_magenta bright_cyan bright_white grey0 gray0 navy_blue
dark_blue blue3 blue1 dark_green deep_sky_blue4 dodger_blue3 dodger_blue2 green4 spring_green4
turquoise4 deep_sky_blue3 dodger_blue1 green3 spring_green3 dark_cyan light_sea_green
deep_sky_blue2 deep_sky_blue1 spring_green2 cyan3 dark_turquoise turquoise2 green1 spring_green1
medium_spring_green cyan2 cyan1 dark_red deep_pink4 purple4 purple3 blue_violet orange4 grey37
gray37 medium_purple4 slate_blue3 royal_blue1 chartreuse4 dark_sea_green4 pale_turquoise4
steel_blue steel_blue3 cornflower_blue chartreuse3 cadet_blue sky_blue3 steel_blue1 pale_green3
sea_green3 aquamarine3 medium_turquoise chartreuse2 sea_green2 sea_green1 aquamarine1
dark_slate_gray2 dark_magenta dark_violet purple light_pink4 plum4 medium_purple3 slate_blue1
yellow4 wheat4 grey53 gray53 light_slate_grey light_slate_gray medium_purple light_slate_blue
dark_olive_green3 dark_sea_green light_sky_blue3 sky_blue2 dark_sea_green3 dark_slate_gray3
sky_blue1 chartreuse1 light_green pale_green1 dark_slate_gray1 red3 medium_violet_red magenta3
dark_orange3 indian_red hot_pink3 medium_orchid3 medium_orchid medium_purple2 dark_goldenrod
light_salmon3 rosy_brown grey63 gray63 medium_purple1 gold3 dark_khaki navajo_white3 grey69
gray69 light_steel_blue3 light_steel_blue yellow3 dark_sea_green2 light_cyan3 light_sky_blue1
green_yellow dark_olive_green2 dark_sea_green1 pale_turquoise1 deep_pink3 magenta2 hot_pink2
orchid medium_orchid1 orange3 light_pink3 pink3 plum3 violet light_goldenrod3 tan misty_rose3
thistle3 plum2 khaki3 light_goldenrod2 light_yellow3 grey84 gray84 light_steel_blue1 yellow2
dark_olive_green1 honeydew2 light_cyan1 red1 deep_pink2 deep_pink1 magenta1 orange_red1
indian_red1 hot_pink dark_orange salmon1 light_coral pale_violet_red1 orchid2 orchid1 orange1
sandy_brown light_salmon1 light_pink1 pink1 plum1 gold1 navajo_white1 misty_rose1 thistle1
yellow1 light_goldenrod1 khaki1 wheat1 cornsilk1 grey100 gray100 grey3 gray3 grey7 gray7 grey11
gray11 grey15 gray15 grey19 gray19 grey23 gray23 grey27 gray27 grey30 gray30 grey35 gray35
grey39 gray39 grey42 gray42 grey46 gray46 grey50 gray50 grey54 gray54 grey58 gray58 grey62
gray62 grey66 gray66 grey70 gray70 grey74 gray74 grey78 gray78 grey82 gray82 grey85 gray85
grey89 gray89 grey93 gray93
"

def namedColours : List String := "default" :: (words colourNames.toList).map String.ofList

def isHexDigit (c : Char) : Bool := c.isDigit || ('a' ≤ c && c ≤ 'f')

/-- Whether digits denote a number that one byte holds. -/
def isByteNumeral (digits : List Char) : Bool :=
  match Numeral.integer 10 digits with
  | .ok n => n ≤ 255
  | .error _ => false

def enclosed? (start : String) (word : List Char) : Option (List Char) := do
  dropSuffix? [')'] (← dropPrefix? start.toList word)

/-- Whether a word in lower case is a colour: a name, a number, or three parts of light. -/
def isColour (word : String) : Bool :=
  let cs := word.toList
  if namedColours.contains word then true
  else if cs.head? = some '#' then cs.length == 7 && cs.tail.all isHexDigit
  else
    match enclosed? "color(" cs, enclosed? "rgb(" cs with
    | some digits, _ =>
        1 ≤ digits.length && digits.length ≤ 3 && digits.all Char.isDigit && isByteNumeral digits
    | none, some inner =>
        let parts := splitOn ',' inner
        parts.length == 3 && parts.all isByteNumeral
    | none, none => false

structure Style where
  /-- Attributes that are switched on or off; the first of one name holds. -/
  attributes : List (String × Bool) := []
  colour? : Option String := none
  background? : Option String := none
  link? : Option String := none

/-- The style that words describe on top of another one. -/
def Style.ofWords? (style : Style) : List String → Option Style
  | [] => some style
  | word :: rest =>
      match lowerCase word, rest with
      | "on", colour :: rest =>
          if isColour (lowerCase colour) then
            { style with background? := some (lowerCase colour) }.ofWords? rest
          else none
      | "not", name :: rest => do
          let found ← attribute? name
          { style with attributes := (found, false) :: style.attributes }.ofWords? rest
      | "link", address :: rest => { style with link? := some address }.ofWords? rest
      | "on", [] | "not", [] | "link", [] => none
      | name, rest =>
          match attribute? name with
          | some found =>
              { style with attributes := (found, true) :: style.attributes }.ofWords? rest
          | none =>
              if isColour name then { style with colour? := some name }.ofWords? rest else none

def Style.text (style : Style) : String :=
  let switched := attributeNames.filterMap fun entry =>
    (style.attributes.lookup entry.1).map fun on => if on then entry.1 else "not " ++ entry.1
  let parts := switched ++ style.colour?.toList ++
    (style.background?.map ("on " ++ ·)).toList ++ (style.link?.map ("link " ++ ·)).toList
  if parts.isEmpty then "none" else String.intercalate " " parts

def normalForm (name : String) : String :=
  if trim name = "none" then "none"
  else
    match Style.ofWords? {} ((words name.toList).map String.ofList) with
    | some style => style.text
    | none => lowerCase (trim name)

end AsmNavigator.Markup
