import RouteReport.Text.Blank
import RouteReport.Text.Case

/-! Names of text styles in a normal form, so that two spellings of one style agree. -/

namespace RouteReport.Console

def styleAttributes : List (String × List String) :=
  [("bold", ["bold", "b"]), ("dim", ["dim", "d"]), ("italic", ["italic", "i"]),
   ("underline", ["underline", "u"]), ("blink", ["blink"]), ("blink2", ["blink2"]),
   ("reverse", ["reverse", "r"]), ("conceal", ["conceal", "c"]), ("strike", ["strike", "s"]),
   ("underline2", ["underline2", "uu"]), ("frame", ["frame"]), ("encircle", ["encircle"]),
   ("overline", ["overline", "o"])]

def attributeOf? (word : Text) : Option String :=
  (styleAttributes.find? fun (_, names) => names.any fun name => name.toList == word).map (·.1)

def colourNames : List String :=
  ["default", "black", "red", "green", "yellow", "blue", "magenta", "cyan", "white", "bright_black",
   "bright_red", "bright_green", "bright_yellow", "bright_blue", "bright_magenta", "bright_cyan",
   "bright_white", "navy_blue", "dark_blue", "blue3", "blue1", "dark_green", "deep_sky_blue4",
   "dodger_blue3", "dodger_blue2", "green4", "spring_green4", "turquoise4", "deep_sky_blue3",
   "dodger_blue1", "green3", "spring_green3", "dark_cyan", "light_sea_green", "deep_sky_blue2",
   "deep_sky_blue1", "spring_green2", "cyan3", "dark_turquoise", "turquoise2", "green1",
   "spring_green1", "medium_spring_green", "cyan2", "cyan1", "dark_red", "deep_pink4", "purple4",
   "purple3", "blue_violet", "orange4", "medium_purple4", "slate_blue3", "royal_blue1",
   "chartreuse4", "dark_sea_green4", "pale_turquoise4", "steel_blue", "steel_blue3",
   "cornflower_blue", "chartreuse3", "cadet_blue", "sky_blue3", "steel_blue1", "pale_green3",
   "sea_green3", "aquamarine3", "medium_turquoise", "chartreuse2", "sea_green2", "sea_green1",
   "aquamarine1", "dark_slate_gray2", "dark_magenta", "dark_violet", "purple", "light_pink4",
   "plum4", "medium_purple3", "slate_blue1", "yellow4", "wheat4", "light_slate_grey",
   "light_slate_gray", "medium_purple", "light_slate_blue", "dark_olive_green3", "dark_sea_green",
   "light_sky_blue3", "sky_blue2", "dark_sea_green3", "dark_slate_gray3", "sky_blue1",
   "chartreuse1", "light_green", "pale_green1", "dark_slate_gray1", "red3", "medium_violet_red",
   "magenta3", "dark_orange3", "indian_red", "hot_pink3", "medium_orchid3", "medium_orchid",
   "medium_purple2", "dark_goldenrod", "light_salmon3", "rosy_brown", "medium_purple1", "gold3",
   "dark_khaki", "navajo_white3", "light_steel_blue3", "light_steel_blue", "yellow3",
   "dark_sea_green2", "light_cyan3", "light_sky_blue1", "green_yellow", "dark_olive_green2",
   "dark_sea_green1", "pale_turquoise1", "deep_pink3", "magenta2", "hot_pink2", "orchid",
   "medium_orchid1", "orange3", "light_pink3", "pink3", "plum3", "violet", "light_goldenrod3",
   "tan", "misty_rose3", "thistle3", "plum2", "khaki3", "light_goldenrod2", "light_yellow3",
   "light_steel_blue1", "yellow2", "dark_olive_green1", "honeydew2", "light_cyan1", "red1",
   "deep_pink2", "deep_pink1", "magenta1", "orange_red1", "indian_red1", "hot_pink", "dark_orange",
   "salmon1", "light_coral", "pale_violet_red1", "orchid2", "orchid1", "orange1", "sandy_brown",
   "light_salmon1", "light_pink1", "pink1", "plum1", "gold1", "navajo_white1", "misty_rose1",
   "thistle1", "yellow1", "light_goldenrod1", "khaki1", "wheat1", "cornsilk1"]

def greyShades : List Nat :=
  [0, 3, 7, 11, 15, 19, 23, 27, 30, 35, 37, 39, 42, 46, 50, 53, 54, 58, 62, 63, 66, 69, 70, 74, 78, 82,
   84, 85, 89, 93, 100]

def isHexDigit (c : Char) : Bool := Text.isAsciiDigit c || ('a' ≤ c && c ≤ 'f')

def numberOf (digits : Text) : Nat := digits.foldl (fun n c => n * 10 + (c.toNat - 48)) 0

def isColourNumber (text : Text) : Bool :=
  !text.isEmpty && text.length ≤ 3 && text.all Text.isAsciiDigit && numberOf text ≤ 255

def argumentOf? (name : String) (text : Text) : Option Text :=
  Text.afterPrefix? text (name.toList ++ ['(']) >>= fun rest => Text.beforeSuffix? rest [')']

def isColour (word : Text) : Bool :=
  (colourNames.any fun name => name.toList == word) ||
    (greyShades.any fun shade =>
      word == "grey".toList ++ Text.ofNat shade || word == "gray".toList ++ Text.ofNat shade) ||
    (match word with
    | '#' :: digits => digits.length == 6 && digits.all isHexDigit
    | _ => false) ||
    (argumentOf? "color" word).any isColourNumber ||
    (argumentOf? "rgb" word).any fun parts =>
      (parts.splitOn ',').length == 3 && (parts.splitOn ',').all isColourNumber

structure Style where
  attributes : List (String × Bool)
  colour : Option Text
  background : Option Text
  link : Option Text

namespace Style

def plain : Style := ⟨[], none, none, none⟩

def setAttribute (style : Style) (name : String) (value : Bool) : Style :=
  { style with attributes := (name, value) :: style.attributes.filter (·.1 != name) }

def ofWords? (style : Style) : List Text → Option Style
  | [] => some style
  | word :: rest =>
    let word := Text.lower word
    if word == "on".toList then
      match rest with
      | colour :: rest =>
        if isColour colour.lower then ofWords? { style with background := some colour.lower } rest
        else none
      | [] => none
    else if word == "not".toList then
      match rest with
      | name :: rest =>
        match attributeOf? name with
        | some name => ofWords? (style.setAttribute name false) rest
        | none => none
      | [] => none
    else if word == "link".toList then
      match rest with
      | target :: rest => ofWords? { style with link := some target } rest
      | [] => none
    else match attributeOf? word with
      | some name => ofWords? (style.setAttribute name true) rest
      | none => if isColour word then ofWords? { style with colour := some word } rest else none

def words (style : Style) : List Text :=
  (styleAttributes.filterMap fun (name, _) =>
    (style.attributes.lookup name).map fun isSet =>
      if isSet then name.toList else "not ".toList ++ name.toList) ++
    style.colour.toList ++
    (style.background.toList.map fun colour => "on ".toList ++ colour) ++
    style.link.toList.map fun target => "link ".toList ++ target

end Style

/-- The normal form of a style; of a text that is none, its lower case without space around it. -/
def normalStyle (text : Text) : Text :=
  let words := Text.words text
  if words.isEmpty || words == ["none".toList] then "none".toList
  else match Style.plain.ofWords? words with
    | some style => if style.words.isEmpty then "none".toList else Text.join [' '] style.words
    | none => Text.lower text.trim

end RouteReport.Console
