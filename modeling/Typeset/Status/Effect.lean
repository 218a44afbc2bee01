import Typeset.Status.Emoji

/-!
# Effects of style tags

A style tag asks for attributes such as `bold`, a colour, a background after `on`
and an address after `link`.  A closing tag closes the last tag that asks for the
same, however it is spelled: `[b red]` is closed by `[/red bold]`.  So each tag has
a normal form, and tags are compared by it.
-/

namespace Typeset.Status

open Typeset.Text

/-- The names of the colours. -/
def colorTable : String := "
default aquamarine1 aquamarine3 black blue blue1 blue3 blue_violet bright_black bright_blue
bright_cyan bright_green bright_magenta bright_red bright_white bright_yellow cadet_blue chartreuse1
chartreuse2 chartreuse3 chartreuse4 cornflower_blue cornsilk1 cyan cyan1 cyan2 cyan3 dark_blue
dark_cyan dark_goldenrod dark_green dark_khaki dark_magenta dark_olive_green1 dark_olive_green2
dark_olive_green3 dark_orange dark_orange3 dark_red dark_sea_green dark_sea_green1 dark_sea_green2
dark_sea_green3 dark_sea_green4 dark_slate_gray1 dark_slate_gray2 dark_slate_gray3 dark_turquoise
dark_violet deep_pink1 deep_pink2 deep_pink3 deep_pink4 deep_sky_blue1 deep_sky_blue2 deep_sky_blue3
deep_sky_blue4 dodger_blue1 dodger_blue2 dodger_blue3 gold1 gold3 gray0 gray100 gray11 gray15 gray19
gray23 gray27 gray3 gray30 gray35 gray37 gray39 gray42 gray46 gray50 gray53 gray54 gray58 gray62
gray63 gray66 gray69 gray7 gray70 gray74 gray78 gray82 gray84 gray85 gray89 gray93 green green1
green3 green4 green_yellow grey0 grey100 grey11 grey15 grey19 grey23 grey27 grey3 grey30 grey35
grey37 grey39 grey42 grey46 grey50 grey53 grey54 grey58 grey62 grey63 grey66 grey69 grey7 grey70
grey74 grey78 grey82 grey84 grey85 grey89 grey93 honeydew2 hot_pink hot_pink2 hot_pink3 indian_red
indian_red1 khaki1 khaki3 light_coral light_cyan1 light_cyan3 light_goldenrod1 light_goldenrod2
light_goldenrod3 light_green light_pink1 light_pink3 light_pink4 light_salmon1 light_salmon3
light_sea_green light_sky_blue1 light_sky_blue3 light_slate_blue light_slate_gray light_slate_grey
light_steel_blue light_steel_blue1 light_steel_blue3 light_yellow3 magenta magenta1 magenta2
magenta3 medium_orchid medium_orchid1 medium_orchid3 medium_purple medium_purple1 medium_purple2
medium_purple3 medium_purple4 medium_spring_green medium_turquoise medium_violet_red misty_rose1
misty_rose3 navajo_white1 navajo_white3 navy_blue orange1 orange3 orange4 orange_red1 orchid orchid1
orchid2 pale_green1 pale_green3 pale_turquoise1 pale_turquoise4 pale_violet_red1 pink1 pink3 plum1
plum2 plum3 plum4 purple purple3 purple4 red red1 red3 rosy_brown royal_blue1 salmon1 sandy_brown
sea_green1 sea_green2 sea_green3 sky_blue1 sky_blue2 sky_blue3 slate_blue1 slate_blue3 spring_green1
spring_green2 spring_green3 spring_green4 steel_blue steel_blue1 steel_blue3 tan thistle1 thistle3
turquoise2 turquoise4 violet wheat1 wheat4 white yellow yellow1 yellow2 yellow3 yellow4"

/-- The attributes in the order of a normal form, each with its short names. -/
def attributeTable : List (String × List String) :=
  [("bold", ["b"]), ("dim", ["d"]), ("italic", ["i"]), ("underline", ["u"]), ("blink", []),
    ("blink2", []), ("reverse", ["r"]), ("conceal", ["c"]), ("strike", ["s"]),
    ("underline2", ["uu"]), ("frame", []), ("encircle", []), ("overline", ["o"])]

/-- The full name of the attribute that a word names. -/
def attribute? (word : List Char) : Option String :=
  (attributeTable.find? fun entry =>
    (entry.1 :: entry.2).any fun name => name.toList == word).map Prod.fst

/-- The words of a text. -/
def wordsOf (text : List Char) : List (List Char) :=
  (splitAt ' ' (collapse text)).filter fun word => !word.isEmpty

/-- Whether a word names a colour: by name or by a hexadecimal code. -/
def isColor (word : List Char) : Bool :=
  let lower := word.map lowerLetter
  let code := lower.drop 1
  (tableWords colorTable.toList).contains lower ||
    (lower.head? == some '#' && code.length == 6 && code.all fun c => (hexDigit? c).isSome)

/-- What a style tag asks for.  A later request for the same thing wins. -/
structure Effect where
  /-- The attributes that are switched on or off, the last one first. -/
  switches : List (String × Bool) := []
  color : Option (List Char) := none
  background : Option (List Char) := none
  address : Option (List Char) := none

namespace Effect

/-- Read the words of a tag on top of an effect; none if a word has no meaning. -/
def ofWords? (effect : Effect) : List (List Char) → Option Effect
  | [] => some effect
  | word :: rest =>
      let lower := word.map lowerLetter
      if lower == "on".toList then
        match rest with
        | color :: rest =>
            if isColor color then
              ofWords? { effect with background := some (color.map lowerLetter) } rest
            else none
        | [] => none
      else if lower == "not".toList then
        match rest with
        | name :: rest =>
            match attribute? name with
            | some full =>
                ofWords? { effect with switches := (full, false) :: effect.switches } rest
            | none => none
        | [] => none
      else if lower == "link".toList then
        match rest with
        | address :: rest => ofWords? { effect with address := some address } rest
        | [] => none
      else
        match attribute? lower with
        | some full =>
            ofWords? { effect with switches := (full, true) :: effect.switches } rest
        | none => if isColor lower then ofWords? { effect with color := some lower } rest else none

/-- The words of the normal form. -/
def toWords (effect : Effect) : List (List Char) :=
  let attributes := attributeTable.flatMap fun (name, _) =>
    match effect.switches.find? (·.1 == name) with
    | some (_, true) => [name.toList]
    | some (_, false) => ["not".toList, name.toList]
    | none => []
  attributes ++ effect.color.toList ++
    (match effect.background with
    | some color => ["on".toList, color]
    | none => []) ++
    match effect.address with
    | some address => ["link".toList, address]
    | none => []

end Effect

/-- The normal form of a style.  A style without meaning is compared as it is
written, without regard to case. -/
def normalStyle (style : List Char) : List Char :=
  let bare := trim separatesWords style
  if bare == "none".toList then bare
  else
    match Effect.ofWords? {} (wordsOf style) with
    | some effect =>
        let words := effect.toWords
        if words.isEmpty then "none".toList else List.intercalate [' '] words
    | none => bare.map lowerLetter

end Typeset.Status
