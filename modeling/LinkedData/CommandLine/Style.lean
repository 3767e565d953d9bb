import LinkedData.CommandLine.Console
import LinkedData.Text.Digit

/-!
# Styles of tags

A tag that is not shown as it is opens a style or closes one. A style is written as words: attributes, `not` and an
attribute, a color, `on` and a color, `link` and an address.

* `readStyle`: the style that words write; `Style.text` writes it in one order, whatever the order of the words;
* `styleName`: what a tag is known by: the text of its style, or the words themselves if they write none;
* `readTags`: the tags that are open after a line, if it closes none that is not open.
-/

namespace LinkedData.CommandLine

open Text

/-! ### styles -/

/-- The attributes in the order in which they are written, each with a shorter name for it. -/
def styleAttributes : List (String × Option String) :=
  [("bold", some "b"), ("dim", some "d"), ("italic", some "i"), ("underline", some "u"), ("blink", none),
   ("blink2", none), ("reverse", some "r"), ("conceal", some "c"), ("strike", some "s"), ("underline2", some "uu"),
   ("frame", none), ("encircle", none), ("overline", some "o")]

/-- The attribute of a name. -/
def attributeOf? (name : String) : Option String :=
  (styleAttributes.find? fun a => a.1 = name ∨ a.2 = some name).map Prod.fst

/-- The names of colors. -/
def colorNames : List String := wordsOf "
black red green yellow blue magenta cyan white bright_black bright_red bright_green bright_yellow bright_blue
bright_magenta bright_cyan bright_white grey0 gray0 navy_blue dark_blue blue3 blue1 dark_green deep_sky_blue4
dodger_blue3 dodger_blue2 green4 spring_green4 turquoise4 deep_sky_blue3 dodger_blue1 green3 spring_green3
dark_cyan light_sea_green deep_sky_blue2 deep_sky_blue1 spring_green2 cyan3 dark_turquoise turquoise2 green1
spring_green1 medium_spring_green cyan2 cyan1 dark_red deep_pink4 purple4 purple3 blue_violet orange4 grey37
gray37 medium_purple4 slate_blue3 royal_blue1 chartreuse4 dark_sea_green4 pale_turquoise4 steel_blue steel_blue3
cornflower_blue chartreuse3 cadet_blue sky_blue3 steel_blue1 pale_green3 sea_green3 aquamarine3 medium_turquoise
chartreuse2 sea_green2 sea_green1 aquamarine1 dark_slate_gray2 dark_magenta dark_violet purple light_pink4 plum4
medium_purple3 slate_blue1 yellow4 wheat4 grey53 gray53 light_slate_grey light_slate_gray medium_purple
light_slate_blue dark_olive_green3 dark_sea_green light_sky_blue3 sky_blue2 dark_sea_green3 dark_slate_gray3
sky_blue1 chartreuse1 light_green pale_green1 dark_slate_gray1 red3 medium_violet_red magenta3 dark_orange3
indian_red hot_pink3 medium_orchid3 medium_orchid medium_purple2 dark_goldenrod light_salmon3 rosy_brown grey63
gray63 medium_purple1 gold3 dark_khaki navajo_white3 grey69 gray69 light_steel_blue3 light_steel_blue yellow3
dark_sea_green2 light_cyan3 light_sky_blue1 green_yellow dark_olive_green2 dark_sea_green1 pale_turquoise1
deep_pink3 magenta2 hot_pink2 orchid medium_orchid1 orange3 light_pink3 pink3 plum3 violet light_goldenrod3 tan
misty_rose3 thistle3 plum2 khaki3 light_goldenrod2 light_yellow3 grey84 gray84 light_steel_blue1 yellow2
dark_olive_green1 honeydew2 light_cyan1 red1 deep_pink2 deep_pink1 magenta1 orange_red1 indian_red1 hot_pink
dark_orange salmon1 light_coral pale_violet_red1 orchid2 orchid1 orange1 sandy_brown light_salmon1 light_pink1
pink1 plum1 gold1 navajo_white1 misty_rose1 thistle1 yellow1 light_goldenrod1 khaki1 wheat1 cornsilk1 grey100
gray100 grey3 gray3 grey7 gray7 grey11 gray11 grey15 gray15 grey19 gray19 grey23 gray23 grey27 gray27 grey30
gray30 grey35 gray35 grey39 gray39 grey42 gray42 grey46 gray46 grey50 gray50 grey54 gray54 grey58 gray58 grey62
gray62 grey66 gray66 grey70 gray70 grey74 gray74 grey78 gray78 grey82 gray82 grey85 gray85 grey89 gray89 grey93
gray93"

/-- What the words of a tag say of a text. -/
structure Style where
  /-- The attributes that a text has or has not, the last ones first. -/
  attributes : List (String × Bool)
  color : Option String
  background : Option String
  link : Option String

namespace Style

/-- Nothing is said. -/
def none : Style := ⟨[], .none, .none, .none⟩

/-- The words of a style in one order. -/
def words (s : Style) : List String :=
  let attributes := styleAttributes.filterMap fun a =>
    (s.attributes.lookup a.1).map fun has => if has then a.1 else "not " ++ a.1
  let background := s.background.map ("on " ++ ·)
  let link := s.link.map ("link " ++ ·)
  attributes ++ s.color.toList ++ background.toList ++ link.toList

/-- The text of a style. -/
def text (s : Style) : String := if s.words.isEmpty then "none" else " ".intercalate s.words

end Style

/-! ### reading styles -/

/-- Why words write no style, or a line can not be shown. -/
inductive TagFault where
  /-- The words write no style. -/
  | notStyle
  /-- A part of a color is to be a number and is none. -/
  | notNumber
  /-- A tag closes what is not open, or what was opened with malformed arguments. -/
  | unopened
deriving DecidableEq

/-- A word in lower case. -/
def lowerWord (cs : List Char) : List Char := cs.map lowerLetter

/-- The color of three parts, which are digits between commas. -/
def readParts (cs : List Char) : Except TagFault Unit :=
  let parts := cs.splitOn ','
  if !cs.all (fun c => isDecimal c || c == ',') || cs.isEmpty || parts.length ≠ 3 then .error .notStyle
  else
    match parts.mapM readNat? with
    | none => .error .notNumber
    | some ns => if ns.all (· ≤ 255) then .ok () else .error .notStyle

/-- What stands between a name with a bracket after it and a closing bracket at the end of a text. -/
def argument? (name : List Char) (cs : List Char) : Option (List Char) :=
  if (name ++ ['(']).isPrefixOf cs && cs.getLast? == some ')' then some ((cs.drop (name.length + 1)).dropLast)
  else none

/-- A word that names a color, in lower case: a name, six hexadecimal digits, a number or three of them. -/
def readColor (cs : List Char) : Except TagFault String :=
  let color := lowerWord cs
  let name := String.ofList color
  if name = "default" ∨ colorNames.contains name then .ok name
  else
    match argument? "color".toList color, argument? "rgb".toList color with
    | some number, _ =>
      if 1 ≤ number.length && number.length ≤ 3 && number.all Char.isDigit && Nat.ofDigitChars 10 number 0 ≤ 255 then
        .ok name
      else .error .notStyle
    | none, some parts => (readParts parts).map fun _ => name
    | none, none =>
      if color.head? = some '#' ∧ color.length = 7 ∧ color.tail.all (fun c => c.isDigit || ('a' ≤ c && c ≤ 'f')) then
        .ok name
      else .error .notStyle

/-- The style that words write after what is said already. -/
def readStyleAfter (s : Style) : List (List Char) → Except TagFault Style
  | [] => .ok s
  | word :: rest =>
    let name := String.ofList (lowerWord word)
    match rest with
    | [] =>
      if name = "on" ∨ name = "not" ∨ name = "link" then .error .notStyle
      else readWord s word
    | next :: rest' =>
      if name = "on" then do readStyleAfter { s with background := some (← readColor next) } rest'
      else if name = "not" then
        match attributeOf? (String.ofList next) with
        | some a => readStyleAfter { s with attributes := (a, false) :: s.attributes } rest'
        | none => .error .notStyle
      else if name = "link" then readStyleAfter { s with link := some (String.ofList next) } rest'
      else do readStyleAfter (← readWord s word) (next :: rest')
where
  /-- An attribute or a color. -/
  readWord (s : Style) (word : List Char) : Except TagFault Style :=
    match attributeOf? (String.ofList (lowerWord word)) with
    | some a => .ok { s with attributes := (a, true) :: s.attributes }
    | none => (readColor word).map fun color => { s with color := some color }

/-- The words of a text. -/
def blankWords (cs : List Char) : List (List Char) := (cs.splitOnP isBlank).filter fun word => !word.isEmpty

/-- The style that a text writes. -/
def readStyle (cs : List Char) : Except TagFault Style :=
  if trim cs = "none".toList then .ok .none else readStyleAfter .none (blankWords cs)

/-- What a tag is known by. -/
def styleName (cs : List Char) : Except TagFault String :=
  match readStyle cs with
  | .ok s => .ok s.text
  | .error .notStyle => .ok (String.ofList (lowerWord (trim cs)))
  | .error e => .error e

/-! ### handlers -/

/-- A character of the name of a handler. -/
def isHandlerChar (c : Char) : Bool := c.isAlphanum || c == '_' || c == '.'

/-- A number, a word for a value, or a text in quotes. -/
def isConstant (cs : List Char) : Bool :=
  match cs with
  | [] => false
  | '0' :: rest => rest.all (· == '0')
  | q :: rest =>
    if q = '\x27' ∨ q = '\x22' then
      rest.getLast? == some q && !rest.dropLast.any fun c => c == q || c == '\\' || c == '\n'
    else cs.all Char.isDigit || ["True", "False", "None"].contains (String.ofList cs)

/-- Constants between brackets, with commas between them. -/
def isArguments (cs : List Char) : Bool :=
  match argument? [] cs with
  | none => false
  | some inner =>
    let items := (inner.splitOn ',').map trim
    let items := if items.getLast? = some [] then items.dropLast else items
    items.all isConstant

/-- What follows the equality sign of a handler: a name, arguments or both, or a constant. -/
def isHandler (cs : List Char) : Bool :=
  let rest := (trim cs).dropWhile isHandlerChar
  rest.isEmpty || isArguments rest || isConstant (trim cs)

/-! ### tags -/

/-- An open tag: what it is known by, and what follows an equality sign in it. -/
abbrev OpenTag := String × List Char

/-- The open tags after the tag with the given text between its brackets. -/
def readTag (tags : List OpenTag) (tag : List Char) : Except TagFault (List OpenTag) :=
  let name := tag.takeWhile (· != '=')
  match name with
  | '/' :: closed => do
    let closedTag? ← if (trim closed).isEmpty then pure tags.head? else do
      let style ← styleName (trim closed)
      pure (tags.find? fun t => t.1 = style)
    match closedTag? with
    | none => throw .unopened
    | some t =>
      if t.1.toList.head? = some '@' ∧ !isHandler t.2 then throw .unopened
      return tags.erase t
  | name => return (← styleName name, tag.drop (name.length + 1)) :: tags

/-- The open tags after a line, the last one first. An odd number of backslashes before a tag makes it text. -/
def readTags : Nat → Nat → List OpenTag → List Char → Except TagFault (List OpenTag)
  | 0, _, tags, _ => .ok tags
  | _ + 1, _, tags, [] => .ok tags
  | fuel + 1, backslashes, tags, c :: cs =>
    if c = '\\' then readTags fuel (backslashes + 1) tags cs
    else
      match if c = '[' then tag? cs else none with
      | none => readTags fuel 0 tags cs
      | some (tag, rest) =>
        if backslashes % 2 = 1 then readTags fuel 0 tags rest
        else do readTags fuel 0 (← readTag tags tag.dropLast) rest

/-- Why a line between tags of the given style can not be shown, if it can not. -/
def tagFault? (style line : String) : Option TagFault :=
  let marked := '[' :: style.toList ++ ']' :: line.toList ++ '[' :: '/' :: style.toList ++ [']']
  match readTags (marked.length + 1) 0 [] marked with
  | .ok _ => none
  | .error e => some e

end LinkedData.CommandLine
