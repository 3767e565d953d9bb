import LinkedData.Text.Blank
import LinkedData.Text.EmojiName

/-!
# Emojis written by their names

* `emojiFor?`: the emoji of a name in any case; `-emoji` or `-text` after the name adds a mark that has it shown as an
  emoji or as a symbol;
* `withEmojis`: a text with emojis in the place of their names between colons.
-/

namespace LinkedData.Text

/-- A letter in lower case, those of other alphabets than the Latin one as they are. -/
def lowerLetter (c : Char) : Char :=
  if (0xC0 ≤ c.toNat && c.toNat ≤ 0xDE) && c.toNat != 0xD7 then Char.ofNat (c.toNat + 0x20)
  else if c = '\u212a' then 'k'
  else if c = '\u212b' then '\u00e5'
  else c.toLower

/-- The marks that a name may end in, with what they add. -/
def presentations : List (List Char × Char) := [("-emoji".toList, '\ufe0f'), ("-text".toList, '\ufe0e')]

/-- A name without the mark at its end, and what the mark adds. -/
def splitPresentation (name : List Char) : List Char × List Char :=
  match presentations.find? fun p => p.1.isSuffixOf name with
  | some (mark, added) => (name.take (name.length - mark.length), [added])
  | none => (name, [])

/-- The emoji of what stands between two colons. -/
def emojiFor? (text : List Char) : Option (List Char) :=
  let (name, added) := splitPresentation text
  (emojiTable.lookup (String.ofList (name.map lowerLetter))).map fun emoji => emoji.toList ++ added

/-- A text with emojis in the place of their names, in at most `fuel` steps. Two colons and no emoji between them are
passed over both. -/
def replaceNames : Nat → List Char → List Char
  | 0, cs => cs
  | _ + 1, [] => []
  | fuel + 1, c :: cs =>
    let name := cs.takeWhile fun d => d != ':' && !isBlank d
    match c == ':', cs.drop name.length with
    | true, ':' :: rest => (emojiFor? name).getD (':' :: name ++ [':']) ++ replaceNames fuel rest
    | _, _ => c :: replaceNames fuel cs

/-- A text with emojis in the place of their names between colons. -/
def withEmojis (cs : List Char) : List Char := replaceNames cs.length cs

end LinkedData.Text
