import LinkedData.Document.Element

/-!
# The library for documents that the program runs with

Documents are read and written in one form of markup: lower-case tags, all of them closed but those of elements
without content, attributes in double quotes or without a value, and a document type in front. Texts and attribute
values keep their spelling, entities included, and the content of scripts and styles is not looked into but for their
ends.

* `Markup.write`: a document as text;
* `Markup.read?`: the document that a text holds;
* `MarkupLibrary.standard`: both as a library.
-/

namespace LinkedData

namespace Markup

/-! ### tags -/

/-- The elements that have no content and no end tag. -/
def voidTags : List String :=
  ["area", "base", "basefont", "br", "col", "frame", "hr", "img", "input", "isindex", "link", "meta", "param"]

/-- The elements whose content is text without elements. -/
def rawTags : List String := ["script", "style", "iframe", "noembed", "noframes", "xmp"]

/-- The line in front of every document. -/
def documentType : List Char := "<!DOCTYPE html>\n".toList

/-! ### writing -/

/-- An attribute after a space. -/
def attributeText (a : String × Option String) : List Char :=
  match a.2 with
  | some value => ' ' :: a.1.toList ++ "=\"".toList ++ value.toList ++ ['\x22']
  | none => ' ' :: a.1.toList

/-- A start tag. -/
def startTag (name : String) (attributes : List (String × Option String)) : List Char :=
  '<' :: name.toList ++ attributes.flatMap attributeText ++ ['>']

/-- An end tag; elements without content have none. -/
def endTag (name : String) : List Char :=
  if voidTags.contains name then [] else "</".toList ++ name.toList ++ ['>']

mutual
/-- An element and the text after it. -/
def writeElement : Element → List Char
  | .mk (.tag name) attributes text children tail =>
    startTag name attributes ++ text.toList ++ writeElements children ++ endTag name ++ tail.toList
  | .mk .comment _ text _ tail => "<!--".toList ++ text.toList ++ "-->".toList ++ tail.toList
def writeElements : List Element → List Char
  | [] => []
  | e :: es => writeElement e ++ writeElements es
end

/-- A document as text. -/
def write (root : Element) : String := String.ofList (documentType ++ writeElement root)

/-! ### reading -/

/-- The text up to the next tag, and the rest. -/
def splitText (cs : List Char) : String × List Char :=
  (String.ofList (cs.takeWhile (· != '<')), cs.dropWhile (· != '<'))

/-- What comes before the first place at which `mark` stands, and what comes from there on. -/
def splitBefore? (mark : List Char) : List Char → Option (List Char × List Char)
  | [] => none
  | c :: cs =>
    if mark.isPrefixOf (c :: cs) then some ([], c :: cs)
    else (splitBefore? mark cs).map fun (before, after) => (c :: before, after)

/-- White space between attributes. -/
def isTagBlank (c : Char) : Bool := c == ' ' || c == '\n' || c == '\t' || c == '\x0c'

/-- A character that ends the name of a tag. -/
def endsTagName (c : Char) : Bool := isTagBlank c || c == '/' || c == '>'

/-- A character of the name of an attribute. -/
def isAttributeChar (c : Char) : Bool := !endsTagName c && c != '='

/-- The attributes of a start tag up to its end, at most `fuel` of them, and the rest. An equality sign may begin the name
of an attribute. -/
def readAttributes? : Nat → List Char → Option (List (String × Option String) × List Char)
  | 0, _ => none
  | fuel + 1, cs =>
    match cs.dropWhile isTagBlank with
    | '>' :: rest => some ([], rest)
    | cs =>
      let length := (cs.take 1).length + ((cs.drop 1).takeWhile isAttributeChar).length
      let name := String.ofList (cs.take length)
      if cs.head?.all endsTagName then none
      else
        match cs.drop length with
        | '=' :: '\x22' :: rest =>
          match rest.dropWhile (· != '\x22') with
          | '\x22' :: after =>
            (readAttributes? fuel after).map fun (attributes, rest') =>
              ((name, some (String.ofList (rest.takeWhile (· != '\x22')))) :: attributes, rest')
          | _ => none
        | '=' :: _ => none
        | rest => (readAttributes? fuel rest).map fun (attributes, rest') => ((name, none) :: attributes, rest')

/-- A mark and the name of a tag after it, in any case, stand at the beginning of a text. -/
def beginsTag (mark name cs : List Char) : Bool :=
  let length := mark.length + name.length
  (cs.take length).map Char.toLower == mark ++ name && cs[length]?.any endsTagName

/-- How deep a place in a script is inside of comments: not at all, in one, or in a script inside of one. -/
inductive ScriptDepth where
  | outside
  | inComment
  | inNested
deriving DecidableEq

/-- The depth after the beginning of a text. -/
def ScriptDepth.after (depth : ScriptDepth) (cs : List Char) : ScriptDepth :=
  match depth with
  | .outside => if "<!--".toList.isPrefixOf cs then .inComment else .outside
  | .inComment =>
    if "-->".toList.isPrefixOf cs then .outside
    else if beginsTag ['<'] "script".toList cs then .inNested else .inComment
  | .inNested =>
    if "-->".toList.isPrefixOf cs then .outside
    else if beginsTag ['<', '/'] "script".toList cs then .inComment else .inNested

/-- The content of a script up to its end tag, which does not count inside of a nested script, and the rest. -/
def splitScript? (depth : ScriptDepth) : List Char → Option (List Char × List Char)
  | [] => none
  | c :: cs =>
    if depth ≠ .inNested ∧ beginsTag ['<', '/'] "script".toList (c :: cs) then some ([], c :: cs)
    else (splitScript? (depth.after (c :: cs)) cs).map fun (content, rest) => (c :: content, rest)

/-- The content of another element whose content is text, up to its end tag, and the rest. -/
def splitRaw? (name : List Char) : List Char → Option (List Char × List Char)
  | [] => none
  | c :: cs =>
    if beginsTag ['<', '/'] name (c :: cs) then some ([], c :: cs)
    else (splitRaw? name cs).map fun (content, rest) => (c :: content, rest)

/-- What follows the end tag of the given name. -/
def readEndTag? (name : String) (cs : List Char) : Option (List Char) :=
  let mark := "</".toList ++ name.toList
  if mark.isPrefixOf cs then
    match (cs.drop mark.length).dropWhile isTagBlank with
    | '>' :: rest => some rest
    | _ => none
  else none

mutual
/-- The element at the beginning of a text, without the text after it. -/
def readElement? : Nat → List Char → Option (Element × List Char)
  | 0, _ => none
  | fuel + 1, cs => do
    match cs with
    | '<' :: '!' :: '-' :: '-' :: rest =>
      let (content, rest) ← splitBefore? "-->".toList rest
      return (.mk .comment [] (String.ofList content) [] "", rest.drop 3)
    | '<' :: rest =>
      if !rest.head?.any Char.isAlpha then failure
      let name := String.ofList (rest.takeWhile (!endsTagName ·))
      let (attributes, rest) ← readAttributes? (rest.length + 1) (rest.dropWhile (!endsTagName ·))
      if voidTags.contains name then return (.mk (.tag name) attributes "" [] "", rest)
      else if rawTags.contains name then
        let (content, rest) ← if name = "script" then splitScript? .outside rest else splitRaw? name.toList rest
        return (.mk (.tag name) attributes (String.ofList content) [] "", ← readEndTag? name rest)
      else
        let (text, rest) := splitText rest
        let (children, rest) ← readElements? fuel rest
        return (.mk (.tag name) attributes text children "", ← readEndTag? name rest)
    | _ => none
/-- The elements up to the next end tag, each with the text after it. -/
def readElements? : Nat → List Char → Option (List Element × List Char)
  | 0, _ => none
  | fuel + 1, cs => do
    match cs with
    | '<' :: '/' :: _ => return ([], cs)
    | [] => return ([], [])
    | _ =>
      let (e, rest) ← readElement? fuel cs
      let (tail, rest) := splitText rest
      let (es, rest) ← readElements? fuel rest
      return (e.appendTail tail :: es, rest)
end

/-- The text without the document type and the white space around it. -/
def skipDocumentType (cs : List Char) : List Char :=
  let cs := cs.dropWhile isTagBlank
  match cs with
  | '<' :: '!' :: rest =>
    if rest.head? = some '-' then cs else ((rest.dropWhile (· != '>')).drop 1).dropWhile isTagBlank
  | _ => cs

/-- The document that a text holds, if it has the form that is read. -/
def read? (text : String) : Option Element :=
  let cs := skipDocumentType text.toList
  match readElement? (2 * cs.length + 2) cs with
  | some (root, rest) => if rest.all isTagBlank then some root else none
  | none => none

end Markup

/-- The library that the program runs with. -/
def MarkupLibrary.standard : MarkupLibrary where
  read := fun text =>
    match Markup.read? text with
    | some root => .ok root
    | none => .error .noDocument
  write := Markup.write

end LinkedData
