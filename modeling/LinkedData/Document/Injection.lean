import LinkedData.Document.Element

/-!
# Placing linked data in a document

* `ensureHead`: a document with a head; a new one becomes the first child of the root;
* `dropScripts`: a tree without its scripts of linked data; the text after a dropped one joins the text before it;
* `placeInHead`: a script after the first title of a head and the text that follows the title, or at its end;
* `Element.injected?`: a document with one script of linked data in its first head. None if the root is such a script
  itself, since a root cannot be dropped.

A head inside of a script of linked data is dropped with the script, and what is placed in it is lost.
-/

namespace LinkedData.Element

/-! ### the head -/

/-- The element is a head. -/
def isHead (e : Element) : Bool := e.hasTag "head"

/-- The element is a title. -/
def isTitle (e : Element) : Bool := e.hasTag "title"

/-- A head without content. -/
def emptyHead : Element := mk (.tag "head") [] "" [] ""

/-- The document, with a head as the first child of its root if it has none. -/
def ensureHead (root : Element) : Element :=
  if any isHead root then root else root.withChildren (emptyHead :: root.children)

mutual
/-- Whether the first head below the element is inside of a script of linked data; none if there is no head. -/
def firstHeadIsInScript? : Element → Option Bool
  | mk kind attributes text children tail =>
    if isHead (mk kind attributes text children tail) then some false
    else (firstHeadIsInScriptL? children).map (isDataScript (mk kind attributes text children tail) || ·)
def firstHeadIsInScriptL? : List Element → Option Bool
  | [] => none
  | e :: es =>
    match firstHeadIsInScript? e with
    | some inside => some inside
    | none => firstHeadIsInScriptL? es
end

/-! ### dropping scripts -/

mutual
/-- The element without the scripts of linked data below it. -/
def dropScripts : Element → Element
  | mk kind attributes text children tail =>
    mk kind attributes (text ++ (dropScriptsL children).1) (dropScriptsL children).2 tail
/-- Siblings without the scripts of linked data among and below them, and the text that comes before the first one
left. -/
def dropScriptsL : List Element → String × List Element
  | [] => ("", [])
  | e :: es =>
    if isDataScript e then (e.tail ++ (dropScriptsL es).1, (dropScriptsL es).2)
    else ("", (dropScripts e).appendTail (dropScriptsL es).1 :: (dropScriptsL es).2)
end

/-! ### placing a script -/

mutual
/-- The element with `new` after the first title below it, if there is one. -/
def placeAfterTitle? (new : Element) : Element → Option Element
  | mk kind attributes text children tail =>
    (placeAfterTitleL? new children).map fun cs => mk kind attributes text cs tail
def placeAfterTitleL? (new : Element) : List Element → Option (List Element)
  | [] => none
  | e :: es =>
    if isTitle e then some (e :: new :: es)
    else match placeAfterTitle? new e with
      | some e' => some (e' :: es)
      | none => (placeAfterTitleL? new es).map (e :: ·)
end

/-- A head with `new` after its first title, or at its end if it has no title. -/
def placeInHead (new : Element) (head : Element) : Element :=
  (placeAfterTitle? new head).getD (head.withChildren (head.children ++ [new]))

mutual
/-- The tree with `new` placed in its first head, if there is one. -/
def placeInFirstHead? (new : Element) : Element → Option Element
  | mk kind attributes text children tail =>
    if isHead (mk kind attributes text children tail) then
      some (placeInHead new (mk kind attributes text children tail))
    else (placeInFirstHeadL? new children).map fun cs => mk kind attributes text cs tail
def placeInFirstHeadL? (new : Element) : List Element → Option (List Element)
  | [] => none
  | e :: es =>
    match placeInFirstHead? new e with
    | some e' => some (e' :: es)
    | none => (placeInFirstHeadL? new es).map (e :: ·)
end

/-- The document without its scripts of linked data, and with one that holds `content` in its first head. -/
def injected? (content : String) (root : Element) : Option Element :=
  let document := ensureHead root
  if isDataScript document then none
  else
    let rest := dropScripts document
    if firstHeadIsInScript? document = some true then some rest
    else some ((placeInFirstHead? (dataScript content) rest).getD rest)

end LinkedData.Element
