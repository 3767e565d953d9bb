import LinkedData.Document.Injection
import LinkedData.Resolver
import LinkedData.Text.Half
import LinkedData.Wrapping

/-!
# Pages

* `Page`: a URL, data, and a document once the page is rendered;
* `Page.declared?`: the metadata tree that the data declares;
* `Page.resolve`: puts the resolved tree in the place of the declared one;
* `Page.inject`: puts the tree as a script into the document; `Page.injectText` does so to a document in a text;
* `preprocess` and `processDocuments`: one or the other for several pages, up to the first failure.

All of them give the pages as they are afterwards also if they fail.
-/

namespace LinkedData

open Text

/-- The key of the metadata tree. -/
def declaredKey : String := "structured_data"

/-- A page of a site. -/
structure Page where
  url : String
  data : Entries
  /-- The whole tree that the document of the page belongs to. -/
  document : Option Element
deriving DecidableEq

namespace Page

/-! ### data -/

/-- The metadata tree of the page; null declares none. -/
def declared? (p : Page) : Option Value :=
  match Entries.lookup? p.data declaredKey with
  | some .null => none
  | other => other

/-- The page declares a metadata tree. -/
def declares (p : Page) : Bool := p.declared?.isSome

/-- The page with a value set in its data. -/
def set (p : Page) (key : String) (v : Value) : Page := { p with data := Entries.insert p.data (.str key) v }

/-- The page without the value of a key. -/
def unset (p : Page) (key : String) : Page := { p with data := Entries.erase p.data (.str key) }

/-! ### resolution -/

/-- The resolved form of a tree of the page, which has to be one that a context can be attached to. -/
def resolved (r : Resolver) (normalize : UrlNormalizer) (p : Page) (tree : Value) : Except Failure Value := do
  let v ← r.resolve ⟨p.url, p.data, normalize⟩ tree
  let _ ← wrap standardContext v
  return v

/-- Resolves the declared tree; the answer tells whether there is one. -/
def resolve (r : Resolver) (normalize : UrlNormalizer) (p : Page) : Except Failure Bool × Page :=
  match p.declared? with
  | none => (.ok false, p)
  | some tree =>
    match p.resolved r normalize tree with
    | .ok v => (.ok true, p.set declaredKey v)
    | .error e => (.error (e.onPage p.url), p)

/-! ### injection -/

/-- A character that a document may hold; what is no character of a document otherwise is escaped beforehand. -/
def isDocumentChar (c : Char) : Bool := c.toNat != 0xFFFE && c.toNat != 0xFFFF

/-- Why a text can not be put into a document, if it can not. -/
def obstacleIn? (content : String) : Option Failure :=
  if holdsHalf content.toList then some .halfCharacter
  else if content.toList.all isDocumentChar then none
  else some .notDocumentText

/-- Puts the declared tree into the document; the answer tells whether there is one. -/
def inject (context : String) (p : Page) : Except Failure Bool × Page :=
  match p.declared? with
  | none => (.ok false, p)
  | some tree =>
    match render context tree with
    | .error e => (.error (e.onPage p.url), p)
    | .ok content =>
      match p.document with
      | none => (.error .pageWithoutDocument, p)
      | some root =>
        match obstacleIn? content with
        | some e => (.error e, p)
        | none =>
          match root.injected? content with
          | some document => (.ok true, { p with document := some document })
          | none => (.error .rootIsScript, { p with document := some root.ensureHead })

/-- A text with the declared tree put into the document that it holds, and the page with that document. A text is not
looked at if no tree is declared. -/
def injectText (lib : MarkupLibrary) (context : String) (p : Page) (text : String) : Except Failure (String × Page) :=
  if p.declares then
    match lib.read text with
    | .error e => .error e
    | .ok root =>
      match ({ p with document := some root } : Page).inject context with
      | (.error e, _) => .error e
      | (.ok _, p') => .ok ((p'.document.map lib.write).getD text, p')
  else .ok (text, p)

end Page

/-! ### several pages -/

/-- Does `act` to the pages one after the other, up to the first that it fails on, and counts those it applies to. -/
def countPages (act : Page → Except Failure Bool × Page) : List Page → Except Failure Nat × List Page
  | [] => (.ok 0, [])
  | p :: ps =>
    match act p with
    | (.error e, p') => (.error e, p' :: ps)
    | (.ok applied, p') =>
      match countPages act ps with
      | (.error e, ps') => (.error e, p' :: ps')
      | (.ok n, ps') => (.ok ((if applied then 1 else 0) + n), p' :: ps')

/-- Resolves the metadata of all pages; the answer counts those that declare some. -/
def preprocess (r : Resolver) (normalize : UrlNormalizer) (pages : List Page) : Except Failure Nat × List Page :=
  countPages (Page.resolve r normalize) pages

/-- Puts the metadata of a page into its document, if it has one. -/
def Page.process (context : String) (p : Page) : Except Failure Bool × Page :=
  if p.document.isSome then p.inject context else (.ok false, p)

/-- Puts the metadata of all pages into their documents; the answer counts the changed ones. -/
def processDocuments (context : String) (pages : List Page) : Except Failure Nat × List Page :=
  countPages (Page.process context) pages

end LinkedData
