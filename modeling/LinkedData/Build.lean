import LinkedData.Page

/-!
# Builds of a site

* `Build`: what makes URLs, a resolver and the pages in the order of their creation;
* `Step`: what can be done to a build; `Build.step` gives the answer and the build afterwards.
-/

namespace LinkedData

/-- The pages of a site that is being built. -/
structure Build where
  normalize : UrlNormalizer
  resolver : Resolver
  pages : List Page

/-- A step of a build. -/
inductive Step where
  /-- A new page without a document. -/
  | create (url : String) (data : Entries)
  /-- Resolves the metadata of a page. -/
  | resolve (page : Nat)
  /-- Puts the metadata of a page into its document. -/
  | inject (page : Nat) (context : String)
  /-- Resolves the metadata of all pages. -/
  | preprocess
  /-- Puts the metadata of all pages into their documents. -/
  | process (context : String)
  /-- Sets a value in the data of a page. -/
  | set (page : Nat) (key : String) (value : Value)
  /-- Removes a value from the data of a page. -/
  | unset (page : Nat) (key : String)
  /-- Changes the URL of a page. -/
  | rename (page : Nat) (url : String)
  /-- Gives a page another document or none. -/
  | setDocument (page : Nat) (document : Option Element)

/-- The answer to a step. -/
inductive Answer where
  | flag (b : Bool)
  | count (n : Nat)
deriving DecidableEq

namespace Build

/-- Does `act` to the page of a number. -/
def onPage (b : Build) (number : Nat) (act : Page → Except Failure Bool × Page) : Except Failure Answer × Build :=
  match b.pages[number]? with
  | none => (.error .noSuchPage, b)
  | some p => ((act p).1.map .flag, { b with pages := b.pages.set number (act p).2 })

/-- Changes the page of a number; the answer tells whether the page declares metadata. -/
def edit (b : Build) (number : Nat) (change : Page → Page) : Except Failure Answer × Build :=
  b.onPage number fun p => (.ok (change p).declares, change p)

/-- Takes over the pages and the answer of an operation on all of them. -/
def onAll (b : Build) (result : Except Failure Nat × List Page) : Except Failure Answer × Build :=
  (result.1.map .count, { b with pages := result.2 })

/-- The answer to a step and the build afterwards. -/
def step (b : Build) : Step → Except Failure Answer × Build
  | .create url data =>
    let p : Page := ⟨url, data, none⟩
    (.ok (.flag p.declares), { b with pages := b.pages ++ [p] })
  | .resolve number => b.onPage number (Page.resolve b.resolver b.normalize)
  | .inject number context => b.onPage number (Page.inject context)
  | .preprocess => b.onAll (LinkedData.preprocess b.resolver b.normalize b.pages)
  | .process context => b.onAll (processDocuments context b.pages)
  | .set number key value => b.edit number (·.set key value)
  | .unset number key => b.edit number (·.unset key)
  | .rename number url => b.edit number ({ · with url := url })
  | .setDocument number document => b.edit number ({ · with document := document })

/-- The answers to several steps with the build before and after each of them. -/
def run (b : Build) : List Step → List (Except Failure Answer × Build)
  | [] => []
  | s :: steps => b.step s :: (b.step s).2.run steps

end Build

end LinkedData
