import LinkedData.Failure

/-!
# Document trees

* `Element`: a tag with attributes, which may lack a value, or a comment; `text` stands before its first child and
  `tail` after its end;
* `MarkupLibrary`: how documents are read and written. This is left to a library;
* `Element.isDataScript`: a script that holds linked data;
* `Element.any`: some element of a tree has a property, the root included.
-/

namespace LinkedData

/-- What an element is. -/
inductive ElementKind where
  | tag (name : String)
  | comment
deriving DecidableEq, Inhabited

/-- An element of a document with all that is below it. -/
inductive Element where
  | mk (kind : ElementKind) (attributes : List (String × Option String)) (text : String) (children : List Element)
    (tail : String)
deriving Inhabited

/-- A library for documents as text. -/
structure MarkupLibrary where
  /-- The root of the document that a text holds. -/
  read : String → Except Failure Element
  /-- The text of a document. -/
  write : Element → String

namespace Element

def kind : Element → ElementKind
  | mk kind _ _ _ _ => kind

def attributes : Element → List (String × Option String)
  | mk _ attributes _ _ _ => attributes

/-- The text before the first child. -/
def text : Element → String
  | mk _ _ text _ _ => text

def children : Element → List Element
  | mk _ _ _ children _ => children

/-- The text after the end of the element. -/
def tail : Element → String
  | mk _ _ _ _ tail => tail

/-- The element with more text after its end. -/
def appendTail : Element → String → Element
  | mk kind attributes text children tail, more => mk kind attributes text children (tail ++ more)

/-- The element with other children. -/
def withChildren : Element → List Element → Element
  | mk kind attributes text _ tail, children => mk kind attributes text children tail

/-- The element has the given tag. -/
def hasTag (name : String) (e : Element) : Bool := e.kind = .tag name

/-- The type of scripts that hold linked data. -/
def dataScriptType : String := "application/ld+json"

/-- A script that holds linked data. -/
def isDataScript (e : Element) : Bool :=
  e.hasTag "script" && e.attributes.lookup "type" == some (some dataScriptType)

/-- A script that holds the given linked data. -/
def dataScript (content : String) : Element := mk (.tag "script") [("type", some dataScriptType)] content [] ""

/-! ### all elements of a tree -/

mutual
/-- Some element of the tree has the property. -/
def any (p : Element → Bool) : Element → Bool
  | mk kind attributes text children tail => p (mk kind attributes text children tail) || anyL p children
def anyL (p : Element → Bool) : List Element → Bool
  | [] => false
  | e :: es => any p e || anyL p es
end

theorem anyL_eq (p : Element → Bool) (es : List Element) : anyL p es = es.any (any p) := by
  induction es with
  | nil => rfl
  | cons e es ih => simp [anyL, ih]

/-! ### decidable equality -/

mutual
def decEq : (a b : Element) → Decidable (a = b)
  | mk k as t cs l, mk k' as' t' cs' l' =>
    if h : k = k' ∧ as = as' ∧ t = t' ∧ l = l' then
      match decEqL cs cs' with
      | isTrue hs => isTrue (by obtain ⟨rfl, rfl, rfl, rfl⟩ := h; rw [hs])
      | isFalse hs => isFalse (by simp [hs])
    else isFalse (by grind)
def decEqL : (as bs : List Element) → Decidable (as = bs)
  | [], [] => isTrue rfl
  | [], _ :: _ => isFalse (by simp)
  | _ :: _, [] => isFalse (by simp)
  | a :: as, b :: bs =>
    match decEq a b, decEqL as bs with
    | isTrue h, isTrue hs => isTrue (by rw [h, hs])
    | isFalse h, _ => isFalse fun e => h (List.cons.inj e).1
    | _, isFalse hs => isFalse fun e => hs (List.cons.inj e).2
end

instance : DecidableEq Element := decEq

end Element

end LinkedData
