import LinkedData.Json.Text
import LinkedData.Value.Mapping

/-!
# The context of linked data

* `attachContext`: the entries of an object behind a leading `@context`; an author's own one takes its place;
* `wrap`: the context attached to an object, or to each object of a list;
* `render`: a wrapped tree as text.
-/

namespace LinkedData

/-- The context that is used where none is given. -/
def standardContext : String := "https://schema.org"

/-- The key of the context. -/
def contextKey : Key := .str "@context"

/-- Entries behind a leading context. -/
def attachContext (context : String) (entries : Entries) : Entries :=
  Entries.update [(contextKey, .str context)] entries

/-- The context attached to an object. -/
def wrapObject (context : String) : Value → Except Failure Value
  | .map entries => .ok (.map (attachContext context entries))
  | v => .error (.ofFault (.unsupported v))

/-- The context attached to each of several objects. -/
def wrapObjects (context : String) : List Value → Except Failure (List Value)
  | [] => .ok []
  | v :: vs => do
    let w ← wrapObject context v
    let ws ← wrapObjects context vs
    return w :: ws

/-- The context attached to an object or to each object of a list. -/
def wrap (context : String) : Value → Except Failure Value
  | .list items => (wrapObjects context items).map .list
  | .tuple items => (wrapObjects context items).map .list
  | v => wrapObject context v

/-- A tree as the text of linked data. -/
def render (context : String) (tree : Value) : Except Failure String := do
  let wrapped ← wrap context tree
  Json.serialize wrapped

end LinkedData
