import LinkedData.Value.Mapping

/-!
# Deep merge of mappings

`Entries.merge` sets every entry of one mapping in another. Where both hold a mapping under a key, these are merged in
turn; entries that were there keep their place.
-/

namespace LinkedData

mutual
/-- What stands under a key after `new` is merged into `old`. -/
def Value.merge (old : Option Value) : Value → Value
  | .map entries =>
    match old with
    | some (.map before) => .map (Value.mergeE before entries)
    | _ => .map entries
  | .scalar s => .scalar s
  | .set members => .set members
  | .list items => .list items
  | .tuple items => .tuple items
/-- The mapping `entries` with the given ones merged into it. -/
def Value.mergeE (entries : List (Key × Value)) : List (Key × Value) → List (Key × Value)
  | [] => entries
  | (k, v) :: new => Value.mergeE (Entries.insert entries k (Value.merge (Entries.get? entries k) v)) new
end

/-- The mapping `es` with `new` merged into it. -/
def Entries.merge (es new : Entries) : Entries := Value.mergeE es new

end LinkedData
