import LinkedData.Json.Text
import LinkedData.Proofs.Value.Entries
import LinkedData.Proofs.Value.Parts

/-!
# What JSON holds of a value

JSON has no tuples, and the keys of its objects are texts.

* `Key.jsonName`: the text that stands for a key;
* `Value.asJson`: a value with lists for its tuples and texts for its keys; of keys with the same text, the first one
  has the place and the last one the value;
* `Value.asJson_of_isJson`: nothing is different where there are no tuples and no other keys than texts, as in every
  resolved tree.
-/

namespace LinkedData

/-- The text that stands for a key in JSON, for keys that may stand there. -/
def Key.jsonName (k : Key) : String :=
  match Json.keyText k with
  | .ok name => String.ofList name
  | .error _ => ""

theorem Key.jsonName_of_keyText {k : Key} {name : List Char} (h : Json.keyText k = .ok name) :
    k.jsonName = String.ofList name := by
  rw [jsonName, h]

theorem Key.jsonName_str (name : String) : Key.jsonName (.str name) = name := String.ofList_toList

namespace Value

mutual
/-- The value as JSON holds it. -/
def asJson : Value → Value
  | .scalar s => .scalar s
  | .set members => .set members
  | .list items => .list (asJsonL items)
  | .tuple items => .list (asJsonL items)
  | .map entries => .map (Entries.ofList (asJsonE entries))
def asJsonL : List Value → List Value
  | [] => []
  | v :: vs => v.asJson :: asJsonL vs
def asJsonE : List (Key × Value) → List (Key × Value)
  | [] => []
  | (k, v) :: es => (.str k.jsonName, v.asJson) :: asJsonE es
end

theorem asJsonL_eq (vs : List Value) : asJsonL vs = vs.map asJson := by
  induction vs with
  | nil => rfl
  | cons v vs ih => rw [asJsonL, ih, List.map_cons]

theorem asJsonE_eq (es : Entries) : asJsonE es = es.map fun e => (.str e.1.jsonName, e.2.asJson) := by
  induction es with
  | nil => rfl
  | cons e es ih => rw [asJsonE, ih, List.map_cons]

/-- A value of JSON is held as it is. -/
theorem asJson_of_isJson {v : Value} (h : v.IsJson) : v.asJson = v := by
  induction v using Value.induct with
  | scalar s => rfl
  | set members => rfl
  | list items ih =>
    obtain ⟨_, hitems⟩ := forall_parts_list.mp h
    have hsame : items.map asJson = items.map id := List.map_congr_left fun v hv => ih v hv (hitems v hv)
    rw [asJson, asJsonL_eq, hsame, List.map_id]
  | tuple items ih => exact absurd (h _ (mem_parts_self _)).2 (by simp [isTuple])
  | map es ih =>
    obtain ⟨⟨⟨hdistinct, hkeys⟩, _⟩, hes⟩ := forall_parts_map.mp h
    have hsame : (es.map fun e => (Key.str e.1.jsonName, e.2.asJson)) = es.map id := by
      refine List.map_congr_left fun e he => ?_
      obtain ⟨name, hname⟩ := Key.isText_iff.mp (hkeys e he)
      rw [ih e he (hes e he), hname, Key.jsonName_str, ← hname]
      rfl
    rw [asJson, asJsonE_eq, hsame, List.map_id, Entries.ofList_of_distinct hdistinct]

end Value

end LinkedData
