import LinkedData.Json.Text
import LinkedData.Proofs.Value.Parts

/-!
# What can be encoded

A value all of whose parts have a form in JSON is encoded, unless one of its integers has more digits than are
written.

* `Json.WritesIf`: an outcome that is either a result or the failure of such an integer, as a condition says;
* `Json.encode_writesIf`, `Json.serialize_writesIf`: the condition is `Value.isWritable`.
-/

namespace LinkedData.Json

/-! ### outcomes -/

/-- The outcome is a result if the condition holds, else the failure of an integer with too many digits. -/
inductive WritesIf {α : Type} : Bool → Except Failure α → Prop
  | ok (a : α) : WritesIf true (.ok a)
  | overlong : WritesIf false (.error .overlongInteger)

section Outcomes

variable {α β : Type} {b c : Bool} {o : Except Failure α}

theorem writesIf_iff : WritesIf b o ↔ if b then ∃ a, o = .ok a else o = .error .overlongInteger := by
  constructor
  · intro h
    cases h with
    | ok a => exact ⟨a, rfl⟩
    | overlong => rfl
  · intro h
    cases b with
    | true =>
      obtain ⟨a, rfl⟩ := h
      exact WritesIf.ok a
    | false =>
      obtain rfl : o = _ := h
      exact WritesIf.overlong

theorem WritesIf.bind {f : α → Except Failure β} (h : WritesIf b o) (hf : ∀ a, WritesIf c (f a)) :
    WritesIf (b && c) (o >>= f) := by
  cases h with
  | ok a => exact hf a
  | overlong => exact WritesIf.overlong

theorem WritesIf.map (h : WritesIf b o) (f : α → β) : WritesIf b (o.map f) := by
  cases h with
  | ok a => exact WritesIf.ok (f a)
  | overlong => exact WritesIf.overlong

theorem WritesIf.bind_pure {f : α → β} (h : WritesIf b o) : WritesIf b (o >>= fun a => .ok (f a)) := h.map f

end Outcomes

/-! ### values -/

theorem encodeScalar_writesIf {s : Scalar} (h : s.isJson = true) : WritesIf s.isWritable (encodeScalar s) := by
  cases s with
  | null => exact WritesIf.ok _
  | bool b => exact WritesIf.ok _
  | int n =>
    rw [encodeScalar, encodeInt, Scalar.isWritable]
    cases hn : isWritable n with
    | true => exact WritesIf.ok _
    | false => exact WritesIf.overlong
  | float x =>
    have hx : x.isFinite = true := h
    rw [encodeScalar, encodeFloat, if_pos hx]
    exact WritesIf.ok _
  | str s => exact WritesIf.ok _
  | bytes _ | date _ | datetime _ | time _ | decimal _ => cases h

theorem encodeL_writesIf {vs : List Value} (h : ∀ v ∈ vs, WritesIf v.isWritable (encode v)) :
    WritesIf (Value.isWritableL vs) (encodeL vs) := by
  induction vs with
  | nil => exact WritesIf.ok _
  | cons v vs ih =>
    obtain ⟨hv, hvs⟩ := List.forall_mem_cons.mp h
    exact hv.bind fun _ => (ih hvs).bind_pure

theorem encodeE_writesIf {es : Entries} (hk : ∀ e ∈ es, e.1.isText = true)
    (h : ∀ e ∈ es, WritesIf e.2.isWritable (encode e.2)) : WritesIf (Value.isWritableE es) (encodeE es) := by
  induction es with
  | nil => exact WritesIf.ok _
  | cons e es ih =>
    obtain ⟨k, v⟩ := e
    obtain ⟨hk, hks⟩ := List.forall_mem_cons.mp hk
    obtain ⟨hv, hes⟩ := List.forall_mem_cons.mp h
    obtain ⟨name, rfl⟩ := Key.isText_iff.mp hk
    exact hv.bind fun _ => (ih hks hes).bind_pure

theorem encode_writesIf {v : Value} (h : v.IsEncodable) : WritesIf v.isWritable (encode v) := by
  induction v using Value.induct with
  | scalar s => exact encodeScalar_writesIf (Value.forall_parts_scalar.mp h)
  | set members => exact (h _ (Value.mem_parts_self _)).elim
  | list items ih =>
    obtain ⟨_, hitems⟩ := Value.forall_parts_list.mp h
    exact (encodeL_writesIf fun v hv => ih v hv (hitems v hv)).bind_pure
  | tuple items ih =>
    obtain ⟨_, hitems⟩ := Value.forall_parts_tuple.mp h
    exact (encodeL_writesIf fun v hv => ih v hv (hitems v hv)).bind_pure
  | map es ih =>
    obtain ⟨⟨_, hkeys⟩, hes⟩ := Value.forall_parts_map.mp h
    exact (encodeE_writesIf hkeys fun e he => ih e he (hes e he)).bind_pure

theorem serialize_writesIf {v : Value} (h : v.IsEncodable) : WritesIf v.isWritable (serialize v) :=
  (encode_writesIf h).map _

theorem not_serialized {v : Value} (hv : v.IsEncodable) (hw : v.isWritable = false) :
    ¬ ∃ text, serialize v = .ok text := by
  have hwrites := serialize_writesIf hv
  rw [hw, writesIf_iff] at hwrites
  rintro ⟨text, h⟩
  rw [h] at hwrites
  cases hwrites

end LinkedData.Json
