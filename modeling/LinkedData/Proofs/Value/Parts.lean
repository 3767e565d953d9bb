import LinkedData.Proofs.Value.Entries
import LinkedData.Value.Literal

/-!
# Values and what they hold

* `Value.parts`: a value and all that it holds at any depth of lists, tuples and mappings;
* `Value.induct`: induction over what a value holds;
* `Value.KeysDistinct`: no mapping in the value has a key twice;
* `Value.IsEncodable`: all of the value has a form in JSON, where a tuple counts as a list;
* `Value.IsJson`: the same for a value without tuples;
* `leastOverlong`: the least integer that has more digits than are written.
-/

namespace LinkedData

/-! ### parts -/

namespace Value

mutual
/-- A value and all that it holds. -/
def parts : Value → List Value
  | .scalar s => [.scalar s]
  | .set members => [.set members]
  | .list items => .list items :: partsL items
  | .tuple items => .tuple items :: partsL items
  | .map entries => .map entries :: partsE entries
def partsL : List Value → List Value
  | [] => []
  | v :: vs => v.parts ++ partsL vs
def partsE : List (Key × Value) → List Value
  | [] => []
  | (_, v) :: es => v.parts ++ partsE es
end

theorem mem_partsL {x : Value} {vs : List Value} : x ∈ partsL vs ↔ ∃ v ∈ vs, x ∈ v.parts := by
  induction vs with
  | nil => simp [partsL]
  | cons v vs ih => simp [partsL, ih]

theorem mem_partsE {x : Value} {es : List (Key × Value)} : x ∈ partsE es ↔ ∃ e ∈ es, x ∈ e.2.parts := by
  induction es with
  | nil => simp [partsE]
  | cons e es ih =>
    obtain ⟨k, v⟩ := e
    simp only [partsE, List.mem_append, ih, List.mem_cons, exists_eq_or_imp]

@[simp] theorem mem_parts_scalar {x : Value} {s : Scalar} : x ∈ (scalar s).parts ↔ x = .scalar s := by
  change x ∈ [scalar s] ↔ _
  rw [List.mem_singleton]

@[simp] theorem mem_parts_set {x : Value} {members : List Key} : x ∈ (set members).parts ↔ x = .set members := by
  change x ∈ [set members] ↔ _
  rw [List.mem_singleton]

@[simp] theorem mem_parts_list {x : Value} {items : List Value} :
    x ∈ (list items).parts ↔ x = .list items ∨ ∃ v ∈ items, x ∈ v.parts := by
  change x ∈ list items :: partsL items ↔ _
  rw [List.mem_cons, mem_partsL]

@[simp] theorem mem_parts_tuple {x : Value} {items : List Value} :
    x ∈ (tuple items).parts ↔ x = .tuple items ∨ ∃ v ∈ items, x ∈ v.parts := by
  change x ∈ tuple items :: partsL items ↔ _
  rw [List.mem_cons, mem_partsL]

@[simp] theorem mem_parts_map {x : Value} {entries : Entries} :
    x ∈ (map entries).parts ↔ x = .map entries ∨ ∃ e ∈ entries, x ∈ e.2.parts := by
  change x ∈ map entries :: partsE entries ↔ _
  rw [List.mem_cons, mem_partsE]

theorem mem_parts_self (v : Value) : v ∈ v.parts := by
  cases v <;> simp

theorem mem_parts_of_list {v : Value} {items : List Value} (h : v ∈ items) : v ∈ (list items).parts :=
  mem_parts_list.mpr (Or.inr ⟨v, h, mem_parts_self v⟩)

theorem mem_parts_of_tuple {v : Value} {items : List Value} (h : v ∈ items) : v ∈ (tuple items).parts :=
  mem_parts_tuple.mpr (Or.inr ⟨v, h, mem_parts_self v⟩)

theorem mem_parts_of_map {e : Key × Value} {entries : Entries} (h : e ∈ entries) : e.2 ∈ (map entries).parts :=
  mem_parts_map.mpr (Or.inr ⟨e, h, mem_parts_self e.2⟩)

/-! ### leaves -/

section Leaves

variable {s : Scalar}

theorem leaf_of_list {items : List Value} (h : scalar s ∈ (list items).parts) : ∃ v ∈ items, scalar s ∈ v.parts :=
  (mem_parts_list.mp h).resolve_left fun h => nomatch h

theorem leaf_of_tuple {items : List Value} (h : scalar s ∈ (tuple items).parts) : ∃ v ∈ items, scalar s ∈ v.parts :=
  (mem_parts_tuple.mp h).resolve_left fun h => nomatch h

theorem leaf_of_map {entries : Entries} (h : scalar s ∈ (map entries).parts) :
    ∃ e ∈ entries, scalar s ∈ e.2.parts :=
  (mem_parts_map.mp h).resolve_left fun h => nomatch h

end Leaves

/-! ### induction -/

/-- What holds of a value if it holds of all that the value is made of holds of every value. -/
@[elab_as_elim]
theorem induct {P : Value → Prop} (scalar : ∀ s, P (.scalar s)) (set : ∀ members, P (.set members))
    (list : ∀ items, (∀ v ∈ items, P v) → P (.list items))
    (tuple : ∀ items, (∀ v ∈ items, P v) → P (.tuple items))
    (map : ∀ entries : Entries, (∀ e ∈ entries, P e.2) → P (.map entries)) : ∀ v, P v
  | .scalar s => scalar s
  | .set members => set members
  | .list items => list items fun v _ => induct scalar set list tuple map v
  | .tuple items => tuple items fun v _ => induct scalar set list tuple map v
  | .map entries => map entries fun e he => by
    have hlt : sizeOf e.2 < sizeOf entries := by
      obtain ⟨k, v⟩ := e
      have := List.sizeOf_lt_of_mem he
      simp only [Prod.mk.sizeOf_spec] at this ⊢
      omega
    exact induct scalar set list tuple map e.2

end Value

/-- What is part of a part is part of the value. -/
theorem Value.mem_parts_trans {v x y : Value} (hy : y ∈ v.parts) (hx : x ∈ y.parts) : x ∈ v.parts := by
  induction v using Value.induct with
  | scalar s =>
    obtain rfl := Value.mem_parts_scalar.mp hy
    exact hx
  | set members =>
    obtain rfl := Value.mem_parts_set.mp hy
    exact hx
  | list items ih =>
    rcases Value.mem_parts_list.mp hy with rfl | ⟨v, hv, hy⟩
    · exact hx
    · exact Value.mem_parts_list.mpr (Or.inr ⟨v, hv, ih v hv hy⟩)
  | tuple items ih =>
    rcases Value.mem_parts_tuple.mp hy with rfl | ⟨v, hv, hy⟩
    · exact hx
    · exact Value.mem_parts_tuple.mpr (Or.inr ⟨v, hv, ih v hv hy⟩)
  | map es ih =>
    rcases Value.mem_parts_map.mp hy with rfl | ⟨e, he, hy⟩
    · exact hx
    · exact Value.mem_parts_map.mpr (Or.inr ⟨e, he, ih e he hy⟩)

/-! ### forms -/

/-- The key is a text. -/
def Key.isText : Key → Bool
  | .str _ => true
  | _ => false

theorem Key.isText_iff {k : Key} : k.isText = true ↔ ∃ name, k = .str name := by
  unfold isText
  split <;> simp_all

/-- A scalar that JSON has. -/
def Scalar.isJson : Scalar → Bool
  | .null | .bool _ | .int _ | .str _ => true
  | .float x => x.isFinite
  | .bytes _ | .date _ | .datetime _ | .time _ | .decimal _ => false

namespace Value

/-- The entries of a mapping; other values have none. -/
def entries : Value → Entries
  | .map es => es
  | _ => []

/-- No mapping in the value has a key twice. -/
def KeysDistinct (v : Value) : Prop := ∀ x ∈ v.parts, x.entries.Distinct

/-- The value has a form in JSON if all that it holds has one. -/
def HasForm : Value → Prop
  | .scalar s => s.isJson = true
  | .set _ => False
  | .list _ | .tuple _ => True
  | .map es => Entries.Distinct es ∧ ∀ e ∈ es, e.1.isText = true

/-- A tuple. -/
def isTuple : Value → Bool
  | .tuple _ => true
  | _ => false

/-- All of the value has a form in JSON. -/
def IsEncodable (v : Value) : Prop := ∀ x ∈ v.parts, x.HasForm

/-- The value is one of JSON: null, truth values, integers, finite numbers, texts, lists, and mappings whose keys are
texts and distinct. -/
def IsJson (v : Value) : Prop := ∀ x ∈ v.parts, x.HasForm ∧ x.isTuple = false

instance : DecidablePred HasForm
  | .scalar s => inferInstanceAs (Decidable (s.isJson = true))
  | .set _ => inferInstanceAs (Decidable False)
  | .list _ | .tuple _ => inferInstanceAs (Decidable True)
  | .map es => inferInstanceAs (Decidable (Entries.Distinct es ∧ ∀ e ∈ es, e.1.isText = true))

instance (v : Value) : Decidable v.KeysDistinct := inferInstanceAs (Decidable (∀ x ∈ v.parts, _))

instance (v : Value) : Decidable v.IsEncodable := inferInstanceAs (Decidable (∀ x ∈ v.parts, _))

instance (v : Value) : Decidable v.IsJson := inferInstanceAs (Decidable (∀ x ∈ v.parts, _))

theorem KeysDistinct.of_mem_parts {v w : Value} (h : v.KeysDistinct) (hw : w ∈ v.parts) : w.KeysDistinct :=
  fun x hx => h x (mem_parts_trans hw hx)

theorem KeysDistinct.distinct {es : Entries} (h : (map es).KeysDistinct) : es.Distinct := h _ (mem_parts_self _)

theorem IsJson.isEncodable {v : Value} (h : v.IsJson) : v.IsEncodable := fun x hx => (h x hx).1

/-! ### forms of what a value is made of -/

section Parts

variable {p : Value → Prop}

theorem forall_parts_scalar {s : Scalar} : (∀ x ∈ (scalar s).parts, p x) ↔ p (.scalar s) := by
  simp only [mem_parts_scalar, forall_eq]

theorem forall_parts_list {items : List Value} :
    (∀ x ∈ (list items).parts, p x) ↔ p (.list items) ∧ ∀ v ∈ items, ∀ x ∈ v.parts, p x := by
  simp only [mem_parts_list, forall_eq_or_imp, forall_exists_index, and_imp]
  exact and_congr_right fun _ => ⟨fun h v hv x hx => h x v hv hx, fun h x v hv hx => h v hv x hx⟩

theorem forall_parts_tuple {items : List Value} :
    (∀ x ∈ (tuple items).parts, p x) ↔ p (.tuple items) ∧ ∀ v ∈ items, ∀ x ∈ v.parts, p x := by
  simp only [mem_parts_tuple, forall_eq_or_imp, forall_exists_index, and_imp]
  exact and_congr_right fun _ => ⟨fun h v hv x hx => h x v hv hx, fun h x v hv hx => h v hv x hx⟩

theorem forall_parts_map {es : Entries} :
    (∀ x ∈ (map es).parts, p x) ↔ p (.map es) ∧ ∀ e ∈ es, ∀ x ∈ e.2.parts, p x := by
  simp only [mem_parts_map, forall_eq_or_imp, forall_exists_index, and_imp]
  exact and_congr_right fun _ => ⟨fun h e he x hx => h x e he hx, fun h x e he hx => h e he x hx⟩

end Parts

end Value

/-! ### integers that are written -/

mutual
theorem Key.isWritable_toValue : ∀ k : Key, k.toValue.isWritable = k.isWritable
  | .scalar _ => rfl
  | .tuple parts => Key.isWritableL_toValueL parts
theorem Key.isWritableL_toValueL : ∀ ks : List Key, Value.isWritableL (Key.toValueL ks) = Key.isWritableL ks
  | [] => rfl
  | k :: ks => by
    rw [Key.toValueL, Value.isWritableL, Key.isWritableL, Key.isWritable_toValue k, Key.isWritableL_toValueL ks]
end

namespace Value

theorem isWritableL_iff {vs : List Value} : isWritableL vs = true ↔ ∀ v ∈ vs, v.isWritable = true := by
  induction vs with
  | nil => exact iff_of_true rfl (List.forall_mem_nil _)
  | cons v vs ih => rw [isWritableL, Bool.and_eq_true, ih, List.forall_mem_cons]

theorem isWritableE_iff {es : Entries} :
    isWritableE es = true ↔ ∀ e ∈ es, e.1.isWritable = true ∧ e.2.isWritable = true := by
  induction es with
  | nil => exact iff_of_true rfl (List.forall_mem_nil _)
  | cons e es ih =>
    obtain ⟨k, v⟩ := e
    rw [isWritableE, Bool.and_eq_true, Bool.and_eq_true, ih, List.forall_mem_cons]

/-- All integers of a part can be written if those of the value can. -/
theorem isWritable_of_mem_parts {v x : Value} (h : v.isWritable = true) (hx : x ∈ v.parts) : x.isWritable = true := by
  induction v using induct with
  | scalar s =>
    obtain rfl := mem_parts_scalar.mp hx
    exact h
  | set members =>
    obtain rfl := mem_parts_set.mp hx
    exact h
  | list items ih =>
    rcases mem_parts_list.mp hx with rfl | ⟨v, hv, hx⟩
    · exact h
    · exact ih v hv (isWritableL_iff.mp h v hv) hx
  | tuple items ih =>
    rcases mem_parts_tuple.mp hx with rfl | ⟨v, hv, hx⟩
    · exact h
    · exact ih v hv (isWritableL_iff.mp h v hv) hx
  | map es ih =>
    rcases mem_parts_map.mp hx with rfl | ⟨e, he, hx⟩
    · exact h
    · exact ih e he (isWritableE_iff.mp h e he).2 hx

/-- A value with a part that can not be written can not be written either. -/
theorem overlong_of_mem_parts {v x : Value} (hx : x ∈ v.parts) (h : x.isWritable = false) : v.isWritable = false := by
  refine Bool.eq_false_iff.mpr fun hv => ?_
  rw [isWritable_of_mem_parts hv hx] at h
  cases h

end Value

/-! ### integers that are too long -/

/-- The least integer that has more digits than are written. -/
@[irreducible] def leastOverlong : Nat := Nat.pow 10 Text.digitLimit

theorem one_lt_leastOverlong : 1 < leastOverlong := by
  have hpow : ∀ n, n ≠ 0 → 1 < Nat.pow 10 n := fun n hn => Nat.one_lt_pow hn (by decide)
  unfold leastOverlong
  exact hpow Text.digitLimit (by decide)

theorem leastOverlong_pos : 0 < leastOverlong := Nat.lt_of_succ_lt one_lt_leastOverlong

theorem leastOverlong_not_writable : isWritable leastOverlong = false := by
  unfold isWritable leastOverlong
  generalize Nat.pow 10 Text.digitLimit = n
  rw [Int.natAbs_natCast, decide_eq_false (Nat.lt_irrefl n)]

end LinkedData
