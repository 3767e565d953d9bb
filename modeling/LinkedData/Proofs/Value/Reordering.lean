import Mathlib.Data.List.Perm.Basic
import LinkedData.Proofs.Lookup

/-!
# Values with their entries in another order

* `Value.Reorders`: two values that are the same up to the order of the entries of their mappings, at any depth;
* `Value.reorders_map_iff`: of mappings, that the entries match (`Entries.Matches`);
* `Value.Reorders.symm`, `Value.Reorders.keysDistinct`: the relation is symmetric, and keys that are distinct stay so;
* `Value.Reorders.extractFrom`: a path leads to the same in both.
-/

namespace LinkedData

/-! ### the relation -/

/-- The second value is the first one with the entries of its mappings in another order. -/
inductive Value.Reorders : Value → Value → Prop
  | scalar (s : Scalar) : Reorders (.scalar s) (.scalar s)
  | set (members : List Key) : Reorders (.set members) (.set members)
  | list {vs vs' : List Value} : List.Forall₂ Reorders vs vs' → Reorders (.list vs) (.list vs')
  | tuple {vs vs' : List Value} : List.Forall₂ Reorders vs vs' → Reorders (.tuple vs) (.tuple vs')
  | map {es fs es' : Entries} : es.map Prod.fst = fs.map Prod.fst →
      List.Forall₂ (fun e f => Reorders e.2 f.2) es fs → fs.Perm es' → Reorders (.map es) (.map es')

/-- The second entries are the first ones in another order, with values that are related to theirs. -/
def Entries.Matches (R : Value → Value → Prop) (es es' : Entries) : Prop :=
  ∃ fs : Entries, List.Forall₂ (fun e f => f.1 = e.1 ∧ R e.2 f.2) es fs ∧ fs.Perm es'

namespace Value

variable {v v' u : Value}

theorem reorders_map_iff {es es' : Entries} :
    (map es).Reorders (map es') ↔ Entries.Matches Reorders es es' := by
  constructor
  · intro h
    cases h with
    | map hkeys hvalues hperm => exact ⟨_, forall₂_of_keys (R := Reorders) hkeys hvalues, hperm⟩
  · rintro ⟨fs, hfs, hperm⟩
    exact Reorders.map (keys_eq (hfs.imp fun e f h => h.1)) (hfs.imp fun e f h => h.2) hperm

namespace Reorders

theorem refl (v : Value) : v.Reorders v := by
  induction v using induct with
  | scalar s => exact scalar s
  | set members => exact set members
  | list items ih => exact list (List.forall₂_same.mpr ih)
  | tuple items ih => exact tuple (List.forall₂_same.mpr ih)
  | map es ih => exact map rfl (List.forall₂_same.mpr ih) (List.Perm.refl es)

/-- Entries alone in another order. -/
theorem of_perm {es es' : Entries} (h : es.Perm es') : (Value.map es).Reorders (.map es') :=
  map rfl (List.forall₂_same.mpr fun e _ => refl e.2) h

theorem symm (h : v.Reorders v') : v'.Reorders v := by
  induction v using induct generalizing v' with
  | scalar s =>
    cases h
    exact scalar s
  | set members =>
    cases h
    exact set members
  | list items ih =>
    cases h with
    | @list _ items' hitems =>
      have hback : List.Forall₂ (fun u u' => u'.Reorders u) items items' :=
        forall₂_imp_mem hitems fun u hu u' hR => ih u hu hR
      exact list hback.flip
  | tuple items ih =>
    cases h with
    | @tuple _ items' hitems =>
      have hback : List.Forall₂ (fun u u' => u'.Reorders u) items items' :=
        forall₂_imp_mem hitems fun u hu u' hR => ih u hu hR
      exact tuple hback.flip
  | map es ih =>
    cases h with
    | @map _ fs es' hkeys hvalues hperm =>
      have hentries := forall₂_of_keys (R := Reorders) hkeys hvalues
      have hback : List.Forall₂ (fun e f => e.1 = f.1 ∧ f.2.Reorders e.2) es fs :=
        forall₂_imp_mem hentries fun e he f hf => ⟨hf.1.symm, ih e he hf.2⟩
      -- the order of the one mapping is brought to the other before the values are compared
      exact reorders_map_iff.mpr (List.perm_comp_forall₂ hperm.symm hback.flip)

theorem eq_of_scalar {s : Scalar} (h : (Value.scalar s).Reorders v') : v' = .scalar s := by
  cases h
  rfl

theorem ne_null (h : v.Reorders v') (hv : v ≠ .null) : v' ≠ .null := by
  rintro rfl
  exact hv (eq_of_scalar h.symm)

/-- A mapping in which no key stands twice has none twice in any order. -/
theorem keysDistinct (h : v.Reorders v') (hv : v.KeysDistinct) : v'.KeysDistinct := by
  induction v using induct generalizing v' with
  | scalar s =>
    cases h
    exact hv
  | set members =>
    cases h
    exact hv
  | list items ih =>
    cases h with
    | list hitems =>
      obtain ⟨hlist, hall⟩ := forall_parts_list.mp hv
      refine forall_parts_list.mpr ⟨hlist, fun u' hu' => ?_⟩
      obtain ⟨u, hu, hR⟩ := exists_left_of_mem hitems hu'
      exact ih u hu hR (hall u hu)
  | tuple items ih =>
    cases h with
    | tuple hitems =>
      obtain ⟨htuple, hall⟩ := forall_parts_tuple.mp hv
      refine forall_parts_tuple.mpr ⟨htuple, fun u' hu' => ?_⟩
      obtain ⟨u, hu, hR⟩ := exists_left_of_mem hitems hu'
      exact ih u hu hR (hall u hu)
  | map es ih =>
    cases h with
    | map hkeys hvalues hperm =>
      obtain ⟨hdistinct, hall⟩ := forall_parts_map.mp hv
      refine forall_parts_map.mpr ⟨((Entries.distinct_congr hkeys).mp hdistinct).perm hperm, fun e' he' => ?_⟩
      obtain ⟨e, he, hR⟩ := exists_left_of_mem hvalues (hperm.mem_iff.mpr he')
      exact ih e he hR (hall e he)

end Reorders

end Value

/-! ### paths -/

theorem Entries.Matches.lookup? {R : Value → Value → Prop} {es es' : Entries} {name : String} {u : Value}
    (h : Entries.Matches R es es') (hdistinct : es.Distinct) (hu : Entries.lookup? es name = some u) :
    ∃ u', Entries.lookup? es' name = some u' ∧ R u u' := by
  obtain ⟨fs, hfs, hperm⟩ := h
  have hkeys := keys_eq (hfs.imp fun e f h => h.1)
  rw [Entries.lookup?_of_perm ((Entries.distinct_congr hkeys).mp hdistinct) hperm]
  exact lookup?_in_step hfs hu

namespace Value.Reorders

variable {v v' u w : Value} {segment : String}

theorem isSequence (h : v.Reorders v') : v'.isSequence = v.isSequence := by
  cases h <;> rfl

/-- What a segment names in a value, it names in the value in another order. -/
theorem child? (h : v.Reorders v') (hv : v.KeysDistinct) (hu : v.child? segment = some u) :
    ∃ u', v'.child? segment = some u' ∧ u.Reorders u' := by
  cases v with
  | scalar _ | set _ => cases hu
  | list items =>
    cases h with
    | list hitems => exact itemAt?_in_step hitems hu
  | tuple items =>
    cases h with
    | tuple hitems => exact itemAt?_in_step hitems hu
  | map es =>
    cases h with
    | map hkeys hvalues hperm =>
      have hmatches : Entries.Matches Reorders es _ := ⟨_, forall₂_of_keys (R := Reorders) hkeys hvalues, hperm⟩
      exact hmatches.lookup? (hv _ (mem_parts_self _)) hu

theorem steps (h : v.Reorders v') (hv : v.KeysDistinct) (hu : v.Steps segment u) :
    ∃ u', v'.Steps segment u' ∧ u.Reorders u' := by
  obtain ⟨hindex, hchild, hne⟩ := hu
  obtain ⟨u', hchild', hR⟩ := h.child? hv hchild
  exact ⟨u', ⟨h.isSequence ▸ hindex, hchild', hR.ne_null hne⟩, hR⟩

/-- A path leads to the same, up to order. The induction is on what is left of it. -/
theorem extractFrom {path rest : List String} (h : v.Reorders v') (hv : v.KeysDistinct)
    (hw : LinkedData.extractFrom path v rest = .ok w) :
    ∃ w', LinkedData.extractFrom path v' rest = .ok w' ∧ w.Reorders w' := by
  induction rest generalizing v v' with
  | nil =>
    obtain rfl := Except.ok.inj hw
    exact ⟨v', rfl, h⟩
  | cons segment rest ih =>
    obtain ⟨u, hu, hw⟩ := extractFrom_cons_eq_ok.mp hw
    obtain ⟨u', hu', hR⟩ := h.steps hv hu
    obtain ⟨w', hw', hRw⟩ := ih hR (hv.of_mem_parts (child?_mem_parts hu.2.1)) hw
    exact ⟨w', extractFrom_cons_eq_ok.mpr ⟨u', hu', hw'⟩, hRw⟩

end Value.Reorders

end LinkedData
