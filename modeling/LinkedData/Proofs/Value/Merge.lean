import Mathlib.Data.List.Forall2
import LinkedData.Proofs.Value.Parts
import LinkedData.Proofs.Value.Sameness
import LinkedData.Value.Merge

/-!
# What a deep merge holds

A mapping `s` is merged into a mapping `d`. Both are read by paths of keys, and three cases tell what stands at a path
after the merge: `s` sets the path; `s` ends before it, with mappings only; or `s` sets something else on the way.

* `Value.at?`: what stands at a path of keys, one mapping inside the other;
* `Value.at?_merge_of_set`, `Value.at?_merge_of_unset`, `Value.at?_merge_of_cut`: what stands there after a merge, in
  these three cases;
* `Entries.merge_eq`: the entries of a merge and their order;
* `Entries.IsMerge`: what a merge has to hold, path by path, and nothing else;
* `Value.merge_again`: what was merged is not changed by the same merge;
* `Entries.deep_merge_exact`: a deep merge holds what it has to, and it is absorbed.
-/

namespace LinkedData

namespace Value

/-! ### merging two values -/

section Cases

variable {v : Value} {old : Option Value}

theorem merge_none (v : Value) : merge none v = v := by
  cases v <;> rfl

theorem merge_of_no_map (h : ∀ es, v ≠ .map es) (old : Option Value) : merge old v = v := by
  cases v with
  | map es => exact absurd rfl (h es)
  | scalar _ | set _ | list _ | tuple _ => rfl

theorem merge_into_no_map (h : ∀ es, old ≠ some (.map es)) (v : Value) : merge old v = v := by
  cases v with
  | map new =>
    cases old with
    | none => rfl
    | some u =>
      cases u with
      | map es => exact absurd rfl (h es)
      | scalar _ | set _ | list _ | tuple _ => rfl
  | scalar _ | set _ | list _ | tuple _ => rfl

theorem merge_maps (es new : Entries) : merge (some (.map es)) (.map new) = .map (es.merge new) := rfl

end Cases

end Value

namespace Entries

/-! ### entries of a merge -/

section Merge

variable {es new : Entries} {k : Key} {v : Value}

theorem merge_cons (es new : Entries) (k : Key) (v : Value) :
    es.merge ((k, v) :: new) = (insert es k (Value.merge (get? es k) v)).merge new := rfl

theorem get?_eq_none_of_first (h : ∀ e ∈ new, k.same e.1 = false) : get? new k = none :=
  get?_eq_none_iff.mpr fun e he => (Key.same_comm e.1 k).trans (h e he)

/-- Under a key stands what is merged in, or else what was there. -/
theorem get?_merge (hnew : Distinct new) (es : Entries) (k : Key) :
    get? (es.merge new) k = match get? new k with
      | some v => some (Value.merge (get? es k) v)
      | none => get? es k := by
  induction new generalizing es with
  | nil => rfl
  | cons e new ih =>
    obtain ⟨l, w⟩ := e
    obtain ⟨hfirst, hrest⟩ := distinct_cons.mp hnew
    rw [merge_cons, ih hrest, get?_cons, get?_insert]
    by_cases hl : l.same k = true
    · -- no later entry has the key, so that the rest of the merge leaves what is set here
      have hnone : get? new k = none := by
        rw [← get?_of_same hl new]
        exact get?_eq_none_of_first hfirst
      rw [hnone, if_pos hl, if_pos hl, get?_of_same hl es]
    · rw [if_neg hl, if_neg hl]

/-- An entry with what is merged into its value. -/
def mergedWith (new : Entries) (e : Key × Value) : Key × Value :=
  (e.1, match get? new e.1 with
    | some v => Value.merge (some e.2) v
    | none => e.2)

theorem mergedWith_cons (new : Entries) (k : Key) (v : Value) (e : Key × Value) :
    mergedWith ((k, v) :: new) e = if k.same e.1 then (e.1, Value.merge (some e.2) v) else mergedWith new e := by
  rw [mergedWith, get?_cons]
  by_cases hk : k.same e.1 = true
  · rw [if_pos hk, if_pos hk]
  · rw [if_neg hk, if_neg hk, mergedWith]

theorem mergedWith_of_none {e : Key × Value} (h : get? new e.1 = none) : mergedWith new e = e := by
  rw [mergedWith, h]

/-- The entries of a merge are those that were there, in their order, followed by the new ones in theirs. -/
theorem merge_eq (hes : Distinct es) (hnew : Distinct new) :
    es.merge new = es.map (mergedWith new) ++ new.filter fun e => (get? es e.1).isNone := by
  induction new generalizing es with
  | nil =>
    have hmap : es.map (mergedWith []) = es.map id := List.map_congr_left fun e _ => mergedWith_of_none rfl
    rw [hmap, List.map_id]
    exact (List.append_nil es).symm
  | cons e new ih =>
    obtain ⟨k, v⟩ := e
    obtain ⟨hfirst, hrest⟩ := distinct_cons.mp hnew
    have hnone : get? new k = none := get?_eq_none_of_first hfirst
    -- what is set under the first key does not count for the others
    have hothers : ∀ w, (new.filter fun e => (get? (insert es k w) e.1).isNone) =
        new.filter fun e => (get? es e.1).isNone := by
      intro w
      refine List.filter_congr fun e he => ?_
      rw [get?_insert, if_neg (Bool.eq_false_iff.mp (hfirst e he))]
    rw [merge_cons, ih (hes.insert _ _) hrest, hothers, List.filter_cons]
    cases hk : get? es k with
    | none =>
      have habsent := get?_eq_none_iff.mp hk
      have hmap : es.map (mergedWith ((k, v) :: new)) = es.map (mergedWith new) := by
        refine List.map_congr_left fun e he => ?_
        rw [mergedWith_cons, Key.same_comm, habsent e he, if_neg Bool.false_ne_true]
      rw [insert_of_new habsent, Value.merge_none, List.map_append, List.map_singleton, mergedWith_of_none hnone, hmap,
        if_pos Option.isNone_none, List.append_assoc, List.singleton_append]
    | some u =>
      have hmap : (es.map fun e => if e.1.same k then (e.1, Value.merge (some u) v) else e).map (mergedWith new) =
          es.map (mergedWith ((k, v) :: new)) := by
        rw [List.map_map]
        refine List.map_congr_left fun e he => ?_
        rw [Function.comp_apply, mergedWith_cons, Key.same_comm k]
        by_cases hsame : e.1.same k = true
        · have hu : u = e.2 := Option.some.inj (hk.symm.trans (hes.get?_of_mem he hsame))
          rw [if_pos hsame, if_pos hsame, hu]
          exact mergedWith_of_none ((get?_of_same hsame new).trans hnone)
        · rw [if_neg hsame, if_neg hsame]
      rw [hes.insert_of_found hk, hmap, if_neg (Bool.eq_false_iff.mp Option.isNone_some)]

end Merge

end Entries

namespace Value

/-! ### paths of keys -/

/-- What stands at a path of keys, one mapping inside the other. -/
def at? : Value → List Key → Option Value
  | v, [] => some v
  | v, k :: path => (v.entries.get? k).bind fun w => w.at? path

section Paths

variable {v w : Value} {old : Option Value}

theorem at?_map_cons (es : Entries) (k : Key) (path : List Key) :
    (map es).at? (k :: path) = (es.get? k).bind fun w => w.at? path := rfl

theorem at?_cons_of_no_map (h : ∀ es, v ≠ .map es) (k : Key) (path : List Key) : v.at? (k :: path) = none := by
  cases v with
  | map es => exact absurd rfl (h es)
  | scalar _ | set _ | list _ | tuple _ => rfl

theorem bind_at?_cons_of_no_map (h : ∀ es, old ≠ some (.map es)) (k : Key) (path : List Key) :
    (old.bind fun u => u.at? (k :: path)) = none :=
  Option.bind_eq_none_iff.mpr fun _ hu => at?_cons_of_no_map (fun es hes => h es (hu.trans (congrArg some hes))) k path

theorem at?_append (v : Value) (path rest : List Key) :
    v.at? (path ++ rest) = (v.at? path).bind fun w => w.at? rest := by
  induction path generalizing v with
  | nil => rfl
  | cons k path ih =>
    rw [List.cons_append, at?, at?, Option.bind_assoc]
    exact Option.bind_congr fun w _ => ih w

theorem mem_parts_of_at? {path : List Key} (h : v.at? path = some w) : w ∈ v.parts := by
  induction path generalizing v with
  | nil =>
    obtain rfl := Option.some.inj h
    exact mem_parts_self v
  | cons k path ih =>
    obtain ⟨x, hx, hw⟩ := Option.bind_eq_some_iff.mp h
    cases v with
    | map es =>
      obtain ⟨e, he, rfl⟩ := Entries.mem_of_get? hx
      exact mem_parts_map.mpr (Or.inr ⟨e, he, ih hw⟩)
    | scalar _ | set _ | list _ | tuple _ => cases hx

theorem KeysDistinct.of_get? {es : Entries} {k : Key} (h : (map es).KeysDistinct) (hv : es.get? k = some v) :
    v.KeysDistinct := by
  obtain ⟨e, he, rfl⟩ := Entries.mem_of_get? hv
  exact h.of_mem_parts (mem_parts_of_map he)

/-- Where the new value sets something, it is merged into what was there. -/
theorem at?_merge_of_set {path : List Key} (hv : v.KeysDistinct) (h : v.at? path = some w) (old : Option Value) :
    (merge old v).at? path = some (merge (old.bind fun u => u.at? path) w) := by
  induction path generalizing v old with
  | nil =>
    obtain rfl := Option.some.inj h
    rw [at?]
    cases old <;> rfl
  | cons k path ih =>
    cases v with
    | map new =>
      obtain ⟨x, hx, hw⟩ := Option.bind_eq_some_iff.mp h
      by_cases hold : ∃ es, old = some (.map es)
      · obtain ⟨es, rfl⟩ := hold
        rw [merge_maps, at?_map_cons, Entries.get?_merge hv.distinct, show Entries.get? new k = some x from hx]
        exact ih (hv.of_get? hx) hw (Entries.get? es k)
      · have hold : ∀ es, old ≠ some (.map es) := fun es hes => hold ⟨es, hes⟩
        rw [merge_into_no_map hold, bind_at?_cons_of_no_map hold, merge_none, h]
    | scalar _ | set _ | list _ | tuple _ => cases h

/-- Where the new value ends before, in mappings only, what was there stays. -/
theorem at?_merge_of_unset {path : List Key} (hv : v.KeysDistinct) (h : v.at? path = none)
    (hmaps : ∀ pre w, pre <+: path → v.at? pre = some w → ∃ es, w = .map es) (old : Option Value) :
    (merge old v).at? path = old.bind fun u => u.at? path := by
  induction path generalizing v old with
  | nil => cases h
  | cons k path ih =>
    obtain ⟨new, rfl⟩ := hmaps [] v List.nil_prefix rfl
    by_cases hold : ∃ es, old = some (.map es)
    · obtain ⟨es, rfl⟩ := hold
      rw [merge_maps, at?_map_cons, Entries.get?_merge hv.distinct]
      cases hk : Entries.get? new k with
      | none => rfl
      | some x =>
        have hstep : ∀ rest, (map new).at? (k :: rest) = x.at? rest := by
          intro rest
          rw [at?_map_cons, hk]
          rfl
        refine ih (hv.of_get? hk) ((hstep path).symm.trans h) (fun pre w hpre hw => ?_) (Entries.get? es k)
        exact hmaps (k :: pre) w (List.cons_prefix_cons.mpr ⟨rfl, hpre⟩) ((hstep pre).trans hw)
    · have hold : ∀ es, old ≠ some (.map es) := fun es hes => hold ⟨es, hes⟩
      rw [merge_into_no_map hold, bind_at?_cons_of_no_map hold, h]

/-- Where the new value sets something else than a mapping on the way, nothing is left. -/
theorem at?_merge_of_cut {path pre : List Key} (hv : v.KeysDistinct) (h : v.at? path = none) (hpre : pre <+: path)
    (hw : v.at? pre = some w) (hcut : ∀ es, w ≠ .map es) (old : Option Value) : (merge old v).at? path = none := by
  obtain ⟨rest, rfl⟩ := hpre
  rw [at?_append, hw] at h
  rw [at?_append, at?_merge_of_set hv hw, merge_of_no_map hcut]
  exact h

end Paths

end Value

/-! ### merging the same again -/

namespace Entries

/-- Nothing is changed by a merge of values each of which changes nothing where it stands. -/
theorem merge_eq_self {es new : Entries}
    (h : ∀ e ∈ new, ∃ u, get? es e.1 = some u ∧ Value.merge (some u) e.2 = u) : es.merge new = es := by
  induction new with
  | nil => rfl
  | cons e new ih =>
    obtain ⟨k, v⟩ := e
    obtain ⟨⟨u, hu, hmerge⟩, hnew⟩ := List.forall_mem_cons.mp h
    rw [merge_cons, hu, hmerge, insert_of_get? hu, ih hnew]

end Entries

namespace Value

/-- What was merged is not changed by the same merge. -/
theorem merge_again {v : Value} (hv : v.KeysDistinct) (old : Option Value) :
    merge (some (merge old v)) v = merge old v := by
  induction v using induct generalizing old with
  | scalar _ | set _ | list _ _ | tuple _ _ => rfl
  | map new ih =>
    have hdistinct : Entries.Distinct new := hv.distinct
    obtain ⟨_, hkeys⟩ := forall_parts_map.mp hv
    have hget : ∀ e ∈ new, Entries.get? new e.1 = some e.2 := fun e he =>
      hdistinct.get?_of_mem he (Key.same_self e.1)
    by_cases hold : ∃ es, old = some (.map es)
    · obtain ⟨es, rfl⟩ := hold
      rw [merge_maps, merge_maps, Entries.merge_eq_self fun e he => ?_]
      refine ⟨merge (Entries.get? es e.1) e.2, ?_, ih e he (hkeys e he) _⟩
      rw [Entries.get?_merge hdistinct, hget e he]
    · rw [merge_into_no_map (fun es hes => hold ⟨es, hes⟩), merge_maps, Entries.merge_eq_self fun e he => ?_]
      refine ⟨e.2, hget e he, ?_⟩
      have hnone := ih e he (hkeys e he) none
      rwa [merge_none] at hnone

end Value

/-! ### what a merge has to hold -/

namespace Entries

/-- What `m` has to hold if `s` is merged into `d`. -/
structure IsMerge (d s m : Entries) : Prop where
  /-- Where both hold a mapping, so does `m`: the entries of `d` in their order, which keep their keys, and their values
  where `s` has none, followed by the entries of `s` with other keys, in the order of `s`. -/
  layout : ∀ {path : List Key} {ds ss : Entries}, (Value.map d).at? path = some (.map ds) →
    (Value.map s).at? path = some (.map ss) →
      ∃ kept, (Value.map m).at? path = some (.map (kept ++ ss.filter fun e => (get? ds e.1).isNone)) ∧
        List.Forall₂ (fun e f => f.1 = e.1 ∧ (get? ss e.1 = none → f.2 = e.2)) ds kept
  /-- What `s` sets is there, unless both hold a mapping. -/
  set : ∀ {path : List Key} {v : Value}, (Value.map s).at? path = some v →
    ((∀ ss, v ≠ .map ss) ∨ ∀ ds, (Value.map d).at? path ≠ some (.map ds)) → (Value.map m).at? path = some v
  /-- What `d` holds is there if `s` does not set it, nor anything but mappings on the way. -/
  kept : ∀ {path : List Key} {v : Value}, (Value.map d).at? path = some v → (Value.map s).at? path = none →
    (∀ pre w, pre <+: path → (Value.map s).at? pre = some w → ∃ ss, w = .map ss) → (Value.map m).at? path = some v
  /-- Nothing else is there. -/
  only : ∀ {path : List Key} {v : Value}, (Value.map m).at? path = some v →
    (∃ ds ss, (Value.map d).at? path = some (.map ds) ∧ (Value.map s).at? path = some (.map ss)) ∨
    ((Value.map s).at? path = some v ∧
      ((∀ ss, v ≠ .map ss) ∨ ∀ ds, (Value.map d).at? path ≠ some (.map ds))) ∨
    ((Value.map d).at? path = some v ∧ (Value.map s).at? path = none ∧
      ∀ pre w, pre <+: path → (Value.map s).at? pre = some w → ∃ ss, w = .map ss)

section Exact

variable {d s : Entries}

theorem merge_at?_of_set {path : List Key} {v : Value} (hs : (Value.map s).KeysDistinct)
    (h : (Value.map s).at? path = some v) :
    (Value.map (d.merge s)).at? path = some (Value.merge ((Value.map d).at? path) v) :=
  Value.at?_merge_of_set hs h (some (.map d))

theorem merge_of_not_both {v : Value} {old : Option Value}
    (h : (∀ ss, v ≠ .map ss) ∨ ∀ ds, old ≠ some (.map ds)) : Value.merge old v = v :=
  h.elim (fun hv => Value.merge_of_no_map hv old) fun hold => Value.merge_into_no_map hold v

theorem merge_isMerge (hd : (Value.map d).KeysDistinct) (hs : (Value.map s).KeysDistinct) :
    IsMerge d s (d.merge s) where
  layout := by
    intro path ds ss hds hss
    have hdistinct : ds.Distinct := (hd.of_mem_parts (Value.mem_parts_of_at? hds)).distinct
    have hdistinct' : ss.Distinct := (hs.of_mem_parts (Value.mem_parts_of_at? hss)).distinct
    refine ⟨ds.map (mergedWith ss), ?_, List.forall₂_map_right_iff.mpr (List.forall₂_same.mpr fun e _ => ⟨rfl, ?_⟩)⟩
    · rw [merge_at?_of_set hs hss, hds, Value.merge_maps, merge_eq hdistinct hdistinct']
    · intro hnone
      rw [mergedWith_of_none hnone]
  set := by
    intro path v hv hnot
    rw [merge_at?_of_set hs hv, merge_of_not_both hnot]
  kept := by
    intro path v hv hnone hmaps
    rw [← hv]
    exact Value.at?_merge_of_unset hs hnone hmaps (some (.map d))
  only := by
    intro path v hv
    cases hset : (Value.map s).at? path with
    | some w =>
      rw [merge_at?_of_set hs hset, Option.some.injEq] at hv
      by_cases hboth : (∃ ss, w = .map ss) ∧ ∃ ds, (Value.map d).at? path = some (.map ds)
      · obtain ⟨⟨ss, rfl⟩, ds, hds⟩ := hboth
        exact Or.inl ⟨ds, ss, hds, rfl⟩
      · have hnot := (not_and_or.mp hboth).imp not_exists.mp not_exists.mp
        obtain rfl := (merge_of_not_both hnot).symm.trans hv
        exact Or.inr (Or.inl ⟨rfl, hnot⟩)
    | none =>
      by_cases hmaps : ∀ pre w, pre <+: path → (Value.map s).at? pre = some w → ∃ ss, w = .map ss
      · have hstays := Value.at?_merge_of_unset hs hset hmaps (some (.map d))
        exact Or.inr (Or.inr ⟨hstays.symm.trans hv, rfl, hmaps⟩)
      · simp only [not_forall] at hmaps
        obtain ⟨pre, w, hpre, hw, hcut⟩ := hmaps
        have hgone := Value.at?_merge_of_cut hs hset hpre hw (fun es hes => hcut ⟨es, hes⟩) (some (.map d))
        cases hgone.symm.trans hv

/-- **A deep merge neither loses nor invents entries.** It holds, at every path of keys, what one of both mappings sets
there: the second one goes before, and where both hold a mapping, the entries of the first are followed by those of the
second with other keys. So the same merge once more changes nothing, nor does one of a mapping with itself or with
none. -/
theorem deep_merge_exact (d s : Entries) (hd : (Value.map d).KeysDistinct) (hs : (Value.map s).KeysDistinct) :
    IsMerge d s (d.merge s) ∧ (d.merge s).merge s = d.merge s ∧ d.merge d = d ∧ Entries.merge [] s = s ∧
      d.merge [] = d := by
  refine ⟨merge_isMerge hd hs, ?_, ?_, ?_, rfl⟩
  · exact Value.map.inj (Value.merge_again hs (some (.map d)))
  · exact Value.map.inj (Value.merge_again hd none)
  · rw [merge_eq distinct_nil hs.distinct]
    exact List.filter_eq_self.mpr fun e _ => rfl

end Exact

/-- Entries with mappings in them, and a number for a key. -/
def shelf : Entries :=
  [(.scalar (.int 1), .str "one"), (.str "a", .map [(.str "x", .int 1), (.str "y", .map [(.str "z", .null)])]),
    (.str "b", .map [(.str "k", .int 1)]), (.str "c", .int 3)]

/-- Entries with a key that is the same number, and with mappings and numbers in place of numbers and mappings. -/
def delivery : Entries :=
  [(.str "d", .map [(.str "e", .list [])]), (.str "c", .map [(.str "k", .int 2)]), (.str "b", .int 7),
    (.str "a", .map [(.str "n", .null), (.str "y", .map [(.str "w", .int 5)])]), (.scalar (.bool true), .str "yes")]

/-- Both of them. -/
def stock : Entries :=
  [(.scalar (.int 1), .str "yes"),
    (.str "a", .map [(.str "x", .int 1), (.str "y", .map [(.str "z", .null), (.str "w", .int 5)]), (.str "n", .null)]),
    (.str "b", .int 7), (.str "c", .map [(.str "k", .int 2)]), (.str "d", .map [(.str "e", .list [])])]

theorem delivery_merged :
    ((Value.map shelf).KeysDistinct ∧ (Value.map delivery).KeysDistinct) ∧
      shelf.merge delivery = stock ∧ IsMerge shelf delivery stock ∧ stock.merge delivery = stock ∧
      shelf.merge shelf = shelf := by
  have hshelf : (Value.map shelf).KeysDistinct := by decide +kernel
  have hdelivery : (Value.map delivery).KeysDistinct := by decide +kernel
  have hstock : shelf.merge delivery = stock := by decide +kernel
  obtain ⟨hmerge, hagain, hself, _⟩ := deep_merge_exact shelf delivery hshelf hdelivery
  rw [hstock] at hmerge hagain
  exact ⟨⟨hshelf, hdelivery⟩, hstock, hmerge, hagain, hself⟩

end Entries

end LinkedData
