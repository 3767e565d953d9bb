import LinkedData.Proofs.Calendar.Range
import LinkedData.Proofs.Filter
import LinkedData.Proofs.Lookup
import LinkedData.Proofs.Resolver.Survivors

/-!
# How a resolution fails

* `Resolver.Visits`: the trees that a resolution goes through, which are the tree itself and the values of lookups;
* `Resolver.Raises`: what a part of such a tree fails with by itself;
* `Resolver.raises_of_resolve`: a resolution fails only with what a part of a tree that it visits fails with;
* `Resolver.resolve_eq_error`: with the standard filters, that is a fault, unless a moment lies outside of the calendar
  or there are too many digits somewhere.
-/

namespace LinkedData

open Calendar

/-! ### parts that fail -/

section Parts

variable {follow : DataRef → Except Failure Value} {ctx : PageContext} {e : Failure}

theorem resolveTreeL_eq_error {vs : List Value} (h : resolveTreeL follow ctx vs = .error e) :
    ∃ v ∈ vs, resolveTree follow ctx v = .error e := by
  induction vs with
  | nil => cases h
  | cons v vs ih =>
    rw [resolveTreeL_cons, bind_eq_error] at h
    rcases h with hv | ⟨w, _, hvs⟩
    · exact ⟨v, List.mem_cons_self, hv⟩
    · obtain ⟨u, hu, hfails⟩ := ih (map_eq_error.mp hvs)
      exact ⟨u, List.mem_cons_of_mem v hu, hfails⟩

/-- Entries fail for a key that is no text or for a value. -/
theorem resolveTreeE_eq_error {es : Entries} (h : resolveTreeE follow ctx es = .error e) :
    ∃ f ∈ es, e = .ofFault (.unsupported f.1.toValue) ∨ resolveTree follow ctx f.2 = .error e := by
  induction es with
  | nil => cases h
  | cons f es ih =>
    obtain ⟨k, v⟩ := f
    rcases k.str_or_ne with ⟨name, rfl⟩ | hk
    · rw [resolveTreeE_cons, bind_eq_error] at h
      rcases h with hv | ⟨w, _, hes⟩
      · exact ⟨_, List.mem_cons_self, Or.inr hv⟩
      · obtain ⟨f, hf, hfails⟩ := ih (map_eq_error.mp hes)
        exact ⟨f, List.mem_cons_of_mem _ hf, hfails⟩
    · rw [resolveTreeE_cons_of_ne hk] at h
      exact ⟨_, List.mem_cons_self, Or.inl (Except.error.inj h).symm⟩

end Parts

namespace Resolver

variable {r : Resolver} {ctx : PageContext} {u v w x : Value} {s : Scalar} {ref : DataRef} {e : Failure}

/-! ### where failures come from -/

/-- A resolution goes through the tree and through the values of the lookups in it, in these, and so on. -/
inductive Visits (r : Resolver) (ctx : PageContext) : Value → Value → Prop
  | self (v : Value) : Visits r ctx v v
  | lookup {v u w : Value} {s : Scalar} {ref : DataRef} : .scalar s ∈ v.parts → s.ref? = some ref →
      r.fetch ctx ref = .ok u → Visits r ctx u w → Visits r ctx v w

/-- The leaves that are reached are those of the trees that are visited. -/
theorem reaches_iff : r.Reaches ctx v s ↔ ∃ u, r.Visits ctx v u ∧ .scalar s ∈ u.parts := by
  constructor
  · intro h
    induction h with
    | leaf hs => exact ⟨_, Visits.self _, hs⟩
    | lookup hmem href hfetch _ ih =>
      obtain ⟨u, hvisits, hs⟩ := ih
      exact ⟨u, Visits.lookup hmem href hfetch hvisits, hs⟩
  · rintro ⟨u, hvisits, hs⟩
    induction hvisits with
    | self v => exact Reaches.leaf hs
    | lookup hmem href hfetch _ ih => exact Reaches.lookup hmem href hfetch (ih hs)

/-- What a part of a tree fails with by itself, and not for what it holds. -/
inductive Raises (r : Resolver) (ctx : PageContext) : Value → Failure → Prop
  | leaf {s : Scalar} {e : Failure} : s.ref? = none → resolveLeaf ctx s = .error e → Raises r ctx (.scalar s) e
  | fetch {s : Scalar} {ref : DataRef} {e : Failure} : s.ref? = some ref → r.fetch ctx ref = .error e →
      Raises r ctx (.scalar s) e
  | chain {s : Scalar} {ref : DataRef} (chain : List DataRef) : s.ref? = some ref →
      Raises r ctx (.scalar s) (.ofFault (.cyclic chain r.maxDepth))
  | set (members : List Key) : Raises r ctx (.set members) (.ofFault (.unsupported (.set members)))
  | key {es : Entries} {f : Key × Value} : f ∈ es → Raises r ctx (.map es) (.ofFault (.unsupported f.1.toValue))

/-- The failure is that of a part of a tree that is visited. -/
def ComesFrom (r : Resolver) (ctx : PageContext) (v : Value) (e : Failure) : Prop :=
  ∃ u x, r.Visits ctx v u ∧ x ∈ u.parts ∧ r.Raises ctx x e

theorem ComesFrom.of_raises (h : r.Raises ctx v e) : r.ComesFrom ctx v e :=
  ⟨v, v, Visits.self v, Value.mem_parts_self v, h⟩

theorem ComesFrom.of_part (h : r.ComesFrom ctx u e) (hu : u ∈ v.parts) : r.ComesFrom ctx v e := by
  obtain ⟨w, x, hvisits, hx, hraises⟩ := h
  cases hvisits with
  | self => exact ⟨v, x, Visits.self v, Value.mem_parts_trans hu hx, hraises⟩
  | lookup hs href hfetch hmore =>
    exact ⟨w, x, Visits.lookup (Value.mem_parts_trans hu hs) href hfetch hmore, hx, hraises⟩

theorem ComesFrom.of_lookup (h : r.ComesFrom ctx u e) (href : s.ref? = some ref) (hfetch : r.fetch ctx ref = .ok u) :
    r.ComesFrom ctx (.scalar s) e := by
  obtain ⟨w, x, hvisits, hx, hraises⟩ := h
  exact ⟨w, x, Visits.lookup (Value.mem_parts_self _) href hfetch hvisits, hx, hraises⟩

/-- The resolution of a tree fails as a part of it does, if lookups do. -/
theorem resolveTree_comesFrom {follow : DataRef → Except Failure Value}
    (hfollow : ∀ s ref e, s.ref? = some ref → follow ref = .error e → r.ComesFrom ctx (.scalar s) e) :
    ∀ v e, resolveTree follow ctx v = .error e → r.ComesFrom ctx v e := by
  intro v
  induction v using Value.induct with
  | scalar s =>
    intro e h
    rw [resolveTree] at h
    cases hs : s.ref? with
    | none =>
      rw [resolveScalar_leaf hs] at h
      exact ComesFrom.of_raises (Raises.leaf hs h)
    | some ref =>
      rw [resolveScalar_ref hs] at h
      exact hfollow s ref e hs h
  | set members =>
    intro e h
    rw [resolveTree] at h
    obtain rfl := Except.error.inj h
    exact ComesFrom.of_raises (Raises.set members)
  | list items ih =>
    intro e h
    rw [resolveTree, map_eq_error] at h
    obtain ⟨u, hu, hfails⟩ := resolveTreeL_eq_error h
    exact (ih u hu e hfails).of_part (Value.mem_parts_of_list hu)
  | tuple items ih =>
    intro e h
    rw [resolveTree, map_eq_error] at h
    obtain ⟨u, hu, hfails⟩ := resolveTreeL_eq_error h
    exact (ih u hu e hfails).of_part (Value.mem_parts_of_tuple hu)
  | map es ih =>
    intro e h
    rw [resolveTree, map_eq_error] at h
    obtain ⟨f, hf, rfl | hfails⟩ := resolveTreeE_eq_error h
    · exact ComesFrom.of_raises (Raises.key hf)
    · exact (ih f hf e hfails).of_part (Value.mem_parts_of_map hf)

/-- So do lookups, by induction on what is left of the limit. -/
theorem follow_comesFrom (left : Nat) : ∀ chain s ref e, s.ref? = some ref → r.follow ctx left chain ref = .error e →
    r.ComesFrom ctx (.scalar s) e := by
  induction left with
  | zero =>
    intro chain s ref e hs h
    obtain rfl := Except.error.inj h
    exact ComesFrom.of_raises (Raises.chain _ hs)
  | succ left ih =>
    intro chain s ref e hs h
    by_cases hmem : ref ∈ chain
    · rw [follow_mem hmem] at h
      obtain rfl := Except.error.inj h
      exact ComesFrom.of_raises (Raises.chain _ hs)
    · rw [follow_succ hmem, bind_eq_error] at h
      rcases h with hfetch | ⟨u, hfetch, hu⟩
      · exact ComesFrom.of_raises (Raises.fetch hs hfetch)
      · exact (resolveTree_comesFrom (ih (chain ++ [ref])) u e hu).of_lookup hs hfetch

/-- A resolution fails only as a part of a tree that it visits. -/
theorem raises_of_resolve (h : r.resolve ctx v = .error e) : r.ComesFrom ctx v e :=
  resolveTree_comesFrom (follow_comesFrom r.maxDepth []) v e h

/-! ### integers along the way -/

/-- A lookup with the standard filters leads to no other integers than those of the data. -/
theorem isWritable_of_fetch (hstandard : r.registry = .standard) (hdata : (Value.map ctx.data).isWritable = true)
    (h : r.fetch ctx ref = .ok u) : u.isWritable = true := by
  obtain ⟨found, hfound, happly⟩ := bind_eq_ok.mp h
  rw [hstandard] at happly
  rcases Registry.standard_apply_eq_ok happly with rfl | ⟨text, rfl⟩
  · exact Value.isWritable_of_mem_parts hdata (extract_mem_parts hfound)
  · rfl

theorem Visits.isWritable (h : r.Visits ctx v u) (hstandard : r.registry = .standard)
    (hdata : (Value.map ctx.data).isWritable = true) (hv : v.isWritable = true) : u.isWritable = true := by
  induction h with
  | self v => exact hv
  | lookup _ _ hfetch _ ih => exact ih (isWritable_of_fetch hstandard hdata hfetch)

/-- A value of JSON can be written if its leaves can. -/
theorem isWritable_of_leaves (hw : w.IsJson) (h : ∀ t, .scalar t ∈ w.parts → t.isWritable = true) :
    w.isWritable = true := by
  induction w using Value.induct with
  | scalar s => exact h s (Value.mem_parts_self _)
  | set members => exact (hw _ (Value.mem_parts_self _)).1.elim
  | list items ih =>
    have hitems := (Value.forall_parts_list.mp hw).2
    refine Value.isWritableL_iff.mpr fun v hv => ih v hv (hitems v hv) fun t ht => ?_
    exact h t (Value.mem_parts_list.mpr (Or.inr ⟨v, hv, ht⟩))
  | tuple items ih =>
    have htuple := (hw _ (Value.mem_parts_self _)).2
    cases htuple
  | map es ih =>
    obtain ⟨⟨⟨_, hkeys⟩, _⟩, hes⟩ := Value.forall_parts_map.mp hw
    refine Value.isWritableE_iff.mpr fun f hf => ⟨?_, ih f hf (hes f hf) fun t ht => ?_⟩
    · obtain ⟨name, hname⟩ := Key.isText_iff.mp (hkeys f hf)
      rw [hname]
      rfl
    · exact h t (Value.mem_parts_map.mpr (Or.inr ⟨f, hf, ht⟩))

theorem isWritable_of_resolveLeaf {t : Scalar} (h : resolveLeaf ctx s = .ok (.scalar t)) (hs : s.isWritable = true) :
    t.isWritable = true := by
  cases s with
  | str _ | null | bool _ | int _ =>
    obtain rfl := Value.scalar.inj (Except.ok.inj h)
    exact hs
  | float x =>
    rw [resolveLeaf] at h
    split at h
    · obtain rfl := Value.scalar.inj (Except.ok.inj h)
      rfl
    · cases h
  | date _ | datetime _ =>
    obtain ⟨cs, _, htext⟩ := resolveMoment_eq_ok.mp h
    obtain rfl := Value.scalar.inj htext
    rfl
  | bytes _ | time _ | decimal _ => cases h

/-- A result has no integer that neither the tree nor the data has. -/
theorem isWritable_of_resolve (hstandard : r.registry = .standard) (hdata : (Value.map ctx.data).isWritable = true)
    (hv : v.isWritable = true) (h : r.resolve ctx v = .ok w) : w.isWritable = true := by
  refine isWritable_of_leaves (resolve_isJson h) fun t ht => ?_
  obtain ⟨s, hreach, _, hleaf⟩ := leaf_of_result h t ht
  obtain ⟨u, hvisits, hs⟩ := reaches_iff.mp hreach
  exact isWritable_of_resolveLeaf hleaf (Value.isWritable_of_mem_parts (hvisits.isWritable hstandard hdata hv) hs)

/-! ### failures that are no faults -/

/-- What a resolution with the standard filters fails with and is no fault: a moment outside of the calendar, an index
with too many digits, or a fault with an integer that is too long to be worded. -/
inductive Escapes (r : Resolver) (ctx : PageContext) (v : Value) : Failure → Prop
  | outsideCalendar {t : DateTime} : r.Reaches ctx v (.datetime t) → t.OutsideCalendar →
      Escapes r ctx v .outsideCalendar
  | overlongIndex {s : Scalar} {ref : DataRef} {segment : String} : r.Reaches ctx v s → s.ref? = some ref →
      segment ∈ ref.path → isOverlongIndex segment = true → Escapes r ctx v .overlongIndex
  | overlongLimit : isWritable r.maxDepth = false → Escapes r ctx v .overlongInteger
  | overlongInteger : v.isWritable = false ∨ (Value.map ctx.data).isWritable = false →
      Escapes r ctx v .overlongInteger

theorem resolveLeaf_eq_error (h : resolveLeaf ctx s = .error e) :
    (∃ x, e = .fault (.unsupported x)) ∨ e = .outsideCalendar ∧ ∃ t, s = .datetime t ∧ t.OutsideCalendar := by
  cases s with
  | null | bool _ | int _ | str _ => cases h
  | float x =>
    rw [resolveLeaf] at h
    split at h
    · cases h
    · exact Or.inl ⟨_, (Except.error.inj h).symm⟩
  | bytes _ | time _ | decimal _ => exact Or.inl ⟨_, (Except.error.inj h).symm⟩
  | date d =>
    obtain ⟨hnone, _⟩ := resolveMoment_eq_error.mp h
    exact absurd hnone (timestamp?_midnight_ne_none d)
  | datetime t =>
    obtain ⟨hnone, rfl⟩ := resolveMoment_eq_error.mp h
    exact Or.inr ⟨rfl, t, rfl, timestamp?_eq_none_iff.mp hnone⟩

/-- A lookup with the standard filters fails with a fault, unless there are too many digits somewhere. -/
theorem fetch_eq_error (hstandard : r.registry = .standard) (h : r.fetch ctx ref = .error e) :
    (∃ f, e = .fault f) ∨ (e = .overlongIndex ∧ ∃ segment ∈ ref.path, isOverlongIndex segment = true) ∨
      e = .overlongInteger ∧ (Value.map ctx.data).isWritable = false := by
  rw [fetch, bind_eq_error] at h
  rcases h with hextract | ⟨found, hfound, happly⟩
  · rcases extract_eq_error hextract with hfault | hindex
    · exact Or.inl hfault
    · exact Or.inr (Or.inl hindex)
  · rw [hstandard] at happly
    rcases Registry.standard_apply_eq_error happly with hfault | ⟨he, hlong⟩
    · exact Or.inl hfault
    · exact Or.inr (Or.inr ⟨he, Value.overlong_of_mem_parts (extract_mem_parts hfound) hlong⟩)

/-- With the standard filters, a resolution fails with a fault, or with one of the failures that are none. -/
theorem resolve_eq_error (hstandard : r.registry = .standard) (h : r.resolve ctx v = .error e) :
    (∃ f, e = .fault f) ∨ r.Escapes ctx v e := by
  obtain ⟨u, x, hvisits, hx, hraises⟩ := raises_of_resolve h
  have hinteger : u.isWritable = false → r.Escapes ctx v .overlongInteger := by
    intro hu
    refine Escapes.overlongInteger (by_contra fun hboth => ?_)
    rw [not_or, Bool.not_eq_false, Bool.not_eq_false] at hboth
    rw [hvisits.isWritable hstandard hboth.2 hboth.1] at hu
    cases hu
  have hpart : x.isWritable = false → u.isWritable = false := Value.overlong_of_mem_parts hx
  cases hraises with
  | leaf href hleaf =>
    rcases resolveLeaf_eq_error hleaf with ⟨x, hfault⟩ | ⟨rfl, t, rfl, houtside⟩
    · exact Or.inl ⟨_, hfault⟩
    · exact Or.inr (Escapes.outsideCalendar (reaches_iff.mpr ⟨u, hvisits, hx⟩) houtside)
  | fetch href hfetch =>
    rcases fetch_eq_error hstandard hfetch with hfault | ⟨rfl, segment, hsegment, hlong⟩ | ⟨rfl, hdata⟩
    · exact Or.inl hfault
    · exact Or.inr (Escapes.overlongIndex (reaches_iff.mpr ⟨u, hvisits, hx⟩) href hsegment hlong)
    · exact Or.inr (Escapes.overlongInteger (Or.inr hdata))
  | chain chain _ =>
    rcases ofFault_cases (.cyclic chain r.maxDepth) with hfault | ⟨hbare, hlimit⟩
    · exact Or.inl ⟨_, hfault⟩
    · rw [hbare]
      exact Or.inr (Escapes.overlongLimit hlimit)
  | set members =>
    rcases ofFault_cases (.unsupported (.set members)) with hfault | ⟨hbare, hlong⟩
    · exact Or.inl ⟨_, hfault⟩
    · rw [hbare]
      exact Or.inr (hinteger (hpart hlong))
  | @key es f hf =>
    rcases ofFault_cases (.unsupported f.1.toValue) with hfault | ⟨hbare, hlong⟩
    · exact Or.inl ⟨_, hfault⟩
    · have hkey : f.1.isWritable = false := (Key.isWritable_toValue f.1).symm.trans hlong
      rw [hbare]
      refine Or.inr (hinteger (hpart (Bool.eq_false_iff.mpr fun hmap => ?_)))
      rw [(Value.isWritableE_iff.mp hmap f hf).1] at hkey
      cases hkey

end Resolver

end LinkedData
