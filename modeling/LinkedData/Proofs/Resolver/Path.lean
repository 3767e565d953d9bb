import LinkedData.Proofs.Filter
import LinkedData.Proofs.Lookup
import LinkedData.Proofs.Resolver.Output

/-!
# Paths in a result

A path leads through a result as it does through the tree: what stands at its end in the result is the resolution of
what stands there in the tree.

* `Resolver.resolve_ne_null`: nothing but null resolves to null, if no lookup yields null, which none does unless a
  filter makes it (`Resolver.fetch_ne_null_of_filters`);
* `Resolver.resolve_steps`: one step, of a mapping, a list or a tuple;
* `Resolver.resolve_at_path`: a path.
-/

namespace LinkedData.Resolver

variable {r : Resolver} {ctx : PageContext} {v w x u : Value} {segment : String}

/-! ### null -/

/-- A lookup finds a value other than null, and its filters are applied to it. -/
theorem found_of_fetch {ref : DataRef} (h : r.fetch ctx ref = .ok u) :
    ∃ found, extract (.map ctx.data) ref.path = .ok found ∧ found ≠ .null ∧
      r.registry.apply found ref.filters = .ok u := by
  obtain ⟨found, hfound, happly⟩ := bind_eq_ok.mp h
  exact ⟨found, hfound, (extractFrom_eq_ok.mp hfound).ne_null (fun hnull => nomatch hnull), happly⟩

/-- If no filter makes null, no lookup yields null. -/
theorem fetch_ne_null_of_filters (hfilters : r.registry.MakesNoNull) (ref : DataRef) :
    r.fetch ctx ref ≠ .ok .null := by
  intro h
  obtain ⟨found, _, hfound, happly⟩ := found_of_fetch h
  exact hfilters.apply hfound ref.filters happly

/-- With the standard filters none does. -/
theorem fetch_ne_null (hstandard : r.registry = .standard) (ref : DataRef) : r.fetch ctx ref ≠ .ok .null :=
  fetch_ne_null_of_filters (hstandard ▸ Registry.standard_makesNoNull) ref

/-- Nothing but null resolves to null if no lookup yields null. -/
theorem resolve_ne_null (hfetch : ∀ ref, r.fetch ctx ref ≠ .ok .null) (h : r.resolve ctx v = .ok w) (hv : v ≠ .null) :
    w ≠ .null := by
  refine resolve_induct (P := fun v w => v ≠ .null → w ≠ .null) ?_ (fun _ _ _ _ hw => nomatch hw)
    (fun _ _ _ _ hw => nomatch hw) (fun _ _ _ _ hw => nomatch hw) ?_ h hv
  · rintro s w _ hw hs rfl
    exact hs (congrArg Value.scalar (null_of_resolveLeaf hw))
  · rintro s ref u w _ hu hw _
    exact hw fun hnull => hfetch ref (hnull ▸ hu)

/-! ### one step -/

/-- What a segment names in a tree, it names in the result, resolved. -/
theorem resolve_child? (hv : v.KeysDistinct) (hx : r.resolve ctx v = .ok x) (hu : v.child? segment = some u) :
    x.isSequence = v.isSequence ∧ ∃ y, x.child? segment = some y ∧ r.resolve ctx u = .ok y := by
  cases v with
  | scalar _ | set _ => cases hu
  | list items =>
    rw [resolve, resolveWithin, resolveTree, map_eq_ok] at hx
    obtain ⟨ws, hws, rfl⟩ := hx
    exact ⟨rfl, itemAt?_in_step (resolveTreeL_eq_ok.mp hws) hu⟩
  | tuple items =>
    rw [resolve, resolveWithin, resolveTree, map_eq_ok] at hx
    obtain ⟨ws, hws, rfl⟩ := hx
    exact ⟨rfl, itemAt?_in_step (resolveTreeL_eq_ok.mp hws) hu⟩
  | map es =>
    rw [resolve, resolveWithin, resolveTree, map_eq_ok] at hx
    obtain ⟨ws, hws, rfl⟩ := hx
    -- with distinct keys no entry of the result goes over an earlier one
    have hvalues : List.Forall₂ (fun e f => f.1 = e.1 ∧ r.resolve ctx e.2 = .ok f.2) es ws :=
      (resolveTreeE_eq_ok.mp hws).imp fun e f h => h.2
    have hkeys := keys_eq (hvalues.imp fun e f h => h.1)
    have hdistinct : Entries.Distinct ws := (Entries.distinct_congr hkeys).mp (hv _ (Value.mem_parts_self _))
    rw [Entries.ofList_of_distinct hdistinct]
    exact ⟨rfl, lookup?_in_step (R := fun u y => r.resolve ctx u = .ok y) hvalues hu⟩

/-- A step through a tree is one through the result. -/
theorem resolve_steps (hfetch : ∀ ref, r.fetch ctx ref ≠ .ok .null) (hv : v.KeysDistinct)
    (hx : r.resolve ctx v = .ok x) (hu : v.Steps segment u) : ∃ y, x.Steps segment y ∧ r.resolve ctx u = .ok y := by
  obtain ⟨hindex, hchild, hne⟩ := hu
  obtain ⟨hsequence, y, hy, hresolve⟩ := resolve_child? hv hx hchild
  exact ⟨y, ⟨hsequence ▸ hindex, hy, resolve_ne_null hfetch hresolve hne⟩, hresolve⟩

/-! ### paths -/

/-- **Resolution commutes with paths.** If a tree resolves with the standard filters, then so does what any path leads
to in it, and in the result this path leads to what that resolves to. -/
theorem resolve_at_path (r : Resolver) (ctx : PageContext) (v w x : Value) (path : List String)
    (hstandard : r.registry = .standard) (hv : v.KeysDistinct) (hw : extract v path = .ok w)
    (hx : r.resolve ctx v = .ok x) : ∃ y, r.resolve ctx w = .ok y ∧ extract x path = .ok y := by
  -- the induction is on what is left of the path
  have hrest : ∀ rest v x, v.KeysDistinct → extractFrom path v rest = .ok w → r.resolve ctx v = .ok x →
      ∃ y, r.resolve ctx w = .ok y ∧ extractFrom path x rest = .ok y := by
    intro rest
    induction rest with
    | nil =>
      intro v x _ hw hx
      obtain rfl := Except.ok.inj hw
      exact ⟨x, hx, rfl⟩
    | cons segment rest ih =>
      intro v x hv hw hx
      obtain ⟨u, hu, hw⟩ := extractFrom_cons_eq_ok.mp hw
      obtain ⟨y, hy, hresolve⟩ := resolve_steps (fetch_ne_null hstandard) hv hx hu
      have hdistinct : u.KeysDistinct := fun p hp => hv p (Value.mem_parts_trans (child?_mem_parts hu.2.1) hp)
      obtain ⟨z, hz, hpath⟩ := ih u y hdistinct hw hresolve
      exact ⟨z, hz, extractFrom_cons_eq_ok.mpr ⟨y, hy, hpath⟩⟩
  exact hrest path v x hv hw hx

/-- A tree with a mapping in a tuple, after a null. -/
def exampleReviews : Value :=
  .map [(.str "reviews",
    .tuple [.null, .map [(.str "url", .str "site-url:self"), (.str "name", .str "lume-data:headline")]])]

/-- What stands at a path there, whose index is written with an Arabic digit, is a lookup of a lookup. -/
theorem exampleReviews_at_path :
    extract exampleReviews ["reviews", "١", "name"] = .ok (.str "lume-data:headline") ∧
      ∃ x, Resolver.standard.resolve examplePage exampleReviews = .ok x ∧
        extract x ["reviews", "١", "name"] = .ok (.str "First") := by
  have hpath : extract exampleReviews ["reviews", "١", "name"] = .ok (.str "lume-data:headline") := by decide +kernel
  have hresolve : Resolver.standard.resolve examplePage exampleReviews =
      .ok (.map [(.str "reviews", .list [.null,
        .map [(.str "url", .str "https://example.com/posts/first/"), (.str "name", .str "First")]])]) := by
    decide +kernel
  have hname : Resolver.standard.resolve examplePage (.str "lume-data:headline") = .ok (.str "First") := by
    decide +kernel
  obtain ⟨y, hy, hat⟩ := resolve_at_path .standard examplePage exampleReviews _ _ ["reviews", "١", "name"] rfl
    (by decide +kernel) hpath hresolve
  obtain rfl := Except.ok.inj (hname.symm.trans hy)
  exact ⟨hpath, _, hresolve, hat⟩

end LinkedData.Resolver
