import LinkedData.Proofs.Resolver.Guard
import LinkedData.Proofs.Resolver.Path
import LinkedData.Proofs.Resolver.Survivors

/-!
# References that become null

A lookup refuses null where it finds it, but not what its filters make of the value that it found. So a reference
becomes null in one way only: a lookup in its chain passes its value through filters that end with null.

* `Resolver.YieldsNull`: lookups that become null, told by what is found and what the filters make of it;
* `Resolver.yieldsNull_of_null`, `Resolver.ends_null`: these are the lookups that resolve to null;
* `Resolver.Finds`, `Resolver.findsAll_of_resolve`: a resolution that succeeds has found a value for every lookup that
  it came to;
* `Resolver.null_only_from_filters`: when a reference becomes null.
-/

namespace LinkedData

namespace Resolver

variable {r : Resolver} {ctx : PageContext} {v w : Value} {ref : DataRef} {text : String}

/-- A lookup that becomes null: its filters make null of the value that is found, or they make a text of it that is
such a lookup again. -/
inductive YieldsNull (r : Resolver) (ctx : PageContext) : DataRef → Prop
  | filters {ref : DataRef} {u : Value} : extract (.map ctx.data) ref.path = .ok u → u ≠ .null →
      r.registry.apply u ref.filters = .ok .null → YieldsNull r ctx ref
  | lookup {ref next : DataRef} {text : String} : r.fetch ctx ref = .ok (.str text) →
      Reference.ofText text = .data next → YieldsNull r ctx next → YieldsNull r ctx ref

/-! ### results that are null -/

theorem yieldsNull_of_fetch (h : r.fetch ctx ref = .ok .null) : r.YieldsNull ctx ref := by
  obtain ⟨u, hu, hne, happly⟩ := found_of_fetch h
  exact YieldsNull.filters hu hne happly

/-- What resolves to null is null or a lookup that becomes null. -/
theorem yieldsNull_of_null (h : r.resolve ctx v = .ok .null) :
    v = .null ∨ ∃ text ref, v = .str text ∧ Reference.ofText text = .data ref ∧ r.YieldsNull ctx ref := by
  refine resolve_induct (P := fun v w => w = .null → v = .null ∨
    ∃ text ref, v = .str text ∧ Reference.ofText text = .data ref ∧ r.YieldsNull ctx ref)
    ?_ (fun _ _ _ hw => nomatch hw) (fun _ _ _ hw => nomatch hw) (fun _ _ _ hw => nomatch hw) ?_ h rfl
  · rintro s w _ hleaf rfl
    exact Or.inl (congrArg Value.scalar (null_of_resolveLeaf hleaf))
  · intro s ref u w hs hfetch hu hw
    obtain ⟨text, rfl, htext⟩ := Scalar.ref?_eq_some_iff.mp hs
    refine Or.inr ⟨text, ref, rfl, htext, ?_⟩
    rcases hu hw with rfl | ⟨text', next, rfl, hnext, hnull⟩
    · exact yieldsNull_of_fetch hfetch
    · exact YieldsNull.lookup hfetch hnext hnull

/-- The evaluation of such a lookup ends with null. -/
theorem ends_null (h : r.YieldsNull ctx ref) : ∀ text, Reference.ofText text = .data ref →
    ∃ c, r.Ends ctx (.str text) c ∧ c.outcome = .ok .null := by
  induction h with
  | @filters ref u hu _ happly =>
    intro text htext
    have hfetch : r.fetch ctx ref = .ok .null := bind_eq_ok.mpr ⟨u, hu, happly⟩
    have hs : (Scalar.str text).ref? = some ref := Scalar.ref?_eq_some_iff.mpr ⟨text, rfl, htext⟩
    have hnull : r.Ends ctx .null (.still (.ok .null)) := ⟨0, rfl⟩
    exact ⟨_, (ends_lookup_iff hs hfetch).mpr ⟨_, hnull, rfl⟩, rfl⟩
  | @lookup ref next text' hfetch hnext _ ih =>
    intro text htext
    have hs : (Scalar.str text).ref? = some ref := Scalar.ref?_eq_some_iff.mpr ⟨text, rfl, htext⟩
    obtain ⟨c, hc, hnull⟩ := ih text' hnext
    exact ⟨_, (ends_lookup_iff hs hfetch).mpr ⟨c, hc, rfl⟩, hnull⟩

/-- A text that resolves becomes null just if it is such a lookup. -/
theorem eq_null_iff (h : r.resolve ctx (.str text) = .ok w) :
    w = .null ↔ ∃ ref, Reference.ofText text = .data ref ∧ r.YieldsNull ctx ref := by
  constructor
  · rintro rfl
    rcases yieldsNull_of_null h with hnull | ⟨text', ref, hsame, htext, hyields⟩
    · cases hnull
    · obtain rfl := Scalar.str.inj (Value.scalar.inj hsame)
      exact ⟨ref, htext, hyields⟩
  · rintro ⟨ref, htext, hyields⟩
    obtain ⟨c, hc, hnull⟩ := ends_null hyields text htext
    obtain ⟨d, hd, _, hw⟩ := resolve_eq_ok_iff.mp h
    obtain rfl := hc.unique hd
    exact Except.ok.inj (hw.symm.trans hnull)

/-! ### values that are found -/

/-- The lookup finds a value other than null, and this passes its filters. -/
def Finds (r : Resolver) (ctx : PageContext) (ref : DataRef) : Prop :=
  ∃ u x, extract (.map ctx.data) ref.path = .ok u ∧ u ≠ .null ∧ r.registry.apply u ref.filters = .ok x

theorem finds_of_fetch {u : Value} (h : r.fetch ctx ref = .ok u) : r.Finds ctx ref := by
  obtain ⟨found, hfound, hne, happly⟩ := found_of_fetch h
  exact ⟨found, u, hfound, hne, happly⟩

/-- All lookups that are reached from the value find one. -/
def FindsAll (r : Resolver) (ctx : PageContext) (v : Value) : Prop :=
  ∀ s ref, r.Reaches ctx v s → s.ref? = some ref → r.Finds ctx ref

theorem FindsAll.of_part {α : Type} {vs : List Value} {ws : List α}
    (hws : List.Forall₂ (fun u _ => r.FindsAll ctx u) vs ws)
    (hv : ∀ t, .scalar t ∈ v.parts → ∃ u ∈ vs, .scalar t ∈ u.parts) : r.FindsAll ctx v := by
  intro s ref hs
  obtain ⟨u, hu, hreach⟩ := hs.of_part hv
  obtain ⟨_, _, hfinds⟩ := exists_right_of_mem hws hu
  exact hfinds s ref hreach

/-- A resolution that succeeds has found a value for every lookup that it came to. -/
theorem findsAll_of_resolve (h : r.resolve ctx v = .ok w) : r.FindsAll ctx v := by
  refine resolve_induct (P := fun v _ => r.FindsAll ctx v) ?_ ?_ ?_ ?_ ?_ h
  · intro s w hs _ t ref ht href
    rcases ht.of_scalar with rfl | ⟨_, _, href', _⟩
    · cases hs.symm.trans href
    · cases hs.symm.trans href'
  · intro vs ws hws
    exact FindsAll.of_part hws fun t ht => Value.leaf_of_list ht
  · intro vs ws hws
    exact FindsAll.of_part hws fun t ht => Value.leaf_of_tuple ht
  · intro es ws hws
    have hvalues : List.Forall₂ (fun u _ => r.FindsAll ctx u) (es.map Prod.snd) ws :=
      List.forall₂_map_left_iff.mpr (hws.imp fun e f he => he.2.2)
    refine FindsAll.of_part hvalues fun t ht => ?_
    obtain ⟨e, he, ht⟩ := Value.leaf_of_map ht
    exact ⟨e.2, List.mem_map_of_mem he, ht⟩
  · intro s found u w hs hfetch hu t ref ht href
    rcases ht.of_scalar with rfl | ⟨_, _, href', hfetch', hreach⟩
    · obtain rfl := Option.some.inj (hs.symm.trans href)
      exact finds_of_fetch hfetch
    · obtain rfl := Option.some.inj (hs.symm.trans href')
      obtain rfl := Except.ok.inj (hfetch.symm.trans hfetch')
      exact hu t ref hreach href

/-! ### references that become null -/

/-- **Only filters make null of a reference.** If a text resolves, then every lookup on the way finds a value other than
null, which passes the filters. The result is null just if the text is a lookup whose filters make null of such a
value, or a text that is such a lookup again, and so on. So it never is if no filter makes null of anything else, which
those of the standard registry do not (`Registry.standard_makesNoNull`). -/
theorem null_only_from_filters (r : Resolver) (ctx : PageContext) (text : String) (w : Value)
    (h : r.resolve ctx (.str text) = .ok w) :
    (w = .null ↔ ∃ ref, Reference.ofText text = .data ref ∧ r.YieldsNull ctx ref) ∧
      (∀ s ref, r.Reaches ctx (.str text) s → s.ref? = some ref → r.Finds ctx ref) ∧
      (r.registry.MakesNoNull → w ≠ .null) := by
  refine ⟨eq_null_iff h, findsAll_of_resolve h, fun hfilters => ?_⟩
  exact resolve_ne_null (fetch_ne_null_of_filters hfilters) h fun hnull => nomatch hnull

/-- A filter that makes null of every value. -/
def nullFilter : Filter := fun _ => .ok .null

/-- The standard filters and this one. -/
def withNullFilter : Resolver :=
  ⟨⟨[(minutesName, minutes), ("null", nullFilter)]⟩, standardDepth, standardDepth_pos⟩

/-- A page with a number, and two lookups of it, one by way of the other. -/
def numberPage : PageContext :=
  ⟨"/", [(.str "x", .int 1), (.str "y", .str "lume-data:x | null"), (.str "z", .str "lume-data:x | iso8601minutes")],
    exampleSite.url⟩

theorem numberPage_null_from_filter :
    withNullFilter.resolve numberPage (.str "lume-data:y") = .ok .null ∧
      withNullFilter.YieldsNull numberPage ⟨["y"], []⟩ ∧
      (∃ w, Resolver.standard.resolve numberPage (.str "lume-data:z") = .ok w ∧ w ≠ .null) := by
  have hnull : withNullFilter.resolve numberPage (.str "lume-data:y") = .ok .null := by decide +kernel
  have hminutes : Resolver.standard.resolve numberPage (.str "lume-data:z") = .ok (.str "PT1M") := by decide +kernel
  obtain ⟨ref, href, hyields⟩ := (null_only_from_filters withNullFilter numberPage _ _ hnull).1.mp rfl
  obtain rfl : (⟨["y"], []⟩ : DataRef) = ref := by
    have hread : Reference.ofText "lume-data:y" = .data ⟨["y"], []⟩ := by decide +kernel
    exact Reference.data.inj (hread.symm.trans href)
  have hnumber := (null_only_from_filters .standard numberPage _ _ hminutes).2.2 Registry.standard_makesNoNull
  exact ⟨hnull, hyields, _, hminutes, hnumber⟩

/-- A reference to a number becomes null. -/
theorem number_becomes_null :
    (Reference.ofText "lume-data:x | null").isReference = true ∧
      extract (.map numberPage.data) ["x"] = .ok (.int 1) ∧
      withNullFilter.resolve numberPage (.str "lume-data:x | null") = .ok .null := by
  refine ⟨?_, ?_, ?_⟩ <;> decide +kernel

end Resolver

end LinkedData
