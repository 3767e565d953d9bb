import LinkedData.Proofs.Calendar.Timestamp
import LinkedData.Proofs.Resolver.Output
import LinkedData.Proofs.Site.Url

/-!
# Which references survive resolution

The URL of a path that is itself written like a reference is that path, and the URLs of a site whose location has a
reserved scheme all begin with it. In both cases the result holds a reference, and in no other case:

* `Resolver.Reaches`: the leaves of a tree and of the values of the lookups in it;
* `Resolver.Yields`: what those of them that are no lookups resolve to, which is what the leaves of the result are
  (`Resolver.leaf_of_result`, `Resolver.leaf_in_result`);
* `Resolver.AsksFor`: the paths whose URLs stand in the result;
* `Resolver.resolveTree_of_no_reference`: a value of JSON without references resolves to itself;
* `Resolver.references_survive_in_urls`: when a result holds a reference.
-/

namespace LinkedData

open Calendar

/-! ### references in values -/

/-- A text that is a reference. -/
def Value.isReference : Value → Bool
  | .str text => (Reference.ofText text).isReference
  | _ => false

/-- Some text of the value is a reference. -/
def Value.HoldsReference (v : Value) : Prop := ∃ x ∈ v.parts, x.isReference = true

instance (v : Value) : Decidable v.HoldsReference := inferInstanceAs (Decidable (∃ x ∈ v.parts, _))

theorem Value.holdsReference_iff {v : Value} :
    v.HoldsReference ↔ ∃ text, .str text ∈ v.parts ∧ (Reference.ofText text).isReference = true := by
  constructor
  · rintro ⟨x, hx, href⟩
    unfold isReference at href
    split at href
    · exact ⟨_, hx, href⟩
    · cases href
  · rintro ⟨text, hx, href⟩
    exact ⟨_, hx, href⟩

namespace Resolver

variable {r : Resolver} {ctx : PageContext} {v w : Value}

/-! ### leaves that are reached -/

/-- A leaf of a tree, or of the value of a lookup in it, or of one in that value, and so on. -/
inductive Reaches (r : Resolver) (ctx : PageContext) : Value → Scalar → Prop
  | leaf {v : Value} {s : Scalar} : .scalar s ∈ v.parts → Reaches r ctx v s
  | lookup {v u : Value} {s t : Scalar} {ref : DataRef} : .scalar s ∈ v.parts → s.ref? = some ref →
      r.fetch ctx ref = .ok u → Reaches r ctx u t → Reaches r ctx v t

theorem Reaches.mono {u : Value} {s : Scalar} (h : r.Reaches ctx u s) (hv : ∀ x ∈ u.parts, x ∈ v.parts) :
    r.Reaches ctx v s := by
  cases h with
  | leaf hs => exact Reaches.leaf (hv _ hs)
  | lookup hs href hfetch ht => exact Reaches.lookup (hv _ hs) href hfetch ht

/-- What is reached from a value is reached from a part that a leaf of the value belongs to. -/
theorem Reaches.of_part {us : List Value} {s : Scalar} (h : r.Reaches ctx v s)
    (hv : ∀ t, .scalar t ∈ v.parts → ∃ u ∈ us, .scalar t ∈ u.parts) : ∃ u ∈ us, r.Reaches ctx u s := by
  cases h with
  | leaf hs =>
    obtain ⟨u, hu, hs⟩ := hv s hs
    exact ⟨u, hu, Reaches.leaf hs⟩
  | lookup hs href hfetch ht =>
    obtain ⟨u, hu, hs⟩ := hv _ hs
    exact ⟨u, hu, Reaches.lookup hs href hfetch ht⟩

/-- A leaf is reached from a leaf by way of its lookup, unless it is the same. -/
theorem Reaches.of_scalar {s t : Scalar} (h : r.Reaches ctx (.scalar s) t) :
    t = s ∨ ∃ ref u, s.ref? = some ref ∧ r.fetch ctx ref = .ok u ∧ r.Reaches ctx u t := by
  cases h with
  | leaf hmem => exact Or.inl (Value.scalar.inj (Value.mem_parts_scalar.mp hmem))
  | lookup hmem href hfetch ht =>
    obtain rfl := Value.scalar.inj (Value.mem_parts_scalar.mp hmem)
    exact Or.inr ⟨_, _, href, hfetch, ht⟩

/-- A leaf that is reached and is no lookup resolves to the leaf `t`. -/
def Yields (r : Resolver) (ctx : PageContext) (v : Value) (t : Scalar) : Prop :=
  ∃ s, r.Reaches ctx v s ∧ s.ref? = none ∧ resolveLeaf ctx s = .ok (.scalar t)

theorem Yields.mono {u : Value} {t : Scalar} (h : r.Yields ctx u t) (hv : ∀ x ∈ u.parts, x ∈ v.parts) :
    r.Yields ctx v t := by
  obtain ⟨s, hs, hleaf⟩ := h
  exact ⟨s, hs.mono hv, hleaf⟩

theorem Yields.of_part {us : List Value} {t : Scalar} (h : r.Yields ctx v t)
    (hv : ∀ s, .scalar s ∈ v.parts → ∃ u ∈ us, .scalar s ∈ u.parts) : ∃ u ∈ us, r.Yields ctx u t := by
  obtain ⟨s, hs, hleaf⟩ := h
  obtain ⟨u, hu, hs⟩ := hs.of_part hv
  exact ⟨u, hu, s, hs, hleaf⟩

theorem yields_scalar {s t : Scalar} (hs : s.ref? = none) (h : r.Yields ctx (.scalar s) t) :
    resolveLeaf ctx s = .ok (.scalar t) := by
  obtain ⟨s', hreach, _, hleaf⟩ := h
  rcases hreach.of_scalar with rfl | ⟨ref, _, href, _⟩
  · exact hleaf
  · cases hs.symm.trans href

theorem yields_lookup {s t : Scalar} {ref : DataRef} {u : Value} (hs : s.ref? = some ref)
    (hfetch : r.fetch ctx ref = .ok u) (h : r.Yields ctx (.scalar s) t) : r.Yields ctx u t := by
  obtain ⟨s', hreach, hnone, hleaf⟩ := h
  rcases hreach.of_scalar with rfl | ⟨ref', u', href, hfetch', hreach⟩
  · cases hs.symm.trans hnone
  · obtain rfl := Option.some.inj (hs.symm.trans href)
    obtain rfl := Except.ok.inj (hfetch.symm.trans hfetch')
    exact ⟨s', hreach, hnone, hleaf⟩

/-! ### leaves of a result -/

theorem leaf_of_items {vs ws : List Value} {t : Scalar} (hparts : ∀ u ∈ vs, ∀ x ∈ u.parts, x ∈ v.parts)
    (hws : List.Forall₂ (fun v w => ∀ t, .scalar t ∈ w.parts → r.Yields ctx v t) vs ws)
    (ht : .scalar t ∈ (Value.list ws).parts) : r.Yields ctx v t := by
  obtain ⟨w, hw, ht⟩ := Value.leaf_of_list ht
  obtain ⟨u, hu, hyields⟩ := exists_left_of_mem hws hw
  exact (hyields t ht).mono (hparts u hu)

/-- Every leaf of a result is the resolution of a leaf that is reached. -/
theorem leaf_of_result (h : r.resolve ctx v = .ok w) : ∀ t, .scalar t ∈ w.parts → r.Yields ctx v t := by
  refine resolve_induct (P := fun v w => ∀ t, .scalar t ∈ w.parts → r.Yields ctx v t) ?_ ?_ ?_ ?_ ?_ h
  · intro s w hs hw t ht
    obtain ⟨t', rfl, _⟩ := resolveLeaf_ok hw
    obtain rfl := Value.scalar.inj (Value.mem_parts_scalar.mp ht)
    exact ⟨s, Reaches.leaf (Value.mem_parts_self _), hs, hw⟩
  · intro vs ws hws t ht
    exact leaf_of_items (fun u hu x hx => Value.mem_parts_list.mpr (Or.inr ⟨u, hu, hx⟩)) hws ht
  · intro vs ws hws t ht
    exact leaf_of_items (fun u hu x hx => Value.mem_parts_tuple.mpr (Or.inr ⟨u, hu, hx⟩)) hws ht
  · intro es ws hws t ht
    obtain ⟨f, hf, ht⟩ := Value.leaf_of_map ht
    obtain ⟨f', hf', hval⟩ := (Entries.forall_ofList (P := fun _ => True) (Q := fun w => ∃ f ∈ ws, f.2 = w)
      (fun f hf => ⟨trivial, f, hf, rfl⟩) f hf).2
    obtain ⟨e, he, _, _, hyields⟩ := exists_left_of_mem hws hf'
    exact (hyields t (hval ▸ ht)).mono fun x hx => Value.mem_parts_map.mpr (Or.inr ⟨e, he, hx⟩)
  · intro s ref u w hs hfetch hw t ht
    obtain ⟨s', hreach, hleaf⟩ := hw t ht
    exact ⟨s', Reaches.lookup (Value.mem_parts_self _) hs hfetch hreach, hleaf⟩

theorem leaf_in_items {vs ws : List Value} {t : Scalar} (hvs : ∀ u ∈ vs, u.KeysDistinct)
    (hws : List.Forall₂ (fun v w => v.KeysDistinct → ∀ t, r.Yields ctx v t → .scalar t ∈ w.parts) vs ws)
    (h : ∃ u ∈ vs, r.Yields ctx u t) : .scalar t ∈ (Value.list ws).parts := by
  obtain ⟨u, hu, ht⟩ := h
  obtain ⟨w, hw, hleaf⟩ := exists_right_of_mem hws hu
  exact Value.mem_parts_list.mpr (Or.inr ⟨w, hw, hleaf (hvs u hu) t ht⟩)

/-- Every leaf that is reached is in the result, if no mapping has a key twice. -/
theorem leaf_in_result (hfetch : ∀ ref u, r.fetch ctx ref = .ok u → u.KeysDistinct) (hv : v.KeysDistinct)
    (h : r.resolve ctx v = .ok w) : ∀ t, r.Yields ctx v t → .scalar t ∈ w.parts := by
  refine resolve_induct (P := fun v w => v.KeysDistinct → ∀ t, r.Yields ctx v t → .scalar t ∈ w.parts)
    ?_ ?_ ?_ ?_ ?_ h hv
  · intro s w hs hw _ t ht
    obtain rfl := Except.ok.inj (hw.symm.trans (yields_scalar hs ht))
    exact Value.mem_parts_self _
  · intro vs ws hws hvs t ht
    exact leaf_in_items (Value.forall_parts_list.mp hvs).2 hws (ht.of_part fun s hs => Value.leaf_of_list hs)
  · intro vs ws hws hvs t ht
    exact leaf_in_items (Value.forall_parts_tuple.mp hvs).2 hws (ht.of_part fun s hs => Value.leaf_of_tuple hs)
  · intro es ws hws hes t ht
    obtain ⟨hdistinct, hes⟩ := Value.forall_parts_map.mp hes
    have hkeys := keys_eq (hws.imp fun e f h => h.2.1)
    rw [Entries.ofList_of_distinct ((Entries.distinct_congr hkeys).mp hdistinct)]
    obtain ⟨u, hu, ht⟩ : ∃ u ∈ es.map Prod.snd, r.Yields ctx u t := ht.of_part fun s hs => by
      obtain ⟨e, he, hs⟩ := Value.leaf_of_map hs
      exact ⟨e.2, List.mem_map_of_mem he, hs⟩
    obtain ⟨e, he, rfl⟩ := List.mem_map.mp hu
    obtain ⟨f, hf, _, _, hleaf⟩ := exists_right_of_mem hws he
    exact Value.mem_parts_map.mpr (Or.inr ⟨f, hf, hleaf (hes e he) t ht⟩)
  · intro s ref u w hs hu hw _ t ht
    exact hw (hfetch ref u hu) t (yields_lookup hs hu ht)

/-! ### references among the leaves -/

/-- A leaf that is reached asks for the URL of the path. -/
def AsksFor (r : Resolver) (ctx : PageContext) (v : Value) (path : String) : Prop :=
  ∃ text, r.Reaches ctx v (.str text) ∧
    (Reference.ofText text = .siteUrl path ∨ Reference.ofText text = .pageUrl ∧ path = ctx.url)

/-- A timestamp begins with a digit and is no reference. -/
theorem timestamp_not_reference {t : DateTime} {text : String} (h : resolveMoment t = .ok (.str text)) :
    (Reference.ofText text).isReference = false := by
  obtain ⟨cs, hcs, htext⟩ := resolveMoment_eq_ok.mp h
  obtain rfl := Scalar.str.inj (Value.scalar.inj htext)
  obtain ⟨u, _, _, rfl⟩ := timestamp?_eq_some_iff.mp hcs
  obtain ⟨c, rest, hstamp, hc⟩ := u.stamp_head
  refine Bool.eq_false_iff.mpr fun href => ?_
  rw [Reference.isReference_iff, String.toList_ofList, hstamp] at href
  have hne : ∀ (c' : Char) (name more : List Char), c' :: name <+: c :: more → c' = c := by
    intro c' name more hpre
    exact (List.cons_prefix_cons.mp hpre).1
  rcases href with href | href
  · rw [← hne 's' _ _ href] at hc
    exact absurd hc (by decide)
  · rw [← hne 'l' _ _ href] at hc
    exact absurd hc (by decide)

/-- The references among the leaves that are reached are the URLs that read as references. -/
theorem yields_reference_iff :
    (∃ text, r.Yields ctx v (.str text) ∧ (Reference.ofText text).isReference = true) ↔
      ∃ path, r.AsksFor ctx v path ∧ (Reference.ofText (ctx.normalize path true)).isReference = true := by
  constructor
  · rintro ⟨text, ⟨s, hreach, hs, hleaf⟩, href⟩
    cases s with
    | str given =>
      obtain rfl := Scalar.str.inj (Value.scalar.inj (Except.ok.inj hleaf))
      unfold PageContext.expand at href
      rw [Scalar.ref?] at hs
      cases hgiven : Reference.ofText given with
      | plain given' => simp [hgiven, Reference.isReference] at href
      | pageUrl =>
        rw [hgiven] at href
        exact ⟨ctx.url, ⟨given, hreach, Or.inr ⟨hgiven, rfl⟩⟩, href⟩
      | siteUrl path =>
        rw [hgiven] at href
        exact ⟨path, ⟨given, hreach, Or.inl hgiven⟩, href⟩
      | data ref =>
        rw [hgiven] at hs
        cases hs
    | date d => exact absurd href (Bool.eq_false_iff.mp (timestamp_not_reference hleaf))
    | datetime t => exact absurd href (Bool.eq_false_iff.mp (timestamp_not_reference hleaf))
    | float x =>
      rw [resolveLeaf] at hleaf
      split at hleaf <;> cases hleaf
    | null | bool _ | int _ | bytes _ | time _ | decimal _ => cases hleaf
  · rintro ⟨path, ⟨given, hreach, hgiven⟩, href⟩
    refine ⟨ctx.normalize path true, ⟨.str given, hreach, ?_, ?_⟩, href⟩
    · rcases hgiven with hgiven | ⟨hgiven, _⟩ <;> simp only [Scalar.ref?, hgiven, Reference.ref?]
    · rw [resolveLeaf, PageContext.expand]
      rcases hgiven with hgiven | ⟨hgiven, rfl⟩ <;> simp only [hgiven]

/-! ### results without references -/

/-- A value of JSON without references resolves to itself, whatever lookups there might be. -/
theorem resolveTree_of_no_reference (hv : v.IsJson) (href : ¬ v.HoldsReference)
    (follow : DataRef → Except Failure Value) (ctx : PageContext) : resolveTree follow ctx v = .ok v := by
  have hall : ∀ x ∈ v.parts, (x.HasForm ∧ x.isTuple = false) ∧ x.isReference = false := fun x hx =>
    ⟨hv x hx, Bool.eq_false_iff.mpr fun h => href ⟨x, hx, h⟩⟩
  clear hv href
  induction v using Value.induct with
  | scalar s =>
    obtain ⟨⟨hform, _⟩, hplain⟩ := Value.forall_parts_scalar.mp hall
    rw [resolveTree]
    cases s with
    | str text =>
      have hplain := Reference.plain_of_not_isReference hplain
      have hnone : (Scalar.str text).ref? = none := by simp only [Scalar.ref?, hplain, Reference.ref?]
      rw [resolveScalar_leaf hnone, resolveLeaf, PageContext.expand, hplain]
    | float x =>
      have hfinite : x.isFinite = true := hform
      rw [resolveScalar_leaf rfl, resolveLeaf, if_pos hfinite]
    | null | bool _ | int _ => rfl
    | bytes _ | date _ | datetime _ | time _ | decimal _ => cases hform
  | set members => exact (hall _ (Value.mem_parts_self _)).1.1.elim
  | list items ih =>
    have hitems := (Value.forall_parts_list.mp hall).2
    rw [resolveTree, map_eq_ok]
    exact ⟨items, resolveTreeL_eq_ok.mpr (List.forall₂_same.mpr fun u hu => ih u hu (hitems u hu)), rfl⟩
  | tuple items ih =>
    have htuple := (hall _ (Value.mem_parts_self _)).1.2
    cases htuple
  | map es ih =>
    obtain ⟨⟨⟨⟨hdistinct, hkeys⟩, _⟩, _⟩, hes⟩ := Value.forall_parts_map.mp hall
    rw [resolveTree, map_eq_ok]
    refine ⟨es, resolveTreeE_eq_ok.mpr (List.forall₂_same.mpr fun e he => ?_), ?_⟩
    · exact ⟨hkeys e he, rfl, ih e he (hes e he)⟩
    · rw [Entries.ofList_of_distinct hdistinct]

theorem resolve_of_no_reference (hv : v.IsJson) (href : ¬ v.HoldsReference) (r : Resolver) (ctx : PageContext) :
    r.resolve ctx v = .ok v :=
  resolveTree_of_no_reference hv href _ ctx

/-! ### which references survive -/

/-- **References survive in URLs.** On a page of a site at any location, a result holds a reference only if the tree
or the value of a lookup asks for the URL of a path that is itself written like a reference, or of any path to be put
below the origin of a site whose location has a reserved scheme. As mappings do not have keys twice, it holds one in
all of these cases. A result that holds no reference resolves to itself, with every resolver and on every page. -/
theorem references_survive_in_urls (r : Resolver) (ctx : PageContext) (v w : Value) (location : String) (site : Site)
    (hsite : Site.ofLocation location = .ok site) (hurls : ctx.normalize = site.url) (h : r.resolve ctx v = .ok w) :
    (w.HoldsReference → ∃ path, r.AsksFor ctx v path ∧
      ((Reference.ofText path).isReference = true ∨
        Site.passes path.toList = false ∧ (Reference.ofText site.origin).isReference = true)) ∧
    (v.KeysDistinct → (∀ ref u, r.fetch ctx ref = .ok u → u.KeysDistinct) →
      (∃ path, r.AsksFor ctx v path ∧
        ((Reference.ofText path).isReference = true ∨
          Site.passes path.toList = false ∧ (Reference.ofText site.origin).isReference = true)) →
      w.HoldsReference) ∧
    (¬ w.HoldsReference → ∀ (r' : Resolver) (ctx' : PageContext), r'.resolve ctx' w = .ok w) := by
  refine ⟨fun href => ?_, fun hv hfetch hpath => ?_, fun href => resolve_of_no_reference (resolve_isJson h) href⟩
  · obtain ⟨text, hmem, href⟩ := Value.holdsReference_iff.mp href
    obtain ⟨path, hasks, hurl⟩ := yields_reference_iff.mp ⟨text, leaf_of_result h _ hmem, href⟩
    rw [hurls] at hurl
    exact ⟨path, hasks, (Site.url_isReference_iff hsite path).mp hurl⟩
  · obtain ⟨path, hasks, hurl⟩ := hpath
    have hasked := (Site.url_isReference_iff hsite path).mpr hurl
    rw [← hurls] at hasked
    obtain ⟨text, hyields, href⟩ := yields_reference_iff.mpr ⟨path, hasks, hasked⟩
    exact Value.holdsReference_iff.mpr ⟨text, leaf_in_result hfetch hv h _ hyields, href⟩

theorem examplePage_resolves_once :
    ∃ w, Resolver.standard.resolve examplePage
        (.map [(.str "url", .str "site-url:self"), (.str "author", .list [.str "site-url:/about/?from=posts"]),
          (.str "name", .str "lume-data:headline")]) = .ok w ∧
      ∀ (r : Resolver) (ctx : PageContext), r.resolve ctx w = .ok w := by
  have hsite : Site.ofLocation "https://example.com/" = .ok exampleSite := by decide +kernel
  have h : Resolver.standard.resolve examplePage
      (.map [(.str "url", .str "site-url:self"), (.str "author", .list [.str "site-url:/about/?from=posts"]),
        (.str "name", .str "lume-data:headline")]) =
      .ok (.map [(.str "url", .str "https://example.com/posts/first/"),
        (.str "author", .list [.str "https://example.com/about/?from=posts"]), (.str "name", .str "First")]) := by
    decide +kernel
  obtain ⟨_, _, hagain⟩ := references_survive_in_urls .standard examplePage _ _ _ _ hsite rfl h
  exact ⟨_, h, hagain (by decide +kernel)⟩

/-- A path that is itself written like a reference to a path of the site. -/
theorem nested_reference_survives :
    Site.ofLocation "https://example.com/" = .ok exampleSite ∧ examplePage.normalize = exampleSite.url ∧
      Resolver.standard.resolve examplePage (.str "site-url:site-url:/x") = .ok (.str "site-url:/x") ∧
      Value.HoldsReference (.str "site-url:/x") ∧
      Resolver.standard.resolve examplePage (.str "site-url:/x") ≠ .ok (.str "site-url:/x") := by
  refine ⟨?_, rfl, ?_, ?_, ?_⟩ <;> decide +kernel

end Resolver

end LinkedData
