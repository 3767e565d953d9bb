import LinkedData.Proofs.Resolver.TwoRuns
import LinkedData.Proofs.Value.Reordering

/-!
# The order of entries does not matter

A tree resolves or fails to resolve whatever the order of the entries in its mappings and in those of the page data,
although its parts are then resolved in another order and another failure may be the first.

* `ReordersTo`: an outcome that is a result if another one is, the same up to the order of entries;
* `Registry.standard_apply_reorders`, `Resolver.fetch_reorders`: what lookups find with the standard filters;
* `resolveTree_reorders`: trees, if the lookups in them do;
* `Resolver.follow_reorders`: lookups, under the same lookups and limit;
* `Resolver.resolve_reordered`: the resolution of a tree succeeds alike, with the same result up to order.
-/

namespace LinkedData

/-- If the first outcome is a result, so is the second, with the entries of mappings in another order. -/
def ReordersTo (o o' : Except Failure Value) : Prop := ∀ w, o = .ok w → ∃ w', o' = .ok w' ∧ w.Reorders w'

variable {v v' w : Value} {ctx ctx' : PageContext}

/-! ### values of lookups -/

theorem Registry.standard_apply_reorders (filters : List String) (h : v.Reorders v') :
    ReordersTo (Registry.standard.apply v filters) (Registry.standard.apply v' filters) := by
  intro w hw
  cases filters with
  | nil =>
    obtain rfl := Except.ok.inj hw
    exact ⟨v', rfl, h⟩
  | cons name filters =>
    -- a scalar has no other order
    obtain ⟨s, rfl⟩ := scalar_of_standard_apply hw
    obtain rfl := h.eq_of_scalar
    exact ⟨w, hw, Value.Reorders.refl w⟩

namespace Resolver

variable {r : Resolver} (hstandard : r.registry = .standard)
include hstandard

theorem fetch_reorders (hdata : (Value.map ctx.data).Reorders (.map ctx'.data))
    (hdistinct : (Value.map ctx.data).KeysDistinct) (ref : DataRef) :
    ReordersTo (r.fetch ctx ref) (r.fetch ctx' ref) := by
  intro w hw
  obtain ⟨u, hu, happly⟩ := bind_eq_ok.mp hw
  obtain ⟨u', hu', hR⟩ := hdata.extractFrom hdistinct hu
  rw [hstandard] at happly
  obtain ⟨w', hw', hRw⟩ := Registry.standard_apply_reorders ref.filters hR w happly
  exact ⟨w', bind_eq_ok.mpr ⟨u', hu', hstandard ▸ hw'⟩, hRw⟩

/-- The values of lookups have no key twice if the page data have none. -/
theorem keysDistinct_of_fetch (hdistinct : (Value.map ctx.data).KeysDistinct) {ref : DataRef}
    (hw : r.fetch ctx ref = .ok w) : w.KeysDistinct := by
  obtain ⟨u, hu, happly⟩ := bind_eq_ok.mp hw
  rw [hstandard] at happly
  rcases Registry.standard_apply_eq_ok happly with rfl | ⟨number, rfl⟩
  · exact hdistinct.of_mem_parts (extract_mem_parts hu)
  · exact Value.forall_parts_scalar.mpr Entries.distinct_nil

end Resolver

/-! ### trees -/

section Trees

variable {follow follow' : DataRef → Except Failure Value}

/-- Lists resolve to the same if their items do. -/
theorem resolveTree_list_reorders {vs vs' : List Value}
    (h : List.Forall₂ (fun v v' => ReordersTo (resolveTree follow ctx v) (resolveTree follow' ctx' v')) vs vs') :
    ReordersTo (resolveTree follow ctx (.list vs)) (resolveTree follow' ctx' (.list vs')) := by
  intro w hw
  rw [resolveTree, map_eq_ok] at hw
  obtain ⟨ws, hws, rfl⟩ := hw
  obtain ⟨ws', hws', hR⟩ := forall₂_lift h (resolveTreeL_eq_ok.mp hws) fun v v' w hv hw => hv w hw
  refine ⟨.list ws', ?_, Value.Reorders.list hR⟩
  rw [resolveTree, map_eq_ok]
  exact ⟨ws', resolveTreeL_eq_ok.mpr hws', rfl⟩

/-- Entries resolve one by one, and what they resolve to is brought into the order of the second ones. -/
theorem resolveTreeE_reorders {es es' ws : Entries}
    (h : Entries.Matches (fun v v' => ReordersTo (resolveTree follow ctx v) (resolveTree follow' ctx' v')) es es')
    (hws : resolveTreeE follow ctx es = .ok ws) :
    ∃ ws', resolveTreeE follow' ctx' es' = .ok ws' ∧ Entries.Matches Value.Reorders ws ws' := by
  obtain ⟨fs, hfs, hperm⟩ := h
  have hentry : ∀ e f g : Key × Value,
      f.1 = e.1 ∧ ReordersTo (resolveTree follow ctx e.2) (resolveTree follow' ctx' f.2) →
      e.1.isText = true ∧ g.1 = e.1 ∧ resolveTree follow ctx e.2 = .ok g.2 →
        ∃ g' : Key × Value, (f.1.isText = true ∧ g'.1 = f.1 ∧ resolveTree follow' ctx' f.2 = .ok g'.2) ∧
          g'.1 = g.1 ∧ g.2.Reorders g'.2 := by
    rintro e f g ⟨hkey, hvalue⟩ ⟨htext, hname, hw⟩
    obtain ⟨x, hx, hR⟩ := hvalue g.2 hw
    exact ⟨(f.1, x), ⟨hkey ▸ htext, rfl, hx⟩, hkey.trans hname.symm, hR⟩
  obtain ⟨xs, hxs, hR⟩ := forall₂_lift hfs (resolveTreeE_eq_ok.mp hws) hentry
  obtain ⟨ws', hws', hback⟩ := List.perm_comp_forall₂ hperm.symm hxs
  exact ⟨ws', resolveTreeE_eq_ok.mpr hws', xs, hR, hback.symm⟩

/-- Mappings resolve to the same if their values do. With distinct keys no entry of a result goes over another one. -/
theorem resolveTree_map_reorders {es es' : Entries} (hes : es.Distinct)
    (h : Entries.Matches (fun v v' => ReordersTo (resolveTree follow ctx v) (resolveTree follow' ctx' v')) es es') :
    ReordersTo (resolveTree follow ctx (.map es)) (resolveTree follow' ctx' (.map es')) := by
  intro w hw
  rw [resolveTree, map_eq_ok] at hw
  obtain ⟨ws, hws, rfl⟩ := hw
  obtain ⟨ws', hws', hmatches⟩ := resolveTreeE_reorders h hws
  have hdistinct : Entries.Distinct ws :=
    (Entries.distinct_congr (keys_eq ((resolveTreeE_eq_ok.mp hws).imp fun e f h => h.2.1))).mp hes
  have hdistinct' : Entries.Distinct ws' := by
    obtain ⟨xs, hxs, hperm⟩ := hmatches
    exact ((Entries.distinct_congr (keys_eq (hxs.imp fun e f h => h.1))).mp hdistinct).perm hperm
  refine ⟨.map ws', ?_, ?_⟩
  · rw [resolveTree, map_eq_ok]
    exact ⟨ws', hws', congrArg Value.map (Entries.ofList_of_distinct hdistinct')⟩
  · rw [Entries.ofList_of_distinct hdistinct]
    exact Value.reorders_map_iff.mpr hmatches

variable (hurl : ctx'.url = ctx.url) (hnormalize : ctx'.normalize = ctx.normalize)
include hurl hnormalize

/-- A tree resolves to the same if the lookups in it do. -/
theorem resolveTree_reorders (hfollow : ∀ ref, ReordersTo (follow ref) (follow' ref)) (h : v.Reorders v')
    (hv : v.KeysDistinct) : ReordersTo (resolveTree follow ctx v) (resolveTree follow' ctx' v') := by
  induction v using Value.induct generalizing v' with
  | scalar s =>
    obtain rfl := h.eq_of_scalar
    rw [resolveTree, resolveTree]
    cases hs : s.ref? with
    | none =>
      rw [resolveScalar_leaf hs, resolveScalar_leaf hs, resolveLeaf_congr hurl hnormalize]
      exact fun w hw => ⟨w, hw, Value.Reorders.refl w⟩
    | some ref =>
      rw [resolveScalar_ref hs, resolveScalar_ref hs]
      exact hfollow ref
  | set members =>
    intro w hw
    rw [resolveTree] at hw
    cases hw
  | list items ih =>
    cases h with
    | @list _ items' hitems =>
      have hall := (Value.forall_parts_list.mp hv).2
      exact resolveTree_list_reorders (forall₂_imp_mem hitems fun u hu u' hR => ih u hu hR (hall u hu))
  | tuple items ih =>
    cases h with
    | @tuple _ items' hitems =>
      have hall := (Value.forall_parts_tuple.mp hv).2
      rw [resolveTree_tuple, resolveTree_tuple]
      exact resolveTree_list_reorders (forall₂_imp_mem hitems fun u hu u' hR => ih u hu hR (hall u hu))
  | map es ih =>
    cases h with
    | @map _ fs es' hkeys hvalues hperm =>
      obtain ⟨hdistinct, hall⟩ := Value.forall_parts_map.mp hv
      have hentries := forall₂_of_keys (R := Value.Reorders) hkeys hvalues
      have hboth := forall₂_imp_mem hentries fun e he f hf => And.intro hf.1 (ih e he hf.2 (hall e he))
      exact resolveTree_map_reorders hdistinct ⟨fs, hboth, hperm⟩

end Trees

/-! ### chains of lookups -/

namespace Resolver

section Chains

variable {r : Resolver} (hstandard : r.registry = .standard) (hurl : ctx'.url = ctx.url) (hnormalize : ctx'.normalize = ctx.normalize)
  (hdata : (Value.map ctx.data).Reorders (.map ctx'.data)) (hdistinct : (Value.map ctx.data).KeysDistinct)
include hstandard hurl hnormalize hdata hdistinct

/-- Lookups resolve to the same. The induction is on what is left of the limit. -/
theorem follow_reorders (left : Nat) (chain : List DataRef) (ref : DataRef) :
    ReordersTo (r.follow ctx left chain ref) (r.follow ctx' left chain ref) := by
  induction left generalizing chain ref with
  | zero =>
    intro w hw
    cases hw
  | succ left ih =>
    by_cases hmem : ref ∈ chain
    · rw [follow_mem hmem, follow_mem hmem]
      intro w hw
      cases hw
    · rw [follow_succ hmem, follow_succ hmem]
      intro w hw
      obtain ⟨u, hu, hw⟩ := bind_eq_ok.mp hw
      obtain ⟨u', hu', hR⟩ := fetch_reorders hstandard hdata hdistinct ref u hu
      have hkeys := keysDistinct_of_fetch hstandard hdistinct hu
      obtain ⟨w', hw', hRw⟩ := resolveTree_reorders hurl hnormalize (ih (chain ++ [ref])) hR hkeys w hw
      exact ⟨w', bind_eq_ok.mpr ⟨u', hu', hw'⟩, hRw⟩

theorem resolve_reorders (h : v.Reorders v') (hv : v.KeysDistinct) :
    ReordersTo (r.resolve ctx v) (r.resolve ctx' v') :=
  resolveTree_reorders hurl hnormalize (follow_reorders hstandard hurl hnormalize hdata hdistinct _ _) h hv

end Chains

/-- **The order of entries does not matter.** If two trees, and the data of two pages with the same URL, are the same up
to the order of the entries of their mappings, at any depth, then with the standard filters and any limit the one tree
resolves on the one page if and only if the other does on the other, and to the same up to the order of entries. -/
theorem resolve_reordered (r : Resolver) (hstandard : r.registry = .standard) (url : String) (normalize : UrlNormalizer)
    (data data' : Entries) (v v' : Value) (hdata : (Value.map data).Reorders (.map data')) (h : v.Reorders v')
    (hdistinct : (Value.map data).KeysDistinct) (hv : v.KeysDistinct) :
    ((∃ w, r.resolve ⟨url, data, normalize⟩ v = .ok w) ↔ ∃ w', r.resolve ⟨url, data', normalize⟩ v' = .ok w') ∧
      ∀ w w', r.resolve ⟨url, data, normalize⟩ v = .ok w → r.resolve ⟨url, data', normalize⟩ v' = .ok w' → w.Reorders w' := by
  have hto : ReordersTo (r.resolve ⟨url, data, normalize⟩ v) (r.resolve ⟨url, data', normalize⟩ v') :=
    resolve_reorders hstandard rfl rfl hdata hdistinct h hv
  have hback : ReordersTo (r.resolve ⟨url, data', normalize⟩ v') (r.resolve ⟨url, data, normalize⟩ v) :=
    resolve_reorders hstandard rfl rfl hdata.symm (hdata.keysDistinct hdistinct) h.symm (h.keysDistinct hv)
  refine ⟨⟨fun ⟨w, hw⟩ => ?_, fun ⟨w', hw'⟩ => ?_⟩, fun w w' hw hw' => ?_⟩
  · obtain ⟨w', hw', _⟩ := hto w hw
    exact ⟨w', hw'⟩
  · obtain ⟨w, hw, _⟩ := hback w' hw'
    exact ⟨w, hw⟩
  · obtain ⟨x, hx, hR⟩ := hto w hw
    obtain rfl := Except.ok.inj (hx.symm.trans hw')
    exact hR

/-- The data of a page with a talk, whose title is that of the series. -/
def talkData : Entries :=
  [(.str "talks", .list [.map [(.str "title", .str "lume-data:series.name"), (.str "minutes", .int 45)]]),
    (.str "series", .map [(.str "name", .str "Notes"), (.str "place", .str "Online")])]

/-- The same data with all entries the other way round. -/
def turnedTalkData : Entries :=
  [(.str "series", .map [(.str "place", .str "Online"), (.str "name", .str "Notes")]),
    (.str "talks", .list [.map [(.str "minutes", .int 45), (.str "title", .str "lume-data:series.name")]])]

/-- A tree that looks up the talk as it is, and how long it takes. -/
def talkTree : Value :=
  .map [(.str "subEvent", .str "lume-data:talks.0"),
    (.str "duration", .str "lume-data:talks.0.minutes | iso8601minutes")]

/-- The same tree with its entries the other way round. -/
def turnedTalkTree : Value :=
  .map [(.str "duration", .str "lume-data:talks.0.minutes | iso8601minutes"),
    (.str "subEvent", .str "lume-data:talks.0")]

theorem talkData_reorders : (Value.map talkData).Reorders (.map turnedTalkData) := by
  have htalk : (Value.map [(.str "title", .str "lume-data:series.name"), (.str "minutes", .int 45)]).Reorders
      (.map [(.str "minutes", .int 45), (.str "title", .str "lume-data:series.name")]) :=
    Value.Reorders.of_perm (List.Perm.swap _ _ [])
  have hseries : (Value.map [(.str "name", .str "Notes"), (.str "place", .str "Online")]).Reorders
      (.map [(.str "place", .str "Online"), (.str "name", .str "Notes")]) :=
    Value.Reorders.of_perm (List.Perm.swap _ _ [])
  refine Value.reorders_map_iff.mpr ⟨_, ?_, List.Perm.swap _ _ []⟩
  exact .cons ⟨rfl, .list (.cons htalk .nil)⟩ (.cons ⟨rfl, hseries⟩ .nil)

/-- The talk stands in the result as it does in the page data, each time in the order there. -/
theorem talkTree_resolves_reordered :
    (Value.map talkData).Reorders (.map turnedTalkData) ∧ talkTree.Reorders turnedTalkTree ∧
      (Value.map talkData).KeysDistinct ∧ talkTree.KeysDistinct ∧
      ∃ w w', Resolver.standard.resolve ⟨"/", talkData, exampleSite.url⟩ talkTree = .ok w ∧
        Resolver.standard.resolve ⟨"/", turnedTalkData, exampleSite.url⟩ turnedTalkTree = .ok w' ∧
        w ≠ w' ∧ w.Reorders w' := by
  have htree : talkTree.Reorders turnedTalkTree := Value.Reorders.of_perm (List.Perm.swap _ _ [])
  have hdata : (Value.map talkData).KeysDistinct := by decide +kernel
  have hkeys : talkTree.KeysDistinct := by decide +kernel
  have hfirst : Resolver.standard.resolve ⟨"/", talkData, exampleSite.url⟩ talkTree =
      .ok (.map [(.str "subEvent", .map [(.str "title", .str "Notes"), (.str "minutes", .int 45)]),
        (.str "duration", .str "PT45M")]) := by
    decide +kernel
  obtain ⟨hiff, hsame⟩ := resolve_reordered .standard rfl "/" exampleSite.url talkData turnedTalkData talkTree
    turnedTalkTree talkData_reorders htree hdata hkeys
  obtain ⟨w', hw'⟩ := hiff.mp ⟨_, hfirst⟩
  have hdiffer : Resolver.standard.resolve ⟨"/", talkData, exampleSite.url⟩ talkTree ≠
      Resolver.standard.resolve ⟨"/", turnedTalkData, exampleSite.url⟩ turnedTalkTree := by
    decide +kernel
  refine ⟨talkData_reorders, htree, hdata, hkeys, _, w', hfirst, hw', ?_, hsame _ w' hfirst hw'⟩
  rintro rfl
  exact hdiffer (hfirst.trans hw'.symm)

end Resolver

end LinkedData
