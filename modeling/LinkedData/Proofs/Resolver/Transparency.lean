import LinkedData.Proofs.Resolver.Guard

/-!
# Lookups stand for their values

A lookup in a tree may be replaced by what it finds: the tree resolves to the same result, with one lookup less of the
limit wherever the value itself looks something up.

* `Resolver.Inlines`: a tree with some of its lookups replaced by their values;
* `Resolver.Carries`: whatever one tree resolves to, another one does, too, which holds of lists and mappings if it
  holds of what they are made of;
* `Resolver.Inlines.carries`: a tree carries to the one with the values, and this one back to it under higher limits;
* `Resolver.lookups_stand_for_values`: the same of results.
-/

namespace LinkedData.Resolver

/-! ### values in the place of lookups -/

/-- The second tree is the first one with some of its lookups replaced by what they find, after their filters. -/
inductive Inlines (r : Resolver) (ctx : PageContext) : Value → Value → Prop
  | leaf (s : Scalar) : Inlines r ctx (.scalar s) (.scalar s)
  | value {s : Scalar} {ref : DataRef} {u : Value} : s.ref? = some ref → r.fetch ctx ref = .ok u →
      Inlines r ctx (.scalar s) u
  | set (members : List Key) : Inlines r ctx (.set members) (.set members)
  | list {vs vs' : List Value} : List.Forall₂ (Inlines r ctx) vs vs' → Inlines r ctx (.list vs) (.list vs')
  | tuple {vs vs' : List Value} : List.Forall₂ (Inlines r ctx) vs vs' → Inlines r ctx (.tuple vs) (.tuple vs')
  | map {es es' : Entries} : es.map Prod.fst = es'.map Prod.fst →
      List.Forall₂ (fun e e' => Inlines r ctx e.2 e'.2) es es' → Inlines r ctx (.map es) (.map es')

/-! ### trees that carry over -/

/-- Whatever the tree `v` resolves to with `r`, the tree `v'` does with `r'`. -/
def Carries (r r' : Resolver) (ctx : PageContext) (v v' : Value) : Prop :=
  ∀ w, r.resolve ctx v = .ok w → r'.resolve ctx v' = .ok w

variable {r r' : Resolver} {ctx : PageContext}

section Carries

variable {vs vs' : List Value} {es es' : Entries}

theorem carries_list (h : List.Forall₂ (Carries r r' ctx) vs vs') : Carries r r' ctx (.list vs) (.list vs') := by
  intro w hw
  rw [resolve, resolveWithin, resolveTree, map_eq_ok] at hw ⊢
  obtain ⟨ws, hws, rfl⟩ := hw
  exact ⟨ws, resolveTreeL_eq_ok.mpr (forall₂_carry h (resolveTreeL_eq_ok.mp hws) fun _ _ w hv => hv w), rfl⟩

theorem carries_tuple (h : List.Forall₂ (Carries r r' ctx) vs vs') : Carries r r' ctx (.tuple vs) (.tuple vs') := by
  intro w hw
  rw [resolve, resolveWithin, resolveTree_tuple] at hw ⊢
  exact carries_list h w hw

theorem carries_map (hkeys : es.map Prod.fst = es'.map Prod.fst)
    (h : List.Forall₂ (fun e e' => Carries r r' ctx e.2 e'.2) es es') : Carries r r' ctx (.map es) (.map es') := by
  have hentries := forall₂_of_keys (R := Carries r r' ctx) hkeys h
  intro w hw
  rw [resolve, resolveWithin, resolveTree, map_eq_ok] at hw ⊢
  obtain ⟨ws, hws, rfl⟩ := hw
  refine ⟨ws, resolveTreeE_eq_ok.mpr (forall₂_carry hentries (resolveTreeE_eq_ok.mp hws) ?_), rfl⟩
  rintro e e' f ⟨hkey, hcarries⟩ ⟨htext, hname, hvalue⟩
  exact ⟨hkey ▸ htext, hname.trans hkey.symm, hcarries f.2 hvalue⟩

end Carries

/-- A higher limit keeps a result. -/
theorem carries_self (hreg : r'.registry = r.registry) (hdepth : r.maxDepth ≤ r'.maxDepth) (v : Value) :
    Carries r r' ctx v v := by
  intro w hw
  obtain ⟨c, hc, hle, hout⟩ := resolve_eq_ok_iff.mp hw
  exact resolve_eq_ok_iff.mpr ⟨c, (ends_congr hreg).mpr hc, Nat.le_trans hle hdepth, hout⟩

/-- A lookup carries to its value. -/
theorem carries_value {s : Scalar} {ref : DataRef} {u : Value} (hs : s.ref? = some ref)
    (hfetch : r.fetch ctx ref = .ok u) : Carries r r ctx (.scalar s) u := by
  intro w hw
  obtain ⟨c, hc, hle, hout⟩ := resolve_eq_ok_iff.mp hw
  obtain ⟨d, hd, rfl⟩ := (ends_lookup_iff hs hfetch).mp hc
  exact resolve_eq_ok_iff.mpr ⟨d, hd, Nat.le_of_succ_le hle, hout⟩

/-- The value of a lookup carries back to it under a higher limit. -/
theorem carries_lookup {s : Scalar} {ref : DataRef} {u : Value} (hs : s.ref? = some ref)
    (hfetch : r.fetch ctx ref = .ok u) (hreg : r'.registry = r.registry) (hdepth : r.maxDepth < r'.maxDepth) :
    Carries r r' ctx u (.scalar s) := by
  intro w hw
  obtain ⟨d, hd, hle, hout⟩ := resolve_eq_ok_iff.mp hw
  have hc : r.Ends ctx (.scalar s) d.inLookup := (ends_lookup_iff hs hfetch).mpr ⟨d, hd, rfl⟩
  exact resolve_eq_ok_iff.mpr ⟨d.inLookup, (ends_congr hreg).mpr hc, Nat.lt_of_le_of_lt hle hdepth, hout⟩

/-- A tree carries over to the one with values in the place of lookups, and this one back to it under higher limits.
One induction on the tree gives both directions. -/
theorem Inlines.carries {t t' : Value} (h : r.Inlines ctx t t') : Carries r r ctx t t' ∧
    ∀ r' : Resolver, r'.registry = r.registry → r.maxDepth < r'.maxDepth → Carries r r' ctx t' t := by
  induction t using Value.induct generalizing t' with
  | scalar s =>
    cases h with
    | leaf => exact ⟨fun _ hw => hw, fun r' hreg hdepth => carries_self hreg (Nat.le_of_lt hdepth) _⟩
    | value hs hfetch => exact ⟨carries_value hs hfetch, fun r' => carries_lookup hs hfetch⟩
  | set members =>
    cases h
    exact ⟨fun _ hw => hw, fun r' hreg hdepth => carries_self hreg (Nat.le_of_lt hdepth) _⟩
  | list vs ih =>
    cases h with
    | @list _ vs' hvs =>
      have hboth := forall₂_imp_mem hvs fun v hv v' => ih v hv
      refine ⟨carries_list (hboth.imp fun v v' hv => hv.1), fun r' hreg hdepth => ?_⟩
      exact carries_list (hboth.flip.imp fun v' v hv => hv.2 r' hreg hdepth)
  | tuple vs ih =>
    cases h with
    | @tuple _ vs' hvs =>
      have hboth := forall₂_imp_mem hvs fun v hv v' => ih v hv
      refine ⟨carries_tuple (hboth.imp fun v v' hv => hv.1), fun r' hreg hdepth => ?_⟩
      exact carries_tuple (hboth.flip.imp fun v' v hv => hv.2 r' hreg hdepth)
  | map es ih =>
    cases h with
    | @map _ es' hkeys hes =>
      have hboth := forall₂_imp_mem hes fun e he e' => ih e he
      refine ⟨carries_map hkeys (hboth.imp fun e e' he => he.1), fun r' hreg hdepth => ?_⟩
      exact carries_map hkeys.symm (hboth.flip.imp fun e' e he => he.2 r' hreg hdepth)

/-- **Lookups stand for their values.** If lookups of a tree are replaced by the values that they find, after their
filters, then what the tree resolves to, the new tree resolves to, and what the new tree resolves to under a limit, the
tree does under every higher limit. So the values do not lead back to the lookups that they stand for, and one lookup
more is all that they cost. -/
theorem lookups_stand_for_values (r : Resolver) (ctx : PageContext) (t t' w : Value) (h : r.Inlines ctx t t') :
    (r.resolve ctx t = .ok w → r.resolve ctx t' = .ok w) ∧
      ∀ r' : Resolver, r'.registry = r.registry → r.maxDepth < r'.maxDepth →
        r.resolve ctx t' = .ok w → r'.resolve ctx t = .ok w := by
  obtain ⟨hto, hback⟩ := h.carries
  exact ⟨hto w, fun r' hreg hdepth => hback r' hreg hdepth w⟩

/-- A page with an entry that looks up a list, in which there is a lookup again. -/
def listingPage : PageContext :=
  ⟨"/", [(.str "posts", .str "lume-data:latest"), (.str "latest", .list [.str "lume-data:title", .int 3]),
    (.str "title", .str "First")], exampleSite.url⟩

/-- A tree with two lookups, one of them with a filter, and one that is to stay. -/
def listing : Value :=
  .map [(.str "posts", .str "lume-data:posts"), (.str "time", .str "lume-data:latest.1 | iso8601minutes"),
    (.str "name", .str "lume-data:title")]

/-- The tree with what two of them find. -/
def listingValues : Value :=
  .map [(.str "posts", .str "lume-data:latest"), (.str "time", .str "PT3M"), (.str "name", .str "lume-data:title")]

theorem listing_stands_for_values :
    (ofLimit 1).Inlines listingPage listing listingValues ∧
      (ofLimit 1).resolve listingPage listing ≠ (ofLimit 1).resolve listingPage listingValues ∧
      (ofLimit 2).resolve listingPage listing = (ofLimit 1).resolve listingPage listingValues ∧
      (ofLimit 1).resolve listingPage listingValues =
        .ok (.map [(.str "posts", .list [.str "First", .int 3]), (.str "time", .str "PT3M"),
          (.str "name", .str "First")]) := by
  have hinlines : (ofLimit 1).Inlines listingPage listing listingValues := by
    refine Inlines.map rfl (.cons ?_ (.cons ?_ (.cons (Inlines.leaf _) .nil)))
    · have hs : (Scalar.str "lume-data:posts").ref? = some ⟨["posts"], []⟩ := by decide +kernel
      exact Inlines.value hs (by decide +kernel)
    · have hs : (Scalar.str "lume-data:latest.1 | iso8601minutes").ref? =
          some ⟨["latest", "1"], ["iso8601minutes"]⟩ := by
        decide +kernel
      exact Inlines.value hs (by decide +kernel)
  have hvalues : (ofLimit 1).resolve listingPage listingValues =
      .ok (.map [(.str "posts", .list [.str "First", .int 3]), (.str "time", .str "PT3M"),
        (.str "name", .str "First")]) := by
    decide +kernel
  have hback := (lookups_stand_for_values (ofLimit 1) listingPage listing listingValues _ hinlines).2
    (ofLimit 2) rfl (Nat.lt_succ_self 2) hvalues
  exact ⟨hinlines, by decide +kernel, hback.trans hvalues.symm, hvalues⟩

end LinkedData.Resolver
