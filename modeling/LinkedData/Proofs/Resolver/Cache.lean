import LinkedData.Proofs.Resolver.Chain

/-!
# Lookups that are resolved once

As the chain does not decide on its value, a lookup need not be resolved again where a resolution comes to it for the
second time. A resolution that remembers the values of lookups ends as one that does not, if this one is not cut.

* `Cache`: the values of lookups that are remembered;
* `recallTree`, `Resolver.recallRef`, `Resolver.recallWithin`: a tree, a lookup and a tree under a chain, resolved with
  a cache at hand;
* `Resolver.Recalls`: a cache in which all values are those of their lookups, whatever was under way;
* `Resolver.Tallies`: how an outcome with a cache compares with one without;
* `Resolver.chain_only_cuts`: what a chain decides on.
-/

namespace LinkedData

/-- The values of some lookups, the last one that was resolved first. -/
abbrev Cache := List (DataRef × Value)

/-- What is remembered of a lookup, or else what it is resolved to, which is remembered from then on. -/
def Cache.recallOr (cache : Cache) (ref : DataRef) (resolved : Except Failure (Value × Cache)) :
    Except Failure (Value × Cache) :=
  match cache.lookup ref with
  | some w => .ok (w, cache)
  | none => resolved.map fun p => (p.1, (ref, p.1) :: p.2)

/-! ### trees -/

mutual
/-- A tree with its references resolved, those to page data by `recallRef`, which takes a cache and leaves another. -/
def recallTree (recallRef : DataRef → Cache → Except Failure (Value × Cache)) (ctx : PageContext) :
    Value → Cache → Except Failure (Value × Cache)
  | .scalar s, cache =>
    match s.ref? with
    | some ref => recallRef ref cache
    | none => (resolveLeaf ctx s).map fun w => (w, cache)
  | .set members, _ => .error (.ofFault (.unsupported (.set members)))
  | .list items, cache => (recallTreeL recallRef ctx items cache).map (Prod.map .list id)
  | .tuple items, cache => (recallTreeL recallRef ctx items cache).map (Prod.map .list id)
  | .map entries, cache =>
    (recallTreeE recallRef ctx entries cache).map (Prod.map (fun es => .map (Entries.ofList es)) id)
def recallTreeL (recallRef : DataRef → Cache → Except Failure (Value × Cache)) (ctx : PageContext) :
    List Value → Cache → Except Failure (List Value × Cache)
  | [], cache => .ok ([], cache)
  | v :: vs, cache =>
    recallTree recallRef ctx v cache >>= fun p => (recallTreeL recallRef ctx vs p.2).map (Prod.map (p.1 :: ·) id)
def recallTreeE (recallRef : DataRef → Cache → Except Failure (Value × Cache)) (ctx : PageContext) :
    List (Key × Value) → Cache → Except Failure (List (Key × Value) × Cache)
  | [], cache => .ok ([], cache)
  | (k, v) :: es, cache =>
    match k with
    | .str name =>
      recallTree recallRef ctx v cache >>= fun p =>
        (recallTreeE recallRef ctx es p.2).map (Prod.map ((.str name, p.1) :: ·) id)
    | other => .error (.ofFault (.unsupported other.toValue))
end

section Entries

variable {recallRef : DataRef → Cache → Except Failure (Value × Cache)} {ctx : PageContext}

theorem recallTreeE_cons (name : String) (v : Value) (es : List (Key × Value)) (cache : Cache) :
    recallTreeE recallRef ctx ((.str name, v) :: es) cache =
      recallTree recallRef ctx v cache >>= fun p =>
        (recallTreeE recallRef ctx es p.2).map (Prod.map ((.str name, p.1) :: ·) id) := by
  rw [recallTreeE]

theorem recallTreeE_cons_of_ne {k : Key} (h : ∀ name, k ≠ .str name) (v : Value) (es : List (Key × Value))
    (cache : Cache) :
    recallTreeE recallRef ctx ((k, v) :: es) cache = .error (.ofFault (.unsupported k.toValue)) := by
  rw [recallTreeE]
  intro name hk
  exact absurd hk (h name)

end Entries

namespace Resolver

/-! ### lookups -/

/-- The value of a lookup, remembered or else resolved while the lookups of `chain` are under way and so many more are
allowed. -/
def recallRef (r : Resolver) (ctx : PageContext) : Nat → List DataRef → DataRef → Cache → Except Failure (Value × Cache)
  | 0, chain, ref, cache => cache.recallOr ref (.error (.ofFault (.cyclic (chain ++ [ref]) r.maxDepth)))
  | left + 1, chain, ref, cache =>
    cache.recallOr ref <|
      if ref ∈ chain then .error (.ofFault (.cyclic (chain ++ [ref]) r.maxDepth))
      else r.fetch ctx ref >>= fun v => recallTree (r.recallRef ctx left (chain ++ [ref])) ctx v cache

/-- A tree, resolved with a cache while the lookups of `chain` are under way. -/
def recallWithin (r : Resolver) (ctx : PageContext) (chain : List DataRef) (v : Value) (cache : Cache) :
    Except Failure (Value × Cache) :=
  recallTree (r.recallRef ctx (r.maxDepth - chain.length) chain) ctx v cache

/-! ### with a cache and without -/

/-- All values of the cache are those of their lookups, whatever was under way when these were resolved. -/
def Recalls (r : Resolver) (ctx : PageContext) (cache : Cache) : Prop :=
  ∀ e ∈ cache, ∃ left chain, r.follow ctx left chain e.1 = .ok e.2

/-- The second outcome, with a cache, is the first one, with a cache as it should be, unless the first one is the
failure of the guard. -/
inductive Tallies (r : Resolver) (ctx : PageContext) {α : Type} :
    Except Failure α → Except Failure (α × Cache) → Prop
  | cut {o : Except Failure α} {p : Except Failure (α × Cache)} (path : List DataRef) :
      r.IsCut path o → Tallies r ctx o p
  | ok {cache : Cache} (a : α) : r.Recalls ctx cache → Tallies r ctx (.ok a) (.ok (a, cache))
  | error (e : Failure) : Tallies r ctx (.error e) (.error e)

variable {r : Resolver} {ctx : PageContext} {cache : Cache}

section Tallies

variable {α β : Type} {o : Except Failure α} {p : Except Failure (α × Cache)}

theorem Tallies.map (h : r.Tallies ctx o p) (f : α → β) : r.Tallies ctx (o.map f) (p.map (Prod.map f id)) := by
  cases h with
  | cut path hcut => exact Tallies.cut path (hcut.map f)
  | ok a hcache => exact Tallies.ok (f a) hcache
  | error e => exact Tallies.error e

theorem Tallies.bind {f : α → Except Failure β} {g : α × Cache → Except Failure (β × Cache)} (h : r.Tallies ctx o p)
    (hfg : ∀ a cache, r.Recalls ctx cache → r.Tallies ctx (f a) (g (a, cache))) :
    r.Tallies ctx (o >>= f) (p >>= g) := by
  cases h with
  | cut path hcut => exact Tallies.cut path (hcut.bind f)
  | ok a hcache => exact hfg a _ hcache
  | error e => exact Tallies.error e

/-- A step that does not ask the cache leaves it as it is. -/
theorem Tallies.still (hcache : r.Recalls ctx cache) (o : Except Failure α) :
    r.Tallies ctx o (o.map fun a => (a, cache)) := by
  cases o with
  | error e => exact Tallies.error e
  | ok a => exact Tallies.ok a hcache

theorem Tallies.eq_of_uncut (h : r.Tallies ctx o p) (huncut : ∀ path, ¬ r.IsCut path o) : p.map Prod.fst = o := by
  cases h with
  | cut path hcut => exact absurd hcut (huncut path)
  | ok a _ => rfl
  | error e => rfl

end Tallies

section Trees

variable {follow : DataRef → Except Failure Value} {recallRef : DataRef → Cache → Except Failure (Value × Cache)}

mutual
/-- With a cache trees end as without, if lookups do. -/
theorem tree_tallies (h : ∀ ref cache, r.Recalls ctx cache → r.Tallies ctx (follow ref) (recallRef ref cache)) :
    ∀ v cache, r.Recalls ctx cache → r.Tallies ctx (resolveTree follow ctx v) (recallTree recallRef ctx v cache)
  | .scalar s, cache, hcache => by
    rw [resolveTree, recallTree]
    cases hs : s.ref? with
    | none => simpa only [resolveScalar_leaf hs] using Tallies.still hcache (resolveLeaf ctx s)
    | some ref => simpa only [resolveScalar_ref hs] using h ref cache hcache
  | .set members, cache, _ => by
    rw [resolveTree, recallTree]
    exact Tallies.error _
  | .list items, cache, hcache => by
    rw [resolveTree, recallTree]
    exact (tree_talliesL h items cache hcache).map Value.list
  | .tuple items, cache, hcache => by
    rw [resolveTree, recallTree]
    exact (tree_talliesL h items cache hcache).map Value.list
  | .map entries, cache, hcache => by
    rw [resolveTree, recallTree]
    exact (tree_talliesE h entries cache hcache).map fun es => Value.map (Entries.ofList es)
theorem tree_talliesL (h : ∀ ref cache, r.Recalls ctx cache → r.Tallies ctx (follow ref) (recallRef ref cache)) :
    ∀ vs cache, r.Recalls ctx cache → r.Tallies ctx (resolveTreeL follow ctx vs) (recallTreeL recallRef ctx vs cache)
  | [], cache, hcache => by
    rw [resolveTreeL, recallTreeL]
    exact Tallies.ok [] hcache
  | v :: vs, cache, hcache => by
    rw [resolveTreeL_cons, recallTreeL]
    exact (tree_tallies h v cache hcache).bind fun w cache' hcache' =>
      (tree_talliesL h vs cache' hcache').map (w :: ·)
theorem tree_talliesE (h : ∀ ref cache, r.Recalls ctx cache → r.Tallies ctx (follow ref) (recallRef ref cache)) :
    ∀ es cache, r.Recalls ctx cache → r.Tallies ctx (resolveTreeE follow ctx es) (recallTreeE recallRef ctx es cache)
  | [], cache, hcache => by
    rw [resolveTreeE, recallTreeE]
    exact Tallies.ok [] hcache
  | (k, v) :: es, cache, hcache => by
    rcases k.str_or_ne with ⟨name, rfl⟩ | hk
    · rw [resolveTreeE_cons, recallTreeE_cons]
      exact (tree_tallies h v cache hcache).bind fun w cache' hcache' =>
        (tree_talliesE h es cache' hcache').map ((.str name, w) :: ·)
    · rw [resolveTreeE_cons_of_ne hk, recallTreeE_cons_of_ne hk]
      exact Tallies.error _
end

end Trees

/-- A value that is remembered is the one that the lookup would be resolved to, unless it would be cut. -/
theorem recallOr_tallies {left : Nat} {chain : List DataRef} {ref : DataRef} {p : Except Failure (Value × Cache)}
    (h : r.Tallies ctx (r.follow ctx left chain ref) p) (hcache : r.Recalls ctx cache) :
    r.Tallies ctx (r.follow ctx left chain ref) (cache.recallOr ref p) := by
  rw [Cache.recallOr]
  cases hlookup : cache.lookup ref with
  | some w =>
    obtain ⟨before, after, hsplit, _⟩ := List.lookup_eq_some_iff.mp hlookup
    obtain ⟨left', chain', hw⟩ := hcache (ref, w) (hsplit ▸ List.mem_append_right before List.mem_cons_self)
    by_cases hcut : ∃ path, r.IsCut path (r.follow ctx left chain ref)
    · obtain ⟨path, hcut⟩ := hcut
      exact Tallies.cut path hcut
    · rw [follow_of_uncut hw fun path h => hcut ⟨path, h⟩]
      exact Tallies.ok w hcache
  | none =>
    generalize ho : r.follow ctx left chain ref = o at h
    cases h with
    | cut path hcut => exact Tallies.cut path hcut
    | ok w hnew => exact Tallies.ok w (List.forall_mem_cons.mpr ⟨⟨left, chain, ho⟩, hnew⟩)
    | error e => exact Tallies.error e

/-- With a cache lookups end as without. The induction is on what is left of the limit. -/
theorem recallRef_tallies (left : Nat) : ∀ (chain : List DataRef) (ref : DataRef) (cache : Cache),
    r.Recalls ctx cache → r.Tallies ctx (r.follow ctx left chain ref) (r.recallRef ctx left chain ref cache) := by
  induction left with
  | zero =>
    intro chain ref cache hcache
    exact Tallies.cut (chain ++ [ref]) rfl
  | succ left ih =>
    intro chain ref cache hcache
    rw [recallRef]
    refine recallOr_tallies ?_ hcache
    by_cases hmem : ref ∈ chain
    · exact Tallies.cut (chain ++ [ref]) (follow_mem hmem)
    · rw [follow_succ hmem, if_neg hmem]
      cases r.fetch ctx ref with
      | error e => exact Tallies.error e
      | ok u => exact tree_tallies (ih (chain ++ [ref])) u cache hcache

/-- **A chain decides only on what is cut.** If a resolution under a chain does not end with the failure of the guard,
then it ends in the same way, with a result or a failure, under every chain that is no longer and has no other lookups.
Under any two chains it has the same result, if it has one under both. In a resolution that succeeds, a lookup has one
value, wherever the resolution comes to it. So values may be remembered: with any cache of values that lookups were
resolved to, under whatever chains, a resolution that is not cut ends as it does without. -/
theorem chain_only_cuts (r : Resolver) (ctx : PageContext) (chain : List DataRef) (v : Value) :
    (∀ chain', chain' ⊆ chain → chain'.length ≤ chain.length →
      (∀ path, r.resolveWithin ctx chain v ≠ .error (.ofFault (.cyclic path r.maxDepth))) →
        r.resolveWithin ctx chain' v = r.resolveWithin ctx chain v) ∧
    (∀ chain' w w', r.resolveWithin ctx chain v = .ok w → r.resolveWithin ctx chain' v = .ok w' → w = w') ∧
    (∀ w, r.resolveWithin ctx chain v = .ok w → ∀ ref, ∃ x, ∀ within, r.ComesTo ctx chain v within ref →
      r.follow ctx (r.maxDepth - within.length) within ref = .ok x) ∧
    (∀ cache, r.Recalls ctx cache →
      (∀ path, r.resolveWithin ctx chain v ≠ .error (.ofFault (.cyclic path r.maxDepth))) →
        (r.recallWithin ctx chain v cache).map Prod.fst = r.resolveWithin ctx chain v) := by
  refine ⟨fun chain' hsub hlength huncut => resolveWithin_stays hsub hlength huncut,
    fun chain' w w' h h' => resolveWithin_unique h h', fun w h => exists_value h, fun cache hcache huncut => ?_⟩
  have htallies : r.Tallies ctx (r.resolveWithin ctx chain v) (r.recallWithin ctx chain v cache) :=
    tree_tallies (recallRef_tallies (r.maxDepth - chain.length) chain) v cache hcache
  exact htallies.eq_of_uncut huncut

/-- A tree with a lookup whose value is another one, and with this one itself. -/
def referringTwice : Value := .list [.str "lume-data:a", .str "lume-data:b"]

/-- A chain with the second lookup in it cuts the tree, and one with another lookup does not. The second lookup has one
value, in the tree and below the first one, and so it may be remembered. -/
theorem referringTwice_cut_by_chain :
    (ofLimit 2).resolveWithin referring [⟨["b"], []⟩] referringTwice =
        .error (.fault (.cyclic [⟨["b"], []⟩, ⟨["a"], []⟩, ⟨["b"], []⟩] 3)) ∧
      (ofLimit 2).resolveWithin referring [⟨["x"], []⟩] referringTwice = .ok (.list [.str "First", .str "First"]) ∧
      (ofLimit 2).resolveWithin referring [] referringTwice = .ok (.list [.str "First", .str "First"]) ∧
      (∃ x, (ofLimit 2).follow referring 2 [⟨["x"], []⟩] ⟨["b"], []⟩ = .ok x ∧
        (ofLimit 2).follow referring 1 [⟨["x"], []⟩, ⟨["a"], []⟩] ⟨["b"], []⟩ = .ok x) ∧
      ((ofLimit 2).recallWithin referring [⟨["x"], []⟩] referringTwice [(⟨["b"], []⟩, .str "First")]).map Prod.fst =
        .ok (.list [.str "First", .str "First"]) := by
  have hresult : (ofLimit 2).resolveWithin referring [⟨["x"], []⟩] referringTwice =
      .ok (.list [.str "First", .str "First"]) := by
    decide +kernel
  have huncut : ∀ path, (ofLimit 2).resolveWithin referring [⟨["x"], []⟩] referringTwice ≠
      .error (.ofFault (.cyclic path (ofLimit 2).maxDepth)) := by
    intro path hcut
    cases hresult.symm.trans hcut
  have ha : (Scalar.str "lume-data:a").ref? = some ⟨["a"], []⟩ := by decide +kernel
  have hb : (Scalar.str "lume-data:b").ref? = some ⟨["b"], []⟩ := by decide +kernel
  have hfetch : (ofLimit 2).fetch referring ⟨["a"], []⟩ = .ok (.str "lume-data:b") := by decide +kernel
  have hcache : (ofLimit 2).Recalls referring [(⟨["b"], []⟩, .str "First")] :=
    List.forall_mem_singleton.mpr ⟨1, [], by decide +kernel⟩
  obtain ⟨hchain, _, hvalues, hrecall⟩ := chain_only_cuts (ofLimit 2) referring [⟨["x"], []⟩] referringTwice
  obtain ⟨x, hx⟩ := hvalues _ hresult ⟨["b"], []⟩
  have hdirect : (ofLimit 2).ComesTo referring [⟨["x"], []⟩] referringTwice [⟨["x"], []⟩] ⟨["b"], []⟩ :=
    ComesTo.leaf ⟨_, by decide +kernel, hb⟩
  have hbelow : (ofLimit 2).ComesTo referring [⟨["x"], []⟩] referringTwice [⟨["x"], []⟩, ⟨["a"], []⟩] ⟨["b"], []⟩ :=
    ComesTo.lookup ⟨_, by decide +kernel, ha⟩ hfetch
      (ComesTo.leaf ⟨_, Value.mem_parts_self _, hb⟩)
  refine ⟨by decide +kernel, hresult, ?_, ⟨x, hx _ hdirect, hx _ hbelow⟩, ?_⟩
  · exact (hchain [] (List.nil_subset _) (Nat.zero_le _) huncut).trans hresult
  · exact (hrecall _ hcache huncut).trans hresult

/-- Where the limit is too long to be written, the failure of the guard is not told as one, and it depends on the
chain. -/
theorem longLimit_chain_matters :
    (∀ path limit, longLimit.resolveWithin referring [⟨["a"], []⟩] (.str "lume-data:a") ≠
        .error (.fault (.cyclic path limit))) ∧
      longLimit.resolveWithin referring [⟨["a"], []⟩] (.str "lume-data:a") = .error .overlongInteger ∧
      longLimit.resolveWithin referring [] (.str "lume-data:a") = .ok (.str "First") := by
  have href : (Scalar.str "lume-data:a").ref? = some ⟨["a"], []⟩ := by decide +kernel
  have hlong : (Fault.cyclic [⟨["a"], []⟩, ⟨["a"], []⟩] longLimit.maxDepth).isWritable = false :=
    leastOverlong_not_writable
  have hcut : longLimit.resolveWithin referring [⟨["a"], []⟩] (.str "lume-data:a") = .error .overlongInteger := by
    rw [resolveWithin, resolveTree, resolveScalar_ref href, follow_repeated List.mem_cons_self]
    simp only [List.singleton_append, Failure.ofFault, hlong]
    rfl
  refine ⟨fun path limit h => ?_, hcut, ?_⟩
  · cases hcut.symm.trans h
  · exact resolve_of_ends (referring_ends longLimit) one_lt_leastOverlong

end Resolver

end LinkedData
